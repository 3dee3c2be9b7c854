import ZkArche.Primitives.Environment
import ZkArche.Server.Proofs

namespace ZkArche.Server

open Foundation

variable {β S P : Type} [Octet β] [Field S] [AddCommGroup P] [Module S P]
variable [DecidableEq β] [DecidableEq P] [DecidableEq S]

structure DeviceRecord (P : Type) where
  pubkey : P
  roleCommitment : P
  deriving DecidableEq

abbrev Registry (β P : Type) := AList fun _ : Block β 32 => DeviceRecord P
abbrev RegistryEntry (β P : Type) := Sigma fun _ : Block β 32 => DeviceRecord P
abbrev HandleIndex (β P : Type) := AList fun _ : Block β 16 => Block β 32 × DeviceRecord P

def buildHandleIndex (G : Suite β S P) (reg : List (RegistryEntry β P)) : HandleIndex β P :=
  reg.foldl (fun out entry => out.insert (computeDeviceHandle G entry.2.pubkey) (entry.1, entry.2)) ∅

/-- Scans the registry, in iteration order, for the device whose public key yields `pid`. -/
def lookupRecordByPid (G : Suite β S P) (reg : List (RegistryEntry β P)) (pid nonceC : Block β 32)
    (ephC serverPub : P) : Option (Block β 32 × DeviceRecord P) :=
  match reg with
  | [] => none
  | entry :: rest =>
    let candidate := computePid G entry.2.pubkey nonceC ephC serverPub
    if candidate = pid then some (entry.1, entry.2)
    else lookupRecordByPid G rest pid nonceC ephC serverPub

def loadChunk (G : Suite β S P) (reg : Registry β P) (chunk : List β) : Except Failure (Registry β P) := do
  let id ← sliceBlock 32 chunk 0 32
  let pk ← sliceBlock 32 chunk 32 64
  let roleCommitmentBytes ← sliceBlock 32 chunk 64 96
  let pubkey ← decompressOr G "registry pubkey invalid" pk
  let roleCommitment ← decompressOr G "registry role commitment invalid" roleCommitmentBytes
  if pubkey = 0 ∨ roleCommitment = 0 then pure reg
  else pure (reg.insert id { pubkey, roleCommitment })

/-- Loads the device registry. A file that cannot be read counts as empty. -/
def loadRegistry (G : Suite β S P) (file : StateFile β) : Except Failure (Registry β P) :=
  let data := match file.read with
    | .ok data => data
    | .error _ => []
  if data.isEmpty then .ok ∅
  else if data.length % 96 ≠ 0 then
    .error (invalidData
      "registry.bin corrupt length (v2 expects 96-byte chunks; re-enroll if upgrading from v1)")
  else (chunksExact 96 data).foldlM (loadChunk G) ∅

def recordBytes (G : Suite β S P) (entry : RegistryEntry β P) : List β :=
  entry.1.bytes ++ (G.compress entry.2.pubkey).bytes ++ (G.compress entry.2.roleCommitment).bytes

/-- The bytes that `save_registry_atomic` writes for a registry iterated in this order. -/
def registryBytes (G : Suite β S P) (reg : List (RegistryEntry β P)) : List β :=
  (reg.map (recordBytes G)).flatten

def saveRegistryAtomic (G : Suite β S P) (fault : Option IoError) (reg : List (RegistryEntry β P)) :
    Effect Failure (StateFile β) Unit :=
  replaceFile fault (registryBytes G reg)

end ZkArche.Server

import ZkArche.Client.Proofs
import ZkArche.Primitives.Environment

namespace ZkArche.Client

open Foundation

variable {β S P : Type} [Octet β] [Field S] [AddCommGroup P] [Module S P]
variable [DecidableEq β] [DecidableEq P]

def deviceRootFile : String := "state/client/device_root.bin"
def devicePubFile : String := "state/client/device_pub.bin"
def roleCredFile : String := "state/client/role_cred.bin"

/-- The files of a device under `state/client/`. -/
structure Files (β : Type) where
  deviceRoot : StateFile β
  serverPub : StateFile β
  devicePub : StateFile β
  roleCred : StateFile β

def exactly (size : Nat) (message : String) (data : List β) : Except Failure (Block β size) :=
  if data.length ≠ size then .error (invalidData message) else copyFromSlice size data

def loadOrCreateDeviceRoot (fault : Option IoError) (root : Block β 32) : Effect Failure (StateFile β) (Block β 32) := do
  let file ← Effect.get
  if file.isPresent then do
    Effect.lift (verifyPrivateFilePermissions deviceRootFile file)
    let data ← Effect.lift file.read
    Effect.lift (exactly 32 "device_root wrong length" data)
  else do
    replaceFile fault root.bytes
    pure root

def deriveDeviceId (G : Suite β S P) (root : Block β 32) : Block β 32 :=
  G.blake2b256 (lits (ascii "device-id") ++ root.bytes)

/-- Deterministically derives the client static authentication scalar from the root secret. -/
def deriveDeviceScalar (G : Suite β S P) (root : Block β 32) : S :=
  G.fromBytesModOrderWide (G.blake2b512 (lits (ascii "device-auth-v1") ++ root.bytes))

def loadDeviceCredsFromRoot (G : Suite β S P) (fault : Option IoError) (root : Block β 32) :
    Effect Failure (StateFile β) (Block β 32 × S) := do
  let root ← loadOrCreateDeviceRoot fault root
  pure (deriveDeviceId G root, deriveDeviceScalar G root)

def loadServerPub (G : Suite β S P) (file : StateFile β) : Except Failure (Option P) := do
  if file.isPresent = false then pure none
  else
    let data ← file.read
    let b ← exactly 32 "server_pub.bin wrong length" data
    let p ← decompressOr G "server_pub invalid" b
    rejectIdentity p "pinned server_pub"
    pure (some p)

def saveServerPub (G : Suite β S P) (fault : Option IoError) (pubkey : P) : Effect Failure (StateFile β) Unit :=
  replaceFile fault (G.compress pubkey).bytes

def saveDevicePub (G : Suite β S P) (fault : Option IoError) (pubkey : P) : Effect Failure (StateFile β) Unit :=
  replaceFile fault (G.compress pubkey).bytes

def loadCachedDevicePub (G : Suite β S P) (file : StateFile β) : Except Failure (Option P) := do
  if file.isPresent = false then pure none
  else
    verifyPrivateFilePermissions devicePubFile file
    let data ← file.read
    let b ← exactly 32 "device_pub.bin wrong length" data
    let p ← decompressOr G "cached device_pub invalid" b
    rejectIdentity p "cached device_pub"
    pure (some p)

def loadOrComputeDevicePub (G : Suite β S P) (fault : Option IoError) (x : S) : Effect Failure (StateFile β) P := do
  let file ← Effect.get
  let cached ← Effect.lift (loadCachedDevicePub G file)
  match cached with
  | some p => pure p
  | none => do
    let p := x • G.basepoint
    Effect.lift (rejectIdentity p "device_static_pub")
    saveDevicePub G fault p
    pure p

def roleCredBytes (G : Suite β S P) (cred : RoleCredential S P) : List β :=
  lits (leBytes 8 cred.roleCode.toNat) ++ (G.toBytes cred.blind).bytes ++ (G.compress cred.commitment).bytes

def saveRoleCredential (G : Suite β S P) (fault : Option IoError) (cred : RoleCredential S P) :
    Effect Failure (StateFile β) Unit :=
  replaceFile fault (roleCredBytes G cred)

def loadRoleCredential (G : Suite β S P) (file : StateFile β) : Except Failure (RoleCredential S P) := do
  verifyPrivateFilePermissions roleCredFile file
  let data ← file.read
  let data ← exactly 72 "role_cred.bin wrong length" data
  let roleCodeBytes ← sliceBlock 8 data.bytes 0 8
  let roleCode := UInt64.ofNat (leNat (vals roleCodeBytes.bytes))
  let roleScalar : S := encodeRole roleCode
  let blindBytes ← sliceBlock 32 data.bytes 8 40
  let blind ← canonicalOr G "role blind not canonical" blindBytes
  let commitmentBytes ← sliceBlock 32 data.bytes 40 72
  let commitment ← decompressOr G "role commitment invalid" commitmentBytes
  rejectIdentity commitment "role commitment"
  let expected := makeRoleCommitment G roleScalar blind
  if G.compress expected ≠ G.compress commitment then
    .error (invalidData "role credential commitment mismatch")
  else pure { roleCode, roleScalar, blind, commitment }

/-- The credential of the file, or a new one for role 1 with the random scalar `blind`. -/
def loadOrCreateRoleCredential (G : Suite β S P) (fault : Option IoError) (blind : S) :
    Effect Failure (StateFile β) (RoleCredential S P) := do
  let file ← Effect.get
  if file.isPresent then Effect.lift (loadRoleCredential G file)
  else do
    let roleCode : UInt64 := 1
    let roleScalar : S := encodeRole roleCode
    let commitment := makeRoleCommitment G roleScalar blind
    let cred := { roleCode, roleScalar, blind, commitment }
    saveRoleCredential G fault cred
    pure cred

/-- A device's view during a run: its files and its connection. -/
structure Connected (β : Type) where
  files : Files β
  conn : Conn β

variable {α : Type}

def onConn (part : Effect Failure (Conn β) α) : Effect Failure (Connected β) α :=
  Effect.zoom Connected.conn (fun conn state => { state with conn }) part

def onServerPub (part : Effect Failure (StateFile β) α) : Effect Failure (Connected β) α :=
  Effect.zoom (·.files.serverPub) (fun serverPub state => { state with files := { state.files with serverPub } }) part

def onDevicePub (part : Effect Failure (StateFile β) α) : Effect Failure (Connected β) α :=
  Effect.zoom (·.files.devicePub) (fun devicePub state => { state with files := { state.files with devicePub } }) part

def onRoleCred (part : Effect Failure (StateFile β) α) : Effect Failure (Connected β) α :=
  Effect.zoom (·.files.roleCred) (fun roleCred state => { state with files := { state.files with roleCred } }) part

def readFiles : Effect Failure (Connected β) (Files β) := fun state => (.ok state.files, state)

end ZkArche.Client

import ZkArche.CImpl.Primitives
import ZkArche.CImpl.Wire
import ZkArche.Primitives.Environment

namespace ZkArche.CServer

open Foundation CImpl

structure RegEntry where
  id : Block UInt8 32
  pub : Block UInt8 32
  roleCommitment : Block UInt8 32
  deriving DecidableEq

def RegEntry.bytes (entry : RegEntry) : List UInt8 := entry.id.bytes ++ entry.pub.bytes ++ entry.roleCommitment.bytes

/-- `save_registry` on `registry.bin`. Before it can fail it renames the old file to `registry.bak`. -/
def saveRegistry (fault : Option IoError) (arr : List RegEntry) : Effect Unit (StateFile UInt8) Unit := fun _ =>
  match fault with
  | none => (.ok (), .present (arr.flatMap RegEntry.bytes) 0o600)
  | some _ => (.error (), .absent)

/-- The records that `fread` finds in 96 bytes each. -/
def readRecords (count : Nat) (data : List UInt8) : Option (List RegEntry) :=
  match count with
  | 0 => some []
  | count + 1 => do
    let id ← part data 0
    let pub ← part data 32
    let roleCommitment ← part data 64
    let rest ← readRecords count (data.drop 96)
    pure ({ id, pub, roleCommitment } :: rest)

/-- `load_registry`. `memory` says whether `calloc` succeeds. -/
def loadRegistry (memory : Bool) : StateFile UInt8 → Option (List RegEntry)
  | .absent => some []
  | .unreadable _ => none
  | .present data _ => do
    guard (data.length % 96 = 0)
    let n := data.length / 96
    if n = 0 then pure []
    else
      guard memory
      readRecords n data

def regLookupRecord (arr : List RegEntry) (id : Block UInt8 32) : Option RegEntry :=
  arr.find? fun entry => entry.id = id

def lookupRecordByPid (so : Sodium) (arr : List RegEntry) (pid nonceC ephC serverPub : Block UInt8 32) :
    Option RegEntry :=
  arr.find? fun entry => computePid so entry.pub nonceC ephC serverPub = pid

def lookupRecordByHandle (so : Sodium) (arr : List RegEntry) (handle : Block UInt8 16) : Option RegEntry :=
  arr.find? fun entry => computeDeviceHandle so entry.pub = handle

/-- What `reg_upsert` does before it writes the file: it refuses the request, finds it enrolled
    already, or appends it. -/
inductive Upsert where
  | refused
  | present
  | appended (arr : List RegEntry)

def upsert (arr : List RegEntry) (request : RegEntry) : Upsert :=
  match arr.find? fun entry => entry.id = request.id with
  | some entry =>
    if entry.pub ≠ request.pub then .refused
    else if entry.roleCommitment ≠ request.roleCommitment then .refused
    else .present
  | none => .appended (arr ++ [request])

end ZkArche.CServer

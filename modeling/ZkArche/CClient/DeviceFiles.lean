import ZkArche.CClient.RoleCredential
import ZkArche.Client.Files

namespace ZkArche.CClient

open Foundation CImpl

/-- libsodium as the client calls it, with `crypto_generichash` for 32 and for 64 bytes. -/
structure ClientSodium extends Sodium where
  generichash32 (message : List UInt8) : Block UInt8 32
  generichash64 (message : List UInt8) : Block UInt8 64

/-- `crypto_generichash` without a key is BLAKE2b of that length. -/
structure ClientSodium.Matches {S P : Type} [Field S] [AddCommGroup P] [Module S P] (so : ClientSodium)
    (G : Suite UInt8 S P) : Prop where
  library : so.toSodium.Matches G
  generichash32 : ∀ message, so.generichash32 message = G.blake2b256 message
  generichash64 : ∀ message, so.generichash64 message = G.blake2b512 message

structure Faults where
  deviceRoot : Option (StateFile UInt8)
  devicePub : Option (StateFile UInt8)
  roleCred : Option (StateFile UInt8)
  serverPub : Option (StateFile UInt8)

def Faults.none : Faults := ⟨.none, .none, .none, .none⟩

def loadOrCreateDeviceRoot (fault : Option (StateFile UInt8)) (root : Block UInt8 32) :
    Effect Unit (StateFile UInt8) (Block UInt8 32) := do
  let file ← Effect.get
  if file.isPresent then orFail (readExactFile 32 file)
  else do
    writeExactFile fault root.bytes 0o600
    pure root

def deriveDeviceId (so : ClientSodium) (root : Block UInt8 32) : Block UInt8 32 :=
  so.generichash32 (ascii "device-id" ++ root.bytes)

def deriveDeviceScalar (so : ClientSodium) (root : Block UInt8 32) : Block UInt8 32 :=
  so.scalarReduce (so.generichash64 (ascii "device-auth-v1" ++ root.bytes))

def loadDeviceCreds (so : ClientSodium) (fault : Option (StateFile UInt8)) (root : Block UInt8 32) :
    Effect Unit (StateFile UInt8) (Block UInt8 32 × Block UInt8 32) := do
  let root ← loadOrCreateDeviceRoot fault root
  pure (deriveDeviceId so root, deriveDeviceScalar so root)

def loadServerPub (file : StateFile UInt8) : Option (Block UInt8 32) := readExactFile 32 file

def saveDevicePub (fault : Option (StateFile UInt8)) (pub : Block UInt8 32) : Effect Unit (StateFile UInt8) Unit :=
  writeExactFile fault pub.bytes 0o600

/-- `write_file_32` for the key of the server. -/
def saveServerPub (fault : Option (StateFile UInt8)) (pub : Block UInt8 32) : Effect Unit (StateFile UInt8) Unit :=
  writeExactFile fault pub.bytes 0o600

/-- The files of a device and its connection. Both clients keep the same files. -/
abbrev Connected := Client.Connected UInt8

variable {α : Type}

def onConn (part : Effect Unit (Conn UInt8) α) : Effect Unit Connected α :=
  Effect.zoom Client.Connected.conn (fun conn state => { state with conn }) part

def onDeviceRoot (part : Effect Unit (StateFile UInt8) α) : Effect Unit Connected α :=
  Effect.zoom (·.files.deviceRoot) (fun deviceRoot state => { state with files := { state.files with deviceRoot } }) part

def onServerPub (part : Effect Unit (StateFile UInt8) α) : Effect Unit Connected α :=
  Effect.zoom (·.files.serverPub) (fun serverPub state => { state with files := { state.files with serverPub } }) part

def onDevicePub (part : Effect Unit (StateFile UInt8) α) : Effect Unit Connected α :=
  Effect.zoom (·.files.devicePub) (fun devicePub state => { state with files := { state.files with devicePub } }) part

def onRoleCred (part : Effect Unit (StateFile UInt8) α) : Effect Unit Connected α :=
  Effect.zoom (·.files.roleCred) (fun roleCred state => { state with files := { state.files with roleCred } }) part

def readFiles : Effect Unit Connected (Client.Files UInt8) := fun state => (.ok state.files, state)

def tcpConnect (reachable : Bool) : Effect Unit Connected Unit := Effect.failIf (!reachable) ()

def checkPoint {σ : Type} (so : Sodium) (p : Block UInt8 32) : Effect Unit σ Unit :=
  Effect.failIf (!so.isValidPoint p) ()

section Files

variable {file : StateFile UInt8} {root : Block UInt8 32} {mode : Nat}

theorem readExactFile_bytes {size : Nat} (block : Block UInt8 size) (mode : Nat) :
    readExactFile size (.present block.bytes mode) = some block := by
  have length := block.bytes_length
  rw [readExactFile, dif_pos (Nat.le_of_eq length.symm)]
  apply congrArg some
  apply Block.ext
  exact List.take_of_length_le (Nat.le_of_eq length)

theorem loadOrCreateDeviceRoot_present (fault : Option (StateFile UInt8)) (drawn : Block UInt8 32) :
    loadOrCreateDeviceRoot fault drawn (.present root.bytes mode) = (.ok root, .present root.bytes mode) := by
  have read : (orFail (readExactFile 32 (.present root.bytes mode)) : Effect Unit (StateFile UInt8) (Block UInt8 32))
      (.present root.bytes mode) = (.ok root, .present root.bytes mode) := by
    rw [readExactFile_bytes, orFail_some]
  unfold loadOrCreateDeviceRoot
  rw [Effect.bind_of_ok (Effect.get_apply _), if_pos (by rfl), read]

theorem loadDeviceCreds_present (so : ClientSodium) (fault : Option (StateFile UInt8)) (drawn : Block UInt8 32) :
    loadDeviceCreds so fault drawn (.present root.bytes mode) =
      (.ok (deriveDeviceId so root, deriveDeviceScalar so root), .present root.bytes mode) := by
  rw [loadDeviceCreds, Effect.bind_of_ok (loadOrCreateDeviceRoot_present fault drawn)]
  rfl

end Files

end ZkArche.CClient

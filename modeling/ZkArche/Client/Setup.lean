import ZkArche.Client.Files

namespace ZkArche.Client

open Foundation

variable {β S P : Type} [Octet β] [Field S] [AddCommGroup P] [Module S P]
variable [DecidableEq β] [DecidableEq P]

def msgSetup : UInt8 := 0x01

structure SetupCall (β S : Type) where
  deviceId : Block β 32
  x : S
  pairingToken : Option String
  allowTofuSetup : Bool

structure SetupFaults where
  devicePub : Option IoError
  roleCred : Option IoError
  tofuPin : Option IoError
  finalPin : Option IoError

def SetupFaults.none : SetupFaults := ⟨.none, .none, .none, .none⟩

/-- What a device draws at random during one setup. -/
structure SetupRandom (β S : Type) where
  blind : S
  clientNonce : Block β 32
  r : S

structure Enrollee (S P : Type) where
  deviceStaticPub : P
  roleCred : RoleCredential S P
  pinnedServerPub : Option P

def prepareSetup (G : Suite β S P) (call : SetupCall β S) (faults : SetupFaults) (random : SetupRandom β S) :
    Effect Failure (Connected β) (Enrollee S P) := do
  let deviceStaticPub ← onDevicePub (loadOrComputeDevicePub G faults.devicePub call.x)
  Effect.lift (rejectIdentity deviceStaticPub "client device_static_pub")
  let roleCred ← onRoleCred (loadOrCreateRoleCredential G faults.roleCred random.blind)
  let files ← readFiles
  let pinnedServerPub ← Effect.lift (loadServerPub G files.serverPub)
  Effect.failIf (pinnedServerPub.isNone && !call.allowTofuSetup)
    (permissionDenied ("initial setup requires an out-of-band pinned server key; run --pin-server-pub first " ++
      "or use --allow-tofu-setup only in lab environments"))
  pure { deviceStaticPub, roleCred, pinnedServerPub }

def sendPairingToken : Option String → Effect Failure (Conn β) Unit
  | some token => do
    let tb := utf8Bytes token
    Effect.failIf (decide (tb.length > 128))
      (.io ⟨.invalidInput, "pairing token too long (max 128 bytes)"⟩)
    sendAll (lits [UInt8.ofNat tb.length])
    sendAll (lits tb)
  | none => sendAll (lits [0])

def requestSetup (G : Suite β S P) (call : SetupCall β S) (enrollee : Enrollee S P) (clientNonce : Block β 32) :
    Effect Failure (Conn β) Unit := do
  sendAll (lits [msgSetup])
  sendPairingToken call.pairingToken
  sendAll call.deviceId.bytes
  sendAll (G.compress enrollee.deviceStaticPub).bytes
  sendAll clientNonce.bytes
  sendAll (G.compress enrollee.roleCred.commitment).bytes

structure SetupChallenge (β S P : Type) where
  serverNonce : Block β 32
  setupChallenge : Block β 16
  serverPubBytes : Block β 32
  serverStaticPub : P
  aS : P
  sS : S

def recvSetupChallenge (G : Suite β S P) : Effect Failure (Conn β) (SetupChallenge β S P) := do
  let serverNonce ← recvExact 32
  let setupChallenge ← recvExact 16
  let serverPubBytes ← recvExact 32
  let serverStaticPub ← Effect.lift
    (decompressOr G "server static public key is not a valid Ristretto pubkey" serverPubBytes)
  Effect.lift (rejectIdentity serverStaticPub "server_pub(setup)")
  let aS ← recvPoint G "setup_server_A"
  let sS ← recvScalar G
  pure { serverNonce, setupChallenge, serverPubBytes, serverStaticPub, aS, sS }

def checkPin (G : Suite β S P) (fault : Option IoError) (pinnedServerPub : Option P) (challenge : SetupChallenge β S P) :
    Effect Failure (StateFile β) Unit :=
  match pinnedServerPub with
  | some pinned => Effect.failIf (decide (G.compress pinned ≠ challenge.serverPubBytes))
      (permissionDenied "server raw public key mismatches pinned server_pub.bin")
  | none => saveServerPub G fault challenge.serverStaticPub

def answerSetup (G : Suite β S P) (call : SetupCall β S) (enrollee : Enrollee S P) (random : SetupRandom β S)
    (challenge : SetupChallenge β S P) : Effect Failure (Conn β) Unit := do
  Effect.failIf (!schnorrVerifySetupServer G challenge.serverStaticPub call.deviceId enrollee.deviceStaticPub
      random.clientNonce challenge.serverNonce challenge.setupChallenge challenge.aS challenge.sS)
    (permissionDenied "server setup proof invalid")
  let (a, s) := schnorrProveSetup G call.x call.deviceId enrollee.deviceStaticPub challenge.serverStaticPub
    random.clientNonce challenge.serverNonce challenge.setupChallenge random.r
  sendAll (G.compress a).bytes
  sendAll (G.toBytes s).bytes

def recvAck : Effect Failure (Conn β) Unit := do
  let ack ← recvExact 1
  Effect.failIf (decide (ack.bytes ≠ lits [0x01])) (permissionDenied "enrollment failed (missing/invalid ack)")

/-- Runs the client-side raw-public-key setup flow and pins the server static key. What it hands
    back is what the device knew and what it answered to. -/
def doSetup (G : Suite β S P) (call : SetupCall β S) (faults : SetupFaults) (random : SetupRandom β S) :
    Effect Failure (Connected β) (Enrollee S P × SetupChallenge β S P) := do
  let enrollee ← prepareSetup G call faults random
  onConn (requestSetup G call enrollee random.clientNonce)
  let challenge ← onConn (recvSetupChallenge G)
  onServerPub (checkPin G faults.tofuPin enrollee.pinnedServerPub challenge)
  onConn (answerSetup G call enrollee random challenge)
  onConn recvAck
  onServerPub (saveServerPub G faults.finalPin challenge.serverStaticPub)
  pure (enrollee, challenge)

end ZkArche.Client

import ZkArche.CClient.DeviceFiles
import ZkArche.CClient.Proofs
import ZkArche.Client.Setup
import ZkArche.Protocol.PairingTokens

namespace ZkArche.CClient

open Foundation CImpl

/-- How `main` calls a setup. -/
structure SetupCall where
  reachable : Bool
  pairingToken : Option (List UInt8)
  allowTofu : Bool

/-- What a device draws at random during one setup. -/
structure SetupRandom where
  root : Block UInt8 32
  blind : Block UInt8 32
  clientNonce : Block UInt8 32
  r : Block UInt8 32

structure Enrollee where
  deviceId : Block UInt8 32
  x : Block UInt8 32
  devicePub : Block UInt8 32
  cred : RoleCred
  hadPinnedBefore : Bool

/-- The part of `do_setup` before `tcp_connect`. -/
def prepareSetup (so : ClientSodium) (faults : Faults) (random : SetupRandom) : Effect Unit Connected Enrollee := do
  let files ← readFiles
  let hadPinnedBefore := files.serverPub.isPresent
  let (deviceId, x) ← onDeviceRoot (loadDeviceCreds so faults.deviceRoot random.root)
  let devicePub := so.scalarmultBase x
  onDevicePub (saveDevicePub faults.devicePub devicePub)
  let cred ← onRoleCred (loadOrCreateRoleCredential so.toSodium faults.roleCred random.blind)
  pure { deviceId, x, devicePub, cred, hadPinnedBefore }

def requestSetup (call : SetupCall) (enrollee : Enrollee) (clientNonce : Block UInt8 32) :
    Effect Unit (Conn UInt8) Unit := do
  CImpl.sendAll [Client.msgSetup]
  sendPairingToken call.pairingToken
  CImpl.sendAll enrollee.deviceId.bytes
  CImpl.sendAll enrollee.devicePub.bytes
  CImpl.sendAll clientNonce.bytes
  CImpl.sendAll enrollee.cred.commitment.bytes

structure SetupChallenge where
  serverNonce : Block UInt8 32
  setupChal : Block UInt8 16
  serverPub : Block UInt8 32
  aS : Block UInt8 32
  sS : Block UInt8 32

def recvSetupChallenge (so : Sodium) : Effect Unit (Conn UInt8) SetupChallenge := do
  let serverNonce ← recvAll 32
  let setupChal ← recvAll 16
  let serverPub ← recvAll 32
  let aS ← recvAll 32
  let sS ← recvAll 32
  checkPoint so serverPub
  checkPoint so aS
  pure { serverNonce, setupChal, serverPub, aS, sS }

def checkPin (allowTofu hadPinnedBefore : Bool) (serverPub : Block UInt8 32) : Effect Unit Connected Unit :=
  if hadPinnedBefore then do
    let files ← readFiles
    let pinned ← orFail (loadServerPub files.serverPub)
    Effect.failIf (decide (pinned ≠ serverPub)) ()
  else Effect.failIf (!allowTofu) ()

def answerSetup (so : Sodium) (enrollee : Enrollee) (random : SetupRandom) (challenge : SetupChallenge) :
    Effect Unit (Conn UInt8) Unit := do
  orFail (schnorrVerifySetupServer so challenge.serverPub enrollee.deviceId enrollee.devicePub random.clientNonce
    challenge.serverNonce challenge.setupChal challenge.aS challenge.sS)
  let (a, s) ← orFail (schnorrProveSetup so enrollee.x enrollee.deviceId enrollee.devicePub challenge.serverPub
    random.clientNonce challenge.serverNonce challenge.setupChal random.r)
  CImpl.sendAll a.bytes
  CImpl.sendAll s.bytes

def recvAck : Effect Unit (Conn UInt8) Unit := do
  let ack ← recvByte
  Effect.failIf (decide (ack ≠ 1)) ()

def pinServerPub (fault : Option (StateFile UInt8)) (allowTofu hadPinnedBefore : Bool) (serverPub : Block UInt8 32) :
    Effect Unit (StateFile UInt8) Unit :=
  if !hadPinnedBefore && allowTofu then saveServerPub fault serverPub else pure ()

/-- `do_setup`. What it hands back is what the device knew and what it answered to. -/
def doSetup (so : ClientSodium) (call : SetupCall) (faults : Faults) (random : SetupRandom) :
    Effect Unit Connected (Enrollee × SetupChallenge) := do
  let enrollee ← prepareSetup so faults random
  tcpConnect call.reachable
  onConn (requestSetup call enrollee random.clientNonce)
  let challenge ← onConn (recvSetupChallenge so.toSodium)
  checkPin call.allowTofu enrollee.hadPinnedBefore challenge.serverPub
  onConn (answerSetup so.toSodium enrollee random challenge)
  onConn recvAck
  onServerPub (pinServerPub faults.serverPub call.allowTofu enrollee.hadPinnedBefore challenge.serverPub)
  pure (enrollee, challenge)

end ZkArche.CClient

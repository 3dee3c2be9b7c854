import ZkArche.CServer.Proofs
import ZkArche.CServer.Registry
import ZkArche.CServer.Replay

namespace ZkArche.CServer

open Foundation CImpl

def msgSetup : UInt8 := 0x01
def msgAuthV2 : UInt8 := 0x03
def msgAuthV3 : UInt8 := 0x04
def authFlagDeviceOnly : UInt8 := 0x01
def authFlagHandleLookup : UInt8 := 0x02

structure PairingPolicy where
  enabled : Bool
  token : Option (List UInt8)
  deadline : Nat

def PairingPolicy.allowsSetup (policy : PairingPolicy) (now : Nat) (provided : List UInt8) : Bool :=
  if !policy.enabled then false
  else if policy.deadline ≠ 0 ∧ now > policy.deadline then false
  else match policy.token with
    | some expected => decide (provided = strBytes expected)
    | none => true

/-- What `main` keeps between the connections, and the two state files. -/
structure ServerState where
  reg : List RegEntry
  replay : ReplayCache
  registryFile : StateFile UInt8
  replayFile : StateFile UInt8

/-- What `main` reads from the files before it listens; `memory` is for the registry and for the
    two arrays of keys. -/
def boot (memory : Bool × Bool × Bool) (now : Nat) (registryFile replayFile : StateFile UInt8) :
    Option ServerState := do
  let reg ← loadRegistry memory.1 registryFile
  let replay ← replayCacheLoad memory.2 now replayFile
  pure { reg, replay, registryFile, replayFile }

structure ServerContext where
  vars : Vars
  policy : PairingPolicy
  serverSk : Block UInt8 32

def ServerContext.serverPub (so : Sodium) (ctx : ServerContext) : Block UInt8 32 := so.scalarmultBase ctx.serverSk

/-- A handler's view: the state of the server and the connection. -/
structure Connected where
  server : ServerState
  conn : Conn UInt8

variable {α : Type}

def onConn (part : Effect Unit (Conn UInt8) α) : Effect Unit Connected α :=
  Effect.zoom Connected.conn (fun conn state => { state with conn }) part

theorem keeps_onConn (part : Effect Unit (Conn UInt8) α) (holds : ServerState → Prop) :
    Effect.Keeps (fun state : Connected => holds state.server) (onConn part) :=
  Effect.keeps_zoom fun _ _ start => start

def onRegistryFile (part : Effect Unit (StateFile UInt8) α) : Effect Unit Connected α :=
  Effect.zoom (fun state : Connected => state.server.registryFile)
    (fun registryFile state => { state with server := { state.server with registryFile } }) part

def onReplay (part : Effect Unit (ReplayCache × StateFile UInt8) α) : Effect Unit Connected α :=
  Effect.zoom (fun state : Connected => (state.server.replay, state.server.replayFile))
    (fun (replay, replayFile) state => { state with server := { state.server with replay, replayFile } }) part

def checkPoint (so : Sodium) (p : Block UInt8 32) : Effect Unit (Conn UInt8) Unit :=
  Effect.failIf (!so.isValidPoint p) ()

structure SetupRequest where
  entry : RegEntry
  clientNonce : Block UInt8 32

def readSetupRequest (so : Sodium) (policy : PairingPolicy) (now : Nat) : Effect Unit (Conn UInt8) SetupRequest := do
  let tlen ← recvByte
  Effect.failIf (decide (tlen.toNat > 128)) ()
  let token ← recvAll tlen.toNat
  Effect.failIf (!policy.allowsSetup now token.bytes) ()
  let id ← recvAll 32
  let pub ← recvAll 32
  let clientNonce ← recvAll 32
  let roleCommitment ← recvAll 32
  checkPoint so pub
  checkPoint so roleCommitment
  pure { entry := { id, pub, roleCommitment }, clientNonce }

/-- What the server draws at random during one enrollment. -/
structure SetupRandom where
  serverNonce : Block UInt8 32
  setupChal : Block UInt8 16
  r : Block UInt8 32

def challengeSetup (so : Sodium) (ctx : ServerContext) (request : SetupRequest) (random : SetupRandom) :
    Effect Unit (Conn UInt8) Unit := do
  let serverPub := ctx.serverPub so
  let (aS, sS) ← orFail (schnorrProveSetupServer so ctx.serverSk serverPub request.entry.id request.entry.pub
    request.clientNonce random.serverNonce random.setupChal random.r)
  CImpl.sendAll random.serverNonce.bytes
  CImpl.sendAll random.setupChal.bytes
  CImpl.sendAll serverPub.bytes
  CImpl.sendAll aS.bytes
  CImpl.sendAll sS.bytes

def verifySetup (so : Sodium) (ctx : ServerContext) (request : SetupRequest) (random : SetupRandom) :
    Effect Unit (Conn UInt8) Unit := do
  let a ← recvAll 32
  let s ← recvAll 32
  checkPoint so a
  orFail (schnorrVerifySetup so request.entry.id request.entry.pub (ctx.serverPub so) request.clientNonce
    random.serverNonce random.setupChal a s)

/-- `reg_upsert`. When the file cannot be written the array keeps the new entry. -/
def regUpsert (fault : Option IoError) (request : RegEntry) : Effect Unit Connected Unit := fun state =>
  match upsert state.server.reg request with
  | .refused => (.error (), state)
  | .present => (.ok (), state)
  | .appended arr =>
    onRegistryFile (saveRegistry fault arr) { state with server := { state.server with reg := arr } }

/-- A step's clock and whether a file cannot be written. -/
structure Moment where
  now : Nat
  diskFault : Option IoError

def handleSetup (so : Sodium) (ctx : ServerContext) (moment : Moment) (random : SetupRandom) :
    Effect Unit Connected Unit := do
  let request ← onConn (readSetupRequest so ctx.policy moment.now)
  onConn (challengeSetup so ctx request random)
  onConn (verifySetup so ctx request random)
  regUpsert moment.diskFault request.entry
  onConn (CImpl.sendAll [1])

structure AuthHeader where
  flags : UInt8
  handle : Option (Block UInt8 16)

def AuthHeader.deviceOnly (header : AuthHeader) : Bool := header.flags &&& authFlagDeviceOnly ≠ 0

def recvAuthHeader (v3 : Bool) : Effect Unit (Conn UInt8) AuthHeader := do
  if v3 then
    let flags ← recvByte
    if flags &&& authFlagHandleLookup ≠ 0 then
      let handle ← recvAll 16
      pure { flags, handle := some handle }
    else pure { flags, handle := none }
  else pure { flags := 0, handle := none }

def allowsDeviceOnly (vars : Vars) : Bool := envTruthy vars "ZKARCHE_ALLOW_DEVICE_ONLY" || benchMode vars

def expectedLen (deviceOnly : Bool) : Nat := if deviceOnly then 160 else 256 + 96 * allowedRoles.length

def orBranchAt (data : List UInt8) (off : Nat) : Option OrBranch := do
  let a ← part data off
  let c ← part data (off + 32)
  let s ← part data (off + 64)
  pure { a, c, s }

structure RoleFields where
  cPrime : Block UInt8 32
  rerandA : Block UInt8 32
  rerandS : Block UInt8 32
  orProof : List OrBranch

structure AuthPayload where
  pid : Block UInt8 32
  aC : Block UInt8 32
  sC : Block UInt8 32
  nonceC : Block UInt8 32
  ephC : Block UInt8 32
  role : Option RoleFields

def splitRoleFields (payload1 : List UInt8) : Option RoleFields := do
  let cPrime ← part payload1 160
  let rerandA ← part payload1 192
  let rerandS ← part payload1 224
  let orProof ← (List.range allowedRoles.length).mapM fun i => orBranchAt payload1 (256 + 96 * i)
  pure { cPrime, rerandA, rerandS, orProof }

def splitPayload (deviceOnly : Bool) (payload1 : List UInt8) : Option AuthPayload := do
  let pid ← part payload1 0
  let aC ← part payload1 32
  let sC ← part payload1 64
  let nonceC ← part payload1 96
  let ephC ← part payload1 128
  if deviceOnly then pure { pid, aC, sC, nonceC, ephC, role := none }
  else
    let role ← splitRoleFields payload1
    pure { pid, aC, sC, nonceC, ephC, role := some role }

/-- `check_point` for every point of the payload. -/
def AuthPayload.pointsValid (so : Sodium) (payload : AuthPayload) : Bool :=
  so.isValidPoint payload.aC && so.isValidPoint payload.ephC &&
    match payload.role with
    | some role => so.isValidPoint role.cPrime && so.isValidPoint role.rerandA &&
        role.orProof.all fun branch => so.isValidPoint branch.a
    | none => true

structure AuthRequest extends AuthHeader, AuthPayload

def recvAuthRequest (vars : Vars) (v3 : Bool) : Effect Unit (Conn UInt8) AuthRequest := do
  let header ← recvAuthHeader v3
  Effect.failIf (header.deviceOnly && !allowsDeviceOnly vars) ()
  let payload1 ← recvAll (expectedLen header.deviceOnly)
  let payload ← orFail (splitPayload header.deviceOnly payload1.bytes)
  pure { header with toAuthPayload := payload }

def readAuthRequest (so : Sodium) (vars : Vars) (v3 : Bool) : Effect Unit (Conn UInt8) AuthRequest := do
  let request ← recvAuthRequest vars v3
  Effect.failIf (!request.pointsValid so) ()
  pure request

def admitSession (vars : Vars) (memory : Bool) (moment : Moment) (pid nonceC : Block UInt8 32) :
    Effect Unit Connected Unit :=
  if benchMode vars then pure ()
  else do
    let replayOk ← onReplay (Effect.atomically fun (replay, file) =>
      let (replayOk, replay) := replay.checkAndInsert memory pid nonceC
      (replayOk, (replay, file)))
    Effect.failIf (decide (replayOk ≤ 0)) ()
    onReplay (persistIfDue moment.diskFault moment.now false)

def findRecord (so : Sodium) (serverPub : Block UInt8 32) (reg : List RegEntry) (request : AuthRequest) :
    Option RegEntry :=
  match request.handle with
  | some handle => do
    let record ← lookupRecordByHandle so reg handle
    guard (computePid so record.pub request.nonceC request.ephC serverPub = request.pid)
    pure record
  | none => lookupRecordByPid so reg request.pid request.nonceC request.ephC serverPub

def verifyProofs (so : Sodium) (request : AuthRequest) (record : RegEntry) : Option Unit := do
  schnorrVerifyAuth so request.pid record.pub request.aC request.sC request.nonceC request.ephC
  match request.role with
  | some role =>
    verifyRoleRerandomization so record.roleCommitment role.cPrime role.rerandA role.rerandS request.pid
      request.nonceC request.ephC
    verifyRoleSetMembership so role.cPrime role.orProof request.pid request.nonceC request.ephC
  | none => pure ()

/-- What the server draws at random during one session. -/
structure AuthRandom where
  nonceS : Block UInt8 32
  ephSSecret : Block UInt8 32
  r : Block UInt8 32

/-- The fields of `payload2` and the keys behind the two tags. -/
structure AuthSession where
  serverPub : Block UInt8 32
  aS : Block UInt8 32
  sS : Block UInt8 32
  nonceS : Block UInt8 32
  ephS : Block UInt8 32
  sessionKey : Block UInt8 32
  th : Block UInt8 32

def establish (so : Sodium) (ctx : ServerContext) (request : AuthRequest) (random : AuthRandom) :
    Option AuthSession := do
  let serverPub := ctx.serverPub so
  let ephS := so.scalarmultBase random.ephSSecret
  let (aS, sS) ← schnorrProveServer so ctx.serverSk serverPub random.nonceS ephS random.r
  let sessionKey ← deriveSessionKey so random.ephSSecret request.ephC request.nonceC random.nonceS request.pid
    request.ephC ephS
  let th ← kcTranscriptHash so request.pid request.aC request.sC request.nonceC request.ephC serverPub aS sS
    random.nonceS ephS
  pure { serverPub, aS, sS, nonceS := random.nonceS, ephS, sessionKey, th }

def AuthSession.tagS (so : Sodium) (session : AuthSession) : Block UInt8 32 :=
  hmacTag so (deriveKcKeys so session.sessionKey session.th).1 (ascii "server finished") session.th

def AuthSession.tagC (so : Sodium) (session : AuthSession) : Block UInt8 32 :=
  hmacTag so (deriveKcKeys so session.sessionKey session.th).2 (ascii "client finished") session.th

def AuthSession.payload2 (so : Sodium) (session : AuthSession) : List UInt8 :=
  session.serverPub.bytes ++ session.aS.bytes ++ session.sS.bytes ++ session.nonceS.bytes ++ session.ephS.bytes ++
    (session.tagS so).bytes

def confirm (so : Sodium) (session : AuthSession) : Effect Unit (Conn UInt8) Unit := do
  let tagC ← recvAll 32
  Effect.failIf (decide (session.tagC so ≠ tagC)) ()

def replyAuth (so : Sodium) (ctx : ServerContext) (memory : Bool) (moment : Moment) (random : AuthRandom)
    (v3 : Bool) : Effect Unit Connected (AuthRequest × AuthSession) := do
  let request ← onConn (readAuthRequest so ctx.vars v3)
  admitSession ctx.vars memory moment request.pid request.nonceC
  let state ← Effect.get
  let record ← orFail (findRecord so (ctx.serverPub so) state.server.reg request)
  orFail (verifyProofs so request record)
  let session ← orFail (establish so ctx request random)
  onConn (CImpl.sendAll (session.payload2 so))
  pure (request, session)

def handleAuth (so : Sodium) (ctx : ServerContext) (memory : Bool) (moment : Moment) (random : AuthRandom)
    (v3 : Bool) : Effect Unit Connected (AuthRequest × AuthSession) := do
  let (request, session) ← replyAuth so ctx memory moment random v3
  onConn (confirm so session)
  pure (request, session)

structure ClientCall where
  moment : Moment
  memory : Bool
  setup : SetupRandom
  auth : AuthRandom

/-- `handle_client`: it returns 0 for an enrollment and for a session that was confirmed. -/
def handleClient (so : Sodium) (ctx : ServerContext) (call : ClientCall) :
    Effect Unit Connected (Option (AuthRequest × AuthSession)) := do
  let msg ← onConn recvByte
  if msg = msgSetup then
    handleSetup so ctx call.moment call.setup
    pure none
  else if msg = msgAuthV2 then
    let session ← handleAuth so ctx call.memory call.moment call.auth false
    pure (some session)
  else if msg = msgAuthV3 then
    let session ← handleAuth so ctx call.memory call.moment call.auth true
    pure (some session)
  else Effect.fail ()

end ZkArche.CServer

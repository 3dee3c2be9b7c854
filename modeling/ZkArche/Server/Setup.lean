import ZkArche.Server.Proofs
import ZkArche.Server.State

namespace ZkArche.Server

open Foundation

variable {β S P : Type} [Octet β] [Field S] [AddCommGroup P] [Module S P]
variable [DecidableEq β]

def recvPairingToken : Effect Failure (Conn β) (Option String) := do
  let len ← recvU8
  if len = 0 then pure none
  else do
    Effect.failIf (decide (len.toNat > 128)) (invalidData "pairing token too long")
    let buf ← recvVec len.toNat
    match fromUtf8 (vals buf) with
    | some s => pure (some s)
    | none => Effect.fail (invalidData "token not UTF-8")

def isRateLimited (vars : Vars) (moment : Moment β P) (peerKey : String) :
    Effect Failure (ServerState β P) Bool :=
  if benchMode vars then pure false
  else Effect.atomically fun state =>
    let (blocked, failures) := state.failures.isBlocked moment.now peerKey
    (blocked, { state with failures })

def checkRateLimit (vars : Vars) (moment : Moment β P) (peerKey : String) :
    Effect Failure (Connected β P) Unit := do
  let blocked ← onServer (isRateLimited vars moment peerKey)
  Effect.failIf blocked (permissionDenied "peer temporarily rate limited")

structure SetupRequest (β P : Type) where
  deviceId : Block β 32
  deviceStaticPub : P
  clientNonce : Block β 32
  roleCommitment : P

def readSetupRequest [DecidableEq P] (G : Suite β S P) (policy : PairingPolicy) (now : Nat) :
    Effect Failure (Conn β) (SetupRequest β P) := do
  let providedToken ← recvPairingToken
  Effect.failIf (!policy.allowsZtpSetup now providedToken) (permissionDenied "pairing rejected by policy")
  let deviceId ← recvExact 32
  let deviceStaticPub ← recvPoint G "device_pub"
  let clientNonce ← recvExact 32
  let roleCommitment ← recvPoint G "role_commitment"
  pure { deviceId, deviceStaticPub, clientNonce, roleCommitment }

/-- A request that passed the collision check, with the key that the check saw in the
    registry under its device_id. -/
structure CheckedSetup (β P : Type) extends SetupRequest β P where
  seen : Option P
  agrees : ∀ pub ∈ seen, pub = deviceStaticPub

/-- The key that a registry holds under a device_id. -/
def registeredKey (reg : Registry β P) (deviceId : Block β 32) : Option P :=
  (reg.lookup deviceId).map (·.pubkey)

def checkCollision (G : Suite β S P) (reg : Registry β P) (request : SetupRequest β P) :
    Except Failure (CheckedSetup β P) :=
  if same : ∀ pub ∈ registeredKey reg request.deviceId,
      G.compress pub = G.compress request.deviceStaticPub then
    .ok { request with
      seen := registeredKey reg request.deviceId
      agrees := fun pub member => G.compress_injective (same pub member) }
  else .error (permissionDenied "device_id collision")

/-- What the server draws from `OsRng` during one enrollment. -/
structure SetupRandom (β S : Type) where
  serverNonce : Block β 32
  setupChallenge : Block β 16
  r : S

def challengeSetup (G : Suite β S P) (ctx : ServerContext S) (request : SetupRequest β P)
    (random : SetupRandom β S) : Effect Failure (Conn β) Unit := do
  let serverStaticPub := ctx.staticPub G
  sendAll random.serverNonce.bytes
  sendAll random.setupChallenge.bytes
  sendAll (G.compress serverStaticPub).bytes
  let (aS, sS) := schnorrProveSetupServer G ctx.serverStaticSecret serverStaticPub request.deviceId
    request.deviceStaticPub request.clientNonce random.serverNonce random.setupChallenge random.r
  sendAll (G.compress aS).bytes
  sendAll (G.toBytes sS).bytes

def verifySetup [DecidableEq P] (G : Suite β S P) (ctx : ServerContext S) (request : SetupRequest β P)
    (random : SetupRandom β S) : Effect Failure (Conn β) (P × S) := do
  let a ← recvPoint G "setup_A"
  let s ← recvScalar G
  Effect.failIf (!schnorrVerifySetup G request.deviceStaticPub request.deviceId (ctx.staticPub G)
      request.clientNonce random.serverNonce random.setupChallenge a s)
    (permissionDenied "Schnorr proof invalid")
  pure (a, s)

def SetupRequest.record (request : SetupRequest β P) : DeviceRecord P :=
  { pubkey := request.deviceStaticPub, roleCommitment := request.roleCommitment }

/-- The insertion under the write lock. When the file cannot be written, the two maps keep
    the new record. -/
def enrollDevice (G : Suite β S P) (moment : Moment β P) (request : SetupRequest β P) :
    Effect Failure (ServerState β P) Unit := do
  let rec' := request.record
  Effect.modify fun state => { state with
    reg := state.reg.insert request.deviceId rec'
    handleIndex := state.handleIndex.insert (computeDeviceHandle G rec'.pubkey) (request.deviceId, rec') }
  let state ← Effect.get
  onRegistryFile (saveRegistryAtomic G moment.diskFault (moment.regOrder.list state.reg))

def acknowledge : Effect Failure (Conn β) Unit := sendAll (lits [0x01])

/-- The moments of one enrollment at which it looks at the clock or the disk. -/
structure SetupMoments (β P : Type) where
  admission : Moment β P
  pairing : Moment β P
  insertion : Moment β P

/-- Processes a client setup request, enforces pairing policy, validates the setup proof, and
    registers the client key. What it hands back is the request that was enrolled. -/
def handleSetup [DecidableEq P] (G : Suite β S P) (ctx : ServerContext S) (moments : SetupMoments β P)
    (peerKey : String)
    (random : SetupRandom β S) : Effect Failure (Connected β P) (SetupRequest β P) := do
  checkRateLimit ctx.vars moments.admission peerKey
  let request ← onConn (readSetupRequest G ctx.policy moments.pairing.now)
  let state ← readShared
  let checked ← Effect.lift (checkCollision G state.reg request)
  onConn (challengeSetup G ctx checked.toSetupRequest random)
  let _ ← onConn (verifySetup G ctx checked.toSetupRequest random)
  onServer (enrollDevice G moments.insertion checked.toSetupRequest)
  onConn acknowledge
  pure checked.toSetupRequest

omit [Octet β] in
theorem checkCollision_ok {G : Suite β S P} {reg : Registry β P} {request : SetupRequest β P} {checked : CheckedSetup β P}
    (run : checkCollision G reg request = .ok checked) :
    checked.toSetupRequest = request ∧ checked.seen = registeredKey reg request.deviceId := by
  unfold checkCollision at run
  split at run
  · cases run
    exact ⟨rfl, rfl⟩
  · cases run

omit [Octet β] in
theorem checkCollision_apply (G : Suite β S P) {reg : Registry β P} {request : SetupRequest β P}
    (free : ∀ pub ∈ registeredKey reg request.deviceId, pub = request.deviceStaticPub) :
    checkCollision G reg request =
      .ok { request with seen := registeredKey reg request.deviceId, agrees := free } := by
  rw [checkCollision, dif_pos fun pub member => by rw [free pub member]]

omit [Octet β] [AddCommGroup P] in
theorem registeredKey_insert (reg : Registry β P) (deviceId other : Block β 32) (rec' : DeviceRecord P) :
    registeredKey (reg.insert deviceId rec') other =
      if other = deviceId then some rec'.pubkey else registeredKey reg other := by
  unfold registeredKey
  split
  case isTrue same => rw [same, AList.lookup_insert, Option.map_some]
  case isFalse different => rw [AList.lookup_insert_ne different]

omit [Octet β] [AddCommGroup P] [DecidableEq β] in
theorem isRateLimited_state (vars : Vars) (moment : Moment β P) (peerKey : String) (state : ServerState β P) :
    ∃ failures, (isRateLimited vars moment peerKey state).2 = { state with failures } := by
  unfold isRateLimited
  split
  · exact ⟨state.failures, rfl⟩
  · exact ⟨_, rfl⟩

theorem enrollDevice_state (G : Suite β S P) (moment : Moment β P) (request : SetupRequest β P)
    (state : ServerState β P) :
    (enrollDevice G moment request state).2 = { state with
      reg := state.reg.insert request.deviceId request.record
      handleIndex := state.handleIndex.insert (computeDeviceHandle G request.deviceStaticPub)
        (request.deviceId, request.record)
      registryFile := (enrollDevice G moment request state).2.registryFile } := rfl

end ZkArche.Server

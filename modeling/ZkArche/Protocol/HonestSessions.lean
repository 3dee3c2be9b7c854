import ZkArche.Foundation.Rounds
import ZkArche.Protocol.HonestProofs
import ZkArche.Server.HandleIndex

namespace ZkArche.Protocol

open Foundation Client

variable {ι β S P : Type} [Octet β] [Field S] [AddCommGroup P] [Module S P]
variable [DecidableEq β] [DecidableEq P]

structure Fleet (ι β σ : Type) where
  files : ι → Files β
  server : σ

abbrev World (ι β P : Type) := Fleet ι β (Server.ServerState β P)

inductive Call (β S : Type) where
  | setup (token : Option String) (allowTofu : Bool) (random : Client.SetupRandom β S)
  | auth (vars : Vars) (random : Client.AuthRandom β S)

inductive Held (β S P : Type) where
  | enrolled (enrollee : Enrollee S P) (challenge : SetupChallenge β S P)
  | established (session : Client.AuthSession β S P)

/-- One session of a device, with everything that the server meets and draws in it. -/
structure Session (ι β S P : Type) where
  device : ι
  call : Call β S
  peerKey : String
  moments : Server.ClientMoments β P
  drawn : Server.ClientRandom β S

def Call.run (G : Suite β S P) (allowedRoles : List UInt64) (device : Device β S) :
    Call β S → Effect Failure (Client.Connected β) (Held β S P)
  | .setup token allowTofu random => do
    let (enrollee, challenge) ← doSetup G (device.setupCall G token allowTofu) .none random
    pure (.enrolled enrollee challenge)
  | .auth vars random => do
    let session ← doAuthV2Session G allowedRoles vars (device.x G) .none random
    pure (.established session)

section Runs

variable (G : Suite β S P) (ctx : Server.ServerContext S) (device : ι → Device β S) (world : World ι β P)
  (session : Session ι β S P)

variable [DecidableEq S]

def deviceEnd (received : List β) : Except Failure (Held β S P) × Client.Connected β :=
  session.call.run G ctx.allowedRoles (device session.device) ⟨world.files session.device, .opened received⟩

def serverEnd (received : List β) : Except Failure (Except Failure (Server.Completed β S P)) × Server.Connected β P :=
  Server.handleClient G ctx session.moments session.peerKey session.drawn ⟨world.server, .opened received⟩

def Talks (fromDevice fromServer : List β) : Prop :=
  Settles (fun received => (deviceEnd G ctx device world session received).2.conn.output)
    (fun received => (serverEnd G ctx world session received).2.conn.output) fromDevice fromServer

end Runs

section Success

variable (G : Suite β S P) (ctx : Server.ServerContext S) (device : ι → Device β S)

variable [DecidableEq S]

structure SetUp (own : Device β S) (random : Client.SetupRandom β S) (drawn : Server.SetupRandom β S)
    (fromDevice : List β) (challenge : SetupChallenge β S P) (request : Server.SetupRequest β P) : Prop where
  request : request = setupRequestOf G own random.clientNonce
  serverProof : schnorrVerifySetupServer G (ctx.staticPub G) (own.id G) (own.pub G) random.clientNonce
    challenge.serverNonce challenge.setupChallenge challenge.aS challenge.sS = true
  deviceProof : ∃ opening a s, fromDevice = opening ++ ((G.compress a).bytes ++ (G.toBytes s).bytes) ∧
    Server.schnorrVerifySetup G (own.pub G) (own.id G) (ctx.staticPub G) random.clientNonce drawn.serverNonce
      drawn.setupChallenge a s = true

/-- An authentication in which every proof verifies, with the record of the device and one session
    at both ends. -/
structure Authenticated (own : Device β S) (mode : AuthMode) (fromDevice : List β) (ours : Client.AuthSession β S P)
    (record : Server.DeviceRecord P) (theirs : Server.AuthSession β S P) : Prop where
  found : record = deviceRecord G own
  agrees : Agrees ours theirs
  serverTag : ours.tagS G = theirs.tagS G
  deviceTag : ours.tagC G = theirs.tagC G
  serverProof : schnorrVerifyServer G ours.serverPub ours.aS ours.sS ours.nonceS ours.ephS = true
  deviceProofs : ∃ request bytes, fromDevice = lits [Server.msgAuth (usesV3 mode)] ++ (bytes ++ (ours.tagC G).bytes) ∧
    Server.AuthRequest.Accepted G ctx (usesV3 mode) bytes request ∧ request.deviceOnly = mode.deviceOnly ∧
    Server.verifyProofs G ctx.allowedRoles request record = .ok ()

inductive Fits (own : Device β S) (drawn : Server.ClientRandom β S) (fromDevice : List β) :
    Call β S → Held β S P → Server.Completed β S P → Prop where
  | setup {token : Option String} {allowTofu : Bool} {random : Client.SetupRandom β S} {enrollee : Enrollee S P}
      {challenge : SetupChallenge β S P} {request : Server.SetupRequest β P}
      (setUp : SetUp G ctx own random drawn.setup fromDevice challenge request) :
      Fits own drawn fromDevice (.setup token allowTofu random) (.enrolled enrollee challenge) (.enrolled request)
  | auth {vars : Vars} {random : Client.AuthRandom β S} {ours : Client.AuthSession β S P}
      {record : Server.DeviceRecord P} {theirs : Server.AuthSession β S P}
      (authenticated : Authenticated G ctx own (authMode vars) fromDevice ours record theirs) :
      Fits own drawn fromDevice (.auth vars random) (.established ours) (.established record theirs)

structure Outcome (β S P : Type) where
  fromDevice : List β
  fromServer : List β
  held : Held β S P
  completed : Server.Completed β S P
  deviceConn : Conn β
  serverConn : Conn β

/-- A session with success at both ends, each of which has read exactly what the other one wrote. -/
structure Succeeds (world : World ι β P) (session : Session ι β S P) (after : World ι β P) (outcome : Outcome β S P) :
    Prop where
  talks : Talks G ctx device world session outcome.fromDevice outcome.fromServer
  only : ∀ fromDevice fromServer, Talks G ctx device world session fromDevice fromServer →
    fromDevice = outcome.fromDevice ∧ fromServer = outcome.fromServer
  deviceRun : deviceEnd G ctx device world session outcome.fromServer =
    (.ok outcome.held, ⟨after.files session.device, outcome.deviceConn⟩)
  serverRun : serverEnd G ctx world session outcome.fromDevice =
    (.ok (.ok outcome.completed), ⟨after.server, outcome.serverConn⟩)
  others : ∀ other, other ≠ session.device → after.files other = world.files other
  readAll : outcome.deviceConn.input = [] ∧ outcome.serverConn.input = []
  wrote : outcome.deviceConn.output = outcome.fromDevice ∧ outcome.serverConn.output = outcome.fromServer
  deviceCount : outcome.deviceConn.sent = outcome.serverConn.recv
  serverCount : outcome.deviceConn.recv = outcome.serverConn.sent
  fits : Fits G ctx (device session.device) session.drawn outcome.fromDevice session.call outcome.held outcome.completed

inductive Completes : World ι β P → List (Session ι β S P) → World ι β P → Prop where
  | nil (world : World ι β P) : Completes world [] world
  | cons {world middle last : World ι β P} {session : Session ι β S P} {sessions : List (Session ι β S P)}
      {outcome : Outcome β S P} (succeeds : Succeeds G ctx device world session middle outcome)
      (rest : Completes middle sessions last) : Completes world (session :: sessions) last

end Success

section Honest

variable (G : Suite β S P) (ctx : Server.ServerContext S) (device : ι → Device β S)

def Session.enrolls (session : Session ι β S P) : Bool :=
  match session.call with
  | .setup _ _ _ => true
  | .auth _ _ => false

def Session.nonce (session : Session ι β S P) : Option (Block β 32) :=
  match session.call with
  | .setup _ _ _ => none
  | .auth _ random => some random.nonceC

/-- A setup with a token that satisfies the pairing policy, which may pin the key of the server, with
    no identity among the points and with files that can be written. -/
structure HonestSetup (pinned : Bool) (session : Session ι β S P) (token : Option String) (allowTofu : Bool)
    (random : Client.SetupRandom β S) : Prop where
  short : ∀ text ∈ token, (utf8Bytes text).length ≤ 128
  allowed : ctx.policy.allowsZtpSetup session.moments.setup.pairing.now (Server.presentedToken token) = true
  tofu : allowTofu = true ∨ pinned = true
  deviceProof : random.r • G.basepoint ≠ 0
  serverProof : session.drawn.setup.r • G.basepoint ≠ 0
  writes : session.moments.setup.insertion.diskFault = none

/-- An authentication in a mode that the server allows, with no identity among the points, a
    pseudonym of its own and files that can be written. -/
structure HonestAuth (session : Session ι β S P) (vars : Vars) (random : Client.AuthRandom β S) : Prop where
  gate : (authMode vars).deviceOnly = true → Server.allowsDeviceOnly ctx.vars = true
  deviceProof : random.r • G.basepoint ≠ 0
  deviceEph : random.ephSecret • G.basepoint ≠ 0
  roleProof : (authMode vars).deviceOnly = false → ∀ proof, proveRole G ctx.allowedRoles
    ((device session.device).cred G) ((device session.device).hello G (ctx.staticPub G) random) random = .ok proof →
    ProperRole proof
  serverProof : session.drawn.auth.r • G.basepoint ≠ 0
  serverEph : session.drawn.auth.ephSecret • G.basepoint ≠ 0
  pid : ∀ other, Client.computePid G ((device other).pub G) random.nonceC (random.ephSecret • G.basepoint)
    (ctx.staticPub G) = Client.computePid G ((device session.device).pub G) random.nonceC
      (random.ephSecret • G.basepoint) (ctx.staticPub G) → (device other).root = (device session.device).root
  writes : session.moments.auth.admission.diskFault = none ∧ session.moments.auth.completion.diskFault = none

inductive HonestCall (start : World ι β P) (session : Session ι β S P) : Call β S → Prop where
  | setup {token : Option String} {allowTofu : Bool} {random : Client.SetupRandom β S}
      (honest : HonestSetup G ctx (start.files session.device).serverPub.isPresent session token allowTofu random) :
      HonestCall start session (.setup token allowTofu random)
  | auth {vars : Vars} {random : Client.AuthRandom β S} (honest : HonestAuth G ctx device session vars random) :
      HonestCall start session (.auth vars random)

/-- Devices with different roots and allowed roles, whose identifiers and handles do not collide. -/
structure HonestDevices : Prop where
  distinctRoles : ctx.allowedRoles.Nodup
  allowed : ∀ i, (device i).roleCode ∈ ctx.allowedRoles
  distinctRoots : Function.Injective fun i => (device i).root
  ids : ∀ i j, (device i).id G = (device j).id G → (device i).root = (device j).root
  handles : ∀ i j, Client.computeDeviceHandle G ((device i).pub G) = Client.computeDeviceHandle G ((device j).pub G) →
    (device i).root = (device j).root
  proper : ∀ i, (device i).Proper G
  serverProper : ctx.staticPub G ≠ 0

/-- A server that starts, and devices that hold their role credentials and perhaps the server's key. -/
structure HonestStart (start : World ι β P) : Prop where
  server : start.server = .fresh
  own : ∀ i, (start.files i).Of G (device i)
  serverPub : ∀ i, (start.files i).serverPub = .absent ∨
    (start.files i).serverPub = .present (G.compress (ctx.staticPub G)).bytes 0o600

/-- Honest sessions, in each of which the device has been set up before, with fresh nonces. -/
structure HonestSessions (start : World ι β P) (sessions : List (Session ι β S P)) : Prop where
  calls : ∀ session ∈ sessions, HonestCall G ctx device start session session.call
  setUpFirst : ∀ before session after, sessions = before ++ session :: after → session.enrolls = false →
    ∃ earlier ∈ before, earlier.enrolls = true ∧ earlier.device = session.device
  fresh : (sessions.filterMap Session.nonce).Nodup

end Honest

section Step

variable {G : Suite β S P} {ctx : Server.ServerContext S} {device : ι → Device β S}
  {world : World ι β P} {session : Session ι β S P}

theorem serverEnd_nothing
    [DecidableEq S] : (serverEnd G ctx world session []).2.conn.output = [] := Server.output_of_nothing

theorem deviceEnd_of_waits {consumed written : List β} (waits : Waits Client.Connected.mk
    (session.call.run G ctx.allowedRoles (device session.device)) (world.files session.device) consumed written) :
    (deviceEnd G ctx device world session consumed).2.conn.output = written := by
  obtain ⟨failure, files, conn, run, output⟩ := waits.opened
  rw [deviceEnd, run]
  exact output

theorem succeeds_of_turns [DecidableEq S] [DecidableEq ι] {opening answer fromDevice fromServer : List β}
    {held : Held β S P}
    {completed : Server.Completed β S P} {files : Files β} {server : Server.ServerState β P}
    (opens : (deviceEnd G ctx device world session []).2.conn.output = opening)
    (answers : (serverEnd G ctx world session opening).2.conn.output = answer)
    (continues : (deviceEnd G ctx device world session answer).2.conn.output = fromDevice)
    (deviceTurn : Turn Client.Connected.mk (session.call.run G ctx.allowedRoles (device session.device))
      (world.files session.device) fromServer fromDevice files held)
    (serverTurn : Turn Server.Connected.mk (Server.handleClient G ctx session.moments session.peerKey session.drawn)
      world.server fromDevice fromServer server (.ok completed))
    (fits : Fits G ctx (device session.device) session.drawn fromDevice session.call held completed) :
    Succeeds G ctx device world session ⟨Function.update world.files session.device files, server⟩
      ⟨fromDevice, fromServer, held, completed, .talked fromServer fromDevice, .talked fromDevice fromServer⟩ := by
  have deviceRun : deviceEnd G ctx device world session fromServer = _ := deviceTurn.opened
  have serverRun : serverEnd G ctx world session fromDevice = _ := serverTurn.opened
  have talks : Talks G ctx device world session fromDevice fromServer := by
    refine settles_of_turns opens serverEnd_nothing answers continues ?_ ?_
    · rw [serverRun]
      rfl
    · rw [deviceRun]
      rfl
  refine ⟨talks, fun _ _ others => others.unique talks, ?_, serverRun, ?_, ⟨rfl, rfl⟩, ⟨rfl, rfl⟩, rfl, rfl, fits⟩
  · have own : Function.update world.files session.device files session.device = files := Function.update_self _ _ _
    dsimp only
    rw [own]
    exact deviceRun
  · intro other different
    exact Function.update_of_ne different _ _

variable (G ctx device) in
structure EnrolledIn (world : World ι β P) (i : ι) : Prop where
  reg : world.server.reg.lookup ((device i).id G) = some (deviceRecord G (device i))
  handleIndex : world.server.handleIndex.lookup (Client.computeDeviceHandle G ((device i).pub G)) =
    some ((device i).id G, deviceRecord G (device i))
  pinned : (world.files i).serverPub = .present (G.compress (ctx.staticPub G)).bytes 0o600

variable (G ctx device) in
structure Progress (start : World ι β P) (before : List (Session ι β S P)) (world : World ι β P) : Prop where
  calm : world.server.failures = .empty
  sound : ∀ id record, world.server.reg.lookup id = some record →
    ∃ i, id = (device i).id G ∧ record = deviceRecord G (device i)
  enrolled : ∀ earlier ∈ before, earlier.enrolls = true → EnrolledIn G ctx device world earlier.device
  seen : ∀ key ∈ world.server.replay.keys, ∃ pid, ∃ nonce ∈ before.filterMap Session.nonce,
    key = Server.replayKey pid nonce
  own : ∀ i, (world.files i).Of G (device i)
  pins : ∀ i, (world.files i).serverPub = .present (G.compress (ctx.staticPub G)).bytes 0o600 ∨
    (world.files i).serverPub = .absent ∧ (start.files i).serverPub.isPresent = false

omit [DecidableEq P] in
theorem HonestStart.progress {start : World ι β P} (starts : HonestStart G ctx device start) :
    Progress G ctx device start ([] : List (Session ι β S P)) start where
  calm := by rw [starts.server]; rfl
  sound := by
    intro id record found
    rw [starts.server] at found
    cases found
  enrolled := by
    intro earlier member
    cases member
  seen := by
    intro key member
    rw [starts.server] at member
    exact absurd member (Finset.notMem_empty key)
  own := starts.own
  pins := by
    intro i
    rcases starts.serverPub i with absent | present
    · exact .inr ⟨absent, by rw [absent]; rfl⟩
    · exact .inl present

omit [DecidableEq P] in
theorem Progress.pinning {start : World ι β P} {before : List (Session ι β S P)}
    (progress : Progress G ctx device start before world) {i : ι} {allowTofu : Bool}
    (tofu : allowTofu = true ∨ (start.files i).serverPub.isPresent = true) :
    ∃ pinned, Pinning G (ctx.staticPub G) allowTofu (world.files i).serverPub pinned := by
  rcases progress.pins i with present | ⟨absent, unpinned⟩
  · rw [present]
    exact ⟨_, .known⟩
  · rw [absent]
    rcases tofu with allowed | pinned
    · exact ⟨_, .firstUse allowed⟩
    · rw [unpinned] at pinned
      cases pinned

theorem welcome_of_honest (devices : HonestDevices G ctx device) {start : World ι β P} {before : List (Session ι β S P)}
    (progress : Progress G ctx device start before world) {pinned : Bool} {token : Option String} {allowTofu : Bool}
    {random : Client.SetupRandom β S} (honest : HonestSetup G ctx pinned session token allowTofu random) :
    Server.Welcome G ctx session.moments.setup session.drawn.setup world.server token
      (setupRequestOf G (device session.device) random.clientNonce)
      (setupProof G (device session.device) (ctx.staticPub G) random
        (serverChallenge G (device session.device) ctx random session.drawn.setup)) where
  unknown := progress.calm
  short := honest.short
  allowed := honest.allowed
  pub := (devices.proper session.device).pub
  roleCommitment := (devices.proper session.device).commitment
  free := by
    intro pub registered
    rw [Server.registeredKey] at registered
    obtain ⟨record, found, rfl⟩ := Option.map_eq_some_iff.mp registered
    obtain ⟨i, sameId, rfl⟩ := progress.sound _ _ found
    have same := devices.distinctRoots (devices.ids _ _ sameId)
    rw [← same]
    rfl
  proofProper := honest.deviceProof
  verifies := setupProof_verifies
  writes := honest.writes

omit [DecidableEq P] in
theorem EnrolledIn.kept {i : ι} (enrolled : EnrolledIn G ctx device world i) {after : World ι β P}
    (reg : after.server.reg = world.server.reg) (handleIndex : after.server.handleIndex = world.server.handleIndex)
    (pinned : (after.files i).serverPub = (world.files i).serverPub) : EnrolledIn G ctx device after i := by
  refine ⟨?_, ?_, ?_⟩
  · rw [reg]
    exact enrolled.reg
  · rw [handleIndex]
    exact enrolled.handleIndex
  · rw [pinned]
    exact enrolled.pinned

section Setup

variable {start : World ι β P} {before : List (Session ι β S P)} {moment : Server.Moment β P} {nonce : Block β 32}

variable [DecidableEq ι]

variable (G ctx device world session moment nonce) in
def afterSetup : World ι β P where
  files := Function.update world.files session.device
    (((world.files session.device).cached G (device session.device)).pinned G (ctx.staticPub G))
  server := Server.enrolledIn G moment (setupRequestOf G (device session.device) nonce) world.server

omit [DecidableEq P] in
theorem afterSetup_reg : (afterSetup G ctx device world session moment nonce).server.reg =
    world.server.reg.insert ((device session.device).id G) (deviceRecord G (device session.device)) := rfl

omit [DecidableEq P] in
theorem afterSetup_handleIndex : (afterSetup G ctx device world session moment nonce).server.handleIndex =
    world.server.handleIndex.insert (Client.computeDeviceHandle G ((device session.device).pub G))
      ((device session.device).id G, deviceRecord G (device session.device)) := rfl

omit [DecidableEq P] in
theorem afterSetup_other {i : ι} (other : i ≠ session.device) :
    (afterSetup G ctx device world session moment nonce).files i = world.files i := Function.update_of_ne other _ _

omit [DecidableEq P] in
theorem afterSetup_self : (afterSetup G ctx device world session moment nonce).files session.device =
    ((world.files session.device).cached G (device session.device)).pinned G (ctx.staticPub G) :=
  Function.update_self _ _ _

omit [DecidableEq P] in
theorem enrolledIn_afterSetup_self :
    EnrolledIn G ctx device (afterSetup G ctx device world session moment nonce) session.device where
  reg := by rw [afterSetup_reg, AList.lookup_insert]
  handleIndex := by rw [afterSetup_handleIndex, AList.lookup_insert]
  pinned := by rw [afterSetup_self]; rfl

omit [DecidableEq P] in
theorem EnrolledIn.afterSetup (devices : HonestDevices G ctx device) {i : ι} (enrolled : EnrolledIn G ctx device world i) :
    EnrolledIn G ctx device (afterSetup G ctx device world session moment nonce) i := by
  by_cases same : i = session.device
  · rw [same]
    exact enrolledIn_afterSetup_self
  · have otherId : (device i).id G ≠ (device session.device).id G :=
      fun equal => same (devices.distinctRoots (devices.ids _ _ equal))
    have otherHandle : Client.computeDeviceHandle G ((device i).pub G) ≠
        Client.computeDeviceHandle G ((device session.device).pub G) :=
      fun equal => same (devices.distinctRoots (devices.handles _ _ equal))
    refine ⟨?_, ?_, ?_⟩
    · rw [afterSetup_reg, AList.lookup_insert_ne otherId]
      exact enrolled.reg
    · rw [afterSetup_handleIndex, AList.lookup_insert_ne otherHandle]
      exact enrolled.handleIndex
    · rw [afterSetup_other same]
      exact enrolled.pinned

omit [DecidableEq P] in
theorem Progress.afterSetup (devices : HonestDevices G ctx device) (progress : Progress G ctx device start before world) :
    Progress G ctx device start (before ++ [session]) (afterSetup G ctx device world session moment nonce) where
  calm := progress.calm
  sound := by
    intro id record found
    rw [afterSetup_reg] at found
    by_cases own : id = (device session.device).id G
    · rw [own, AList.lookup_insert] at found
      exact ⟨_, own, (Option.some.inj found).symm⟩
    · rw [AList.lookup_insert_ne own] at found
      exact progress.sound id record found
  enrolled := by
    intro earlier member enrolls
    rcases List.mem_append.mp member with past | last
    · exact (progress.enrolled earlier past enrolls).afterSetup devices
    · rw [List.mem_singleton.mp last]
      exact enrolledIn_afterSetup_self
  seen := by
    intro key member
    obtain ⟨pid, nonce, past, same⟩ := progress.seen key member
    exact ⟨pid, nonce, by rw [List.filterMap_append]; exact List.mem_append_left _ past, same⟩
  own := by
    intro i
    by_cases same : i = session.device
    · rw [same, afterSetup_self]
      exact ⟨.inr rfl, (progress.own _).roleCred⟩
    · rw [afterSetup_other same]
      exact progress.own i
  pins := by
    intro i
    by_cases same : i = session.device
    · rw [same, afterSetup_self]
      exact .inl rfl
    · rw [afterSetup_other same]
      exact progress.pins i

theorem setup_succeeds [DecidableEq S] (devices : HonestDevices G ctx device)
    (progress : Progress G ctx device start before world)
    {token : Option String} {allowTofu : Bool} {random : Client.SetupRandom β S}
    (call : session.call = .setup token allowTofu random)
    (honest : HonestSetup G ctx (start.files session.device).serverPub.isPresent session token allowTofu random) :
    ∃ after outcome, Succeeds G ctx device world session after outcome ∧
      Progress G ctx device start (before ++ [session]) after := by
  obtain ⟨pinned, pinning⟩ := progress.pinning honest.tofu
  have own := progress.own session.device
  have proper := devices.proper session.device
  have welcome := welcome_of_honest devices progress honest
  generalize isChallenge : serverChallenge G (device session.device) ctx random session.drawn.setup = challenge at welcome
  have convincing : Convincing G (device session.device) (ctx.staticPub G) random.clientNonce challenge := by
    rw [← isChallenge]
    exact convincing_serverChallenge devices.serverProper honest.serverProof
  have answer : challengeBytes G challenge =
      Server.setupChallengeBytes G ctx (setupRequestOf G (device session.device) random.clientNonce) session.drawn.setup := by
    rw [← isChallenge, challengeBytes_serverChallenge]
  have verified := welcome.verifies
  have whole := turn_doSetup proper convincing own honest.short pinning
  have opens : (deviceEnd G ctx device world session []).2.conn.output =
      setupBytes G (device session.device) token random.clientNonce := by
    apply deviceEnd_of_waits
    rw [call]
    exact (waits_doSetup_opening proper convincing own honest.short pinning).bind
  have continues : (deviceEnd G ctx device world session (challengeBytes G challenge)).2.conn.output =
      setupSent G (device session.device) token (ctx.staticPub G) random challenge := by
    apply deviceEnd_of_waits
    rw [call]
    exact (waits_doSetup_answer proper convincing own honest.short pinning).bind
  have answers : (serverEnd G ctx world session (setupBytes G (device session.device) token random.clientNonce)).2.conn.output =
      challengeBytes G challenge := by
    rw [answer]
    exact Server.output_of_waits (Server.waits_setup welcome)
  have calm : (Server.enrolledIn G session.moments.setup.insertion (setupRequestOf G (device session.device)
      random.clientNonce) world.server).failures = .empty := progress.calm
  have served : Turn Server.Connected.mk (Server.handleClient G ctx session.moments session.peerKey session.drawn)
      world.server (setupSent G (device session.device) token (ctx.staticPub G) random challenge)
      (challengeBytes G challenge ++ lits [0x01]) (Server.enrolledIn G session.moments.setup.insertion
        (setupRequestOf G (device session.device) random.clientNonce) world.server)
      (.ok (.enrolled (setupRequestOf G (device session.device) random.clientNonce))) := by
    rw [answer, setupSent, setupBytes, List.append_assoc]
    exact Server.turn_handleClient calm (Server.turn_setup welcome)
  have fits : Fits G ctx (device session.device) session.drawn (setupSent G (device session.device) token (ctx.staticPub G)
      random challenge) session.call (.enrolled ((device session.device).enrollee G pinned) challenge)
      (.enrolled (setupRequestOf G (device session.device) random.clientNonce)) := by
    rw [call]
    exact .setup ⟨rfl, convincing.verifies, _, _, _, rfl, verified⟩
  refine ⟨_, _, succeeds_of_turns opens answers continues ?_ served fits, progress.afterSetup devices⟩
  rw [call]
  exact whole.last fun _ => rfl

end Setup

section Auth

variable {start : World ι β P} {before : List (Session ι β S P)} {vars : Vars} {random : Client.AuthRandom β S}

omit [DecidableEq β] [DecidableEq P] in
theorem exists_roleSent (devices : HonestDevices G ctx device) (honest : HonestAuth G ctx device session vars random) :
    ∃ roles, RoleSent G ctx.allowedRoles (device session.device)
      ((device session.device).hello G (ctx.staticPub G) random) random (authMode vars).deviceOnly roles := by
  cases mode : (authMode vars).deviceOnly with
  | true => exact ⟨none, .deviceOnly⟩
  | false =>
    obtain ⟨proof, proves, equations⟩ := proveRole_accepted devices.distinctRoles (devices.allowed session.device)
      ((device session.device).hello G (ctx.staticPub G) random) random
    exact ⟨some proof, .full proves equations (honest.roleProof mode proof proves)⟩

omit [DecidableEq β] [DecidableEq P] in
theorem RoleSent.roles {own : Device β S} {serverPub : P} {mode : AuthMode} {roles : Option (RoleProof S P)}
    (sent : RoleSent G ctx.allowedRoles own (own.hello G serverPub random) random mode.deviceOnly roles) :
    own.Roles G ctx.allowedRoles serverPub random mode.deviceOnly (rolesBytes G roles) := by
  generalize mode.deviceOnly = only at sent
  cases sent with
  | deviceOnly => exact .deviceOnly
  | full proves _ _ => exact .full proves

omit [DecidableEq P] in
theorem finds_own_record (devices : HonestDevices G ctx device) (progress : Progress G ctx device start before world)
    (enrolled : EnrolledIn G ctx device world session.device) (honest : HonestAuth G ctx device session vars random)
    (moment : Server.Moment β P) (fast : Bool) :
    Server.findRecord G moment (ctx.staticPub G) world.server
      (if fast then some (Client.computeDeviceHandle G ((device session.device).pub G)) else none)
      ((device session.device).hello G (ctx.staticPub G) random).pid random.nonceC (random.ephSecret • G.basepoint) =
        .ok ((device session.device).id G, deviceRecord G (device session.device)) := by
  have pid : Server.computePid G (deviceRecord G (device session.device)).pubkey random.nonceC
      (random.ephSecret • G.basepoint) (ctx.staticPub G) =
        ((device session.device).hello G (ctx.staticPub G) random).pid := rfl
  cases fast with
  | true =>
    rw [if_pos rfl, Server.findRecord]
    simp only [enrolled.handleIndex, pid, ne_eq, not_true_eq_false, ↓reduceIte]
  | false =>
    have member := (moment.regOrder.mem_list _ _ _).mpr enrolled.reg
    obtain ⟨⟨id, record⟩, scan⟩ := Server.lookupRecordByPid_of_mem member pid
    obtain ⟨listed, same⟩ := Server.lookupRecordByPid_mem scan
    obtain ⟨i, rfl, rfl⟩ := progress.sound id record ((moment.regOrder.mem_list _ _ _).mp listed)
    have equal := devices.distinctRoots (honest.pid i same)
    rw [if_neg (by exact Bool.false_ne_true), Server.findRecord]
    simp only [scan, equal]

omit [DecidableEq P] in
theorem Progress.unseen (progress : Progress G ctx device start before world)
    (fresh : random.nonceC ∉ before.filterMap Session.nonce) (pid : Block β 32) :
    Server.replayKey pid random.nonceC ∉ world.server.replay.keys := by
  intro member
  obtain ⟨pid', nonce, past, same⟩ := progress.seen _ member
  have bytes := congrArg Block.bytes same
  rw [Server.replayKey, Server.replayKey, Block.append_bytes, Block.append_bytes] at bytes
  have nonces := Block.bytes_inj.mp (List.append_inj_right bytes (by simp))
  rw [nonces] at fresh
  exact fresh past

omit [DecidableEq P] in
theorem Progress.afterAuth [DecidableEq ι] (progress : Progress G ctx device start before world)
    (call : session.call = .auth vars random) {pid : Block β 32} {server : Server.ServerState β P}
    (changed : Server.AfterSession (Server.replayKey pid random.nonceC) world.server server) :
    Progress G ctx device start (before ++ [session])
      ⟨Function.update world.files session.device ((world.files session.device).cached G (device session.device)), server⟩ := by
  have nonce : session.nonce = some random.nonceC := by rw [Session.nonce, call]
  have files : ∀ i, (Function.update world.files session.device
      ((world.files session.device).cached G (device session.device)) i).serverPub = (world.files i).serverPub := by
    intro i
    by_cases same : i = session.device
    · rw [same, Function.update_self]
      rfl
    · rw [Function.update_of_ne same]
  refine ⟨changed.failures.trans progress.calm, ?_, ?_, ?_, ?_, ?_⟩
  · intro id record found
    rw [changed.reg] at found
    exact progress.sound id record found
  · intro earlier member enrolls
    rcases List.mem_append.mp member with past | last
    · exact (progress.enrolled earlier past enrolls).kept changed.reg changed.handleIndex (files _)
    · rw [List.mem_singleton.mp last, Session.enrolls, call] at enrolls
      cases enrolls
  · intro key member
    rw [List.filterMap_append]
    rcases Finset.mem_insert.mp (changed.keys member) with own | past
    · refine ⟨pid, random.nonceC, List.mem_append_right _ ?_, own⟩
      rw [List.filterMap_cons_some nonce]
      exact List.mem_singleton_self _
    · obtain ⟨pid', nonce', earlier, same⟩ := progress.seen key past
      exact ⟨pid', nonce', List.mem_append_left _ earlier, same⟩
  · intro i
    by_cases same : i = session.device
    · subst same
      dsimp only
      rw [Function.update_self]
      exact ⟨.inr rfl, (progress.own _).roleCred⟩
    · dsimp only
      rw [Function.update_of_ne same]
      exact progress.own i
  · intro i
    dsimp only
    rw [files]
    exact progress.pins i

variable [DecidableEq S]

theorem admissible_of_honest (devices : HonestDevices G ctx device) (progress : Progress G ctx device start before world)
    (enrolled : EnrolledIn G ctx device world session.device) (honest : HonestAuth G ctx device session vars random)
    (fresh : random.nonceC ∉ before.filterMap Session.nonce) {roles : Option (RoleProof S P)}
    (sent : RoleSent G ctx.allowedRoles (device session.device)
      ((device session.device).hello G (ctx.staticPub G) random) random (authMode vars).deviceOnly roles) :
    Server.Admissible G ctx session.moments.auth (usesV3 (authMode vars)) world.server
      (headerBytes (authMode vars) (Client.computeDeviceHandle G ((device session.device).pub G)) ++
        (honestRequest G ctx (device session.device) (authMode vars) random roles).toAuthPayload.encode G)
      (honestRequest G ctx (device session.device) (authMode vars) random roles) ((device session.device).id G)
      (deviceRecord G (device session.device)) where
  accepted := sentRequest_accepted sent honest.gate honest.deviceProof honest.deviceEph
  fresh := progress.unseen fresh _
  found := finds_own_record devices progress enrolled honest _ _
  verified := sentRequest_verified sent honest.deviceProof honest.deviceEph
  writes := honest.writes.1
  writesLast := honest.writes.2

theorem serves_auth {v3 : Bool} {bytes : List β} {request : Server.AuthRequest β S P} {id : Block β 32}
    {record : Server.DeviceRecord P} (calm : world.server.failures = .empty)
    (admissible : Server.Admissible G ctx session.moments.auth v3 world.server bytes request id record) :
    ∃ after, Server.AfterSession (Server.replayKey request.pid request.nonceC) world.server after ∧
      Turn Server.Connected.mk (Server.handleClient G ctx session.moments session.peerKey session.drawn) world.server
        (lits [Server.msgAuth v3] ++ (bytes ++
          ((Server.establish G ctx.serverStaticSecret request session.drawn.auth).tagC G).bytes))
        ((Server.establish G ctx.serverStaticSecret request session.drawn.auth).payload2 G) after
        (.ok (.established record (Server.establish G ctx.serverStaticSecret request session.drawn.auth))) :=
  (Server.turn_auth admissible).imp fun _ both =>
    ⟨both.1, Server.turn_handleClient (both.1.failures.trans calm) both.2⟩

theorem auth_succeeds [DecidableEq ι] (devices : HonestDevices G ctx device)
    (progress : Progress G ctx device start before world)
    (enrolled : EnrolledIn G ctx device world session.device) (call : session.call = .auth vars random)
    (honest : HonestAuth G ctx device session vars random) (fresh : random.nonceC ∉ before.filterMap Session.nonce) :
    ∃ after outcome, Succeeds G ctx device world session after outcome ∧
      Progress G ctx device start (before ++ [session]) after := by
  have own := progress.own session.device
  have proper := devices.proper session.device
  obtain ⟨roles, sent⟩ := exists_roleSent devices honest
  have carries := RoleSent.roles sent
  have admissible := admissible_of_honest devices progress enrolled honest fresh sent
  have asked : (serverEnd G ctx world session _).2.conn.output = _ :=
    Server.output_of_waits (Server.waits_auth admissible)
  obtain ⟨server, changed, served⟩ := serves_auth progress.calm admissible
  have satisfying : Satisfying G random.ephSecret ((device session.device).hello G (ctx.staticPub G) random)
      (replyOf G (servedSession G ctx (device session.device) (authMode vars) random roles session.drawn.auth)) :=
    satisfying_replyOf devices.serverProper honest.serverProof honest.serverEph
  have agrees : Agrees ((device session.device).session G (ctx.staticPub G) random
      (replyOf G (servedSession G ctx (device session.device) (authMode vars) random roles session.drawn.auth)))
      (servedSession G ctx (device session.device) (authMode vars) random roles session.drawn.auth) := sessions_agree
  rw [servedSession] at satisfying agrees
  generalize Server.establish G ctx.serverStaticSecret (honestRequest G ctx (device session.device) (authMode vars) random
    roles) session.drawn.auth = theirs at *
  rw [← replyBytes_replyOf] at asked served
  have whole : Turn Client.Connected.mk (session.call.run G ctx.allowedRoles (device session.device))
      (world.files session.device) (replyBytes G (replyOf G theirs)) (sessionSent G (device session.device) (authMode vars)
        (ctx.staticPub G) random (rolesBytes G roles) (replyOf G theirs))
      ((world.files session.device).cached G (device session.device)) (.established
        ((device session.device).session G (ctx.staticPub G) random (replyOf G theirs))) := by
    rw [call]
    exact (turn_doAuthV2Session proper devices.serverProper own enrolled.pinned carries satisfying).last fun _ => rfl
  have sentBytes : sessionSent G (device session.device) (authMode vars) (ctx.staticPub G) random (rolesBytes G roles)
      (replyOf G theirs) = lits [Server.msgAuth (usesV3 (authMode vars))] ++
        ((headerBytes (authMode vars) (Client.computeDeviceHandle G ((device session.device).pub G)) ++
          (honestRequest G ctx (device session.device) (authMode vars) random roles).toAuthPayload.encode G) ++
            (((device session.device).session G (ctx.staticPub G) random (replyOf G theirs)).tagC G).bytes) := by
    rw [sessionSent, requestSent_eq, List.append_assoc]
  have opens : (deviceEnd G ctx device world session []).2.conn.output = requestSent G (device session.device)
      (authMode vars) (ctx.staticPub G) random (rolesBytes G roles) := by
    apply deviceEnd_of_waits
    rw [call]
    exact (waits_doAuthV2Session proper devices.serverProper own enrolled.pinned carries).bind
  have continues : (deviceEnd G ctx device world session (replyBytes G (replyOf G theirs))).2.conn.output =
      sessionSent G (device session.device) (authMode vars) (ctx.staticPub G) random (rolesBytes G roles)
        (replyOf G theirs) := by
    rw [deviceEnd, whole.opened]
    rfl
  have fits : Fits G ctx (device session.device) session.drawn (sessionSent G (device session.device) (authMode vars)
      (ctx.staticPub G) random (rolesBytes G roles) (replyOf G theirs)) session.call (.established
        ((device session.device).session G (ctx.staticPub G) random (replyOf G theirs)))
      (.established (deviceRecord G (device session.device)) theirs) := by
    rw [call]
    exact .auth ⟨rfl, agrees, agrees.tagS, agrees.tagC, satisfying.verifies, _, _, sentBytes, admissible.accepted,
      sentRequest_deviceOnly, admissible.verified⟩
  refine ⟨_, _, succeeds_of_turns opens ?_ continues whole ?_ fits, progress.afterAuth call changed⟩
  · rw [requestSent_eq]
    exact asked
  · rw [sentBytes, agrees.tagC]
    exact served

end Auth

variable [DecidableEq S] [DecidableEq ι]

section Sequence

variable {start : World ι β P} {before : List (Session ι β S P)}

theorem session_succeeds (devices : HonestDevices G ctx device) (progress : Progress G ctx device start before world)
    (honest : HonestCall G ctx device start session session.call)
    (setUp : session.enrolls = false → ∃ earlier ∈ before, earlier.enrolls = true ∧ earlier.device = session.device)
    (fresh : ∀ nonce ∈ session.nonce, nonce ∉ before.filterMap Session.nonce) :
    ∃ after outcome, Succeeds G ctx device world session after outcome ∧
      Progress G ctx device start (before ++ [session]) after := by
  generalize called : session.call = call at honest
  cases honest with
  | setup honest => exact setup_succeeds devices progress called honest
  | auth honest =>
    obtain ⟨earlier, past, enrolls, same⟩ := setUp (by rw [Session.enrolls, called])
    have enrolled := progress.enrolled earlier past enrolls
    rw [same] at enrolled
    exact auth_succeeds devices progress enrolled called honest (fresh _ (by rw [Session.nonce, called]; rfl))

theorem sessions_complete (devices : HonestDevices G ctx device) {sessions : List (Session ι β S P)}
    (honest : HonestSessions G ctx device start sessions) {rest : List (Session ι β S P)}
    (split : sessions = before ++ rest) (progress : Progress G ctx device start before world) :
    ∃ last, Completes G ctx device world rest last := by
  induction rest generalizing before world with
  | nil => exact ⟨world, .nil world⟩
  | cons session rest ih =>
    have call := honest.calls session (by rw [split]; simp)
    have fresh : ∀ nonce ∈ session.nonce, nonce ∉ before.filterMap Session.nonce := by
      intro nonce own past
      have distinct := honest.fresh
      rw [split, List.filterMap_append, List.filterMap_cons_some own] at distinct
      exact (List.nodup_append.mp distinct).2.2 nonce past nonce List.mem_cons_self rfl
    obtain ⟨middle, outcome, succeeds, further⟩ :=
      session_succeeds devices progress call (honest.setUpFirst before session rest split) fresh
    have next : sessions = (before ++ [session]) ++ rest := by rw [split, List.append_assoc]; rfl
    obtain ⟨last, completes⟩ := ih next further
    exact ⟨last, .cons succeeds completes⟩

end Sequence

end Step

/-- Every sequence of honest sessions completes. -/
theorem honest_sessions_complete [DecidableEq S] [DecidableEq ι] {G : Suite β S P} {ctx : Server.ServerContext S}
    {device : ι → Device β S} {start : World ι β P} {sessions : List (Session ι β S P)}
    (devices : HonestDevices G ctx device) (starts : HonestStart G ctx device start)
    (honest : HonestSessions G ctx device start sessions) : ∃ last, Completes G ctx device start sessions last :=
  sessions_complete devices honest (List.nil_append sessions).symm starts.progress

section Example

open Server (zeros)

def twoDevices (second : Bool) : Device UInt8 (ZMod 5) :=
  if second then ⟨⟨2 :: List.replicate 31 0, rfl⟩, 2, 1⟩ else ⟨⟨1 :: List.replicate 31 0, rfl⟩, 1, 1⟩

def twoDevicesStart : World Bool UInt8 (ZMod 5) where
  files := fun second => ⟨.absent, .absent, .absent,
    .present (roleCredBytes rootedSuite ((twoDevices second).cred rootedSuite)) 0o600⟩
  server := .fresh

noncomputable def quietSession (second : Bool) (call : Call UInt8 (ZMod 5)) : Session Bool UInt8 (ZMod 5) (ZMod 5) where
  device := second
  call := call
  peerKey := "peer"
  moments := ⟨⟨.quiet, .quiet, .quiet⟩, .quiet, .quiet⟩
  drawn := Server.toyClientRandom

def plainSetup : Call UInt8 (ZMod 5) := .setup none true ⟨0, zeros, 1⟩

def plainRandom (turn : UInt8) : Client.AuthRandom UInt8 (ZMod 5) :=
  ⟨⟨turn :: List.replicate 31 0, rfl⟩, 1, 1, 0, 1 + 1, 1, ⟨1, fun _ => (1, 1 + 1)⟩⟩

def plainAuth (turn : UInt8) (vars : Vars) : Call UInt8 (ZMod 5) := .auth vars (plainRandom turn)

noncomputable def sixSessions : List (Session Bool UInt8 (ZMod 5) (ZMod 5)) :=
  [quietSession false plainSetup, quietSession false (plainAuth 0 fun _ => none),
    quietSession true plainSetup, quietSession true (plainAuth 1 fun _ => some "1"),
    quietSession false (plainAuth 2 fun name => if name = "ZKARCHE_FAST_LOOKUP" then some "1" else none),
    quietSession true (plainAuth 3 fun name => if name = "ZKARCHE_DEVICE_ONLY" then some "1" else none)]

theorem twoDevices_honest : HonestDevices rootedSuite Server.deviceOnlyContext twoDevices where
  distinctRoles := by decide
  allowed := by decide
  distinctRoots := by decide
  ids := by decide
  handles := by decide
  proper := fun second => ⟨by revert second; decide, by revert second; decide⟩
  serverProper := by decide

theorem twoDevicesStart_honest : HonestStart rootedSuite Server.deviceOnlyContext twoDevices twoDevicesStart where
  server := rfl
  own := fun _ => ⟨.inl rfl, rfl⟩
  serverPub := fun _ => .inl rfl

theorem rooted_unit : (1 : ZMod 5) • rootedSuite.basepoint ≠ 0 := by decide

theorem plainSetup_honest (second : Bool) : HonestCall rootedSuite Server.deviceOnlyContext twoDevices twoDevicesStart
    (quietSession second plainSetup) plainSetup := by
  refine .setup ⟨?_, rfl, .inl rfl, rooted_unit, rooted_unit, rfl⟩
  intro text member
  cases member

def isProper : Except Failure (RoleProof (ZMod 5) (ZMod 5)) → Bool
  | .ok proof => decide (proof.cPrime ≠ 0 ∧ proof.rerandA ≠ 0 ∧ ∀ branch ∈ proof.orProof, branch.1 ≠ 0)
  | .error _ => false

def plainHello (second : Bool) (turn : UInt8) : AuthHello UInt8 (ZMod 5) (ZMod 5) :=
  (twoDevices second).hello rootedSuite (Server.deviceOnlyContext.staticPub rootedSuite) (plainRandom turn)

theorem plainAuth_honest {second : Bool} {turn : UInt8} {vars : Vars}
    (roles : isProper (proveRole rootedSuite Server.deviceOnlyContext.allowedRoles ((twoDevices second).cred rootedSuite)
      (plainHello second turn) (plainRandom turn)) = true)
    (pids : ∀ other, (plainHello other turn).pid = (plainHello second turn).pid →
      (twoDevices other).root = (twoDevices second).root) :
    HonestCall rootedSuite Server.deviceOnlyContext twoDevices twoDevicesStart
      (quietSession second (plainAuth turn vars)) (plainAuth turn vars) := by
  have allowed : Server.allowsDeviceOnly Server.deviceOnlyContext.vars = true := by decide
  refine .auth ⟨fun _ => allowed, rooted_unit, rooted_unit, ?_, rooted_unit, rooted_unit, pids, rfl, rfl⟩
  intro _ proof proves
  have proper : isProper (.ok proof) = true := by
    rw [← proves]
    exact roles
  rw [isProper, decide_eq_true_iff] at proper
  exact ⟨proper.1, proper.2.1, proper.2.2⟩

set_option maxRecDepth 100000 in
theorem sixSessions_honest : HonestSessions rootedSuite Server.deviceOnlyContext twoDevices twoDevicesStart sixSessions where
  calls := by
    simp only [sixSessions, List.forall_mem_cons]
    refine ⟨plainSetup_honest _, plainAuth_honest (by decide) (by decide), plainSetup_honest _,
      plainAuth_honest (by decide) (by decide), plainAuth_honest (by decide) (by decide),
      plainAuth_honest (by decide) (by decide), ?_⟩
    intro session member
    cases member
  setUpFirst := by
    intro before session after split authenticates
    have positions : ∀ n (inside : n < sixSessions.length), sixSessions[n].enrolls = false →
        ∃ earlier ∈ sixSessions.take n, earlier.enrolls = true ∧ earlier.device = sixSessions[n].device := by decide
    rw [split] at positions
    have here := positions before.length (by simp)
    rw [List.getElem_append_right (Nat.le_refl _), List.take_left] at here
    simp only [Nat.sub_self, List.getElem_cons_zero] at here
    exact here authenticates
  fresh := by decide

theorem honest_sessions_complete_six : ∃ last, Completes rootedSuite Server.deviceOnlyContext twoDevices twoDevicesStart
    sixSessions last := honest_sessions_complete twoDevices_honest twoDevicesStart_honest sixSessions_honest

end Example

end ZkArche.Protocol

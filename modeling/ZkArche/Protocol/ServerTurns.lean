import ZkArche.Primitives.Turns
import ZkArche.Server.Dispatch
import ZkArche.Server.Replies
import ZkArche.Server.SetupDialogue

namespace ZkArche.Server

open Foundation

variable {β S P : Type} [Field S] [AddCommGroup P] [Module S P]

section Parts

variable {α : Type} {part : Effect Failure (Conn β) α} {consumed written : List β} {value : α}

omit [AddCommGroup P] in
theorem turn_onConn (turn : Turn onlyConn part () consumed written () value) (server : ServerState β P) :
    Turn Connected.mk (onConn part) server consumed written server value := by
  intro conn rest quiet input
  have run := turn conn rest quiet input
  change part conn = _ at run
  rw [onConn_apply, run]
  rfl

omit [AddCommGroup P] in
theorem waits_onConn (waits : Waits onlyConn part () consumed written) (server : ServerState β P) :
    Waits Connected.mk (onConn part) server consumed written := by
  intro conn quiet input
  obtain ⟨failure, _, later, run, output⟩ := waits conn quiet input
  refine ⟨failure, server, later, ?_, output⟩
  change part conn = _ at run
  rw [onConn_apply, run]
  rfl

omit [AddCommGroup P] in
theorem silent_onServer {part : Effect Failure (ServerState β P) α} {server after : ServerState β P}
    (run : part server = (.ok value, after)) (conn : Conn β) :
    onServer part ⟨server, conn⟩ = (.ok value, ⟨after, conn⟩) := onServer_of_eq run

end Parts

variable {G : Suite β S P} {ctx : ServerContext S} {peerKey : String} {server : ServerState β P}

variable [DecidableEq β] [DecidableEq P]

variable [Octet β]

section Setup

variable {moments : SetupMoments β P} {random : SetupRandom β S} {token : Option String} {request : SetupRequest β P}
  {proof : P × S}

omit [Octet β] [AddCommGroup P] [DecidableEq β] [DecidableEq P] in
theorem checkRateLimit_unknown (vars : Vars) (moment : Moment β P) (unknown : server.failures = .empty) (conn : Conn β) :
    checkRateLimit vars moment peerKey ⟨server, conn⟩ = (.ok (), ⟨server, conn⟩) := by
  obtain ⟨reg, handleIndex, replay, failures, registryFile, replayFile⟩ := server
  cases unknown
  unfold checkRateLimit isRateLimited
  split <;> rfl

def enrolledIn (G : Suite β S P) (moment : Moment β P) (request : SetupRequest β P) (server : ServerState β P) :
    ServerState β P := (enrollDevice G moment request server).2

omit [DecidableEq P] in
theorem enrollDevice_ok {moment : Moment β P} (writes : moment.diskFault = none) :
    enrollDevice G moment request server = (.ok (), enrolledIn G moment request server) := by
  have succeeds : (enrollDevice G moment request server).1 = .ok () := by
    unfold enrollDevice saveRegistryAtomic
    rw [writes]
    rfl
  exact Prod.ext succeeds rfl

structure Welcome (G : Suite β S P) (ctx : ServerContext S) (moments : SetupMoments β P) (random : SetupRandom β S)
    (server : ServerState β P) (token : Option String) (request : SetupRequest β P) (proof : P × S) : Prop where
  unknown : server.failures = .empty
  short : ∀ text ∈ token, (utf8Bytes text).length ≤ 128
  allowed : ctx.policy.allowsZtpSetup moments.pairing.now (presentedToken token) = true
  pub : request.deviceStaticPub ≠ 0
  roleCommitment : request.roleCommitment ≠ 0
  free : ∀ pub ∈ registeredKey server.reg request.deviceId, pub = request.deviceStaticPub
  proofProper : proof.1 ≠ 0
  verifies : schnorrVerifySetup G request.deviceStaticPub request.deviceId (ctx.staticPub G) request.clientNonce
    random.serverNonce random.setupChallenge proof.1 proof.2 = true
  writes : moments.insertion.diskFault = none

variable (welcome : Welcome G ctx moments random server token request proof)
include welcome

theorem turn_handleSetup : Turn Connected.mk (handleSetup G ctx moments peerKey random) server
    (setupRequestBytes G token request ++ ((G.compress proof.1).bytes ++ (G.toBytes proof.2).bytes))
    (setupChallengeBytes G ctx request random ++ lits [0x01]) (enrolledIn G moments.insertion request server) request := by
  have answer : Turn Connected.mk (do
      onServer (enrollDevice G moments.insertion request)
      onConn acknowledge
      pure request) server [] (lits [0x01]) (enrolledIn G moments.insertion request server) request := by
    refine Turn.skip (silent_onServer (enrollDevice_ok welcome.writes)) ?_
    exact (turn_onConn (Writes.sendAll _).turn _).last fun _ => rfl
  refine Turn.skip (checkRateLimit_unknown _ _ welcome.unknown) ?_
  refine (turn_onConn (reads_readSetupRequest welcome.short welcome.allowed welcome.pub welcome.roleCommitment).turn
    _).read ?_
  refine Turn.skip (fun _ => rfl) ?_
  refine Turn.skip (fun _ => Effect.lift_of_ok (checkCollision_apply G welcome.free)) ?_
  refine (turn_onConn (writes_challengeSetup G ctx request random).turn _).write ?_
  exact (turn_onConn (reads_verifySetup welcome.proofProper welcome.verifies).turn _).hear answer

theorem waits_handleSetup : Waits Connected.mk (handleSetup G ctx moments peerKey random) server
    (setupRequestBytes G token request) (setupChallengeBytes G ctx request random) := by
  refine Waits.skip (checkRateLimit_unknown _ _ welcome.unknown) ?_
  refine Waits.hear (turn_onConn (reads_readSetupRequest welcome.short welcome.allowed welcome.pub
    welcome.roleCommitment).turn _) ?_
  refine Waits.skip (fun _ => rfl) ?_
  refine Waits.skip (fun _ => Effect.lift_of_ok (checkCollision_apply G welcome.free)) ?_
  refine Waits.ask (turn_onConn (writes_challengeSetup G ctx request random).turn _) ?_
  exact (waits_onConn Waits.recvPoint.bind _).bind

end Setup

variable [DecidableEq S]

section Session

variable {moments : AuthMoments β P} {random : AuthRandom β S} {v3 : Bool} {request : AuthRequest β S P}
  {bytes : List β} {record : DeviceRecord P} {id : Block β 32}

structure Admissible (G : Suite β S P) (ctx : ServerContext S) (moments : AuthMoments β P) (v3 : Bool)
    (server : ServerState β P) (bytes : List β) (request : AuthRequest β S P) (id : Block β 32)
    (record : DeviceRecord P) : Prop where
  accepted : request.Accepted G ctx v3 bytes
  fresh : replayKey request.pid request.nonceC ∉ server.replay.keys
  found : findRecord G moments.lookup (ctx.staticPub G) server request.handleOpt request.pid request.nonceC
    request.ephC = .ok (id, record)
  verified : verifyProofs G ctx.allowedRoles request record = .ok ()
  writes : moments.admission.diskFault = none
  writesLast : moments.completion.diskFault = none

structure AfterSession (key : ReplayKey β) (before after : ServerState β P) : Prop where
  reg : after.reg = before.reg
  handleIndex : after.handleIndex = before.handleIndex
  failures : after.failures = before.failures
  keys : after.replay.keys ⊆ insert key before.replay.keys

omit [Octet β] [AddCommGroup P] [DecidableEq β] [DecidableEq P] in
theorem persistReplay_apply {moment : Moment β P} (writes : moment.diskFault = none) (blob : Option (List β))
    (server : ServerState β P) : ∃ replayFile,
      persistReplay moment blob server = (.ok (), { server with replayFile }) :=
  ⟨_, Prod.ext (persistReplay_written writes blob server) (persistReplay_state moment blob server)⟩

omit [Octet β] in
theorem inserted_keys (cache : ReplayCache β) (key : ReplayKey β) : (cache.inserted key).keys ⊆ insert key cache.keys := by
  intro other member
  rw [ReplayCache.mem_keys, ReplayCache.inserted] at member
  rw [Finset.mem_insert, ReplayCache.mem_keys]
  split at member <;> simp at member <;> tauto

omit [DecidableEq P] [DecidableEq S] in
theorem reads_confirm (G : Suite β S P) (session : AuthSession β S P) : Reads (confirm G session) (session.tagC G).bytes () := by
  refine (Reads.recvExact (session.tagC G)).last ?_
  exact Reads.silent (silent_failIf (decide_eq_false (not_not_intro rfl)) _)

omit [DecidableEq β] [DecidableEq S] in
theorem reads_readAuthRequest (accepted : request.Accepted G ctx v3 bytes) :
    Reads (readAuthRequest G ctx v3) bytes request := fun _ _ input => readAuthRequest_apply accepted input

theorem admitted_session (admissible : Admissible G ctx moments v3 server bytes request id record) :
    ∃ blob admitted replayFile,
      admitSession ctx.vars moments.admission request.pid request.nonceC server = (.ok blob, admitted) ∧
      persistReplay moments.admission blob admitted = (.ok (), { admitted with replayFile }) ∧
      findRecord G moments.lookup (ctx.staticPub G) { admitted with replayFile } request.handleOpt request.pid
        request.nonceC request.ephC = .ok (id, record) ∧
      AfterSession (replayKey request.pid request.nonceC) server { admitted with replayFile } := by
  have admits := admitSession_fresh ctx.vars moments.admission admissible.fresh
  obtain ⟨current, previous⟩ := admission_keys ctx.vars moments.admission server.replay
    (replayKey request.pid request.nonceC)
  generalize (admission ctx.vars moments.admission server.replay _).1 = blob at admits
  generalize (admission ctx.vars moments.admission server.replay _).2 = replay at admits current previous
  obtain ⟨replayFile, persists⟩ := persistReplay_apply admissible.writes blob { server with replay }
  refine ⟨blob, _, replayFile, admits, persists, admissible.found, rfl, rfl, rfl, ?_⟩
  have keys : replay.keys = (server.replay.inserted (replayKey request.pid request.nonceC)).keys := by
    rw [ReplayCache.keys, ReplayCache.keys, current, previous]
  change replay.keys ⊆ _
  rw [keys]
  exact inserted_keys _ _

theorem turn_handleAuthCommon (admissible : Admissible G ctx moments v3 server bytes request id record) :
    ∃ after, AfterSession (replayKey request.pid request.nonceC) server after ∧
      Turn Connected.mk (handleAuthCommon G ctx moments random v3) server
        (bytes ++ ((establish G ctx.serverStaticSecret request random).tagC G).bytes)
        ((establish G ctx.serverStaticSecret request random).payload2 G) after
        (record, establish G ctx.serverStaticSecret request random) := by
  obtain ⟨blob, admitted, replayFile, admits, persists, found, changed⟩ := admitted_session admissible
  generalize { admitted with replayFile } = persisted at persists found changed
  obtain ⟨blob', replay, takes, current, previous⟩ := takeFinalBlob_apply ctx.vars moments.completion persisted
  obtain ⟨replayFile', persists'⟩ := persistReplay_apply admissible.writesLast blob' { persisted with replay }
  refine ⟨{ persisted with replay, replayFile := replayFile' }, ⟨changed.reg, changed.handleIndex, changed.failures, ?_⟩, ?_⟩
  · have keys : replay.keys = persisted.replay.keys := by rw [ReplayCache.keys, ReplayCache.keys, current, previous]
    change replay.keys ⊆ _
    rw [keys]
    exact changed.keys
  · refine (turn_onConn (reads_readAuthRequest admissible.accepted).turn _).read ?_
    refine Turn.skip (silent_onServer admits) ?_
    refine Turn.skip (silent_onServer persists) ?_
    refine Turn.skip (fun _ => rfl) ?_
    refine Turn.skip (fun _ => Effect.lift_of_ok found) ?_
    refine Turn.skip (fun _ => Effect.lift_of_ok admissible.verified) ?_
    refine (turn_onConn (Writes.sendAll _).turn _).ask ?_
    refine (turn_onConn (reads_confirm G _).turn _).last ?_
    intro conn
    rw [Effect.bind_of_ok (silent_onServer takes conn), Effect.bind_of_ok (silent_onServer persists' conn)]
    rfl

theorem waits_handleAuthCommon (admissible : Admissible G ctx moments v3 server bytes request id record) :
    Waits Connected.mk (handleAuthCommon G ctx moments random v3) server bytes
      ((establish G ctx.serverStaticSecret request random).payload2 G) := by
  obtain ⟨blob, admitted, replayFile, admits, persists, found, _⟩ := admitted_session admissible
  refine Waits.hear (turn_onConn (reads_readAuthRequest admissible.accepted).turn _) ?_
  refine Waits.skip (silent_onServer admits) ?_
  refine Waits.skip (silent_onServer persists) ?_
  refine Waits.skip (fun _ => rfl) ?_
  refine Waits.skip (fun _ => Effect.lift_of_ok found) ?_
  refine Waits.skip (fun _ => Effect.lift_of_ok admissible.verified) ?_
  refine Waits.ask (turn_onConn (Writes.sendAll _).turn _) ?_
  exact (waits_onConn (Waits.recvExact (by decide)).bind _).bind

end Session

section Client

variable {moments : ClientMoments β P} {random : ClientRandom β S} {msgType : UInt8} {consumed written : List β}
  {after : ServerState β P} {completed : Completed β S P}

omit [Octet β] [Field S] [AddCommGroup P] [Module S P] [DecidableEq β] [DecidableEq P] [DecidableEq S] in
theorem noteOutcome_unknown (vars : Vars) (now : Nat) (unknown : after.failures = .empty) :
    noteOutcome vars now peerKey (.ok completed) after = after := by
  obtain ⟨reg, handleIndex, replay, failures, registryFile, replayFile⟩ := after
  cases unknown
  unfold noteOutcome
  split <;> rfl

theorem handleClient_eq : handleClient G ctx moments peerKey random = (do
    let msgType ← onConn recvU8
    let res ← (dispatch G ctx moments peerKey random msgType).attempt
    onServer (Effect.modify (noteOutcome ctx.vars moments.noted.now peerKey res))
    pure res) := rfl

omit [DecidableEq β] in
theorem reads_msgType (msgType : UInt8) : Reads (recvU8 : Effect Failure (Conn β) _) (lits [msgType]) msgType := by
  have reads := Reads.recvU8 (Octet.lit msgType : β)
  rwa [Octet.val_lit'] at reads

theorem turn_handleClient (unknown : after.failures = .empty)
    (turn : Turn Connected.mk (dispatch G ctx moments peerKey random msgType) server consumed written after completed) :
    Turn Connected.mk (handleClient G ctx moments peerKey random) server (lits [msgType] ++ consumed) written after
      (.ok completed) := by
  have noted : (Effect.modify (noteOutcome ctx.vars moments.noted.now peerKey (.ok completed)) :
      Effect Failure (ServerState β P) Unit) after = (.ok (), after) := by
    rw [Effect.modify_apply, noteOutcome_unknown _ _ unknown]
  rw [handleClient_eq]
  refine (turn_onConn (reads_msgType msgType).turn _).read ?_
  refine turn.attempt.last ?_
  intro conn
  rw [Effect.bind_of_ok (silent_onServer noted conn)]
  rfl

theorem output_of_waits (waits : Waits Connected.mk (dispatch G ctx moments peerKey random msgType) server consumed written) :
    (handleClient G ctx moments peerKey random ⟨server, .opened (lits [msgType] ++ consumed)⟩).2.conn.output = written := by
  have quiet : (Conn.opened (lits [msgType] ++ consumed)).Quiet := rfl
  have opened := turn_onConn (reads_msgType msgType).turn server _ consumed quiet rfl
  obtain ⟨failure, after, later, run, output⟩ := waits _ (quiet.moved consumed (lits [msgType]) []) rfl
  rw [handleClient_eq, Effect.bind_of_ok opened, Effect.bind_of_ok (Effect.attempt_of_eq run)]
  exact output

theorem output_of_nothing : (handleClient G ctx moments peerKey random ⟨server, .opened []⟩).2.conn.output = [] := by
  obtain ⟨failure, after, later, run, output⟩ := waits_onConn Waits.recvU8 server (.opened []) rfl rfl
  rw [handleClient_eq, Effect.bind_of_error run]
  exact output

theorem turn_setup {token : Option String} {request : SetupRequest β P} {proof : P × S}
    (welcome : Welcome G ctx moments.setup random.setup server token request proof) :
    Turn Connected.mk (dispatch G ctx moments peerKey random msgSetup) server
      (setupRequestBytes G token request ++ ((G.compress proof.1).bytes ++ (G.toBytes proof.2).bytes))
      (setupChallengeBytes G ctx request random.setup ++ lits [0x01])
      (enrolledIn G moments.setup.insertion request server) (.enrolled request) := by
  rw [dispatch, if_pos rfl]
  exact (turn_handleSetup welcome).last fun _ => rfl

theorem waits_setup {token : Option String} {request : SetupRequest β P} {proof : P × S}
    (welcome : Welcome G ctx moments.setup random.setup server token request proof) :
    Waits Connected.mk (dispatch G ctx moments peerKey random msgSetup) server (setupRequestBytes G token request)
      (setupChallengeBytes G ctx request random.setup) := by
  rw [dispatch, if_pos rfl]
  exact (waits_handleSetup welcome).bind

def msgAuth (v3 : Bool) : UInt8 := if v3 then msgAuthV3 else msgAuthV2

theorem dispatch_auth (v3 : Bool) : dispatch G ctx moments peerKey random (msgAuth v3) = (do
    let established ← handleAuthCommon G ctx moments.auth random.auth v3
    pure (.established established.1 established.2)) := by
  cases v3 <;> rfl

variable {v3 : Bool} {bytes : List β} {request : AuthRequest β S P} {id : Block β 32} {record : DeviceRecord P}

theorem turn_auth (admissible : Admissible G ctx moments.auth v3 server bytes request id record) :
    ∃ after, AfterSession (replayKey request.pid request.nonceC) server after ∧
      Turn Connected.mk (dispatch G ctx moments peerKey random (msgAuth v3)) server
        (bytes ++ ((establish G ctx.serverStaticSecret request random.auth).tagC G).bytes)
        ((establish G ctx.serverStaticSecret request random.auth).payload2 G) after
        (.established record (establish G ctx.serverStaticSecret request random.auth)) := by
  rw [dispatch_auth]
  obtain ⟨after, changed, turn⟩ := turn_handleAuthCommon admissible
  exact ⟨after, changed, turn.last fun _ => rfl⟩

theorem waits_auth (admissible : Admissible G ctx moments.auth v3 server bytes request id record) :
    Waits Connected.mk (dispatch G ctx moments peerKey random (msgAuth v3)) server bytes
      ((establish G ctx.serverStaticSecret request random.auth).payload2 G) := by
  rw [dispatch_auth]
  exact (waits_handleAuthCommon admissible).bind

end Client

end ZkArche.Server

import ZkArche.CServer.Replies
import ZkArche.Primitives.Turns

namespace ZkArche.CImpl

theorem waits_recvAll {size : Nat} (positive : 0 < size) : Waits onlyConn (recvAll size) () [] [] := by
  intro conn _ input
  have starved : ¬ size ≤ conn.input.length := by
    rw [input]
    exact Nat.not_le_of_lt positive
  have run : recvAll size conn = (.error (), { conn with input := [] }) := by rw [recvAll, dif_neg starved]
  exact ⟨_, (), _, run, (List.append_nil _).symm⟩

theorem waits_recvByte : Waits onlyConn recvByte () [] [] := (waits_recvAll (by decide)).bind

end ZkArche.CImpl

namespace ZkArche.CServer

open Foundation CImpl

variable {so : Sodium} {ctx : ServerContext} {server : ServerState}

section Parts

variable {α : Type} {part : Effect Unit (Conn UInt8) α} {consumed written : List UInt8} {value : α}

theorem turn_onConn (turn : Turn onlyConn part () consumed written () value) (server : ServerState) :
    Turn Connected.mk (onConn part) server consumed written server value :=
  turn.zoom server (fun _ => rfl) fun _ _ => rfl

theorem waits_onConn (waits : Waits onlyConn part () consumed written) (server : ServerState) :
    Waits Connected.mk (onConn part) server consumed written :=
  waits.zoom server (fun _ => rfl) fun _ _ => rfl

end Parts

section Setup

variable {moment : Moment} {random : SetupRandom} {token : List UInt8} {request : SetupRequest}
  {challengeProof proof : Block UInt8 32 × Block UInt8 32}

def enrolledIn (entry : RegEntry) (server : ServerState) : ServerState :=
  match upsert server.reg entry with
  | .appended arr => { server with reg := arr, registryFile := .present (arr.flatMap RegEntry.bytes) 0o600 }
  | _ => server

structure Welcome (so : Sodium) (ctx : ServerContext) (moment : Moment) (random : SetupRandom) (server : ServerState)
    (token : List UInt8) (request : SetupRequest) (challengeProof proof : Block UInt8 32 × Block UInt8 32) : Prop where
  short : token.length ≤ 128
  allowed : ctx.policy.allowsSetup moment.now token = true
  pub : so.isValidPoint request.entry.pub = true
  roleCommitment : so.isValidPoint request.entry.roleCommitment = true
  free : ∀ entry, server.reg.find? (fun entry => entry.id = request.entry.id) = some entry → entry = request.entry
  proves : schnorrProveSetupServer so ctx.serverSk (ctx.serverPub so) request.entry.id request.entry.pub
    request.clientNonce random.serverNonce random.setupChal random.r = some challengeProof
  proofValid : so.isValidPoint proof.1 = true
  verifies : schnorrVerifySetup so request.entry.id request.entry.pub (ctx.serverPub so) request.clientNonce
    random.serverNonce random.setupChal proof.1 proof.2 = some ()
  writes : moment.diskFault = none

variable (welcome : Welcome so ctx moment random server token request challengeProof proof)
include welcome

theorem regUpsert_apply (conn : Conn UInt8) :
    regUpsert moment.diskFault request.entry ⟨server, conn⟩ = (.ok (), ⟨enrolledIn request.entry server, conn⟩) := by
  rw [welcome.writes, regUpsert, enrolledIn]
  dsimp only
  cases found : server.reg.find? (fun entry => entry.id = request.entry.id) with
  | none =>
    simp only [upsert, found]
    rfl
  | some entry =>
    have same := welcome.free entry found
    subst same
    simp only [upsert, found, ne_eq, not_true_eq_false, if_false]

theorem turn_handleSetup : Turn Connected.mk (handleSetup so ctx moment random) server
    (setupRequestBytes token request ++ (proof.1.bytes ++ proof.2.bytes))
    (setupChallengeBytes so ctx random challengeProof ++ [1]) (enrolledIn request.entry server) () := by
  have answer : Turn Connected.mk (do
      regUpsert moment.diskFault request.entry
      onConn (CImpl.sendAll [1])) server [] [1] (enrolledIn request.entry server) () :=
    Turn.skip (regUpsert_apply welcome) (turn_onConn (writes_sendAll _).turn _)
  refine (turn_onConn (reads_readSetupRequest welcome.short welcome.allowed welcome.pub welcome.roleCommitment).turn
    _).read ?_
  refine (turn_onConn (writes_challengeSetup welcome.proves).turn _).write ?_
  exact (turn_onConn (reads_verifySetup welcome.proofValid welcome.verifies).turn _).hear answer

theorem waits_handleSetup : Waits Connected.mk (handleSetup so ctx moment random) server
    (setupRequestBytes token request) (setupChallengeBytes so ctx random challengeProof) := by
  refine Waits.hear (turn_onConn (reads_readSetupRequest welcome.short welcome.allowed welcome.pub
    welcome.roleCommitment).turn _) ?_
  refine Waits.ask (turn_onConn (writes_challengeSetup welcome.proves).turn _) ?_
  exact (waits_onConn (waits_recvAll (by decide)).bind _).bind

end Setup

section Session

variable {moment : Moment} {random : AuthRandom} {v3 : Bool} {request : AuthRequest} {bytes : List UInt8}
  {session : AuthSession}

structure Admissible (so : Sodium) (ctx : ServerContext) (moment : Moment) (random : AuthRandom) (v3 : Bool)
    (server : ServerState) (bytes : List UInt8) (request : AuthRequest) (session : AuthSession) : Prop where
  sent : request.Sent ctx.vars v3 bytes
  valid : request.pointsValid so = true
  fresh : server.replay.contains (replayKey request.pid request.nonceC) = false
  answers : answer so ctx server.reg request random = some session
  writes : moment.diskFault = none

def admitted (vars : Vars) (moment : Moment) (pid nonceC : Block UInt8 32) (server : ServerState) : ServerState :=
  if benchMode vars then server
  else server.withReplay (written (server.replay.checkAndInsert true pid nonceC).2 server.replayFile moment.now)

theorem admitted_reg (vars : Vars) (moment : Moment) (pid nonceC : Block UInt8 32) (server : ServerState) :
    (admitted vars moment pid nonceC server).reg = server.reg := by
  unfold admitted
  split <;> rfl

theorem admitted_registryFile (vars : Vars) (moment : Moment) (pid nonceC : Block UInt8 32) (server : ServerState) :
    (admitted vars moment pid nonceC server).registryFile = server.registryFile := by
  unfold admitted
  split <;> rfl

theorem admitSession_fresh (vars : Vars) {pid nonceC : Block UInt8 32}
    (fresh : server.replay.contains (replayKey pid nonceC) = false) (writes : moment.diskFault = none) (conn : Conn UInt8) :
    admitSession vars true moment pid nonceC ⟨server, conn⟩ = (.ok (), ⟨admitted vars moment pid nonceC server, conn⟩) := by
  cases online : benchMode vars with
  | true =>
    rw [admitSession, if_pos online, admitted, if_pos online]
    rfl
  | false =>
    have accepted : server.replay.checkAndInsert true pid nonceC =
        (1, (server.replay.checkAndInsert true pid nonceC).2) := Prod.ext (checkAndInsert_fresh fresh) rfl
    rw [admitted, if_neg (by rw [online]; exact Bool.false_ne_true)]
    exact @admitSession_of_accepted vars true moment pid nonceC _ ⟨server, conn⟩ online writes accepted

theorem reads_readAuthRequest (sent : request.Sent ctx.vars v3 bytes) (valid : request.pointsValid so = true) :
    Reads (readAuthRequest so ctx.vars v3) bytes request :=
  (reads_recvAuthRequest sent).last (Reads.after (silent_failIf (by rw [valid]; rfl) _) (Reads.pure _))

theorem reads_confirm (so : Sodium) (session : AuthSession) : Reads (confirm so session) (session.tagC so).bytes () :=
  (reads_recvAll (session.tagC so)).last (Reads.silent (silent_failIf (decide_eq_false (not_not_intro rfl)) _))

theorem turn_replyAuth (admissible : Admissible so ctx moment random v3 server bytes request session) :
    Turn Connected.mk (replyAuth so ctx true moment random v3) server bytes (session.payload2 so)
      (admitted ctx.vars moment request.pid request.nonceC server) (request, session) := by
  have admits := admitSession_fresh ctx.vars admissible.fresh admissible.writes
  have answers : answer so ctx (admitted ctx.vars moment request.pid request.nonceC server).reg request random =
      some session := by
    rw [admitted_reg]
    exact admissible.answers
  generalize admitted ctx.vars moment request.pid request.nonceC server = after at admits answers
  have replies : Turn Connected.mk (do
      let session ← orFail (answer so ctx after.reg request random)
      onConn (CImpl.sendAll (session.payload2 so))
      pure (request, session)) after [] (session.payload2 so) after (request, session) := by
    refine Turn.skip (fun _ => orFail_ok.mpr ⟨answers, rfl⟩) ?_
    exact (turn_onConn (writes_sendAll _).turn _).last fun _ => rfl
  intro conn rest quiet input
  have read := reads_readAuthRequest admissible.sent admissible.valid conn rest input
  have replied := replies { conn with input := rest, recv := conn.recv + bytes.length } rest quiet rfl
  rw [replyAuth_of_admitted read (admits _), replied]
  rfl

def confirmed (so : Sodium) (reply : AuthRequest × AuthSession) : Effect Unit Connected (AuthRequest × AuthSession) := do
  onConn (confirm so reply.2)
  pure reply

theorem turn_confirmed (so : Sodium) : Turn Connected.mk (confirmed so (request, session)) server (session.tagC so).bytes [] server
    (request, session) := (turn_onConn (reads_confirm so session).turn server).last fun _ => rfl

theorem waits_confirmed (so : Sodium) : Waits Connected.mk (confirmed so (request, session)) server [] [] :=
  (waits_onConn (waits_recvAll (by decide)).bind server).bind

theorem turn_handleAuth (admissible : Admissible so ctx moment random v3 server bytes request session) :
    Turn Connected.mk (handleAuth so ctx true moment random v3) server (bytes ++ (session.tagC so).bytes)
      (session.payload2 so) (admitted ctx.vars moment request.pid request.nonceC server) (request, session) := by
  have whole := (turn_replyAuth admissible).bind (turn_confirmed so)
  rw [List.append_nil] at whole
  exact whole

theorem waits_handleAuth (admissible : Admissible so ctx moment random v3 server bytes request session) :
    Waits Connected.mk (handleAuth so ctx true moment random v3) server bytes (session.payload2 so) := by
  have whole := Waits.following (turn_replyAuth admissible) (waits_confirmed so)
  rwa [List.append_nil, List.append_nil] at whole

end Session

section Client

variable {call : ClientCall} {consumed written : List UInt8} {after : ServerState}

theorem turn_handleClient_setup (turn : Turn Connected.mk (handleSetup so ctx call.moment call.setup) server consumed
    written after ()) :
    Turn Connected.mk (handleClient so ctx call) server (msgSetup :: consumed) written after none :=
  (turn_onConn (reads_recvByte msgSetup).turn _).read (turn.last fun _ => rfl)

theorem waits_handleClient_setup (waits : Waits Connected.mk (handleSetup so ctx call.moment call.setup) server consumed
    written) : Waits Connected.mk (handleClient so ctx call) server (msgSetup :: consumed) written :=
  Waits.read (turn_onConn (reads_recvByte msgSetup).turn _) (waits.bind)

theorem turn_handleClient_auth {v3 : Bool} {session : AuthRequest × AuthSession}
    (turn : Turn Connected.mk (handleAuth so ctx call.memory call.moment call.auth v3) server consumed written after
      session) :
    Turn Connected.mk (handleClient so ctx call) server (authMessage v3 :: consumed) written after (some session) := by
  cases v3 with
  | false => exact (turn_onConn (reads_recvByte msgAuthV2).turn _).read (turn.last fun _ => rfl)
  | true => exact (turn_onConn (reads_recvByte msgAuthV3).turn _).read (turn.last fun _ => rfl)

theorem waits_handleClient_auth {v3 : Bool}
    (waits : Waits Connected.mk (handleAuth so ctx call.memory call.moment call.auth v3) server consumed written) :
    Waits Connected.mk (handleClient so ctx call) server (authMessage v3 :: consumed) written := by
  cases v3 with
  | false => exact Waits.read (turn_onConn (reads_recvByte msgAuthV2).turn _) (waits.bind)
  | true => exact Waits.read (turn_onConn (reads_recvByte msgAuthV3).turn _) (waits.bind)

theorem waits_handleClient_nothing : Waits Connected.mk (handleClient so ctx call) server [] [] :=
  (waits_onConn waits_recvByte server).bind

end Client

end ZkArche.CServer

import ZkArche.CServer.Handler
import ZkArche.CServer.Retention

namespace ZkArche.CServer

open Foundation CImpl

variable {so : Sodium} {ctx : ServerContext} {vars : Vars}

def ServerState.withReplay (server : ServerState) (replay : ReplayCache × StateFile UInt8) : ServerState :=
  { server with replay := replay.1, replayFile := replay.2 }

theorem admitSession_of_refused {memory : Bool} {moment : Moment} {pid nonceC : Block UInt8 32} {answer : Int}
    {replay : ReplayCache} {state : Connected} (online : benchMode vars = false)
    (checked : state.server.replay.checkAndInsert memory pid nonceC = (answer, replay)) (refused : answer ≤ 0) :
    admitSession vars memory moment pid nonceC state =
      (.error (), { state with server := state.server.withReplay (replay, state.server.replayFile) }) := by
  rw [admitSession, online, if_neg Bool.false_ne_true, Effect.bind_apply, onReplay, Effect.zoom_apply,
    Effect.atomically_apply]
  simp only [checked]
  apply Effect.bind_of_error
  rw [Effect.failIf_apply, if_pos (decide_eq_true refused)]
  rfl

/-- What a write that is due leaves of the cache and its file. -/
def written (replay : ReplayCache) (file : StateFile UInt8) (now : Nat) : ReplayCache × StateFile UInt8 :=
  if replay.due now false then (replay.persisted now, .present replay.bytes 0o600) else (replay, file)

theorem admitSession_of_accepted {memory : Bool} {moment : Moment} {pid nonceC : Block UInt8 32}
    {replay : ReplayCache} {state : Connected} (online : benchMode vars = false) (quiet : moment.diskFault = none)
    (checked : state.server.replay.checkAndInsert memory pid nonceC = (1, replay)) :
    admitSession vars memory moment pid nonceC state =
      (.ok (), { state with server := state.server.withReplay (written replay state.server.replayFile moment.now) }) := by
  have outcome := ReplayCache.checkAndInsert_checked memory state.server.replay pid nonceC
  rw [checked] at outcome
  rw [admitSession, online, if_neg Bool.false_ne_true, Effect.bind_apply, onReplay, Effect.zoom_apply,
    Effect.atomically_apply]
  simp only [checked]
  rw [Effect.bind_of_ok (Effect.failIf_of_false (decide_eq_false (by decide))), onReplay, Effect.zoom_apply,
    persistIfDue, quiet]
  simp only [ServerState.withReplay, outcome.dirty, written]
  cases replay.due moment.now false <;> rfl

section Replies

variable {memory v3 : Bool} {moment : Moment} {random : AuthRandom} {state : Connected} {conn : Conn UInt8}

theorem replyAuth_of_unread (unread : readAuthRequest so ctx.vars v3 state.conn = (.error (), conn)) :
    replyAuth so ctx memory moment random v3 state = (.error (), { state with conn }) := by
  apply Effect.bind_of_error
  rw [onConn, Effect.zoom_apply, unread]

theorem replyAuth_of_read (memory : Bool) (moment : Moment) (random : AuthRandom) {request : AuthRequest}
    (read : readAuthRequest so ctx.vars v3 state.conn = (.ok request, conn)) :
    (replyAuth so ctx memory moment random v3 state).2.server =
      (admitSession ctx.vars memory moment request.pid request.nonceC { state with conn }).2.server ∧
    ∀ reply, (replyAuth so ctx memory moment random v3 state).1 = .ok reply → reply.1 = request ∧
      (admitSession ctx.vars memory moment request.pid request.nonceC { state with conn }).1 = .ok () := by
  have front : onConn (readAuthRequest so ctx.vars v3) state = (.ok request, { state with conn }) := by
    rw [onConn, Effect.zoom_apply, read]
  rw [replyAuth, Effect.bind_of_ok front]
  rcases admission : admitSession ctx.vars memory moment request.pid request.nonceC { state with conn } with
    ⟨failure | done, admitted⟩
  · rw [Effect.bind_of_error admission]
    exact ⟨rfl, fun _ replied => nomatch replied⟩
  · rw [Effect.bind_of_ok admission]
    constructor
    · have keeps : Effect.Keeps (fun state : Connected => state.server = admitted.server) (do
          let state ← Effect.get
          let record ← orFail (findRecord so (ctx.serverPub so) state.server.reg request)
          orFail (verifyProofs so request record)
          let session ← orFail (establish so ctx request random)
          onConn (CImpl.sendAll (session.payload2 so))
          pure (request, session)) := by
        refine Effect.Keeps.bind Effect.keeps_get ?_
        intro before
        refine Effect.Keeps.bind (Effect.keeps_lift _) ?_
        intro record
        refine Effect.Keeps.bind (Effect.keeps_lift _) ?_
        intro _
        refine Effect.Keeps.bind (Effect.keeps_lift _) ?_
        intro session
        refine Effect.Keeps.bind (keeps_onConn _ fun server => server = admitted.server) ?_
        intro _
        exact Effect.keeps_pure _
      exact keeps admitted rfl
    · intro reply replied
      refine ⟨?_, rfl⟩
      obtain ⟨_, _, _, rest⟩ := Effect.bind_ok.mp (Prod.ext replied rfl)
      obtain ⟨_, _, _, rest⟩ := Effect.bind_ok.mp rest
      obtain ⟨_, _, _, rest⟩ := Effect.bind_ok.mp rest
      obtain ⟨_, _, _, rest⟩ := Effect.bind_ok.mp rest
      obtain ⟨_, _, _, rest⟩ := Effect.bind_ok.mp rest
      cases rest
      rfl

theorem handleAuth_server : (handleAuth so ctx memory moment random v3 state).2.server =
    (replyAuth so ctx memory moment random v3 state).2.server := by
  rcases replied : replyAuth so ctx memory moment random v3 state with ⟨failure | ⟨request, session⟩, after⟩
  · rw [handleAuth, Effect.bind_of_error replied]
  · rw [handleAuth, Effect.bind_of_ok replied]
    have keeps : Effect.Keeps (fun state : Connected => state.server = after.server) (do
        onConn (confirm so session)
        pure (request, session)) := by
      refine Effect.Keeps.bind (keeps_onConn _ fun server => server = after.server) ?_
      intro _
      exact Effect.keeps_pure _
    exact keeps after rfl

theorem handleAuth_ok {reply : AuthRequest × AuthSession}
    (done : (handleAuth so ctx memory moment random v3 state).1 = .ok reply) :
    (replyAuth so ctx memory moment random v3 state).1 = .ok reply := by
  obtain ⟨replied, middle, run, rest⟩ := Effect.bind_ok.mp (Prod.ext done rfl)
  obtain ⟨_, _, _, rest⟩ := Effect.bind_ok.mp rest
  cases rest
  rw [run]

theorem handleSetup_replay (so : Sodium) (ctx : ServerContext) (moment : Moment) (random : SetupRandom) (state : Connected) :
    (handleSetup so ctx moment random state).2.server.replay = state.server.replay ∧
    (handleSetup so ctx moment random state).2.server.replayFile = state.server.replayFile := by
  have keeps : Effect.Keeps (fun after : Connected => after.server.replay = state.server.replay ∧
      after.server.replayFile = state.server.replayFile) (handleSetup so ctx moment random) := by
    refine Effect.Keeps.bind (Effect.keeps_zoom fun _ _ start => start) ?_
    intro request
    refine Effect.Keeps.bind (Effect.keeps_zoom fun _ _ start => start) ?_
    intro _
    refine Effect.Keeps.bind (Effect.keeps_zoom fun _ _ start => start) ?_
    intro _
    refine Effect.Keeps.bind ?_ fun _ => Effect.keeps_zoom fun _ _ start => start
    intro before start
    unfold regUpsert
    cases upsert before.server.reg request.entry with
    | refused => exact start
    | present => exact start
    | appended arr => exact start
  exact keeps state ⟨rfl, rfl⟩

end Replies

section Clients

variable {call : ClientCall} {state : Connected}

def authVersion (msg : UInt8) : Option Bool :=
  if msg = msgAuthV2 then some false else if msg = msgAuthV3 then some true else none

def presentedRequest (so : Sodium) (vars : Vars) (conn : Conn UInt8) : Option AuthRequest :=
  match recvByte conn with
  | (.ok msg, conn) => (authVersion msg).bind fun v3 => (readAuthRequest so vars v3 conn).1.toOption
  | (.error _, _) => none

theorem handleClient_of_msg {msg : UInt8} {conn : Conn UInt8} (read : recvByte state.conn = (.ok msg, conn)) :
    handleClient so ctx call state =
      if msg = msgSetup then (do
        handleSetup so ctx call.moment call.setup
        pure none : Effect Unit Connected (Option (AuthRequest × AuthSession))) { state with conn }
      else match authVersion msg with
        | some v3 => (do
          let session ← handleAuth so ctx call.memory call.moment call.auth v3
          pure (some session) : Effect Unit Connected (Option (AuthRequest × AuthSession))) { state with conn }
        | none => (.error (), { state with conn }) := by
  have front : onConn recvByte state = (.ok msg, { state with conn }) := by
    rw [onConn, Effect.zoom_apply, read]
  rw [handleClient, Effect.bind_of_ok front, authVersion]
  by_cases setup : msg = msgSetup
  · rw [if_pos setup, if_pos setup]
  · rw [if_neg setup, if_neg setup]
    by_cases v2 : msg = msgAuthV2
    · rw [if_pos v2, if_pos v2]
    · rw [if_neg v2, if_neg v2]
      by_cases v3 : msg = msgAuthV3
      · rw [if_pos v3, if_pos v3]
      · rw [if_neg v3, if_neg v3]
        rfl

theorem handleClient_of_unread {failure : Unit} {conn : Conn UInt8}
    (unread : recvByte state.conn = (.error failure, conn)) :
    handleClient so ctx call state = (.error failure, { state with conn }) := by
  apply Effect.bind_of_error
  rw [onConn, Effect.zoom_apply, unread]

theorem handleClient_unpresented (call : ClientCall) (state : Connected)
    (nothing : presentedRequest so ctx.vars state.conn = none) :
    (handleClient so ctx call state).2.server.replay = state.server.replay ∧
    (handleClient so ctx call state).2.server.replayFile = state.server.replayFile ∧
    ∀ reply, (handleClient so ctx call state).1 ≠ .ok (some reply) := by
  unfold presentedRequest at nothing
  rcases read : recvByte state.conn with ⟨failure | msg, conn⟩
  · rw [handleClient_of_unread read]
    exact ⟨rfl, rfl, fun _ replied => nomatch replied⟩
  · rw [read] at nothing
    rw [handleClient_of_msg read]
    split
    case isTrue =>
      obtain ⟨replay, replayFile⟩ := handleSetup_replay so ctx call.moment call.setup { state with conn }
      rcases enrolled : handleSetup so ctx call.moment call.setup { state with conn } with ⟨failure | done, after⟩
      · rw [enrolled] at replay replayFile
        rw [Effect.bind_of_error enrolled]
        exact ⟨replay, replayFile, fun _ replied => nomatch replied⟩
      · rw [enrolled] at replay replayFile
        rw [Effect.bind_of_ok enrolled]
        exact ⟨replay, replayFile, fun _ replied => nomatch replied⟩
    case isFalse =>
      cases version : authVersion msg with
      | none => exact ⟨rfl, rfl, fun _ replied => nomatch replied⟩
      | some v3 =>
        simp only [version, Option.bind_some] at nothing
        rcases parsed : readAuthRequest so ctx.vars v3 conn with ⟨failure | request, after⟩
        · have unreplied : replyAuth so ctx call.memory call.moment call.auth v3 { state with conn } =
              (.error (), { state with conn := after }) := replyAuth_of_unread parsed
          have unread : handleAuth so ctx call.memory call.moment call.auth v3 { state with conn } =
              (.error (), { state with conn := after }) := Effect.bind_of_error unreplied
          simp only [Effect.bind_of_error unread]
          exact ⟨trivial, trivial, fun _ replied => nomatch replied⟩
        · rw [parsed] at nothing
          cases nothing

/-- A connection that carries an authentication request does to the server what its admission does. -/
theorem handleClient_presented (call : ClientCall) (state : Connected) {request : AuthRequest}
    (presented : presentedRequest so ctx.vars state.conn = some request) :
    ∃ conn, (handleClient so ctx call state).2.server =
        (admitSession ctx.vars call.memory call.moment request.pid request.nonceC { state with conn }).2.server ∧
      ∀ reply, (handleClient so ctx call state).1 = .ok (some reply) → reply.1 = request ∧
        (admitSession ctx.vars call.memory call.moment request.pid request.nonceC { state with conn }).1 = .ok () := by
  unfold presentedRequest at presented
  rcases read : recvByte state.conn with ⟨failure | msg, conn⟩
  · rw [read] at presented
    cases presented
  · rw [read] at presented
    obtain ⟨v3, version, found⟩ := Option.bind_eq_some_iff.mp presented
    have other : msg ≠ msgSetup := by
      intro setup
      rw [setup] at version
      cases version
    rw [handleClient_of_msg read, if_neg other, version]
    rcases parsed : readAuthRequest so ctx.vars v3 conn with ⟨failure | same, after⟩
    · rw [parsed] at found
      cases found
    · rw [parsed] at found
      cases found
      obtain ⟨server, replied⟩ := replyAuth_of_read call.memory call.moment call.auth
        (show readAuthRequest so ctx.vars v3 { state with conn }.conn = _ from parsed)
      refine ⟨after, ?_⟩
      rw [← handleAuth_server] at server
      rcases session : handleAuth so ctx call.memory call.moment call.auth v3 { state with conn } with
        ⟨failure | reply, last⟩
      · rw [session] at server
        simp only [Effect.bind_of_error session]
        exact ⟨server, fun _ done => nomatch done⟩
      · rw [session] at server
        simp only [Effect.bind_of_ok session]
        refine ⟨server, ?_⟩
        intro other done
        cases done
        exact replied reply (handleAuth_ok (by rw [session]))

end Clients

end ZkArche.CServer

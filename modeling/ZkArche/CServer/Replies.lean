import ZkArche.CServer.Payload
import ZkArche.CServer.Sessions

namespace ZkArche.CServer

open Foundation CImpl

section Requests

variable {vars : Vars} {v3 : Bool} {conn after : Conn UInt8} {header : AuthHeader} {request : AuthRequest}

def AuthHeader.toRust (header : AuthHeader) : Server.AuthHeader UInt8 := ⟨header.flags, header.handle⟩

theorem reads_recvAuthHeader {front : List UInt8} (reads : header.toRust.Reads v3 front) :
    Reads (recvAuthHeader v3) front header := by
  obtain ⟨flags, handle⟩ := header
  cases reads with
  | v2 => exact Reads.pure _
  | plain letter flag =>
    have plain : flags &&& authFlagHandleLookup = 0 := flag
    refine Reads.last (reads_recvByte flags) ?_
    rw [if_neg (not_not.mpr plain)]
    exact Reads.pure _
  | lookup letter handle flag =>
    have lookup : flags &&& authFlagHandleLookup ≠ 0 := flag
    have whole : flags :: handle.bytes = [flags] ++ handle.bytes := rfl
    rw [whole]
    refine Reads.bind (reads_recvByte flags) ?_
    rw [if_pos lookup]
    exact Reads.last (reads_recvAll handle) (Reads.pure _)

theorem recvAuthHeader_ok (run : recvAuthHeader v3 conn = (.ok header, after)) :
    ∃ front, header.toRust.Reads v3 front ∧ conn.input = front ++ after.input := by
  cases v3 with
  | false =>
    cases run
    exact ⟨[], .v2, rfl⟩
  | true =>
    rw [recvAuthHeader, if_pos rfl] at run
    obtain ⟨flags, middle, read, run⟩ := Effect.bind_ok.mp run
    obtain ⟨input, _⟩ := recvByte_ok read
    split at run
    case isTrue flag =>
      obtain ⟨handle, last, read, done⟩ := Effect.bind_ok.mp run
      cases done
      obtain ⟨input', _⟩ := recvAll_ok read
      exact ⟨flags :: handle.bytes, .lookup flags handle flag, by rw [input, input']; rfl⟩
    case isFalse flag =>
      cases run
      exact ⟨[flags], .plain flags (not_not.mp flag), input⟩

structure AuthRequest.Sent (vars : Vars) (v3 : Bool) (bytes : List UInt8) (request : AuthRequest) : Prop where
  shaped : request.toAuthPayload.Shaped request.deviceOnly
  gate : request.deviceOnly = true → allowsDeviceOnly vars = true
  bytes : ∃ front, request.toAuthHeader.toRust.Reads v3 front ∧ bytes = front ++ request.toAuthPayload.bytes

theorem AuthPayload.Shaped.length_bytes {payload : AuthPayload} {deviceOnly : Bool}
    (shaped : payload.Shaped deviceOnly) : payload.bytes.length = expectedLen deviceOnly := by
  cases shaped with
  | deviceOnly role => simp [bytes, role, expectedLen]
  | full fields role count =>
    obtain ⟨one, two, proof⟩ := List.length_eq_two.mp count
    simp [bytes, role, RoleFields.bytes, proof, OrBranch.bytes, expectedLen, allowedRoles]

theorem reads_recvAuthRequest {bytes : List UInt8} (sent : request.Sent vars v3 bytes) :
    Reads (recvAuthRequest vars v3) bytes request := by
  obtain ⟨shaped, gate, front, reads, rfl⟩ := sent
  have allowed : (request.toAuthHeader.deviceOnly && !allowsDeviceOnly vars) = false := by
    cases mode : request.toAuthHeader.deviceOnly with
    | false => rfl
    | true => rw [gate mode]; rfl
  have length := shaped.length_bytes
  refine Reads.bind (reads_recvAuthHeader reads) ?_
  refine Reads.after (silent_failIf allowed ()) ?_
  refine Reads.last (reads_recvAll ⟨request.toAuthPayload.bytes, length⟩) ?_
  refine Reads.after (silent_orFail ((splitPayload_iff length).mpr ⟨shaped, rfl⟩)) ?_
  exact Reads.pure _

theorem recvAuthRequest_ok (run : recvAuthRequest vars v3 conn = (.ok request, after)) :
    ∃ bytes, request.Sent vars v3 bytes ∧ conn.input = bytes ++ after.input := by
  simp only [recvAuthRequest, Effect.bind_ok, Effect.failIf_ok, orFail_ok] at run
  obtain ⟨header, opened, readHeader, _, _, ⟨gate, rfl⟩, block, _, readPayload, payload, _, ⟨split, rfl⟩, done⟩ := run
  cases done
  obtain ⟨front, reads, input⟩ := recvAuthHeader_ok readHeader
  obtain ⟨input', _⟩ := recvAll_ok readPayload
  obtain ⟨shaped, bytes⟩ := (splitPayload_iff block.bytes_length).mp split
  refine ⟨front ++ payload.bytes, ⟨shaped, ?_, front, reads, rfl⟩, ?_⟩
  · intro deviceOnly
    change header.deviceOnly = true at deviceOnly
    simpa [deviceOnly] using gate
  · rw [input, input', bytes, List.append_assoc]

end Requests

section Listening

theorem listens_recvAll (size : Nat) : Listens (recvAll size) := by
  intro conn
  unfold recvAll
  split <;> exact ⟨rfl, rfl⟩

theorem listens_recvByte : Listens recvByte := (listens_recvAll 1).bind fun _ => Listens.pure _

theorem listens_recvAuthHeader (v3 : Bool) : Listens (recvAuthHeader v3) := by
  unfold recvAuthHeader
  split
  · refine listens_recvByte.bind fun flags => ?_
    split
    · exact (listens_recvAll 16).bind fun _ => Listens.pure _
    · exact Listens.pure _
  · exact Listens.pure _

theorem listens_recvAuthRequest (vars : Vars) (v3 : Bool) : Listens (recvAuthRequest vars v3) := by
  refine (listens_recvAuthHeader v3).bind fun header => ?_
  refine (Listens.failIf _ _).bind fun _ => ?_
  refine (listens_recvAll _).bind fun payload1 => ?_
  exact (Listens.lift _).bind fun _ => Listens.pure _

theorem listens_readAuthRequest (so : Sodium) (vars : Vars) (v3 : Bool) : Listens (readAuthRequest so vars v3) :=
  (listens_recvAuthRequest vars v3).bind fun _ => (Listens.failIf _ _).bind fun _ => Listens.pure _

theorem listens_confirm (so : Sodium) (session : AuthSession) : Listens (confirm so session) :=
  (listens_recvAll 32).bind fun _ => Listens.failIf _ _

end Listening

def answer (so : Sodium) (ctx : ServerContext) (reg : List RegEntry) (request : AuthRequest) (random : AuthRandom) :
    Option AuthSession := do
  let record ← findRecord so (ctx.serverPub so) reg request
  verifyProofs so request record
  establish so ctx request random

theorem length_payload2 (so : Sodium) (session : AuthSession) : (session.payload2 so).length = 192 := by
  simp [AuthSession.payload2]

section Sessions

variable {so : Sodium} {ctx : ServerContext} {memory v3 : Bool} {moment : Moment} {random : AuthRandom}
  {state admitted : Connected} {conn : Conn UInt8} {request : AuthRequest}

theorem replyAuth_of_admitted (read : readAuthRequest so ctx.vars v3 state.conn = (.ok request, conn))
    (admission : admitSession ctx.vars memory moment request.pid request.nonceC { state with conn } =
      (.ok (), admitted)) :
    replyAuth so ctx memory moment random v3 state =
      (do
        let session ← orFail (answer so ctx admitted.server.reg request random)
        onConn (CImpl.sendAll (session.payload2 so))
        pure (request, session) : Effect Unit Connected (AuthRequest × AuthSession)) admitted := by
  have front : onConn (readAuthRequest so ctx.vars v3) state = (.ok request, { state with conn }) := by
    rw [onConn, Effect.zoom_apply, read]
  rw [replyAuth, Effect.bind_of_ok front, Effect.bind_of_ok admission, Effect.bind_of_ok (Effect.get_apply _), answer]
  cases found : findRecord so (ctx.serverPub so) admitted.server.reg request with
  | none => rfl
  | some record =>
    rw [Effect.bind_of_ok (orFail_some _ _)]
    cases verified : verifyProofs so request record with
    | none =>
      simp only [Option.bind_eq_bind, Option.bind_some, verified, Option.bind_none]
      rfl
    | some _ =>
      rw [Effect.bind_of_ok (orFail_some _ _)]
      simp only [Option.bind_eq_bind, Option.bind_some, verified]

theorem handleAuth_output : (handleAuth so ctx memory moment random v3 state).2.conn.output =
    (replyAuth so ctx memory moment random v3 state).2.conn.output := by
  rcases replied : replyAuth so ctx memory moment random v3 state with ⟨failure | ⟨request, session⟩, after⟩
  · rw [handleAuth, Effect.bind_of_error replied]
  · rw [handleAuth, Effect.bind_of_ok replied]
    have listens := listens_confirm so session after.conn
    rw [Effect.bind_pure_state]
    exact listens.1

end Sessions

def authMessage (v3 : Bool) : UInt8 := if v3 then msgAuthV3 else msgAuthV2

/-- `handle_client` sends its reply of 192 bytes to this message. -/
def RepliesTo (so : Sodium) (ctx : ServerContext) (call : ClientCall) (server : ServerState) (v3 : Bool)
    (message : List UInt8) : Prop :=
  ((handleClient so ctx call ⟨server, .opened (authMessage v3 :: message)⟩).2.conn.output).length = 192

theorem handleClient_auth_output (so : Sodium) (ctx : ServerContext) (call : ClientCall) (server : ServerState)
    (v3 : Bool) (message : List UInt8) :
    (handleClient so ctx call ⟨server, .opened (authMessage v3 :: message)⟩).2.conn.output =
      (replyAuth so ctx call.memory call.moment call.auth v3
        ⟨server, { Conn.opened message with recv := 1 }⟩).2.conn.output := by
  have version : authVersion (authMessage v3) = some v3 ∧ authMessage v3 ≠ msgSetup := by cases v3 <;> decide
  have read : recvByte (.opened (authMessage v3 :: message)) =
      (.ok (authMessage v3), { Conn.opened message with recv := 1 }) := recvByte_apply rfl
  rw [handleClient_of_msg read, if_neg version.2, version.1, Effect.bind_pure_state, handleAuth_output]

theorem checkAndInsert_fresh {cache : ReplayCache} {pid nonceC : Block UInt8 32}
    (fresh : cache.contains (replayKey pid nonceC) = false) : (cache.checkAndInsert true pid nonceC).1 = 1 := by
  have checked := ReplayCache.checkAndInsert_checked true cache pid nonceC
  generalize cache.checkAndInsert true pid nonceC = outcome at checked
  cases checked with
  | replayed seen =>
    rw [fresh] at seen
    cases seen
  | starved _ refused => cases refused
  | accepted => rfl

theorem readAuthRequest_iff {so : Sodium} {vars : Vars} {v3 : Bool} {conn : Conn UInt8} {request : AuthRequest}
    {message : List UInt8} (input : conn.input = message) :
    (readAuthRequest so vars v3 conn).1 = .ok request ↔
      ∃ bytes rest, message = bytes ++ rest ∧ request.Sent vars v3 bytes ∧ request.pointsValid so = true := by
  constructor
  · intro read
    obtain ⟨received, middle, run, checked⟩ := Effect.bind_ok.mp (Prod.ext read rfl)
    obtain ⟨_, _, valid, done⟩ := Effect.bind_ok.mp checked
    rw [Effect.failIf_ok] at valid
    obtain ⟨bytes, sent, split⟩ := recvAuthRequest_ok run
    cases done
    exact ⟨bytes, _, input.symm.trans split, sent, by simpa using valid.1⟩
  · intro ⟨bytes, rest, split, sent, valid⟩
    have run := reads_recvAuthRequest sent conn rest (input.trans split)
    rw [readAuthRequest, Effect.bind_of_ok run, Effect.bind_of_ok (Effect.failIf_of_false (by rw [valid]; rfl))]
    rfl

section Outputs

variable {so : Sodium} {ctx : ServerContext} {v3 : Bool} {moment : Moment} {random : AuthRandom} {state : Connected}

theorem replyAuth_output_of_unread {failure : Unit}
    (unread : (readAuthRequest so ctx.vars v3 state.conn).1 = .error failure) (memory : Bool) :
    (replyAuth so ctx memory moment random v3 state).2.conn.output = state.conn.output := by
  rw [replyAuth_of_unread (Prod.ext unread rfl)]
  exact (listens_readAuthRequest so ctx.vars v3 state.conn).1

theorem replyAuth_output_of_read {request : AuthRequest} (online : benchMode ctx.vars = false)
    (quiet : moment.diskFault = none) (calm : state.conn.writeFault = fun _ => none)
    (read : (readAuthRequest so ctx.vars v3 state.conn).1 = .ok request)
    (fresh : state.server.replay.contains (replayKey request.pid request.nonceC) = false) :
    (replyAuth so ctx true moment random v3 state).2.conn.output =
      match answer so ctx state.server.reg request random with
      | some session => state.conn.output ++ session.payload2 so
      | none => state.conn.output := by
  obtain ⟨listened, calmer⟩ := listens_readAuthRequest so ctx.vars v3 state.conn
  rw [calm] at calmer
  have accepted : state.server.replay.checkAndInsert true request.pid request.nonceC =
      (1, (state.server.replay.checkAndInsert true request.pid request.nonceC).2) :=
    Prod.ext (checkAndInsert_fresh fresh) rfl
  rw [replyAuth_of_admitted (Prod.ext read rfl) (admitSession_of_accepted online quiet accepted)]
  have registry : ∀ replay, (state.server.withReplay replay).reg = state.server.reg := fun _ => rfl
  simp only [registry]
  cases answer so ctx state.server.reg request random with
  | none =>
    rw [Effect.bind_of_error (orFail_none _)]
    exact listened
  | some session =>
    rw [Effect.bind_of_ok (orFail_some _ _), Effect.bind_pure_state, onConn, Effect.zoom_apply, sendAll_quiet calmer]
    simp only [listened]

end Outputs

/-- The server replies exactly to a request whose points are valid and that it has an answer to. -/
theorem repliesTo_iff {so : Sodium} {ctx : ServerContext} {call : ClientCall} {server : ServerState} {v3 : Bool}
    {message : List UInt8} (online : benchMode ctx.vars = false) (memory : call.memory = true)
    (quiet : call.moment.diskFault = none)
    (fresh : ∀ bytes rest (request : AuthRequest), message = bytes ++ rest → request.Sent ctx.vars v3 bytes →
      server.replay.contains (replayKey request.pid request.nonceC) = false) :
    RepliesTo so ctx call server v3 message ↔
      ∃ bytes rest request session, message = bytes ++ rest ∧ request.Sent ctx.vars v3 bytes ∧
        request.pointsValid so = true ∧ answer so ctx server.reg request call.auth = some session := by
  rw [RepliesTo, handleClient_auth_output, memory]
  generalize connected : (⟨server, { Conn.opened message with recv := 1 }⟩ : Connected) = state
  have input : state.conn.input = message := by rw [← connected]; rfl
  have silent : state.conn.output = [] := by rw [← connected]; rfl
  have calm : state.conn.writeFault = fun _ => none := by rw [← connected]; rfl
  have registry : state.server = server := by rw [← connected]
  cases read : (readAuthRequest so ctx.vars v3 state.conn).1 with
  | error failure =>
    rw [replyAuth_output_of_unread read, silent]
    constructor
    · intro impossible
      cases impossible
    · intro ⟨bytes, rest, request, _, split, sent, valid, _⟩
      rw [(readAuthRequest_iff input).mpr ⟨bytes, rest, split, sent, valid⟩] at read
      cases read
  | ok request =>
    obtain ⟨bytes, rest, split, sent, valid⟩ := (readAuthRequest_iff input).mp read
    have unseen := fresh _ _ _ split sent
    rw [← registry] at unseen ⊢
    rw [replyAuth_output_of_read online quiet calm read unseen, silent]
    constructor
    · intro replied
      cases answered : answer so ctx state.server.reg request call.auth with
      | none =>
        rw [answered] at replied
        cases replied
      | some session => exact ⟨bytes, rest, request, session, split, sent, valid, answered⟩
    · intro ⟨bytes', rest', request', session, split', sent', valid', answered⟩
      have same := (readAuthRequest_iff input).mpr ⟨bytes', rest', split', sent', valid'⟩
      rw [read] at same
      cases same
      rw [answered]
      exact length_payload2 so session

end ZkArche.CServer

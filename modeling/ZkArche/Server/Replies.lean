import ZkArche.Primitives.Exchange
import ZkArche.Server.AcceptedSession

namespace ZkArche.Server

open Foundation

variable {β S P : Type} [Octet β] [Field S] [AddCommGroup P] [Module S P]
variable [DecidableEq β] [DecidableEq P]
variable {G : Suite β S P} {ctx : ServerContext S} {moments : AuthMoments β P} {random : AuthRandom β S} {v3 : Bool}

omit [DecidableEq β] in
theorem listens_recvAuthHeader (v3 : Bool) : Listens (recvAuthHeader v3 : Effect Failure (Conn β) _) := by
  unfold recvAuthHeader
  split
  · refine Listens.recvU8.bind fun flags => ?_
    split
    · exact (Listens.recvExact 16).bind fun _ => Listens.pure _
    · exact Listens.pure _
  · exact Listens.pure _

omit [DecidableEq β] in
theorem listens_readAuthRequest (G : Suite β S P) (ctx : ServerContext S) (v3 : Bool) :
    Listens (readAuthRequest G ctx v3) := by
  refine (listens_recvAuthHeader v3).bind fun header => ?_
  refine (Listens.failIf _ _).bind fun _ => ?_
  refine (Listens.recvVec _).bind fun pt => ?_
  exact (Listens.lift _).bind fun _ => Listens.pure _

omit [DecidableEq P] in
theorem listens_confirm (G : Suite β S P) (session : AuthSession β S P) : Listens (confirm G session) :=
  (Listens.recvExact 32).bind fun _ => Listens.failIf _ _

def verifiedRecord [DecidableEq S] (G : Suite β S P) (ctx : ServerContext S) (moment : Moment β P)
    (state : ServerState β P)
    (request : AuthRequest β S P) : Except Failure (DeviceRecord P) := do
  let (_, record) ← findRecord G moment (ctx.staticPub G) state request.handleOpt request.pid request.nonceC request.ephC
  verifyProofs G ctx.allowedRoles request record
  pure record

omit [DecidableEq β] [DecidableEq P] in
theorem length_payload2 (G : Suite β S P) (session : AuthSession β S P) : (session.payload2 G).length = 192 := by
  simp [AuthSession.payload2]

omit [DecidableEq P] in
theorem keeps_completion (vars : Vars) (moment : Moment β P) (record : DeviceRecord P) (session : AuthSession β S P)
    (output : List β) : Effect.Keeps (fun state : Connected β P => state.conn.output = output) (do
      onConn (confirm G session)
      let blob ← onServer (takeFinalBlob vars moment)
      onServer (persistReplay moment blob)
      pure (record, session)) := by
  refine Effect.Keeps.bind ?_ fun _ => ?_
  · intro state start
    exact (listens_confirm G session state.conn).1.trans start
  · refine Effect.Keeps.bind (Effect.keeps_zoom fun _ _ start => start) fun blob => ?_
    refine Effect.Keeps.bind (Effect.keeps_zoom fun _ _ start => start) fun _ => ?_
    exact Effect.keeps_pure _

variable [DecidableEq S]

section Outputs

variable {state : Connected β P}

theorem handleAuthCommon_output_of_unread {failure : Failure}
    (unread : (readAuthRequest G ctx v3 state.conn).1 = .error failure) :
    (handleAuthCommon G ctx moments random v3 state).2.conn.output = state.conn.output := by
  rw [handleAuthCommon, Effect.bind_of_error (onConn_of_eq (Prod.ext unread rfl))]
  exact (listens_readAuthRequest G ctx v3 state.conn).1

omit [Octet β] [AddCommGroup P] [DecidableEq β] [DecidableEq P] in
theorem persistReplay_written {moment : Moment β P} (writes : moment.diskFault = none) (blob : Option (List β))
    (server : ServerState β P) : (persistReplay moment blob server).1 = .ok () := by
  cases blob with
  | none => rfl
  | some blob =>
    rw [persistReplay, onReplayFile, Effect.zoom_apply, writes]
    rfl

theorem handleAuthCommon_output_of_read {request : AuthRequest β S P} (writes : moments.admission.diskFault = none)
    (calm : state.conn.writeFault = fun _ => none)
    (read : (readAuthRequest G ctx v3 state.conn).1 = .ok request)
    (fresh : replayKey request.pid request.nonceC ∉ state.server.replay.keys) :
    (handleAuthCommon G ctx moments random v3 state).2.conn.output =
      match verifiedRecord G ctx moments.lookup state.server request with
      | .ok _ => state.conn.output ++ (establish G ctx.serverStaticSecret request random).payload2 G
      | .error _ => state.conn.output := by
  obtain ⟨listened, calmer⟩ := listens_readAuthRequest G ctx v3 state.conn
  rw [calm] at calmer
  generalize opening : (readAuthRequest G ctx v3 state.conn).2 = opened at listened calmer
  have admitted : onServer (admitSession ctx.vars moments.admission request.pid request.nonceC)
      ⟨state.server, opened⟩ = _ := onServer_of_eq (admitSession_fresh ctx.vars moments.admission fresh)
  rw [handleAuthCommon, Effect.bind_of_ok (onConn_of_eq (Prod.ext read opening)), Effect.bind_of_ok admitted]
  generalize inserted : ({ state.server with replay := _ } : ServerState β P) = server
  have maps : server.reg = state.server.reg ∧ server.handleIndex = state.server.handleIndex := by
    rw [← inserted]
    exact ⟨rfl, rfl⟩
  generalize (admission ctx.vars moments.admission state.server.replay _).1 = blob
  have wrote := persistReplay_written writes blob server
  have unchanged := persistReplay_state moments.admission blob server
  generalize kept : (persistReplay moments.admission blob server).2 = written at unchanged
  rw [Effect.bind_of_ok (onServer_of_eq (Prod.ext wrote kept)), Effect.bind_of_ok (readShared_apply _)]
  have same : verifiedRecord G ctx moments.lookup state.server request =
      verifiedRecord G ctx moments.lookup written request := by
    rw [unchanged]
    unfold verifiedRecord findRecord
    simp only [maps]
  rw [same, verifiedRecord]
  rcases findRecord G moments.lookup (ctx.staticPub G) written request.handleOpt request.pid request.nonceC
    request.ephC with failure | ⟨id, record⟩
  · rw [Effect.bind_of_error (Effect.lift_apply _ _)]
    exact listened
  · rw [Effect.bind_of_ok (Effect.lift_apply _ _)]
    cases verified : verifyProofs G ctx.allowedRoles request record with
    | error failure =>
      simp only [verified]
      rw [Effect.bind_of_error (Effect.lift_apply _ _)]
      simpa [bind, Except.bind, verified] using listened
    | ok _ =>
      simp only [verified]
      rw [Effect.bind_of_ok (Effect.lift_apply _ _), Effect.bind_of_ok (onConn_of_eq (sendAll_apply (by rw [calmer])))]
      rw [keeps_completion ctx.vars moments.completion record _ _ _ rfl]
      simp [bind, Except.bind, pure, Except.pure, verified, listened]

end Outputs

omit [DecidableEq β] [DecidableEq S] in
theorem readAuthRequest_iff {conn : Conn β} {request : AuthRequest β S P} :
    (readAuthRequest G ctx v3 conn).1 = .ok request ↔
      ∃ bytes rest, conn.input = bytes ++ rest ∧ request.Accepted G ctx v3 bytes := by
  constructor
  · intro read
    obtain ⟨bytes, accepted, input, _⟩ := readAuthRequest_ok (Prod.ext read rfl)
    exact ⟨bytes, _, input, accepted⟩
  · intro ⟨bytes, rest, input, accepted⟩
    rw [readAuthRequest_apply accepted input]

/-- `handle_auth_common` sends its reply of 192 bytes to this message. -/
def RepliesTo (G : Suite β S P) (ctx : ServerContext S) (moments : AuthMoments β P) (random : AuthRandom β S)
    (server : ServerState β P) (v3 : Bool) (message : List β) : Prop :=
  ((handleAuthCommon G ctx moments random v3 ⟨server, .opened message⟩).2.conn.output).length = 192

theorem repliesTo_iff {server : ServerState β P} {message : List β} (writes : moments.admission.diskFault = none)
    (fresh : ∀ bytes rest (request : AuthRequest β S P), message = bytes ++ rest → request.Accepted G ctx v3 bytes →
      replayKey request.pid request.nonceC ∉ server.replay.keys) :
    RepliesTo G ctx moments random server v3 message ↔
      ∃ bytes rest request record, message = bytes ++ rest ∧ request.Accepted G ctx v3 bytes ∧
        verifiedRecord G ctx moments.lookup server request = .ok record := by
  rw [RepliesTo]
  generalize connected : (⟨server, .opened message⟩ : Connected β P) = state
  have input : state.conn.input = message := by rw [← connected]; rfl
  have silent : state.conn.output = [] := by rw [← connected]; rfl
  have calm : state.conn.writeFault = fun _ => none := by rw [← connected]; rfl
  have shared : state.server = server := by rw [← connected]
  rw [← input] at fresh ⊢
  cases read : (readAuthRequest G ctx v3 state.conn).1 with
  | error failure =>
    rw [handleAuthCommon_output_of_unread read, silent]
    constructor
    · intro impossible
      cases impossible
    · intro ⟨bytes, rest, request, _, split, accepted, _⟩
      rw [readAuthRequest_iff.mpr ⟨bytes, rest, split, accepted⟩] at read
      cases read
  | ok request =>
    obtain ⟨bytes, rest, split, accepted⟩ := readAuthRequest_iff.mp read
    have unseen := fresh _ _ _ split accepted
    rw [← shared] at unseen ⊢
    rw [handleAuthCommon_output_of_read writes calm read unseen, silent]
    constructor
    · intro replied
      cases verified : verifiedRecord G ctx moments.lookup state.server request with
      | error failure =>
        rw [verified] at replied
        cases replied
      | ok record => exact ⟨bytes, rest, request, record, split, accepted, verified⟩
    · intro ⟨bytes', rest', request', record, split', accepted', verified⟩
      have same := readAuthRequest_iff.mpr ⟨bytes', rest', split', accepted'⟩
      rw [read] at same
      cases same
      rw [verified]
      exact length_payload2 G _

end ZkArche.Server

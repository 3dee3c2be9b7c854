import ZkArche.Server.Rebinding
import ZkArche.Server.ReplayFile

namespace ZkArche.Server

open Foundation

variable {β S P : Type} [Octet β] [Field S] [AddCommGroup P] [Module S P]
variable [DecidableEq β] [DecidableEq P] [DecidableEq S]

def Pc.admittedKey : Pc β S P → Option (ReplayKey β)
  | .authAdmitted request _ | .authPersisted request | .authVerified request _ =>
      some (replayKey request.pid request.nonceC)
  | .authReplied _ session | .authConfirmed _ session | .authCompleted _ session _
  | .answered (.ok (.established _ session)) | .closed (.ok (.established _ session)) =>
      some (replayKey session.pid session.nonceC)
  | _ => none

def Pc.heldBlob : Pc β S P → Option (List β)
  | .authAdmitted _ blob | .authCompleted _ _ blob => blob
  | _ => none

/-- The session is confirmed and the thread has nothing more to write for it. -/
def Pc.Settled : Pc β S P → Prop
  | .authCompleted _ _ none | .answered (.ok (.established _ _)) | .closed (.ok (.established _ _)) => True
  | _ => False

/-- What an observer writes down of a run: the accepted keys in their order, and for the file,
    for the key of each thread and for its latest snapshot how many keys had been accepted. -/
structure Audit (β : Type) where
  accepted : List (ReplayKey β)
  fileStamp : Nat
  keyStamp : Nat → Nat
  blobStamp : Nat → Nat

def Audit.empty : Audit β := { accepted := [], fileStamp := 0, keyStamp := fun _ => 0, blobStamp := fun _ => 0 }

def Audit.note (audit : Audit β) (replay : ReplayCache β) (i : Nat) (pc : Pc β S P) (moment : Moment β P) : Audit β :=
  match pc with
  | .authRequested request =>
    let k := replayKey request.pid request.nonceC
    let stamp := audit.accepted.length + 1
    if k ∈ replay.keys then audit
    else { audit with
      accepted := audit.accepted ++ [k]
      keyStamp := Function.update audit.keyStamp i stamp
      blobStamp := Function.update audit.blobStamp i stamp }
  | .authConfirmed _ _ =>
    { audit with blobStamp := Function.update audit.blobStamp i audit.accepted.length }
  | pc =>
    if pc.heldBlob.isSome && moment.diskFault.isNone then { audit with fileStamp := audit.blobStamp i } else audit

structure Audited (β S P : Type) where
  world : World β S P
  audit : Audit β

def Audited.observe (audited : Audited β S P) : Action β S P → Audit β
  | .advance i moment =>
    match audited.world.threads i with
    | some thread => audited.audit.note audited.world.server.replay i thread.pc moment
    | none => audited.audit
  | _ => audited.audit

def Audited.perform (G : Suite β S P) (ctx : ServerContext S) (audited : Audited β S P) (action : Action β S P) :
    Option (Audited β S P) :=
  (audited.world.perform G ctx action).map fun world => { world, audit := audited.observe action }

theorem audited_of_run {G : Suite β S P} {ctx : ServerContext S} {start world : World β S P} {audit : Audit β}
    (run : Run (World.perform G ctx) (fun _ _ => True) start world) :
    ∃ audit', Run (Audited.perform G ctx) (fun _ _ => True) ⟨start, audit⟩ ⟨world, audit'⟩ := by
  induction run with
  | refl => exact ⟨audit, .refl⟩
  | step action _ _ taken ih =>
    obtain ⟨audit', before⟩ := ih
    exact ⟨_, .step action before trivial (by rw [Audited.perform, taken, Option.map_some])⟩

/-- The data is a snapshot of the cache after the first `stamp` accepted keys. -/
def Snapshot (start : Generations (ReplayKey β)) (accepted : List (ReplayKey β)) (stamp : Nat) (data : List β) : Prop :=
  stamp ≤ accepted.length ∧ ∃ (order : SetOrder (ReplayKey β)) (cache : ReplayCache β),
    cache.generations = start.rememberAll replayGenMax (accepted.take stamp) ∧ data = cache.serialize order

/-- The audit tells the truth: what is in the cache, in the snapshots and in the file follows from
    the keys accepted so far. -/
structure Audited.Consistent (start : Generations (ReplayKey β)) (audited : Audited β S P) : Prop where
  cache : audited.world.server.replay.generations = start.rememberAll replayGenMax audited.audit.accepted
  keys : ∀ i thread k, audited.world.threads i = some thread → thread.pc.admittedKey = some k →
    ∃ earlier later, audited.audit.accepted = earlier ++ k :: later ∧ audited.audit.keyStamp i = earlier.length + 1
  blobs : ∀ i thread blob, audited.world.threads i = some thread → thread.pc.heldBlob = some blob →
    audited.audit.keyStamp i ≤ audited.audit.blobStamp i ∧
      Snapshot start audited.audit.accepted (audited.audit.blobStamp i) blob
  file : audited.audit.fileStamp = 0 ∨ ∃ data mode, audited.world.server.replayFile = .present data mode ∧
    Snapshot start audited.audit.accepted audited.audit.fileStamp data

section Steps

variable {G : Suite β S P} {ctx : ServerContext S} {start : Generations (ReplayKey β)} {audited : Audited β S P}

theorem Snapshot.grow {accepted : List (ReplayKey β)} {stamp : Nat} {data : List β}
    (snapshot : Snapshot start accepted stamp data) (more : List (ReplayKey β)) :
    Snapshot start (accepted ++ more) stamp data := by
  obtain ⟨early, order, cache, same, rfl⟩ := snapshot
  refine ⟨by rw [List.length_append]; omega, order, cache, ?_, rfl⟩
  rw [same, List.take_append_of_le_length early]

theorem Snapshot.now {accepted : List (ReplayKey β)} (order : SetOrder (ReplayKey β)) {cache : ReplayCache β}
    (same : cache.generations = start.rememberAll replayGenMax accepted) :
    Snapshot start accepted accepted.length (cache.serialize order) :=
  ⟨Nat.le_refl _, order, cache, by rw [List.take_length, same], rfl⟩

omit [Field S] [AddCommGroup P] [Module S P] [DecidableEq P] [DecidableEq S] in
/-- A step of one thread keeps the audit consistent when it does so for this thread, for the cache
    and for the file. -/
theorem Audited.Consistent.put (consistent : audited.Consistent start) (server : ServerState β P) {i : Nat}
    {thread : Thread β S P} {audit : Audit β} (more : List (ReplayKey β))
    (grown : audit.accepted = audited.audit.accepted ++ more)
    (others : ∀ j, j ≠ i → audit.keyStamp j = audited.audit.keyStamp j ∧ audit.blobStamp j = audited.audit.blobStamp j)
    (cache : server.replay.generations = start.rememberAll replayGenMax audit.accepted)
    (key : ∀ k, thread.pc.admittedKey = some k →
      ∃ earlier later, audit.accepted = earlier ++ k :: later ∧ audit.keyStamp i = earlier.length + 1)
    (blob : ∀ data, thread.pc.heldBlob = some data →
      audit.keyStamp i ≤ audit.blobStamp i ∧ Snapshot start audit.accepted (audit.blobStamp i) data)
    (file : audit.fileStamp = 0 ∨ ∃ data mode, server.replayFile = .present data mode ∧
      Snapshot start audit.accepted audit.fileStamp data) :
    Audited.Consistent start ⟨World.put { audited.world with server } i thread, audit⟩ := by
  have found : ∀ j other, (World.put { audited.world with server } i thread).threads j = some other →
      (j = i ∧ other = thread) ∨ (j ≠ i ∧ audited.world.threads j = some other) := by
    intro j other present
    simp only [World.put, Function.update_apply] at present
    split at present
    case isTrue same =>
      cases present
      exact .inl ⟨same, rfl⟩
    case isFalse different => exact .inr ⟨different, present⟩
  refine ⟨cache, ?_, ?_, file⟩
  · intro j other k present admitted
    rcases found j other present with ⟨rfl, rfl⟩ | ⟨different, present⟩
    · exact key k admitted
    · obtain ⟨earlier, later, split, stamp⟩ := consistent.keys j other k present admitted
      refine ⟨earlier, later ++ more, ?_, by rw [(others j different).1, stamp]⟩
      rw [grown, split, List.append_assoc, List.cons_append]
  · intro j other data present held
    rcases found j other present with ⟨rfl, rfl⟩ | ⟨different, present⟩
    · exact blob data held
    · obtain ⟨bound, snapshot⟩ := consistent.blobs j other data present held
      rw [(others j different).1, (others j different).2, grown]
      exact ⟨bound, snapshot.grow more⟩

theorem resume_authRequested_seen (moment : Moment β P) (peerKey : String) (random : ClientRandom β S)
    {request : AuthRequest β S P} {state : Connected β P}
    (seen : replayKey request.pid request.nonceC ∈ state.server.replay.keys) :
    resume G ctx moment peerKey random (.authRequested request) state =
      (.error (permissionDenied "replay detected"), state) :=
  Effect.bind_of_error (onServer_of_eq (admitSession_seen _ _ seen))

theorem resume_authRequested_fresh (moment : Moment β P) (peerKey : String) (random : ClientRandom β S)
    {request : AuthRequest β S P} {state : Connected β P}
    (fresh : replayKey request.pid request.nonceC ∉ state.server.replay.keys) :
    resume G ctx moment peerKey random (.authRequested request) state =
      (.ok (.authAdmitted request
          (admission ctx.vars moment state.server.replay (replayKey request.pid request.nonceC)).1),
        { state with server := { state.server with
            replay := (admission ctx.vars moment state.server.replay (replayKey request.pid request.nonceC)).2 } }) :=
  Effect.bind_of_ok (onServer_of_eq (admitSession_fresh _ _ fresh))

theorem resume_authConfirmed (moment : Moment β P) (peerKey : String) (random : ClientRandom β S)
    (record : DeviceRecord P) (session : AuthSession β S P) (state : Connected β P)
    (notBench : benchMode ctx.vars = false) :
    resume G ctx moment peerKey random (.authConfirmed record session) state =
      (.ok (.authCompleted record session
          (state.server.replay.takePersistBlob moment.setOrder moment.now true).1),
        { state with server := { state.server with
            replay := (state.server.replay.takePersistBlob moment.setOrder moment.now true).2 } }) := by
  refine Effect.bind_of_ok (onServer_of_eq ?_)
  rw [takeFinalBlob, notBench, if_neg (by decide), Effect.atomically_apply]

variable (G ctx) in
theorem resume_heldBlob (moment : Moment β P) (peerKey : String) (random : ClientRandom β S) {pc : Pc β S P}
    {blob : List β} (held : pc.heldBlob = some blob) (state : Connected β P) :
    (moment.diskFault = none ∧ (resume G ctx moment peerKey random pc state).2 =
      { state with server := { state.server with replayFile := .present blob 0o600 } }) ∨
    ∃ error, moment.diskFault = some error ∧
      resume G ctx moment peerKey random pc state = (.error (.io error), state) := by
  cases fault : moment.diskFault with
  | none =>
    refine .inl ⟨rfl, ?_⟩
    have written : persistReplay moment (some blob) state.server =
        (.ok (), { state.server with replayFile := .present blob 0o600 }) := by
      simp only [persistReplay, onReplayFile, Effect.zoom_apply, replaceFile, fault]
    cases pc with
    | authAdmitted request _ =>
      cases held
      rw [resume, Effect.bind_of_ok (onServer_of_eq written)]
      rfl
    | authCompleted record session _ =>
      cases held
      rw [resume, Effect.bind_of_ok (onServer_of_eq written)]
      rfl
    | _ => cases held
  | some error =>
    refine .inr ⟨error, rfl, ?_⟩
    have failed : persistReplay moment (some blob) state.server = (.error (.io error), state.server) := by
      simp only [persistReplay, onReplayFile, Effect.zoom_apply, replaceFile, fault]
    cases pc with
    | authAdmitted request _ =>
      cases held
      rw [resume, Effect.bind_of_error (onServer_of_eq failed)]
    | authCompleted record session _ =>
      cases held
      rw [resume, Effect.bind_of_error (onServer_of_eq failed)]
    | _ => cases held

def Pc.Plain : Pc β S P → Prop
  | .authRequested _ | .authConfirmed _ _ => False
  | _ => True

omit [Octet β] [Field S] [AddCommGroup P] [Module S P] [DecidableEq P] [DecidableEq S] in
theorem note_authRequested (audit : Audit β) (replay : ReplayCache β) (i : Nat) (request : AuthRequest β S P)
    (moment : Moment β P) :
    (audit.note replay i (.authRequested request) moment).fileStamp = audit.fileStamp ∧
      ∀ j, j ≠ i → (audit.note replay i (.authRequested request) moment).keyStamp j = audit.keyStamp j := by
  rw [Audit.note]
  split
  · exact ⟨rfl, fun _ _ => rfl⟩
  · exact ⟨rfl, fun _ different => Function.update_of_ne different ..⟩

omit [Octet β] [Field S] [AddCommGroup P] [Module S P] [DecidableEq P] [DecidableEq S] in
theorem note_plain {pc : Pc β S P} (plain : pc.Plain) (audit : Audit β) (replay : ReplayCache β) (i : Nat)
    (moment : Moment β P) : audit.note replay i pc moment =
      if pc.heldBlob.isSome && moment.diskFault.isNone then { audit with fileStamp := audit.blobStamp i } else audit := by
  cases pc with
  | authRequested request => exact plain.elim
  | authConfirmed record session => exact plain.elim
  | _ => rfl

omit [Octet β] [Field S] [AddCommGroup P] [Module S P] [DecidableEq β] [DecidableEq P] [DecidableEq S] in
theorem Pc.next_error (pc : Pc β S P) (failure : Failure) :
    (pc.next (.error failure)).admittedKey = none ∧ (pc.next (.error failure)).heldBlob = none ∧
      ¬ (pc.next (.error failure)).Settled := by
  cases pc <;> exact ⟨rfl, rfl, id⟩

omit [DecidableEq β] [DecidableEq P] [DecidableEq S] in
/-- A plain step admits no key and takes no snapshot; it settles only what was settled or had its
    last snapshot to write. -/
theorem Pc.Leads.plain {random : ClientRandom β S} {pc next : Pc β S P} (leads : pc.Leads G ctx random next)
    (plain : pc.Plain) :
    (∀ k, next.admittedKey = some k → pc.admittedKey = some k) ∧ next.heldBlob = none ∧
      (next.Settled → pc.Settled ∨ pc.heldBlob.isSome = true) := by
  cases pc with
  | accepted =>
    rcases leads with rfl | ⟨_, rfl⟩ | ⟨_, rfl⟩
    · exact ⟨nofun, rfl, nofun⟩
    · exact ⟨nofun, rfl, nofun⟩
    · exact ⟨nofun, rfl, nofun⟩
  | authRequested request => exact plain.elim
  | authConfirmed record session => exact plain.elim
  | setupRequested request =>
    obtain ⟨checked, _, rfl⟩ := leads
    exact ⟨nofun, rfl, nofun⟩
  | authPersisted request =>
    obtain ⟨record, rfl⟩ := leads
    exact ⟨fun _ => id, rfl, nofun⟩
  | authCompleted record session blob =>
    cases leads
    cases blob with
    | none => exact ⟨fun _ => id, rfl, .inl⟩
    | some blob => exact ⟨fun _ => id, rfl, fun _ => .inr rfl⟩
  | answered res =>
    cases leads
    rcases res with failure | request | ⟨record, session⟩
    · exact ⟨nofun, rfl, nofun⟩
    · exact ⟨nofun, rfl, nofun⟩
    · exact ⟨fun _ => id, rfl, .inl⟩
  | closed res =>
    cases leads
    exact ⟨fun _ => id, rfl, .inl⟩
  | setupAdmitted =>
    obtain ⟨_, rfl⟩ := leads
    exact ⟨nofun, rfl, nofun⟩
  | setupChallenged checked =>
    obtain ⟨_, rfl⟩ := leads
    exact ⟨nofun, rfl, nofun⟩
  | authAccepted v3 =>
    obtain ⟨_, rfl⟩ := leads
    exact ⟨nofun, rfl, nofun⟩
  | authAdmitted request blob =>
    cases leads
    exact ⟨fun _ => id, rfl, nofun⟩
  | authVerified request record =>
    cases leads
    exact ⟨fun _ => id, rfl, nofun⟩
  | authReplied record session =>
    cases leads
    exact ⟨fun _ => id, rfl, nofun⟩
  | _ =>
    cases leads
    exact ⟨nofun, rfl, nofun⟩

variable (G ctx) in
theorem resume_plain (moment : Moment β P) (peerKey : String) (random : ClientRandom β S) {pc : Pc β S P}
    (plain : pc.Plain) (state : Connected β P) :
    (resume G ctx moment peerKey random pc state).2.server.replay = state.server.replay ∧
      (pc.heldBlob = none →
        (resume G ctx moment peerKey random pc state).2.server.replayFile = state.server.replayFile) := by
  have changes := resume_changes G ctx moment peerKey random pc state
  cases held : pc.heldBlob with
  | some blob =>
    rcases resume_heldBlob G ctx moment peerKey random held state with ⟨_, same⟩ | ⟨_, _, same⟩ <;> rw [same] <;> exact ⟨rfl, nofun⟩
  | none =>
    cases pc with
    | authRequested request => exact plain.elim
    | authConfirmed record session => exact plain.elim
    | authAdmitted request blob =>
      obtain rfl : blob = none := held
      have same : (resume G ctx moment peerKey random (.authAdmitted request none) state).2 = state := rfl
      rw [same]
      exact ⟨rfl, fun _ => rfl⟩
    | authCompleted record session blob =>
      obtain rfl : blob = none := held
      have same : (resume G ctx moment peerKey random (.authCompleted record session none) state).2 = state := rfl
      rw [same]
      exact ⟨rfl, fun _ => rfl⟩
    | setupAccepted =>
      obtain ⟨_, same⟩ := changes
      rw [same]
      exact ⟨rfl, fun _ => rfl⟩
    | setupVerified checked proof =>
      obtain ⟨_, same⟩ := changes
      rw [same]
      exact ⟨rfl, fun _ => rfl⟩
    | answered res =>
      obtain ⟨_, same⟩ := changes
      rw [same]
      exact ⟨rfl, fun _ => rfl⟩
    | _ =>
      rw [show (resume G ctx moment peerKey random _ state).2.server = state.server from changes]
      exact ⟨rfl, fun _ => rfl⟩

theorem Audited.Consistent.admitted (consistent : audited.Consistent start) {i : Nat} {moment : Moment β P}
    {thread : Thread β S P} {request : AuthRequest β S P} (position : thread.pc = .authRequested request) :
    Audited.Consistent start ⟨audited.world.advance G ctx i thread moment,
      audited.audit.note audited.world.server.replay i thread.pc moment⟩ := by
  by_cases seen : replayKey request.pid request.nonceC ∈ audited.world.server.replay.keys
  · have run := @resume_authRequested_seen _ _ _ _ _ _ _ _ _ _ G ctx moment thread.peerKey thread.random _
      ⟨audited.world.server, thread.conn⟩ seen
    rw [← position] at run
    rw [advance_of_eq run]
    have noted : audited.audit.note audited.world.server.replay i thread.pc moment = audited.audit := by
      rw [position, Audit.note, if_pos seen]
    rw [noted]
    obtain ⟨key, held, _⟩ := thread.pc.next_error (permissionDenied "replay detected")
    exact consistent.put _ [] (List.append_nil _).symm (fun _ _ => ⟨rfl, rfl⟩) consistent.cache
      (by rw [key]; nofun) (by rw [held]; nofun) consistent.file
  · have run := @resume_authRequested_fresh _ _ _ _ _ _ _ _ _ _ G ctx moment thread.peerKey thread.random _
      ⟨audited.world.server, thread.conn⟩ seen
    rw [← position] at run
    rw [advance_of_eq run]
    have noted : audited.audit.note audited.world.server.replay i thread.pc moment =
        { audited.audit with
          accepted := audited.audit.accepted ++ [replayKey request.pid request.nonceC]
          keyStamp := Function.update audited.audit.keyStamp i (audited.audit.accepted.length + 1)
          blobStamp := Function.update audited.audit.blobStamp i (audited.audit.accepted.length + 1) } := by
      rw [position, Audit.note, if_neg seen]
    have remembered : (audited.world.server.replay.inserted (replayKey request.pid request.nonceC)).generations =
        start.rememberAll replayGenMax (audited.audit.accepted ++ [replayKey request.pid request.nonceC]) := by
      rw [ReplayCache.generations_inserted, consistent.cache, Generations.rememberAll_append]
      rfl
    rw [noted]
    refine consistent.put _ [replayKey request.pid request.nonceC] rfl (fun j different => ?_) ?_ ?_ ?_ ?_
    · exact ⟨Function.update_of_ne different .., Function.update_of_ne different ..⟩
    · obtain ⟨current, previous⟩ := admission_keys ctx.vars moment audited.world.server.replay
        (replayKey request.pid request.nonceC)
      rw [← remembered, ReplayCache.generations, ReplayCache.generations, current, previous]
    · intro k admitted
      cases admitted
      exact ⟨audited.audit.accepted, [], rfl, Function.update_self ..⟩
    · intro data held
      have taken : (admission ctx.vars moment audited.world.server.replay
          (replayKey request.pid request.nonceC)).1 = some data := by
        rw [position] at held
        exact held
      have serialized : data = (audited.world.server.replay.inserted
          (replayKey request.pid request.nonceC)).serialize moment.setOrder := by
        unfold admission ReplayCache.takePersistBlob at taken
        split at taken
        · cases taken
        · split at taken <;> cases taken
          rfl
      simp only [Function.update_self]
      have snapshot := Snapshot.now moment.setOrder remembered
      rw [List.length_append, List.length_singleton, ← serialized] at snapshot
      exact ⟨Nat.le_refl _, snapshot⟩
    · rcases consistent.file with untouched | ⟨data, mode, written, snapshot⟩
      · exact .inl untouched
      · exact .inr ⟨data, mode, written, snapshot.grow _⟩

theorem Audited.Consistent.complete (consistent : audited.Consistent start) (notBench : benchMode ctx.vars = false)
    {i : Nat} {moment : Moment β P} {thread : Thread β S P} {record : DeviceRecord P} {session : AuthSession β S P}
    (present : audited.world.threads i = some thread) (position : thread.pc = .authConfirmed record session) :
    Audited.Consistent start ⟨audited.world.advance G ctx i thread moment,
      audited.audit.note audited.world.server.replay i thread.pc moment⟩ := by
  have run := resume_authConfirmed (G := G) moment thread.peerKey thread.random record session
    ⟨audited.world.server, thread.conn⟩ notBench
  rw [← position] at run
  have noted : audited.audit.note audited.world.server.replay i thread.pc moment =
      { audited.audit with blobStamp := Function.update audited.audit.blobStamp i audited.audit.accepted.length } := by
    rw [position, Audit.note]
  have key := consistent.keys i thread (replayKey session.pid session.nonceC) present (by rw [position]; rfl)
  rw [advance_of_eq run, noted]
  refine consistent.put _ [] (List.append_nil _).symm (fun j different => ⟨rfl, Function.update_of_ne different ..⟩)
    ?_ ?_ ?_ consistent.file
  · rw [ReplayCache.generations_takePersistBlob, consistent.cache]
  · intro k admitted
    cases admitted
    exact key
  · intro data held
    have taken : (audited.world.server.replay.takePersistBlob moment.setOrder moment.now true).1 = some data := by
      rw [position] at held
      exact held
    obtain ⟨earlier, later, split, stamp⟩ := key
    unfold ReplayCache.takePersistBlob at taken
    split at taken <;> cases taken
    simp only [Function.update_self]
    refine ⟨?_, Snapshot.now _ consistent.cache⟩
    rw [stamp, split, List.length_append, List.length_cons]
    omega

theorem Audited.Consistent.plain (consistent : audited.Consistent start) {i : Nat} {moment : Moment β P}
    {thread : Thread β S P} (present : audited.world.threads i = some thread) (plain : thread.pc.Plain) :
    Audited.Consistent start ⟨audited.world.advance G ctx i thread moment,
      audited.audit.note audited.world.server.replay i thread.pc moment⟩ := by
  rcases run : resume G ctx moment thread.peerKey thread.random thread.pc ⟨audited.world.server, thread.conn⟩ with
    ⟨result, after⟩
  obtain ⟨replay, replayFile⟩ := resume_plain G ctx moment thread.peerKey
    thread.random plain ⟨audited.world.server, thread.conn⟩
  rw [run] at replay replayFile
  have pcs : (∀ k, (thread.pc.next result).admittedKey = some k → thread.pc.admittedKey = some k) ∧
      (thread.pc.next result).heldBlob = none := by
    cases result with
    | ok next =>
      obtain ⟨keys, held, _⟩ := (resume_leads run).plain plain
      have same : thread.pc.next (.ok next) = next := by cases thread.pc <;> rfl
      rw [same]
      exact ⟨keys, held⟩
    | error failure =>
      obtain ⟨key, held, _⟩ := thread.pc.next_error failure
      exact ⟨by rw [key]; nofun, held⟩
  rw [advance_of_eq run, note_plain plain]
  have put : ∀ audit : Audit β, audit.accepted = audited.audit.accepted → audit.keyStamp = audited.audit.keyStamp →
      audit.blobStamp = audited.audit.blobStamp → (audit.fileStamp = 0 ∨ ∃ data mode,
        after.server.replayFile = .present data mode ∧ Snapshot start audit.accepted audit.fileStamp data) →
      Audited.Consistent start ⟨World.put { audited.world with server := after.server } i
        { thread with conn := after.conn, pc := thread.pc.next result }, audit⟩ := by
    intro audit accepted keyStamp blobStamp file
    refine consistent.put _ [] (by rw [accepted, List.append_nil]) (fun _ _ => by rw [keyStamp, blobStamp]; exact ⟨rfl, rfl⟩)
      (by rw [replay, accepted]; exact consistent.cache) (fun k admitted => ?_) (by rw [pcs.2]; nofun) file
    rw [accepted, keyStamp]
    exact consistent.keys i thread k present (pcs.1 k admitted)
  cases held : thread.pc.heldBlob with
  | none => exact put audited.audit rfl rfl rfl (by rw [replayFile held]; exact consistent.file)
  | some blob =>
    have snapshot := (consistent.blobs i thread blob present held).2
    rcases resume_heldBlob G ctx moment thread.peerKey thread.random held
      ⟨audited.world.server, thread.conn⟩ with ⟨fault, same⟩ | ⟨error, fault, same⟩
    · rw [run] at same
      rw [fault]
      refine put { audited.audit with fileStamp := audited.audit.blobStamp i } rfl rfl rfl (.inr ⟨blob, 0o600, ?_, snapshot⟩)
      rw [show after = _ from same]
    · rw [run] at same
      rw [fault]
      refine put audited.audit rfl rfl rfl ?_
      rw [show after = _ from congrArg Prod.snd same]
      exact consistent.file

theorem Audited.Consistent.step {action : Action β S P} {after : Audited β S P}
    (consistent : audited.Consistent start) (notBench : benchMode ctx.vars = false)
    (taken : audited.perform G ctx action = some after) : after.Consistent start := by
  obtain ⟨world, performed, rfl⟩ := Option.map_eq_some_iff.mp taken
  rcases perform_cases performed with ⟨i, peerKey, random, writeFault, rfl, vacant, rfl⟩ |
    ⟨i, bytes, thread, rfl, present, rfl⟩ | ⟨i, moment, thread, rfl, present, rfl⟩
  · exact consistent.put audited.world.server [] (List.append_nil _).symm (fun _ _ => ⟨rfl, rfl⟩)
      consistent.cache nofun nofun consistent.file
  · exact consistent.put audited.world.server [] (List.append_nil _).symm (fun _ _ => ⟨rfl, rfl⟩)
      consistent.cache (consistent.keys i thread · present) (consistent.blobs i thread · present) consistent.file
  · rw [Audited.observe, present]
    cases position : thread.pc with
    | authRequested request => exact consistent.admitted position
    | authConfirmed record session => exact consistent.complete notBench present position
    | _ => exact consistent.plain present (by rw [position]; trivial)

/-- Two conditions on the order of the steps: no snapshot replaces a newer one, and when a session
    finds nothing to write at its end, a snapshot with its key has already reached the file. -/
def InOrder (audited : Audited β S P) : Action β S P → Prop
  | .advance i moment => ∀ thread ∈ audited.world.threads i,
    match thread.pc with
    | .authConfirmed _ _ =>
      audited.world.server.replay.dirty = false → audited.audit.keyStamp i ≤ audited.audit.fileStamp
    | pc => pc.heldBlob.isSome = true → moment.diskFault = none →
      audited.audit.fileStamp ≤ audited.audit.blobStamp i
  | _ => True

instance (audited : Audited β S P) (action : Action β S P) : Decidable (InOrder audited action) := by
  cases action with
  | advance i moment =>
    refine @Option.decidableForallMem _ _ (fun thread => ?_) _
    cases thread.pc <;> exact inferInstanceAs (Decidable (_ → _))
  | _ => exact .isTrue trivial

def Audited.Durable (audited : Audited β S P) : Prop :=
  ∀ i thread, audited.world.threads i = some thread → thread.pc.Settled →
    audited.audit.keyStamp i ≤ audited.audit.fileStamp

omit [Octet β] [Field S] [AddCommGroup P] [Module S P] [DecidableEq β] [DecidableEq P] [DecidableEq S] in
theorem Audited.Durable.put (durable : audited.Durable) (server : ServerState β P) {i : Nat} {thread : Thread β S P}
    {audit : Audit β} (others : ∀ j, j ≠ i → audit.keyStamp j = audited.audit.keyStamp j)
    (newer : audited.audit.fileStamp ≤ audit.fileStamp)
    (own : thread.pc.Settled → audit.keyStamp i ≤ audit.fileStamp) :
    Audited.Durable ⟨World.put { audited.world with server } i thread, audit⟩ := by
  intro j other present settled
  simp only [World.put, Function.update_apply] at present
  split at present
  case isTrue same =>
    cases present
    rw [same]
    exact own settled
  case isFalse different =>
    rw [others j different]
    exact (durable j other present settled).trans newer

theorem Audited.Durable.advance (durable : audited.Durable) (consistent : audited.Consistent start)
    (notBench : benchMode ctx.vars = false) {i : Nat} {moment : Moment β P} {thread : Thread β S P}
    (present : audited.world.threads i = some thread) (ordered : InOrder audited (.advance i moment)) :
    Audited.Durable ⟨audited.world.advance G ctx i thread moment,
      audited.audit.note audited.world.server.replay i thread.pc moment⟩ := by
  have condition := ordered thread present
  rcases run : resume G ctx moment thread.peerKey thread.random thread.pc ⟨audited.world.server, thread.conn⟩ with
    ⟨result, after⟩
  rw [advance_of_eq run]
  by_cases plain : thread.pc.Plain
  · have settles : (thread.pc.next result).Settled → thread.pc.Settled ∨
        (thread.pc.heldBlob.isSome = true ∧ moment.diskFault = none) := by
      intro settled
      cases result with
      | error failure => exact absurd settled (thread.pc.next_error failure).2.2
      | ok next =>
        have same : thread.pc.next (.ok next) = next := by cases thread.pc <;> rfl
        rw [same] at settled
        refine (((resume_leads run).plain plain).2.2 settled).imp_right fun held => ⟨held, ?_⟩
        obtain ⟨blob, held⟩ := Option.isSome_iff_exists.mp held
        rcases resume_heldBlob G ctx moment thread.peerKey thread.random held
          ⟨audited.world.server, thread.conn⟩ with ⟨fault, _⟩ | ⟨_, _, failed⟩
        · exact fault
        · rw [run] at failed
          cases failed
    have newer : thread.pc.heldBlob.isSome = true → moment.diskFault = none →
        audited.audit.fileStamp ≤ audited.audit.blobStamp i := by
      cases position : thread.pc with
      | authConfirmed record session => nofun
      | _ =>
        rw [position] at condition
        exact condition
    rw [note_plain plain]
    split
    case isTrue writes =>
      rw [Bool.and_eq_true, Option.isNone_iff_eq_none] at writes
      obtain ⟨held, fault⟩ := writes
      refine durable.put _ (fun _ _ => rfl) (newer held fault) fun _ => ?_
      obtain ⟨blob, held⟩ := Option.isSome_iff_exists.mp held
      exact (consistent.blobs i thread blob present held).1
    case isFalse idle =>
      refine durable.put _ (fun _ _ => rfl) (Nat.le_refl _) fun settled => ?_
      rcases settles settled with before | ⟨held, fault⟩
      · exact durable i thread present before
      · rw [held, fault] at idle
        exact absurd rfl idle
  · cases position : thread.pc with
    | authRequested request =>
      have unsettled : ¬ (thread.pc.next result).Settled := by
        cases result with
        | error failure => exact (thread.pc.next_error failure).2.2
        | ok next =>
          have leads := resume_leads run
          rw [position] at leads ⊢
          obtain ⟨blob, rfl⟩ := leads
          exact id
      rw [position] at unsettled
      obtain ⟨fileStamp, keyStamp⟩ := note_authRequested audited.audit audited.world.server.replay i request moment
      exact durable.put _ keyStamp (Nat.le_of_eq fileStamp.symm) fun settled => absurd settled unsettled
    | authConfirmed record session =>
      rw [position] at condition
      have finish := resume_authConfirmed (G := G) moment thread.peerKey thread.random record session
        ⟨audited.world.server, thread.conn⟩ notBench
      rw [← position, run] at finish
      cases finish
      refine durable.put _ (fun _ _ => rfl) (Nat.le_refl _) fun settled => condition ?_
      cases clean : audited.world.server.replay.dirty with
      | false => rfl
      | true =>
        rw [show Pc.next _ (.ok _) = Pc.authCompleted record session _ from rfl, ReplayCache.takePersistBlob,
          clean] at settled
        exact settled.elim
    | _ => exact absurd (by rw [position]; trivial) plain

theorem Audited.Durable.step {action : Action β S P} {after : Audited β S P} (durable : audited.Durable)
    (consistent : audited.Consistent start) (notBench : benchMode ctx.vars = false)
    (ordered : InOrder audited action) (taken : audited.perform G ctx action = some after) : after.Durable := by
  obtain ⟨world, performed, rfl⟩ := Option.map_eq_some_iff.mp taken
  rcases perform_cases performed with ⟨i, peerKey, random, writeFault, rfl, vacant, rfl⟩ |
    ⟨i, bytes, thread, rfl, present, rfl⟩ | ⟨i, moment, thread, rfl, present, rfl⟩
  · exact durable.put audited.world.server (fun _ _ => rfl) (Nat.le_refl _) nofun
  · exact durable.put audited.world.server (fun _ _ => rfl) (Nat.le_refl _)
      (durable i thread present)
  · rw [Audited.observe, present]
    exact durable.advance consistent notBench present ordered

end Steps

section Boot

variable {G : Suite β S P} {ctx : ServerContext S} {word : Nat} {moment : Moment β P}
variable {registryFile replayFile : StateFile β}

def bootGenerations (G : Suite β S P) (word : Nat) (moment : Moment β P) (registryFile replayFile : StateFile β) :
    Generations (ReplayKey β) :=
  (boot G word moment registryFile replayFile).server.replay.generations

omit [DecidableEq S] in
theorem boot_sized (G : Suite β S P) (moment : Moment β P) (registryFile : StateFile β) (wide : 32 ≤ word)
    (memory : FitsMemory word replayFile) :
    (bootGenerations G word moment registryFile replayFile).Sized replayGenMax (min (2 ^ 32 - 1) (mostKeys word))
      (roomFor word) := by
  rw [bootGenerations, boot]
  simp only
  cases loaded : ReplayCache.load word moment.now replayFile with
  | ok cache => exact load_sized wide memory loaded
  | error failure => exact ⟨Nat.zero_le _, Nat.zero_le _, .inr (Nat.zero_le _)⟩

omit [DecidableEq S] in
theorem boot_consistent (G : Suite β S P) (word : Nat) (moment : Moment β P) (registryFile replayFile : StateFile β) :
    Audited.Consistent (bootGenerations G word moment registryFile replayFile)
      ⟨boot G word moment registryFile replayFile, .empty⟩ :=
  ⟨rfl, nofun, nofun, .inl rfl⟩

theorem Snapshot.loads {start : Generations (ReplayKey β)} {accepted : List (ReplayKey β)} {stamp : Nat}
    {data : List β} (snapshot : Snapshot start accepted stamp data) (mode now : Nat) (wide : 32 ≤ word)
    (sized : start.Sized replayGenMax (min (2 ^ 32 - 1) (mostKeys word)) (roomFor word)) :
    ∃ cache, ReplayCache.load word now (.present data mode) = .ok cache ∧
      cache.generations = start.rememberAll replayGenMax (accepted.take stamp) := by
  obtain ⟨_, order, cache, same, rfl⟩ := snapshot
  obtain ⟨current, previous, total⟩ :=
    sized.rememberAll (accepted.take stamp) (by decide) (le_min (by decide) (replayGenMax_le_mostKeys wide))
  rw [← same] at current previous total
  simp only [ReplayCache.generations, roomFor, replayGenMax] at current previous total
  have half : 2 ^ word = 2 * 2 ^ (word - 1) := by
    rw [← Nat.pow_succ']
    congr 1
    omega
  have space : 2 ^ 31 ≤ 2 ^ (word - 1) := Nat.pow_le_pow_right (by decide) (by omega)
  have youngTable := withCapacity_ok wide (current.trans (Nat.min_le_right _ _))
  have oldTable := withCapacity_ok wide (previous.trans (Nat.min_le_right _ _))
  refine ⟨_, load_serialize now (by omega) (by omega) ?_ youngTable oldTable, same⟩
  rw [half]
  generalize 2 ^ (word - 1) = room at total space
  omega

/-- In a run whose snapshots reach the file in order, a session that returned `Ok` stays refused
    after a crash at any later point, until more than a full generation of keys came after it. -/
theorem completed_session_stays_unreplayable {audited : Audited β S P} (notBench : benchMode ctx.vars = false)
    (wide : 32 ≤ word) (memory : FitsMemory word replayFile)
    (run : Run (Audited.perform G ctx) InOrder ⟨boot G word moment registryFile replayFile, .empty⟩ audited)
    {i : Nat} {thread : Thread β S P} {record : DeviceRecord P} {session : AuthSession β S P}
    (present : audited.world.threads i = some thread)
    (returned : thread.pc = .answered (.ok (.established record session)) ∨
      thread.pc = .closed (.ok (.established record session)))
    (recent : audited.audit.accepted.length - audited.audit.keyStamp i ≤ replayGenMax) (now : Nat) :
    ∃ cache, ReplayCache.load word now audited.world.server.replayFile = .ok cache ∧
      replayKey session.pid session.nonceC ∈ cache.keys ∧
      (cache.checkAndInsert session.pid session.nonceC).1 = false := by
  have invariant := run.invariant (fun audited =>
      audited.Consistent (bootGenerations G word moment registryFile replayFile) ∧ audited.Durable)
    ⟨boot_consistent G word moment registryFile replayFile, nofun⟩
    fun _ _ _ ⟨consistent, durable⟩ ordered taken =>
      ⟨consistent.step notBench taken, durable.step consistent notBench ordered taken⟩
  obtain ⟨consistent, durable⟩ := invariant
  have admitted : thread.pc.admittedKey = some (replayKey session.pid session.nonceC) := by
    rcases returned with same | same <;> rw [same] <;> rfl
  have settled : thread.pc.Settled := by
    rcases returned with same | same <;> rw [same] <;> trivial
  obtain ⟨earlier, later, split, stamp⟩ := consistent.keys i thread _ present admitted
  have reached := durable i thread present settled
  rcases consistent.file with untouched | ⟨data, mode, written, snapshot⟩
  · omega
  · obtain ⟨cache, loaded, same⟩ := snapshot.loads mode now wide (boot_sized G moment registryFile wide memory)
    have content : audited.audit.accepted.take audited.audit.fileStamp =
        earlier ++ replayKey session.pid session.nonceC :: later.take (audited.audit.fileStamp - audited.audit.keyStamp i) := by
      rw [split, List.take_append, List.take_of_length_le (by omega),
        show audited.audit.fileStamp - earlier.length = audited.audit.fileStamp - audited.audit.keyStamp i + 1 by omega,
        List.take_succ_cons]
    have short : (later.take (audited.audit.fileStamp - audited.audit.keyStamp i)).length ≤ replayGenMax := by
      rw [split, List.length_append, List.length_cons, stamp] at recent
      have := List.length_take_le (audited.audit.fileStamp - audited.audit.keyStamp i) later
      rw [List.length_take]
      omega
    have member : replayKey session.pid session.nonceC ∈ cache.keys := by
      rw [← cache.keys_generations, same, content]
      exact Generations.mem_rememberAll _ _ _ _ short
    refine ⟨cache, by rw [written, loaded], member, ?_⟩
    rw [ReplayCache.checkAndInsert_seen member]

end Boot

def deviceOnlyContext : ServerContext (ZMod 5) :=
  { benchContext with vars := fun name => if name = "ZKARCHE_ALLOW_DEVICE_ONLY" then some "1" else none }

def toyRegistryFile : StateFile UInt8 := .present (registryBytes toySuite [⟨zeros, ⟨1, 1⟩⟩]) 0o600

noncomputable def sessionUpToAdmission (i : Nat) (nonceC : Block UInt8 32) : List (Action UInt8 (ZMod 5) (ZMod 5)) :=
  [.accept i "peer" toyClientRandom fun _ => none,
    .deliver i ([0x04, 0x01] ++ zeros.bytes ++ (encodeResidue (1 : ZMod 5)).bytes ++
      (encodeResidue (1 : ZMod 5)).bytes ++ nonceC.bytes ++ (encodeResidue (1 : ZMod 5)).bytes ++ zeros.bytes),
    .advance i .quiet, .advance i .quiet, .advance i .quiet]

noncomputable def wholeSession (i : Nat) (nonceC : Block UInt8 32) : List (Action UInt8 (ZMod 5) (ZMod 5)) :=
  sessionUpToAdmission i nonceC ++ List.replicate 6 (.advance i .quiet)

noncomputable def toyStart : Audited UInt8 (ZMod 5) (ZMod 5) :=
  ⟨boot toySuite 64 .quiet toyRegistryFile .absent, .empty⟩

/-- What the observer has seen at the end of a run, with the key of the session that thread `i`
    has completed. -/
def observed (i : Nat) (audited : Audited UInt8 (ZMod 5) (ZMod 5)) :
    List (ReplayKey UInt8) × Nat × Nat × Option (ReplayKey UInt8) :=
  (audited.audit.accepted, audited.audit.fileStamp, audited.audit.keyStamp i,
    match audited.world.threads i with
    | some { pc := .answered (.ok (.established _ session)), .. } => some (replayKey session.pid session.nonceC)
    | _ => none)

theorem thread_of_observed {i : Nat} {audited : Audited UInt8 (ZMod 5) (ZMod 5)} {k : ReplayKey UInt8}
    (seen : (observed i audited).2.2.2 = some k) :
    ∃ thread record session, audited.world.threads i = some thread ∧
      thread.pc = .answered (.ok (.established record session)) ∧ replayKey session.pid session.nonceC = k := by
  simp only [observed] at seen
  split at seen
  case h_1 present =>
    cases seen
    exact ⟨_, _, _, present, rfl, rfl⟩
  case h_2 => cases seen

theorem deviceOnlyContext_notBench : benchMode deviceOnlyContext.vars = false := by
  decide

theorem fitsMemory_absent (word : Nat) : FitsMemory word (.absent : StateFile UInt8) := nofun

set_option maxRecDepth 100000 in
theorem completed_session_stays_unreplayable_once :
    ∃ audited cache, ReplayCache.load 64 0 (Audited.world audited).server.replayFile = .ok cache ∧
      replayKey zeros zeros ∈ cache.keys ∧
      (wholeSession 0 zeros).foldlM (Run.guarded (Audited.perform toySuite deviceOnlyContext) InOrder) toyStart =
        some audited := by
  have seen : ((wholeSession 0 zeros).foldlM
      (Run.guarded (Audited.perform toySuite deviceOnlyContext) InOrder) toyStart).map (observed 0) =
      some ([replayKey zeros zeros], 1, 1, some (replayKey zeros zeros)) := by decide
  obtain ⟨audited, reached, seen⟩ := Option.map_eq_some_iff.mp seen
  obtain ⟨thread, record, session, present, returned, key⟩ := thread_of_observed (congrArg (·.2.2.2) seen)
  have accepted : audited.audit.accepted = [replayKey zeros zeros] := congrArg (·.1) seen
  obtain ⟨cache, loaded, member, _⟩ := completed_session_stays_unreplayable deviceOnlyContext_notBench (by decide)
    (fitsMemory_absent 64) (Run.of_guarded reached) present (.inl returned) (by rw [accepted]; exact (Nat.sub_le _ _).trans (by decide)) 0
  exact ⟨audited, cache, loaded, key ▸ member, reached⟩

/-- Thread 0 takes a snapshot with its key and is held up. Thread 1 completes a session, and then
    thread 0 writes its snapshot. -/
noncomputable def delayedSnapshot : List (Action UInt8 (ZMod 5) (ZMod 5)) :=
  sessionUpToAdmission 0 zeros ++ wholeSession 1 ones ++ [.advance 0 .quiet]

set_option maxRecDepth 100000 in
/-- The delayed snapshot takes the key of the completed session out of the file. -/
theorem delayed_snapshot_forgets_session :
    ∃ audited thread record session cache,
      Run (Audited.perform toySuite deviceOnlyContext) (fun _ _ => True) toyStart audited ∧
      benchMode deviceOnlyContext.vars = false ∧ audited.world.threads 1 = some thread ∧
      thread.pc = .answered (.ok (.established record session)) ∧
      audited.audit.accepted.length - audited.audit.keyStamp 1 ≤ replayGenMax ∧
      ReplayCache.load 64 0 audited.world.server.replayFile = .ok cache ∧
      replayKey session.pid session.nonceC ∉ cache.keys := by
  have seen : (delayedSnapshot.foldlM (Audited.perform toySuite deviceOnlyContext) toyStart).map (observed 1) =
      some ([replayKey zeros zeros, replayKey zeros ones], 1, 2, some (replayKey zeros ones)) := by decide
  obtain ⟨audited, reached, seen⟩ := Option.map_eq_some_iff.mp seen
  obtain ⟨thread, record, session, present, returned, key⟩ := thread_of_observed (congrArg (·.2.2.2) seen)
  have accepted : audited.audit.accepted = [replayKey zeros zeros, replayKey zeros ones] := congrArg (·.1) seen
  have fileStamp : audited.audit.fileStamp = 1 := congrArg (·.2.1) seen
  have run : Run (Audited.perform toySuite deviceOnlyContext) (fun _ _ => True) toyStart audited :=
    .of_foldlM (fun _ _ _ => trivial) reached
  have consistent := run.invariant _ (boot_consistent toySuite 64 .quiet toyRegistryFile .absent)
    fun _ _ _ consistent _ taken => consistent.step deviceOnlyContext_notBench taken
  rcases consistent.file with untouched | ⟨data, mode, written, snapshot⟩
  · rw [fileStamp] at untouched
    cases untouched
  · obtain ⟨cache, loaded, same⟩ := snapshot.loads mode 0 (show 32 ≤ 64 by decide)
      (boot_sized toySuite .quiet toyRegistryFile (by decide) (fitsMemory_absent 64))
    refine ⟨audited, thread, record, session, cache, run, deviceOnlyContext_notBench, present, returned, ?_, ?_, ?_⟩
    · rw [accepted]
      exact (Nat.sub_le _ _).trans (by decide)
    · rw [written, loaded]
    · rw [key, ← cache.keys_generations, same, accepted, fileStamp]
      decide

end ZkArche.Server

import ZkArche.CImpl.SuiteSodium
import ZkArche.CServer.Sessions
import ZkArche.Foundation.Runs

namespace ZkArche.CServer

open Foundation CImpl

variable {so : Sodium} {ctx : ServerContext}

/-- A session for which `handle_client` returned 0, and how many keys had been accepted up to its
    own. -/
structure Completed where
  pid : Block UInt8 32
  nonceC : Block UInt8 32
  position : Nat

def Completed.key (session : Completed) : ReplayKey := replayKey session.pid session.nonceC

/-- The server, the number of keys that it has accepted and the sessions that it has completed. -/
structure Audited where
  server : ServerState
  accepted : Nat
  completed : List Completed

/-- What happens to the server: it handles a connection, or it crashes and is started again. The
    registry file is then whatever the crash left of it. -/
inductive Event where
  | connect (call : ClientCall) (conn : Conn UInt8)
  | restart (memory : Bool × Bool × Bool) (now : Nat) (registryFile : StateFile UInt8)

def acceptsKey (so : Sodium) (ctx : ServerContext) (call : ClientCall) (server : ServerState) (conn : Conn UInt8) :
    Bool :=
  match presentedRequest so ctx.vars conn with
  | some request =>
    !benchMode ctx.vars &&
      decide ((server.replay.checkAndInsert call.memory request.pid request.nonceC).1 = 1)
  | none => false

def completedBy (result : Except Unit (Option (AuthRequest × AuthSession))) (position : Nat) : List Completed :=
  match result with
  | .ok (some (request, _)) => [⟨request.pid, request.nonceC, position⟩]
  | _ => []

def Audited.perform (so : Sodium) (ctx : ServerContext) (audited : Audited) : Event → Option Audited
  | .connect call conn =>
    let (result, after) := handleClient so ctx call ⟨audited.server, conn⟩
    let accepted := audited.accepted + (if acceptsKey so ctx call audited.server conn then 1 else 0)
    some ⟨after.server, accepted, audited.completed ++ completedBy result accepted⟩
  | .restart memory now registryFile =>
    (boot memory now registryFile audited.server.replayFile).map fun server => { audited with server }

theorem perform_connect (so : Sodium) (ctx : ServerContext) (audited : Audited) (call : ClientCall)
    (conn : Conn UInt8) :
    audited.perform so ctx (.connect call conn) = some
      ⟨(handleClient so ctx call ⟨audited.server, conn⟩).2.server,
        audited.accepted + (if acceptsKey so ctx call audited.server conn then 1 else 0),
        audited.completed ++ completedBy (handleClient so ctx call ⟨audited.server, conn⟩).1
          (audited.accepted + (if acceptsKey so ctx call audited.server conn then 1 else 0))⟩ := rfl

def Event.FilesWork : Event → Prop
  | .connect call _ => call.moment.diskFault = none
  | .restart .. => True

/-- A write of the cache is due when a session is admitted that completes, and there is memory
    when the arrays change their roles. -/
def Event.Careful (so : Sodium) (ctx : ServerContext) (audited : Audited) : Event → Prop
  | .connect call conn =>
    (call.memory = true ∨ audited.server.replay.current.keys.length < replayGenMax) ∧
    ∀ reply, (handleClient so ctx call ⟨audited.server, conn⟩).1 = .ok (some reply) →
      audited.server.replay.PersistsNext call.moment.now
  | .restart .. => True

/-- After a restart with this file the key is refused. -/
def Protects (file : StateFile UInt8) (pid nonceC : Block UInt8 32) : Prop :=
  ∀ now, (∃ cache, replayCacheLoad (true, true) now file = some cache) ∧
    ∀ memory cache, replayCacheLoad memory now file = some cache →
      ∀ memory, (cache.checkAndInsert memory pid nonceC).1 = 0

def Stores (file : StateFile UInt8) (key : ReplayKey) (since : Nat) : Prop :=
  ∀ memory now cache, replayCacheLoad memory now file = some cache → cache.Retains key since

/-- What the cache and its file hold between two connections. -/
structure Kept (audited : Audited) : Prop where
  sized : audited.server.replay.Sized
  loads : ∀ now, ∃ cache, replayCacheLoad (true, true) now audited.server.replayFile = some cache
  counted : ∀ session ∈ audited.completed, session.position ≤ audited.accepted
  memory : ∀ session ∈ audited.completed, audited.accepted - session.position ≤ replayGenMax →
    audited.server.replay.Retains session.key (audited.accepted - session.position)
  file : ∀ session ∈ audited.completed, audited.accepted - session.position ≤ replayGenMax →
    Stores audited.server.replayFile session.key (audited.accepted - session.position)

section Files

variable {file : StateFile UInt8} {key : ReplayKey} {since later : Nat} {cache : ReplayCache}

theorem Stores.mono (stores : Stores file key since) (more : since ≤ later) : Stores file key later :=
  fun memory now cache load => (stores memory now cache load).mono more

theorem stores_bytes (sized : cache.Sized) (retains : cache.Retains key since) (mode : Nat) :
    Stores (.present cache.bytes mode) key since :=
  fun _ _ _ load => (replayCacheLoad_sameKeys sized load).retains retains

theorem written_sameKeys (cache : ReplayCache) (file : StateFile UInt8) (now : Nat) :
    (written cache file now).1.SameKeys cache := by
  unfold written
  split
  · exact ⟨rfl, rfl⟩
  · exact ⟨rfl, rfl⟩

theorem stores_written (sized : cache.Sized) (retains : cache.Retains key later) (stores : Stores file key since)
    (more : since ≤ later) (now : Nat) : Stores (written cache file now).2 key later := by
  unfold written
  split
  · exact stores_bytes sized retains _
  · exact stores.mono more

theorem written_loads (sized : cache.Sized)
    (loads : ∀ now, ∃ cache, replayCacheLoad (true, true) now file = some cache) (moment now : Nat) :
    ∃ loaded, replayCacheLoad (true, true) now (written cache file moment).2 = some loaded := by
  unfold written
  split
  · exact replayCacheLoad_of_memory sized _ _
  · exact loads now

end Files

variable {audited next : Audited}

theorem Kept.of_unpresented {call : ClientCall} {conn : Conn UInt8} (kept : Kept audited)
    (nothing : presentedRequest so ctx.vars conn = none)
    (taken : audited.perform so ctx (.connect call conn) = some next) : Kept next := by
  obtain ⟨replay, replayFile, incomplete⟩ := handleClient_unpresented call ⟨audited.server, conn⟩ nothing
  have rejects : acceptsKey so ctx call audited.server conn = false := by rw [acceptsKey, nothing]
  rw [perform_connect, rejects] at taken
  generalize handleClient so ctx call ⟨audited.server, conn⟩ = outcome at taken replay replayFile incomplete
  have none_completed : completedBy outcome.1 audited.accepted = [] := by
    unfold completedBy
    split
    case h_1 reply session done => exact absurd done (incomplete _)
    case h_2 => rfl
  obtain rfl := Option.some.inj taken
  constructor
  · simpa only [replay] using kept.sized
  · simpa only [replayFile] using kept.loads
  · simpa only [none_completed, Bool.false_eq_true, if_false, Nat.add_zero, List.append_nil] using kept.counted
  · simpa only [none_completed, replay, Bool.false_eq_true, if_false, Nat.add_zero, List.append_nil] using kept.memory
  · simpa only [none_completed, replayFile, Bool.false_eq_true, if_false, Nat.add_zero, List.append_nil] using kept.file

theorem Kept.of_restart {memory : Bool × Bool × Bool} {now : Nat} {registryFile : StateFile UInt8}
    (kept : Kept audited) (taken : audited.perform so ctx (.restart memory now registryFile) = some next) :
    Kept next := by
  obtain ⟨server, booted, rfl⟩ := Option.map_eq_some_iff.mp taken
  obtain ⟨reg, _, booted⟩ := Option.bind_eq_some_iff.mp booted
  obtain ⟨replay, loaded, booted⟩ := Option.bind_eq_some_iff.mp booted
  cases booted
  constructor
  · exact replayCacheLoad_sized loaded
  · exact kept.loads
  · exact kept.counted
  · intro session member recent
    exact kept.file session member recent _ _ _ loaded
  · exact kept.file

section Admissions

variable {memory : Bool} {replay : ReplayCache} {key : ReplayKey} {server : ServerState}

theorem Kept.of_accepted {now : Nat} {latest : List Completed} (kept : Kept audited)
    (checked : ReplayCache.Checked memory audited.server.replay key (1, replay))
    (room : memory = true ∨ audited.server.replay.current.keys.length < replayGenMax)
    (after : (server.replay, server.replayFile) = written replay audited.server.replayFile now)
    (new : ∀ session ∈ latest, session.position = audited.accepted + 1 ∧ session.key = key ∧
      replay.due now false = true) :
    Kept ⟨server, audited.accepted + 1, audited.completed ++ latest⟩ := by
  have sized := kept.sized.checked checked
  have same := written_sameKeys replay audited.server.replayFile now
  have replayed : server.replay = (written replay audited.server.replayFile now).1 := congrArg Prod.fst after
  have filed : server.replayFile = (written replay audited.server.replayFile now).2 := congrArg Prod.snd after
  have position : ∀ session ∈ audited.completed,
      audited.accepted + 1 - session.position = audited.accepted - session.position + 1 := by
    intro session member
    have counted := kept.counted session member
    omega
  have earlier : ∀ session ∈ audited.completed, audited.accepted - session.position + 1 ≤ replayGenMax →
      replay.Retains session.key (audited.accepted - session.position + 1) := by
    intro session member recent
    exact (kept.memory session member (by omega)).checked checked room recent
  constructor
  · rw [replayed]
    exact same.sized sized
  · rw [filed]
    exact written_loads sized kept.loads now
  · intro session member
    rcases List.mem_append.mp member with before | last
    · exact (kept.counted session before).trans (Nat.le_succ _)
    · exact (new session last).1.le
  · intro session member recent
    rw [replayed]
    apply same.retains
    rcases List.mem_append.mp member with before | last
    · simp only [position session before] at recent ⊢
      exact earlier session before recent
    · rw [(new session last).2.1]
      exact checked.retains_new.mono (Nat.zero_le _)
  · intro session member recent
    rw [filed]
    rcases List.mem_append.mp member with before | last
    · simp only [position session before] at recent ⊢
      exact stores_written sized (earlier session before recent) (kept.file session before (by omega)) (Nat.le_succ _) _
    · rw [(new session last).2.1, written, if_pos (new session last).2.2]
      exact stores_bytes sized (checked.retains_new.mono (Nat.zero_le _)) _

theorem Kept.of_refused {answer : Int} (kept : Kept audited)
    (checked : ReplayCache.Checked memory audited.server.replay key (answer, replay)) (refused : answer ≠ 1)
    (room : memory = true ∨ audited.server.replay.current.keys.length < replayGenMax)
    (replayed : server.replay = replay) (filed : server.replayFile = audited.server.replayFile) :
    Kept ⟨server, audited.accepted, audited.completed⟩ := by
  constructor
  · rw [replayed]
    exact kept.sized.checked checked
  · rw [filed]
    exact kept.loads
  · exact kept.counted
  · intro session member recent
    have retained := (kept.memory session member recent).checked checked room
    rw [if_neg refused] at retained
    rw [replayed]
    exact retained recent
  · rw [filed]
    exact kept.file

end Admissions

theorem Kept.of_presented {call : ClientCall} {conn : Conn UInt8} {request : AuthRequest} (kept : Kept audited)
    (online : benchMode ctx.vars = false) (works : call.moment.diskFault = none)
    (careful : Event.Careful so ctx audited (.connect call conn))
    (presented : presentedRequest so ctx.vars conn = some request)
    (taken : audited.perform so ctx (.connect call conn) = some next) : Kept next := by
  obtain ⟨behind, server, replied⟩ := handleClient_presented call ⟨audited.server, conn⟩ presented
  obtain ⟨room, persists⟩ := careful
  rw [perform_connect] at taken
  have outcome := ReplayCache.checkAndInsert_checked call.memory audited.server.replay request.pid request.nonceC
  rcases checked : audited.server.replay.checkAndInsert call.memory request.pid request.nonceC with ⟨answer, replay⟩
  have accepts : acceptsKey so ctx call audited.server conn = decide (answer = 1) := by
    simp only [acceptsKey, presented, online, checked, Bool.not_false, Bool.true_and]
  rw [checked] at outcome
  rw [accepts] at taken
  generalize handleClient so ctx call ⟨audited.server, conn⟩ = handled at taken server replied persists
  by_cases new : answer = 1
  · rw [new] at checked outcome taken
    rw [admitSession_of_accepted online works checked] at server
    obtain rfl := Option.some.inj taken
    have after : (handled.2.server.replay, handled.2.server.replayFile) =
        written replay audited.server.replayFile call.moment.now := by
      rw [server]
      rfl
    apply kept.of_accepted outcome room after
    intro session member
    unfold completedBy at member
    split at member
    case h_1 found _ done =>
      obtain ⟨same, _⟩ := replied _ done
      cases List.mem_singleton.mp member
      exact ⟨rfl, by rw [← same]; rfl, outcome.due_iff.mpr (persists _ done)⟩
    case h_2 => exact absurd member List.not_mem_nil
  · have refused : answer ≤ 0 := by
      cases outcome with
      | replayed _ => omega
      | starved _ _ => omega
      | accepted _ _ _ => exact absurd rfl new
    rw [admitSession_of_refused online checked refused] at server replied
    have incomplete : completedBy handled.1 audited.accepted = [] := by
      unfold completedBy
      split
      case h_1 found _ done => exact absurd (replied _ done).2 (by simp)
      case h_2 => rfl
    simp only [new, decide_false, Bool.false_eq_true, if_false, Nat.add_zero, incomplete, List.append_nil] at taken
    obtain rfl := Option.some.inj taken
    exact kept.of_refused outcome new room (by rw [server]; rfl) (by rw [server]; rfl)

theorem Kept.of_boot {memory : Bool × Bool × Bool} {now : Nat} {registryFile replayFile : StateFile UInt8}
    {server : ServerState} (started : boot memory now registryFile replayFile = some server) :
    Kept ⟨server, 0, []⟩ := by
  obtain ⟨reg, _, started⟩ := Option.bind_eq_some_iff.mp started
  obtain ⟨replay, loaded, started⟩ := Option.bind_eq_some_iff.mp started
  cases started
  constructor
  · exact replayCacheLoad_sized loaded
  · exact replayCacheLoad_again loaded
  · exact fun _ member => absurd member List.not_mem_nil
  · exact fun _ member => absurd member List.not_mem_nil
  · exact fun _ member => absurd member List.not_mem_nil

/-- Every completed session survives a restart when each of them was admitted at a moment at which
    a write of the cache was due. -/
theorem due_sessions_survive_restart {memory : Bool × Bool × Bool} {now : Nat}
    {registryFile replayFile : StateFile UInt8} {server : ServerState} (online : benchMode ctx.vars = false)
    (started : boot memory now registryFile replayFile = some server)
    (run : Run (Audited.perform so ctx) (fun audited event => event.FilesWork ∧ event.Careful so ctx audited)
      ⟨server, 0, []⟩ audited) :
    ∀ session ∈ audited.completed, audited.accepted - session.position ≤ replayGenMax →
      Protects audited.server.replayFile session.pid session.nonceC := by
  have kept : Kept audited := by
    apply run.invariant Kept (.of_boot started)
    intro before event after kept ⟨works, careful⟩ taken
    cases event with
    | connect call conn =>
      cases presented : presentedRequest so ctx.vars conn with
      | none => exact kept.of_unpresented presented taken
      | some request => exact kept.of_presented online works careful presented taken
    | restart memory now registryFile => exact kept.of_restart taken
  intro session member recent later
  refine ⟨kept.loads later, ?_⟩
  intro memory cache loaded memory'
  rw [ReplayCache.checkAndInsert_eq_zero]
  exact (kept.file session member recent memory later cache loaded).contains

/-- A session that completes is protected at once exactly when a write was due at its admission,
    unless the file knew its key before. -/
theorem session_protected_iff_due {server : ServerState} {call : ClientCall} {conn : Conn UInt8}
    {reply : AuthRequest × AuthSession} (online : benchMode ctx.vars = false) (works : call.moment.diskFault = none)
    (kept : Kept ⟨server, 0, []⟩)
    (unknown : ∀ now cache, replayCacheLoad (true, true) now server.replayFile = some cache →
      cache.contains (replayKey reply.1.pid reply.1.nonceC) = false)
    (done : (handleClient so ctx call ⟨server, conn⟩).1 = .ok (some reply)) :
    Protects (handleClient so ctx call ⟨server, conn⟩).2.server.replayFile reply.1.pid reply.1.nonceC ↔
      server.replay.PersistsNext call.moment.now := by
  cases presented : presentedRequest so ctx.vars conn with
  | none => exact absurd done ((handleClient_unpresented call ⟨server, conn⟩ presented).2.2 reply)
  | some request =>
    obtain ⟨behind, after, replied⟩ := handleClient_presented call ⟨server, conn⟩ presented
    obtain ⟨same, admitted⟩ := replied reply done
    rw [after, same]
    rw [same] at unknown
    have outcome := ReplayCache.checkAndInsert_checked call.memory server.replay request.pid request.nonceC
    rcases checked : server.replay.checkAndInsert call.memory request.pid request.nonceC with ⟨answer, replay⟩
    rw [checked] at outcome
    have new : answer = 1 := by
      by_contra other
      have refused : answer ≤ 0 := by
        cases outcome with
        | replayed _ => omega
        | starved _ _ => omega
        | accepted _ _ _ => exact absurd rfl other
      rw [admitSession_of_refused online checked refused] at admitted
      cases admitted
    rw [new] at outcome checked
    rw [admitSession_of_accepted online works checked, ← outcome.due_iff]
    have sized := kept.sized.checked outcome
    simp only [ServerState.withReplay, written]
    cases due : replay.due call.moment.now false with
    | true =>
      rw [if_pos rfl]
      refine ⟨fun _ => rfl, ?_⟩
      intro _ now
      refine ⟨replayCacheLoad_of_memory sized _ _, ?_⟩
      intro memory cache loaded memory'
      rw [ReplayCache.checkAndInsert_eq_zero]
      exact (stores_bytes sized outcome.retains_new _ memory now cache loaded).contains
    | false =>
      rw [if_neg Bool.false_ne_true]
      refine ⟨?_, fun false_true => absurd false_true Bool.false_ne_true⟩
      intro protects
      obtain ⟨⟨cache, loaded⟩, refuses⟩ := protects 0
      have seen := ReplayCache.checkAndInsert_eq_zero.mp (refuses _ cache loaded true)
      rw [unknown 0 cache loaded] at seen
      exact absurd seen Bool.false_ne_true

section Examples

def deviceOnlyContext : ServerContext where
  vars := fun name => if name = "ZKARCHE_ALLOW_DEVICE_ONLY" then some "1" else none
  policy := ⟨true, none, 0⟩
  serverSk := encodeResidue (1 : ZMod 5)

def enrolled : RegEntry := ⟨Suite.untouched, encodeResidue (1 : ZMod 5), encodeResidue (1 : ZMod 5)⟩

def deviceOnlySession : List UInt8 :=
  [msgAuthV3, authFlagDeviceOnly] ++ (Suite.untouched.bytes ++ (encodeResidue (1 : ZMod 5)).bytes ++
    (encodeResidue (1 + 1 : ZMod 5)).bytes ++ Suite.untouched.bytes ++ (encodeResidue (1 : ZMod 5)).bytes) ++
    Suite.untouched.bytes

/-- A server that was started for the first time at second 1000, with one device enrolled. -/
def startedServer : ServerState :=
  ⟨[enrolled], { ReplayCache.zero with lastPersist := 1000 }, .present enrolled.bytes 0o600, .absent⟩

theorem boot_startedServer : boot (true, true, true) 1000 (.present enrolled.bytes 0o600) .absent =
    some startedServer := by
  rfl

def callAt (now : Nat) : ClientCall where
  moment := ⟨now, none⟩
  memory := true
  setup := ⟨Suite.untouched, zeroChallenge, Suite.untouched⟩
  auth := ⟨Suite.untouched, encodeResidue (1 : ZMod 5), encodeResidue (1 : ZMod 5)⟩

def sessionAt (now : Nat) : Event := .connect (callAt now) (.opened deviceOnlySession)

theorem deviceOnlySession_completes : ∀ now ∈ [1000, 1002],
    (handleClient oneSuite.sodium deviceOnlyContext (callAt now)
      ⟨startedServer, .opened deviceOnlySession⟩).1.toOption.map (Option.map fun reply => (reply.1.pid, reply.1.nonceC)) =
      some (some (Suite.untouched, Suite.untouched)) := by
  decide +kernel

theorem sessionAt_done {now : Nat} (listed : now ∈ [1000, 1002]) :
    ∃ reply, (handleClient oneSuite.sodium deviceOnlyContext (callAt now)
      ⟨startedServer, .opened deviceOnlySession⟩).1 = .ok (some reply) ∧
      reply.1.pid = Suite.untouched ∧ reply.1.nonceC = Suite.untouched := by
  have completes := deviceOnlySession_completes now listed
  generalize (handleClient oneSuite.sodium deviceOnlyContext (callAt now)
    ⟨startedServer, .opened deviceOnlySession⟩).1 = result at completes
  rcases result with failure | _ | reply
  · cases completes
  · cases completes
  · simp only [Except.toOption, Option.map_some, Option.some.injEq, Prod.mk.injEq] at completes
    exact ⟨reply, rfl, completes.1, completes.2⟩

/-- The session completes two seconds after the start, and survives. -/
theorem due_sessions_survive_restart_once :
    ∃ audited session, Audited.perform oneSuite.sodium deviceOnlyContext ⟨startedServer, 0, []⟩ (sessionAt 1002) =
        some audited ∧ session ∈ audited.completed ∧
      Protects audited.server.replayFile session.pid session.nonceC := by
  obtain ⟨reply, done, _⟩ := sessionAt_done (show 1002 ∈ [1000, 1002] by decide)
  have taken := perform_connect oneSuite.sodium deviceOnlyContext ⟨startedServer, 0, []⟩ (callAt 1002)
    (.opened deviceOnlySession)
  rw [done] at taken
  have run : Run (Audited.perform oneSuite.sodium deviceOnlyContext) (fun audited event => event.FilesWork ∧
      event.Careful oneSuite.sodium deviceOnlyContext audited) ⟨startedServer, 0, []⟩ _ :=
    .step (sessionAt 1002) .refl ⟨rfl, .inl rfl, fun _ _ => .inr (.inr (by decide))⟩ taken
  exact ⟨_, _, taken, List.mem_append_right _ (List.mem_singleton_self _),
    due_sessions_survive_restart rfl boot_startedServer run _ (List.mem_append_right _ (List.mem_singleton_self _))
      (by simp)⟩

/-- The session completes in the second of the start, and is forgotten. -/
theorem undue_session_forgotten :
    ∃ server audited session, boot (true, true, true) 1000 (.present enrolled.bytes 0o600) .absent = some server ∧
      benchMode deviceOnlyContext.vars = false ∧
      Run (Audited.perform oneSuite.sodium deviceOnlyContext) (fun _ event => event.FilesWork) ⟨server, 0, []⟩ audited ∧
      session ∈ audited.completed ∧ audited.accepted - session.position ≤ replayGenMax ∧
      ¬ Protects audited.server.replayFile session.pid session.nonceC := by
  obtain ⟨reply, done, pid, nonceC⟩ := sessionAt_done (show 1000 ∈ [1000, 1002] by decide)
  have taken := perform_connect oneSuite.sodium deviceOnlyContext ⟨startedServer, 0, []⟩ (callAt 1000)
    (.opened deviceOnlySession)
  have undue : ¬ startedServer.replay.PersistsNext 1000 := by
    unfold ReplayCache.PersistsNext
    decide
  have due_iff := session_protected_iff_due rfl rfl (.of_boot boot_startedServer) (by
    intro now cache loaded
    cases loaded
    rfl) done
  generalize handleClient oneSuite.sodium deviceOnlyContext (callAt 1000)
    ⟨startedServer, .opened deviceOnlySession⟩ = handled at done taken due_iff
  rw [done] at taken
  refine ⟨startedServer, _, ⟨reply.1.pid, reply.1.nonceC, _⟩, boot_startedServer, rfl,
    Run.step (sessionAt 1000) .refl rfl taken, List.mem_append_right _ (List.mem_singleton_self _), by simp, ?_⟩
  intro protects
  exact undue (due_iff.mp protects)

end Examples

end ZkArche.CServer

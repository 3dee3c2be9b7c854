import ZkArche.CImpl.SuiteSodium
import ZkArche.CServer.Handler
import ZkArche.CServer.RateLimit

namespace ZkArche.CServer

open Foundation CImpl

structure Source where
  host : String
  serv : String
  named : Bool

def Source.peerToString (source : Source) : String :=
  if source.named then source.host ++ ":" ++ source.serv else "unknown"

/-- A connection, with the two readings of the clock before it is handled and the two after. -/
structure Visit where
  source : Source
  checked : Nat × Nat
  noted : Nat × Nat
  memory : Bool × Bool
  call : ClientCall
  conn : Conn UInt8

def Visit.peer (visit : Visit) : String := visit.source.peerToString

/-- What the accept loop makes of a connection: it closes it at once, or `handle_client` returns 0,
    or it returns something else; there may be no memory to note that. -/
inductive Outcome where
  | refused
  | served
  | failed (noted : Bool)
  deriving DecidableEq

/-- One round of the accept loop in `main`. -/
def acceptOne (so : Sodium) (ctx : ServerContext) (visit : Visit) (server : ServerState)
    (failures : FailureTracker) : Outcome × ServerState × FailureTracker :=
  if benchMode ctx.vars then
    match handleClient so ctx visit.call ⟨server, visit.conn⟩ with
    | (.ok _, after) => (.served, after.server, failures)
    | (.error _, after) => (.failed false, after.server, failures)
  else
    match failures.isBlocked visit.checked.1 visit.checked.2 visit.peer with
    | (true, failures) => (.refused, server, failures)
    | (false, failures) =>
      match handleClient so ctx visit.call ⟨server, visit.conn⟩ with
      | (.ok _, after) => (.served, after.server, failures.noteSuccess visit.peer)
      | (.error _, after) =>
        let (answer, failures) := failures.noteFailure visit.memory visit.noted.1 visit.noted.2 visit.peer
        (.failed (decide (answer = 0)), after.server, failures)

structure Loop where
  server : ServerState
  failures : FailureTracker
  log : List (Visit × Outcome)

def Loop.accept (so : Sodium) (ctx : ServerContext) (loop : Loop) (visit : Visit) : Loop :=
  let (outcome, server, failures) := acceptOne so ctx visit loop.server loop.failures
  ⟨server, failures, loop.log ++ [(visit, outcome)]⟩

def acceptLoop (so : Sodium) (ctx : ServerContext) (server : ServerState) (visits : List Visit) : Loop :=
  visits.foldl (Loop.accept so ctx) ⟨server, .empty, []⟩

def trackerCalls (record : Visit × Outcome) : List (Event String) :=
  let (visit, outcome) := record
  ⟨visit.peer, .look, visit.checked.1, visit.checked.2⟩ ::
    match outcome with
    | .refused => []
    | .served => [⟨visit.peer, .clear, visit.noted.1, visit.noted.2⟩]
    | .failed noted => [⟨visit.peer, if noted then .hit else .look, visit.noted.1, visit.noted.2⟩]

def trackerLog (log : List (Visit × Outcome)) : List (Event String) := log.flatMap trackerCalls

def failedFrom (host : String) (record : Visit × Outcome) : Bool :=
  decide (record.1.source.host = host) && match record.2 with
    | .failed _ => true
    | _ => false

def servedFrom (host : String) (record : Visit × Outcome) : Bool :=
  decide (record.1.source.host = host) && decide (record.2 = .served)

/-- Eight connections of a host have failed within `FAILURE_WINDOW_SEC` of the first of them, none of
    its connections succeeded in between, and less than `FAILURE_BAN_SEC` have passed since. -/
def HostBanned (log : List (Visit × Outcome)) (host : String) (now : Nat) : Prop :=
  ∃ before first middle last after, log = before ++ first :: (middle ++ last :: after) ∧
    failedFrom host first = true ∧ failedFrom host last = true ∧
    middle.countP (failedFrom host) + 2 = maxFailuresPerWindow ∧
    (∀ record ∈ middle, servedFrom host record = false) ∧
    last.1.noted.1 ≤ first.1.noted.1 + failureWindowSec ∧ now < last.1.noted.1 + failureBanSec

/-- The counting window of a peer holds enough failures, and less than `FAILURE_BAN_SEC` have passed
    since the last of them. A window begins with the first failure, with the first failure after a
    success, and with the first failure that comes more than `FAILURE_WINDOW_SEC` after the
    beginning of the one before. -/
def WindowBanned (log : List (Visit × Outcome)) (peer : String) (now : Nat) : Prop :=
  ∃ w, Event.windowOf failureLimits peer (trackerLog log) = some w ∧ w.Banned failureLimits now

section Rounds

variable {so : Sodium} {ctx : ServerContext} {visit : Visit} {server : ServerState} {failures : FailureTracker}
  {log : List (Visit × Outcome)} {clock : Nat}

theorem trackerLog_concat (log : List (Visit × Outcome)) (record : Visit × Outcome) :
    trackerLog (log ++ [record]) = trackerLog log ++ trackerCalls record := by
  rw [trackerLog, List.flatMap_append, List.flatMap_singleton]
  rfl

theorem inOrder_round {outcome : Outcome} (inOrder : Event.InOrder (trackerLog (log ++ [(visit, outcome)]))) :
    Event.InOrder (trackerLog log) ∧ visit.checked.1 ≤ visit.checked.2 ∧
    (∀ event ∈ trackerLog log, event.late ≤ visit.checked.1) ∧
    (outcome ≠ .refused → visit.checked.2 ≤ visit.noted.1 ∧ visit.noted.1 ≤ visit.noted.2) := by
  have behind : ∀ {event : Event String}, Event.InOrder (trackerLog log ++
      [⟨visit.peer, .look, visit.checked.1, visit.checked.2⟩, event]) →
      Event.InOrder (trackerLog log ++ [⟨visit.peer, .look, visit.checked.1, visit.checked.2⟩]) ∧
        visit.checked.2 ≤ event.now ∧ event.now ≤ event.late := by
    intro event inOrder
    rw [← List.singleton_append, ← List.append_assoc, Event.inOrder_concat] at inOrder
    obtain ⟨before, forward, ordered⟩ := inOrder
    exact ⟨before, ordered _ (List.mem_append_right _ (List.mem_singleton_self _)), forward⟩
  rw [trackerLog_concat] at inOrder
  cases outcome with
  | refused =>
    obtain ⟨before, forward, ordered⟩ := Event.inOrder_concat.mp inOrder
    exact ⟨before, forward, ordered, fun other => absurd rfl other⟩
  | served =>
    obtain ⟨front, note⟩ := behind inOrder
    obtain ⟨before, forward, ordered⟩ := Event.inOrder_concat.mp front
    exact ⟨before, forward, ordered, fun _ => note⟩
  | failed noted =>
    obtain ⟨front, note⟩ := behind inOrder
    obtain ⟨before, forward, ordered⟩ := Event.inOrder_concat.mp front
    exact ⟨before, forward, ordered, fun _ => note⟩

theorem acceptOne_follows {outcome : Outcome} {after : ServerState × FailureTracker}
    (online : benchMode ctx.vars = false) (follows : failures.Follows visit.checked.1 (trackerLog log))
    (inOrder : Event.InOrder (trackerLog (log ++ [(visit, outcome)])))
    (past : ∀ event ∈ trackerLog (log ++ [(visit, outcome)]), event.late ≤ clock)
    (round : acceptOne so ctx visit server failures = (outcome, after)) :
    after.2.Follows clock (trackerLog (log ++ [(visit, outcome)])) := by
  obtain ⟨before, forward, ordered, note⟩ := inOrder_round inOrder
  have atCheck := follows.later forward
  have checked := atCheck.isBlocked visit.checked.1 visit.peer
  rw [trackerLog_concat] at past ⊢
  unfold acceptOne at round
  rw [online, if_neg Bool.false_ne_true] at round
  rcases verdict : failures.isBlocked visit.checked.1 visit.checked.2 visit.peer with ⟨blocked, looked⟩
  rw [verdict] at round checked
  cases blocked with
  | true =>
    cases round
    exact checked.later (past ⟨visit.peer, .look, _, _⟩ (List.mem_append_right _ (List.mem_singleton_self _)))
  | false =>
    have both : ∀ event : Event String, trackerLog log ++
        [⟨visit.peer, .look, visit.checked.1, visit.checked.2⟩, event] =
        (trackerLog log ++ [⟨visit.peer, .look, visit.checked.1, visit.checked.2⟩]) ++ [event] := by
      intro event
      rw [List.append_assoc, List.singleton_append]
    rcases handled : handleClient so ctx visit.call ⟨server, visit.conn⟩ with ⟨failure | reply, next⟩
    · rw [handled] at round
      cases round
      obtain ⟨reached, onwards⟩ := note Outcome.noConfusion
      have atNote := checked.later (reached.trans onwards)
      have noted := atNote.noteFailure visit.memory visit.noted.1 visit.peer
      have last := past ⟨visit.peer, _, visit.noted.1, visit.noted.2⟩
        (List.mem_append_right _ (List.mem_cons_of_mem _ (List.mem_singleton_self _)))
      have kind : FailureTracker.noted (looked.noteFailure visit.memory visit.noted.1 visit.noted.2 visit.peer).1 =
          if decide ((looked.noteFailure visit.memory visit.noted.1 visit.noted.2 visit.peer).1 = 0) then .hit
          else .look := by
        unfold FailureTracker.noted
        simp
      rw [kind] at noted
      rw [trackerCalls, both]
      exact noted.later last
    · rw [handled] at round
      cases round
      obtain ⟨reached, onwards⟩ := note Outcome.noConfusion
      have atNote := checked.later (reached.trans onwards)
      have cleared := atNote.noteSuccess visit.noted.1 visit.peer
      have last := past ⟨visit.peer, .clear, visit.noted.1, visit.noted.2⟩
        (List.mem_append_right _ (List.mem_cons_of_mem _ (List.mem_singleton_self _)))
      rw [trackerCalls, both]
      exact cleared.later last

theorem acceptOne_refused_iff (online : benchMode ctx.vars = false)
    (follows : failures.Follows visit.checked.1 (trackerLog log)) (before : Event.InOrder (trackerLog log))
    (past : ∀ event ∈ trackerLog log, event.late ≤ visit.checked.1) (forward : visit.checked.1 ≤ visit.checked.2) :
    (acceptOne so ctx visit server failures).1 = .refused ↔ WindowBanned log visit.peer visit.checked.2 := by
  have ordered : ∀ w ∈ Event.windowOf failureLimits visit.peer (trackerLog log), w.first ≤ w.last :=
    fun w member => (Event.windowOf_first_le before past w member).1
  rw [WindowBanned, ← FailureTracker.isBlocked_iff (follows.later forward) forward ordered]
  unfold acceptOne
  rw [online, if_neg Bool.false_ne_true]
  rcases failures.isBlocked visit.checked.1 visit.checked.2 visit.peer with ⟨blocked, looked⟩
  cases blocked with
  | true => simp
  | false =>
    rcases handleClient so ctx visit.call ⟨server, visit.conn⟩ with ⟨failure | reply, next⟩
    · simp
    · simp

end Rounds

section Loops

variable {so : Sodium} {ctx : ServerContext} {server : ServerState} {visits : List Visit}

theorem acceptLoop_concat (visit : Visit) : acceptLoop so ctx server (visits ++ [visit]) =
    (acceptLoop so ctx server visits).accept so ctx visit := List.foldl_append

theorem accept_log (loop : Loop) (visit : Visit) : (loop.accept so ctx visit).log =
    loop.log ++ [(visit, (acceptOne so ctx visit loop.server loop.failures).1)] := rfl

theorem acceptLoop_follows {clock : Nat} (online : benchMode ctx.vars = false)
    (inOrder : Event.InOrder (trackerLog (acceptLoop so ctx server visits).log))
    (past : ∀ event ∈ trackerLog (acceptLoop so ctx server visits).log, event.late ≤ clock) :
    (acceptLoop so ctx server visits).failures.Follows clock (trackerLog (acceptLoop so ctx server visits).log) := by
  induction visits using List.reverseRecOn generalizing clock with
  | nil => exact FailureTracker.follows_empty.later (Nat.zero_le _)
  | append_singleton visits visit ih =>
    rw [acceptLoop_concat] at inOrder past ⊢
    rw [accept_log] at inOrder past
    obtain ⟨before, _, ordered, _⟩ := inOrder_round inOrder
    exact acceptOne_follows online (ih before ordered) inOrder past rfl

theorem acceptLoop_refused_iff {before after : List (Visit × Outcome)} {visit : Visit} {outcome : Outcome}
    (online : benchMode ctx.vars = false)
    (inOrder : Event.InOrder (trackerLog (acceptLoop so ctx server visits).log))
    (logged : (acceptLoop so ctx server visits).log = before ++ (visit, outcome) :: after) :
    outcome = .refused ↔ WindowBanned before visit.peer visit.checked.2 := by
  induction visits using List.reverseRecOn generalizing after with
  | nil => cases before <;> cases logged
  | append_singleton visits next ih =>
    rw [acceptLoop_concat, accept_log] at inOrder logged
    obtain ⟨earlier, forward, ordered, _⟩ := inOrder_round inOrder
    rcases List.eq_nil_or_concat after with none_after | ⟨front, last, behind⟩
    · rw [none_after] at logged
      obtain ⟨same, record⟩ := List.append_inj' logged rfl
      cases record
      have follows := acceptLoop_follows online earlier ordered
      rw [← same]
      exact acceptOne_refused_iff online follows earlier ordered forward
    · rw [behind, List.concat_eq_append, ← List.cons_append, ← List.append_assoc] at logged
      exact ih earlier (List.append_inj' logged rfl).1

/-- The accept loop refuses every host that deserves it exactly when for each of its connections the
    window of the very same port is banned too. -/
theorem host_refused_iff_port_banned (online : benchMode ctx.vars = false)
    (inOrder : Event.InOrder (trackerLog (acceptLoop so ctx server visits).log)) :
    (∀ before visit outcome after, (acceptLoop so ctx server visits).log = before ++ (visit, outcome) :: after →
      HostBanned before visit.source.host visit.checked.2 → outcome = .refused) ↔
    (∀ before visit outcome after, (acceptLoop so ctx server visits).log = before ++ (visit, outcome) :: after →
      HostBanned before visit.source.host visit.checked.2 → WindowBanned before visit.peer visit.checked.2) := by
  constructor
  · intro refuses before visit outcome after logged banned
    exact (acceptLoop_refused_iff online inOrder logged).mp (refuses before visit outcome after logged banned)
  · intro covers before visit outcome after logged banned
    exact (acceptLoop_refused_iff online inOrder logged).mpr (covers before visit outcome after logged banned)

theorem acceptLoop_visits (visits : List Visit) : (acceptLoop so ctx server visits).log.map Prod.fst = visits := by
  induction visits using List.reverseRecOn with
  | nil => rfl
  | append_singleton visits visit ih => rw [acceptLoop_concat, accept_log, List.map_append, ih]; rfl

end Loops

section Examples

def failingVisit (port : Nat) : Visit where
  source := ⟨"192.0.2.1", toString port, true⟩
  checked := (0, 0)
  noted := (0, 0)
  memory := (true, true)
  call :=
    { moment := ⟨0, none⟩
      memory := true
      setup := ⟨Suite.untouched, zeroChallenge, Suite.untouched⟩
      auth := ⟨Suite.untouched, Suite.untouched, Suite.untouched⟩ }
  conn := .opened [0]

def plainContext : ServerContext := ⟨fun _ => none, ⟨true, none, 0⟩, Suite.untouched⟩

def emptyServer : ServerState := ⟨[], .zero, .absent, .absent⟩

def portKept : List Visit := List.replicate 9 (failingVisit 0)

theorem portKept_outcomes : (acceptLoop oneSuite.sodium plainContext emptyServer portKept).log.map Prod.snd =
    List.replicate 8 (.failed true) ++ [.refused] := by
  decide +kernel

theorem portKept_log : (acceptLoop oneSuite.sodium plainContext emptyServer portKept).log =
    List.replicate 8 (failingVisit 0, .failed true) ++ [(failingVisit 0, .refused)] := by
  rw [List.zip_of_prod (acceptLoop_visits _) portKept_outcomes]
  rfl

theorem portKept_inOrder :
    Event.InOrder (trackerLog (acceptLoop oneSuite.sodium plainContext emptyServer portKept).log) := by
  rw [portKept_log]
  unfold Event.InOrder
  decide +kernel

theorem HostBanned.many {log : List (Visit × Outcome)} {host : String} {now : Nat} (banned : HostBanned log host now) :
    maxFailuresPerWindow ≤ log.length := by
  obtain ⟨before, first, middle, last, after, rfl, _, _, count, _⟩ := banned
  have within : middle.countP (failedFrom host) ≤ middle.length := List.countP_le_length
  simp only [List.length_append, List.length_cons]
  omega

/-- The ninth connection is refused, and its port is banned. -/
theorem host_refused_iff_port_banned_kept :
    (∀ before visit outcome after, (acceptLoop oneSuite.sodium plainContext emptyServer portKept).log =
      before ++ (visit, outcome) :: after → HostBanned before visit.source.host visit.checked.2 → outcome = .refused) ∧
    (∀ before visit outcome after, (acceptLoop oneSuite.sodium plainContext emptyServer portKept).log =
      before ++ (visit, outcome) :: after → HostBanned before visit.source.host visit.checked.2 →
        WindowBanned before visit.peer visit.checked.2) ∧
    HostBanned (List.replicate 8 (failingVisit 0, .failed true)) "192.0.2.1" 0 := by
  have refused : ∀ before visit outcome after, (acceptLoop oneSuite.sodium plainContext emptyServer portKept).log =
      before ++ (visit, outcome) :: after → HostBanned before visit.source.host visit.checked.2 → outcome = .refused := by
    intro before visit outcome after logged banned
    rw [portKept_log] at logged
    have many := banned.many
    have length := congrArg List.length logged
    simp only [List.length_append, List.length_replicate, List.length_cons, List.length_nil, maxFailuresPerWindow] at many length
    have nothing : after = [] := List.eq_nil_of_length_eq_zero (by omega)
    rw [nothing] at logged
    obtain ⟨_, same⟩ := List.append_inj' logged rfl
    cases same
    rfl
  refine ⟨refused, (host_refused_iff_port_banned rfl portKept_inOrder).mp refused, ?_⟩
  exact ⟨[], (failingVisit 0, .failed true), List.replicate 6 (failingVisit 0, .failed true),
    (failingVisit 0, .failed true), [], rfl, rfl, rfl, rfl, fun record member => by rw [List.eq_of_mem_replicate member]; rfl,
    Nat.zero_le _, by decide⟩

def portsChanged : List Visit := (List.range 9).map failingVisit

theorem portsChanged_outcomes : (acceptLoop oneSuite.sodium plainContext emptyServer portsChanged).log.map Prod.snd =
    List.replicate 9 (.failed true) := by
  decide +kernel

theorem portsChanged_log : (acceptLoop oneSuite.sodium plainContext emptyServer portsChanged).log =
    (List.range 9).map fun port => (failingVisit port, .failed true) := by
  rw [List.zip_of_prod (acceptLoop_visits _) portsChanged_outcomes]
  rfl

theorem portsChanged_inOrder :
    Event.InOrder (trackerLog (acceptLoop oneSuite.sodium plainContext emptyServer portsChanged).log) := by
  rw [portsChanged_log]
  unfold Event.InOrder
  decide +kernel

/-- The ninth connection is handled although eight connections of its host have failed. -/
theorem changed_ports_unblocked :
    benchMode plainContext.vars = false ∧
    Event.InOrder (trackerLog (acceptLoop oneSuite.sodium plainContext emptyServer portsChanged).log) ∧
    ¬ (∀ before visit outcome after, (acceptLoop oneSuite.sodium plainContext emptyServer portsChanged).log =
      before ++ (visit, outcome) :: after → HostBanned before visit.source.host visit.checked.2 →
        outcome = .refused) := by
  refine ⟨rfl, portsChanged_inOrder, ?_⟩
  rw [portsChanged_log]
  intro refuses
  have banned : HostBanned ((List.range 8).map fun port => (failingVisit port, .failed true)) "192.0.2.1" 0 := by
    refine ⟨[], (failingVisit 0, .failed true), (List.range' 1 6).map fun port => (failingVisit port, .failed true),
      (failingVisit 7, .failed true), [], rfl, rfl, rfl, rfl, ?_, ?_, ?_⟩
    · intro record member
      obtain ⟨port, _, rfl⟩ := List.mem_map.mp member
      rfl
    · exact Nat.zero_le _
    · decide
  have refused := refuses _ (failingVisit 8) (.failed true) [] rfl banned
  cases refused

end Examples

end ZkArche.CServer

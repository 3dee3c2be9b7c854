import ZkArche.Foundation.Collections
import ZkArche.Foundation.Windows
import ZkArche.Server.Policy

namespace ZkArche.Server

open Foundation

def failureLimits : Limits := ⟨failureWindow, failureBan, maxFailuresPerWindow⟩

/-- A call of the failure tracker at a time of the monotonic clock. -/
inductive TrackerCall where
  | isBlocked (now : Nat) (peer : String)
  | noteFailure (now : Nat) (peer : String)
  | noteSuccess (now : Nat) (peer : String)
  deriving DecidableEq

def TrackerCall.event : TrackerCall → Event String
  | .isBlocked now peer => ⟨peer, .look, now, now⟩
  | .noteFailure now peer => ⟨peer, .hit, now, now⟩
  | .noteSuccess now peer => ⟨peer, .clear, now, now⟩

def TrackerCall.now : TrackerCall → Nat
  | .isBlocked now _ => now
  | .noteFailure now _ => now
  | .noteSuccess now _ => now

def FailureTracker.call (tracker : FailureTracker) : TrackerCall → FailureTracker
  | .isBlocked now peer => (tracker.isBlocked now peer).2
  | .noteFailure now peer => tracker.noteFailure now peer
  | .noteSuccess _ peer => tracker.noteSuccess peer

def FailureState.note (now : Nat) (state : FailureState) : FailureState :=
  let state :=
    if now - state.firstFailure > failureWindow then
      { state with firstFailure := now, failures := 0, blockedUntil := none }
    else state
  let state := { state with failures := min (state.failures + 1) (2 ^ 32 - 1) }
  if state.failures ≥ maxFailuresPerWindow then { state with blockedUntil := some (now + failureBan) }
  else state

theorem noteFailure_eq (tracker : FailureTracker) (now : Nat) (peer : String) :
    tracker.noteFailure now peer = ⟨tracker.peers.insert peer (((tracker.peers.lookup peer).getD
      { firstFailure := now, failures := 0, blockedUntil := none }).note now)⟩ := rfl

def failureState (w : Window) : FailureState :=
  { firstFailure := w.first
    failures := min w.count (2 ^ 32 - 1)
    blockedUntil := if maxFailuresPerWindow ≤ w.count then some (w.last + failureBan) else none }

def FailureTracker.Follows (tracker : FailureTracker) (clock : Nat) (events : List (Event String)) : Prop :=
  ∀ peer, Tracks failureLimits failureState clock (tracker.peers.lookup peer)
    (Event.windowOf failureLimits peer events)

theorem blocked_failureState {w : Window} {now : Nat} :
    (failureState w).blockedUntil.any (fun stop => stop > now) = true ↔ w.Banned failureLimits now := by
  have limits : w.Banned failureLimits now ↔ maxFailuresPerWindow ≤ w.count ∧ now < w.last + failureBan := .rfl
  rw [limits, failureState]
  by_cases full : maxFailuresPerWindow ≤ w.count
  · rw [if_pos full, Option.any_some, decide_eq_true_eq]
    exact ⟨fun early => ⟨full, early⟩, fun banned => banned.2⟩
  · rw [if_neg full, Option.any_none]
    exact ⟨nofun, fun banned => absurd banned.1 full⟩

theorem retains_failureState {w : Window} {now : Nat} :
    ((failureState w).blockedUntil.any (fun stop => stop > now) ||
      decide (now - (failureState w).firstFailure ≤ failureWindow)) = decide ¬ w.Over failureLimits now := by
  have lapsed : w.Over failureLimits now ↔ failureWindow < now - w.first ∧ ¬ w.Banned failureLimits now := .rfl
  have start : (failureState w).firstFailure = w.first := rfl
  rw [start, Bool.eq_iff_iff, Bool.or_eq_true, decide_eq_true_eq, decide_eq_true_eq, blocked_failureState, lapsed]
  rw [not_and_or, not_not, not_lt]
  exact or_comm

namespace FailureTracker

variable {tracker : FailureTracker} {clock now : Nat} {peer other : String} {events : List (Event String)}

theorem Follows.later (follows : tracker.Follows clock events) (after : clock ≤ now) : tracker.Follows now events :=
  fun peer => (follows peer).later after

theorem follows_empty : empty.Follows clock [] := fun _ => .inl rfl

theorem lookup_isBlocked (tracker : FailureTracker) (now : Nat) (peer other : String) :
    (tracker.isBlocked now peer).2.peers.lookup other =
      (tracker.peers.lookup other).filter fun state =>
        state.blockedUntil.any (fun stop => stop > now) || decide (now - state.firstFailure ≤ failureWindow) :=
  AList.lookup_retain _ _ _

theorem isBlocked_follows (follows : tracker.Follows now events) (peer : String) :
    (tracker.isBlocked now peer).2.Follows now events := by
  intro other
  rw [lookup_isBlocked]
  exact (follows other).prune fun w _ => retains_failureState

theorem isBlocked_answer (tracker : FailureTracker) (now : Nat) (peer : String) :
    (tracker.isBlocked now peer).1 =
      (((tracker.isBlocked now peer).2.peers.lookup peer).bind (·.blockedUntil)).any fun stop => stop > now := by
  simp only [isBlocked]
  split
  case h_1 stop isSome => rw [isSome, Option.any_some]
  case h_2 isNone => rw [isNone, Option.any_none]

theorem isBlocked_iff (follows : tracker.Follows now events) :
    (tracker.isBlocked now peer).1 = true ↔
      ∃ w, Event.windowOf failureLimits peer events = some w ∧ w.Banned failureLimits now := by
  rw [isBlocked_answer]
  rcases isBlocked_follows follows peer peer with same | ⟨dropped, w, isSome, lapsed⟩
  · rw [same]
    cases window : Event.windowOf failureLimits peer events with
    | none => simp
    | some w =>
      rw [Option.map_some, Option.bind_some, blocked_failureState]
      simp only [Option.some.injEq, exists_eq_left']
  · rw [dropped, isSome]
    constructor
    · intro blocked
      cases blocked
    · rintro ⟨w', same, banned⟩
      cases same
      exact absurd banned lapsed.2

theorem note_failureState {w : Window} :
    (failureState w).note now = failureState (Window.note failureLimits now now (some w)) := by
  have large : maxFailuresPerWindow ≤ 2 ^ 32 - 1 := by decide
  by_cases ended : failureWindow < now - w.first
  · rw [Window.note_of_ended (Window.ended_self.mpr ended)]
    unfold failureState FailureState.note
    generalize 2 ^ 32 - 1 = limit at large ⊢
    have one : min 1 limit = 1 := by
      unfold maxFailuresPerWindow at large
      omega
    simp [ended, one, maxFailuresPerWindow]
  · rw [Window.note_of_open (fun lapsed => ended (Window.ended_self.mp lapsed))]
    unfold failureState FailureState.note
    generalize 2 ^ 32 - 1 = limit at large ⊢
    have counted : min (min w.count limit + 1) limit = min (w.count + 1) limit := by omega
    have threshold : maxFailuresPerWindow ≤ min (w.count + 1) limit ↔ maxFailuresPerWindow ≤ w.count + 1 := by
      omega
    simp only [gt_iff_lt, ended, if_false, counted, ge_iff_le, threshold]
    by_cases full : maxFailuresPerWindow ≤ w.count + 1
    · rw [if_pos full, if_pos full]
    · have few : ¬ maxFailuresPerWindow ≤ w.count := by omega
      rw [if_neg full, if_neg full, if_neg few]

theorem note_first_failure :
    ({ firstFailure := now, failures := 0, blockedUntil := none } : FailureState).note now =
      failureState ⟨now, now, 1⟩ := by
  have large : maxFailuresPerWindow ≤ 2 ^ 32 - 1 := by decide
  unfold failureState FailureState.note
  generalize 2 ^ 32 - 1 = limit at large ⊢
  have one : min 1 limit = 1 := by
    unfold maxFailuresPerWindow at large
    omega
  simp [one, maxFailuresPerWindow]

theorem lookup_noteFailure (follows : tracker.Follows now events) (peer : String) :
    (tracker.noteFailure now peer).peers.lookup peer =
      some (failureState (Window.note failureLimits now now (Event.windowOf failureLimits peer events))) := by
  rw [noteFailure_eq, AList.lookup_insert, Option.some.injEq]
  have tracks := follows peer
  cases stored : tracker.peers.lookup peer with
  | none =>
    rw [stored] at tracks
    rw [tracks.note_of_none]
    exact note_first_failure
  | some entry =>
    rw [stored] at tracks
    obtain ⟨w, isSome, rendered⟩ := tracks.eq_render
    rw [isSome, Option.getD_some, rendered]
    exact note_failureState

theorem Follows.call (follows : tracker.Follows clock events) {call : TrackerCall} (after : clock ≤ call.now) :
    (tracker.call call).Follows call.now (events ++ [call.event]) := by
  have start := follows.later after
  intro other
  rw [Event.windowOf_concat]
  cases call with
  | isBlocked now peer =>
    rw [Event.update_look rfl]
    exact isBlocked_follows start peer other
  | noteFailure now peer =>
    by_cases same : peer = other
    · rw [Event.update_hit same rfl]
      left
      have noted := lookup_noteFailure start peer
      rw [← same]
      exact noted
    · rw [Event.update_other same]
      have kept : (tracker.noteFailure now peer).peers.lookup other = tracker.peers.lookup other :=
        AList.lookup_insert_ne (Ne.symm same)
      rw [FailureTracker.call, kept]
      exact start other
  | noteSuccess now peer =>
    by_cases same : peer = other
    · rw [Event.update_clear same rfl]
      left
      rw [← same, FailureTracker.call, noteSuccess, AList.lookup_erase]
      rfl
    · rw [Event.update_other same]
      have kept : (tracker.noteSuccess peer).peers.lookup other = tracker.peers.lookup other :=
        AList.lookup_erase_ne (Ne.symm same)
      rw [FailureTracker.call, kept]
      exact start other

end FailureTracker

section Bursts

variable {calls : List TrackerCall} {now : Nat} {peer : String}

def trackerAfter (calls : List TrackerCall) : FailureTracker := calls.foldl FailureTracker.call .empty

def TimeOrdered (calls : List TrackerCall) : Prop := calls.Pairwise fun earlier later => earlier.now ≤ later.now

theorem trackerAfter_follows {clock : Nat} (ordered : TimeOrdered calls) (past : ∀ call ∈ calls, call.now ≤ clock) :
    (trackerAfter calls).Follows clock (calls.map (·.event)) := by
  induction calls using List.reverseRecOn generalizing clock with
  | nil => exact FailureTracker.follows_empty.later (Nat.zero_le _)
  | append_singleton calls call ih =>
    obtain ⟨before, _, after⟩ := List.pairwise_append.mp ordered
    have start := ih before fun earlier member => after earlier member call (by simp)
    rw [trackerAfter, List.foldl_append, List.map_append]
    exact (start.call (Nat.le_refl _)).later (past call (by simp))

theorem inOrder_of_timeOrdered (ordered : TimeOrdered calls) : Event.InOrder (calls.map (·.event)) := by
  constructor
  · intro event member
    obtain ⟨call, _, rfl⟩ := List.mem_map.mp member
    cases call <;> exact Nat.le_refl _
  · apply List.pairwise_map.mpr
    apply ordered.imp
    intro earlier later order
    cases earlier <;> cases later <;> exact order

/-- The failures of a peer within the last `FAILURE_WINDOW`. -/
def recentFailures (calls : List TrackerCall) (now : Nat) (peer : String) : List TrackerCall :=
  calls.filter fun call =>
    call.event.key = peer && call.event.kind = .hit && decide (now ≤ call.now + failureWindow)

/-- More failures than the documented number within the last `FAILURE_WINDOW`, and no success. -/
structure Burst (calls : List TrackerCall) (now : Nat) (peer : String) : Prop where
  failures : maxFailuresPerWindow < (recentFailures calls now peer).length
  unsuccessful : ∀ time, .noteSuccess time peer ∈ calls → time + failureWindow < now

/-- The failures of a peer since its counting window began. A window begins with the first
    failure, with the first failure after a success, and with the first failure that comes more
    than `FAILURE_WINDOW` after the beginning of the one before. -/
def windowFailures (calls : List TrackerCall) (peer : String) : Nat :=
  ((Event.windowOf failureLimits peer (calls.map (·.event))).map (·.count)).getD 0

theorem burst_window (ordered : TimeOrdered calls) (burst : Burst calls now peer) :
    ∃ w, Event.windowOf failureLimits peer (calls.map (·.event)) = some w ∧ now < w.last + failureBan := by
  have some_recent : recentFailures calls now peer ≠ [] := by
    intro none_recent
    have many := burst.failures
    rw [none_recent] at many
    exact Nat.not_lt_zero _ many
  obtain ⟨call, member⟩ := List.exists_mem_of_ne_nil _ some_recent
  obtain ⟨member, isRecent⟩ := List.mem_filter.mp member
  simp only [Bool.and_eq_true, decide_eq_true_eq] at isRecent
  obtain ⟨⟨own, isHit⟩, recent⟩ := isRecent
  have same : call.event.now = call.now := by cases call <;> rfl
  obtain ⟨w, isSome, young⟩ : ∃ w, Event.windowOf failureLimits peer (calls.map (·.event)) = some w ∧
      call.event.now ≤ w.last := Event.windowOf_recent
    (inOrder_of_timeOrdered ordered) (List.mem_map_of_mem member) own isHit (by
      intro event member itsOwn isClear
      obtain ⟨other, inside, rfl⟩ := List.mem_map.mp member
      cases other with
      | isBlocked time peer' => cases isClear
      | noteFailure time peer' => cases isClear
      | noteSuccess time peer' =>
        cases itsOwn
        have early := burst.unsuccessful time inside
        show time < call.event.now
        omega)
  have longer : failureWindow < failureBan := by decide
  exact ⟨w, isSome, by omega⟩

/-- The tracker blocks a peer after a burst exactly when the counting window holds enough of it. -/
theorem burst_blocked_iff_window_full (ordered : TimeOrdered calls) (past : ∀ call ∈ calls, call.now ≤ now) :
    (Burst calls now peer → ((trackerAfter calls).isBlocked now peer).1 = true) ↔
      (Burst calls now peer → maxFailuresPerWindow ≤ windowFailures calls peer) := by
  apply imp_congr_right
  intro burst
  obtain ⟨w, isSome, young⟩ := burst_window ordered burst
  rw [FailureTracker.isBlocked_iff (trackerAfter_follows ordered past), windowFailures, isSome]
  constructor
  · intro blocked
    obtain ⟨w', same, banned⟩ := blocked
    cases same
    exact banned.1
  · intro full
    exact ⟨w, rfl, full, young⟩

theorem burst_blocked_iff_window_full_at_once :
    Burst (List.replicate 9 (.noteFailure 0 "peer")) 0 "peer" ∧
      ((trackerAfter (List.replicate 9 (.noteFailure 0 "peer"))).isBlocked 0 "peer").1 = true := by
  have burst : Burst (List.replicate 9 (.noteFailure 0 "peer")) 0 "peer" := by
    constructor
    · decide
    · simp
  have window : maxFailuresPerWindow ≤ windowFailures (List.replicate 9 (.noteFailure 0 "peer")) "peer" := by
    decide
  have ordered : TimeOrdered (List.replicate 9 (.noteFailure 0 "peer")) :=
    List.pairwise_replicate.mpr (.inr (Nat.le_refl _))
  have past : ∀ call ∈ List.replicate 9 (TrackerCall.noteFailure 0 "peer"), call.now ≤ 0 := by
    simp [TrackerCall.now]
  exact ⟨burst, (burst_blocked_iff_window_full ordered past).mpr (fun _ => window) burst⟩

/-- Nine failures within two seconds that lie on both sides of the end of a counting window. -/
def misalignedBurst : List TrackerCall :=
  .noteFailure 0 "peer" :: List.replicate 2 (.noteFailure (seconds 59) "peer") ++
    List.replicate 7 (.noteFailure (seconds 61) "peer")

theorem misaligned_burst_unblocked :
    TimeOrdered misalignedBurst ∧ (∀ call ∈ misalignedBurst, call.now ≤ seconds 61) ∧
      Burst misalignedBurst (seconds 61) "peer" ∧
      ((trackerAfter misalignedBurst).isBlocked (seconds 61) "peer").1 = false := by
  refine ⟨?_, ?_, ⟨?_, ?_⟩, ?_⟩
  · unfold TimeOrdered
    decide
  · decide
  · decide
  · simp [misalignedBurst]
  · decide

end Bursts

end ZkArche.Server

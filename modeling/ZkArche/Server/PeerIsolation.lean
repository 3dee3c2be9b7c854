import ZkArche.Server.RateLimit

namespace ZkArche.Server

open Foundation

def TrackerCall.peer : TrackerCall → String
  | .isBlocked _ peer => peer
  | .noteFailure _ peer => peer
  | .noteSuccess _ peer => peer

/-- The calls about one peer, at the times at which they are made. -/
def ownCalls (peer : String) (calls : List TrackerCall) : List TrackerCall := calls.filter fun call => call.peer = peer

/-- The answers that the `is_blocked` calls about a peer get, in order. -/
def answersTo (peer : String) (tracker : FailureTracker) : List TrackerCall → List Bool
  | [] => []
  | call :: calls =>
    let later := answersTo peer (tracker.call call) calls
    match call with
    | .isBlocked now other => if other = peer then (tracker.isBlocked now peer).1 :: later else later
    | .noteFailure _ _ => later
    | .noteSuccess _ _ => later

def failuresSince (peer : String) (calls : List TrackerCall) : List Nat :=
  calls.foldl (fun times call =>
    match call with
    | .noteFailure now other => if other = peer then times ++ [now] else times
    | .noteSuccess _ other => if other = peer then [] else times
    | .isBlocked _ _ => times) []

section Isolation

variable {peer : String} {calls : List TrackerCall} {tracker alone : FailureTracker} {clock now : Nat}
  {events own : List (Event String)}

theorem event_key (call : TrackerCall) : call.event.key = call.peer := by
  cases call <;> rfl

theorem failuresSince_eq (peer : String) (calls : List TrackerCall) :
    failuresSince peer calls = Event.hitTimes peer (calls.map (·.event)) := by
  induction calls using List.reverseRecOn with
  | nil => rfl
  | append_singleton calls call ih =>
    rw [List.map_append, List.map_singleton, Event.hitTimes_concat, ← ih, failuresSince, List.foldl_append]
    cases call with
    | isBlocked now other => exact (ite_self _).symm
    | noteFailure now other => rfl
    | noteSuccess now other => rfl

/-- Two trackers that know the same window of a peer answer alike, however they were pruned. -/
theorem isBlocked_congr {other : FailureTracker} {others : List (Event String)} (follows : tracker.Follows now events)
    (alsoFollows : other.Follows now others)
    (same : Event.windowOf failureLimits peer events = Event.windowOf failureLimits peer others) :
    (tracker.isBlocked now peer).1 = (other.isBlocked now peer).1 := by
  rw [Bool.eq_iff_iff, FailureTracker.isBlocked_iff follows, FailureTracker.isBlocked_iff alsoFollows, same]

theorem answersTo_own (ordered : TimeOrdered calls) (future : ∀ call ∈ calls, clock ≤ call.now)
    (follows : tracker.Follows clock events) (alsoFollows : alone.Follows clock own)
    (same : Event.windowOf failureLimits peer events = Event.windowOf failureLimits peer own) :
    answersTo peer tracker calls = answersTo peer alone (ownCalls peer calls) := by
  induction calls generalizing tracker alone clock events own with
  | nil => rfl
  | cons call calls ih =>
    obtain ⟨after, ordered⟩ := List.pairwise_cons.mp ordered
    have forward := future call List.mem_cons_self
    have next := follows.call forward
    by_cases mine : call.peer = peer
    · have kept : ownCalls peer (call :: calls) = call :: ownCalls peer calls :=
        List.filter_cons_of_pos (decide_eq_true mine)
      have rest := ih ordered after next (alsoFollows.call forward) (by
        rw [Event.windowOf_concat, Event.windowOf_concat, same])
      have answer := isBlocked_congr (follows.later forward) (alsoFollows.later forward) same
      rw [kept]
      cases call with
      | isBlocked now other =>
        have given : (tracker.isBlocked now peer).1 = (alone.isBlocked now peer).1 := answer
        simp only [answersTo, rest, given]
      | noteFailure now other => simp only [answersTo, rest]
      | noteSuccess now other => simp only [answersTo, rest]
    · have dropped : ownCalls peer (call :: calls) = ownCalls peer calls :=
        List.filter_cons_of_neg (by simpa using mine)
      have rest := ih ordered after next (alsoFollows.later forward) (by
        rw [Event.windowOf_concat, Event.update_other (by rwa [event_key]), same])
      rw [dropped, ← rest]
      cases call with
      | isBlocked now other =>
        rw [answersTo]
        exact if_neg mine
      | noteFailure now other => rw [answersTo]
      | noteSuccess now other => rw [answersTo]

/-- The peer has failed often enough within one `FAILURE_WINDOW`, and the last time less than
    `FAILURE_BAN` ago. -/
def FailedLately (peer : String) (calls : List TrackerCall) (now : Nat) : Prop :=
  ∃ earlier burst last, failuresSince peer calls = earlier ++ burst ++ [last] ∧
    maxFailuresPerWindow ≤ (burst ++ [last]).length ∧
    (∀ time ∈ burst ++ [last], ∀ time' ∈ burst ++ [last], time' ≤ time + failureWindow) ∧ now < last + failureBan

theorem failedLately_of_blocked (ordered : TimeOrdered calls) (past : ∀ call ∈ calls, call.now ≤ now)
    (blocked : ((trackerAfter calls).isBlocked now peer).1 = true) : FailedLately peer calls now := by
  obtain ⟨w, isSome, full, early⟩ := (FailureTracker.isBlocked_iff (trackerAfter_follows ordered past)).mp blocked
  obtain ⟨earlier, burst, split, count, inside⟩ := Event.windowOf_spans (inOrder_of_timeOrdered ordered) w isSome
  refine ⟨earlier, burst, w.last, by rw [failuresSince_eq, split], ?_, ?_, early⟩
  · rw [List.length_append, List.length_singleton, count]
    exact full
  · intro time member time' member'
    have start := (inside time member).1
    have stop := (inside time' member').2
    have span : failureLimits.span = failureWindow := rfl
    omega

end Isolation

/-- The calls about other peers, and the entries that any call prunes, make no difference to the
    answers about a peer; and a peer is blocked only after enough failures of its own. -/
theorem peers_blocked_for_themselves {calls : List TrackerCall} (ordered : TimeOrdered calls) (peer : String) :
    answersTo peer .empty calls = answersTo peer .empty (ownCalls peer calls) ∧
      ∀ now, (∀ call ∈ calls, call.now ≤ now) → ((trackerAfter calls).isBlocked now peer).1 = true →
        FailedLately peer calls now := by
  constructor
  · exact answersTo_own ordered (fun call _ => Nat.zero_le _) FailureTracker.follows_empty
      FailureTracker.follows_empty rfl
  · intro now past blocked
    exact failedLately_of_blocked ordered past blocked

def alternatingCalls : List TrackerCall :=
  (List.range 8).flatMap (fun i => [.noteFailure (seconds i) "peer", .isBlocked (seconds i) "other"]) ++
    [.noteSuccess (seconds 8) "other", .isBlocked (seconds 8) "peer"]

theorem peers_blocked_for_themselves_alternating :
    answersTo "peer" .empty alternatingCalls = [true] ∧
      answersTo "peer" .empty (ownCalls "peer" alternatingCalls) = [true] ∧
      FailedLately "peer" alternatingCalls (seconds 9) := by
  have ordered : TimeOrdered alternatingCalls := by
    unfold TimeOrdered
    decide
  obtain ⟨same, lately⟩ := peers_blocked_for_themselves ordered "peer"
  have blocked : answersTo "peer" .empty alternatingCalls = [true] := by decide +kernel
  exact ⟨blocked, same.symm.trans blocked, lately (seconds 9) (by decide +kernel) (by decide +kernel)⟩

end ZkArche.Server

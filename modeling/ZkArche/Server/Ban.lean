import ZkArche.Server.RateLimit
import ZkArche.Server.Rebinding

namespace ZkArche.Server

open Foundation

variable {β S P : Type} [Field S] [AddCommGroup P] [Module S P]
variable [DecidableEq S]

/-- The call of the failure tracker that the next step of a thread makes. -/
def Pc.trackerCall (vars : Vars) (now : Nat) (peerKey : String) (pc : Pc β S P) : Option TrackerCall :=
  if benchMode vars then none
  else match pc with
    | .setupAccepted => some (.isBlocked now peerKey)
    | .answered (.ok _) => some (.noteSuccess now peerKey)
    | .answered (.error (.io _)) => some (.noteFailure now peerKey)
    | _ => none

def Action.trackerCall (vars : Vars) (world : World β S P) : Action β S P → Option TrackerCall
  | .advance i moment => (world.threads i).bind fun thread =>
    thread.pc.trackerCall vars moment.now thread.peerKey
  | _ => none

def FailureTracker.calls (tracker : FailureTracker) : Option TrackerCall → FailureTracker
  | some call => tracker.call call
  | none => tracker

omit [AddCommGroup P] in
theorem isRateLimited_bench {vars : Vars} (bench : benchMode vars = true) (moment : Moment β P) (peerKey : String)
    (state : ServerState β P) : isRateLimited vars moment peerKey state = (.ok false, state) := by
  rw [isRateLimited, if_pos bench]
  rfl

omit [AddCommGroup P] in
theorem isRateLimited_notBench {vars : Vars} (notBench : benchMode vars = false) (moment : Moment β P)
    (peerKey : String) (state : ServerState β P) :
    isRateLimited vars moment peerKey state = (.ok (state.failures.isBlocked moment.now peerKey).1,
      { state with failures := (state.failures.isBlocked moment.now peerKey).2 }) := by
  rw [isRateLimited, notBench]
  rfl

omit [AddCommGroup P] in
theorem checkRateLimit_failures (vars : Vars) (moment : Moment β P) (peerKey : String) (state : Connected β P) :
    (checkRateLimit vars moment peerKey state).2.server.failures =
      (isRateLimited vars moment peerKey state.server).2.failures := by
  rw [checkRateLimit, Effect.bind_apply, onServer_apply]
  rcases isRateLimited vars moment peerKey state.server with ⟨failure | blocked, after⟩
  · rfl
  · simp only [Effect.failIf_apply]
    split <;> rfl

variable [DecidableEq β] [DecidableEq P]

variable [Octet β]

theorem resume_failures (G : Suite β S P) (ctx : ServerContext S) (moment : Moment β P) (peerKey : String)
    (random : ClientRandom β S) (pc : Pc β S P) (state : Connected β P) :
    (resume G ctx moment peerKey random pc state).2.server.failures =
      state.server.failures.calls (pc.trackerCall ctx.vars moment.now peerKey) := by
  have changes := resume_changes G ctx moment peerKey random pc state
  cases pc with
  | setupAccepted =>
    rw [resume, Effect.bind_pure_state, checkRateLimit_failures]
    cases bench : benchMode ctx.vars with
    | true =>
      rw [isRateLimited_bench bench, Pc.trackerCall, if_pos bench]
      rfl
    | false =>
      rw [isRateLimited_notBench bench, Pc.trackerCall, bench]
      rfl
  | answered res =>
    rw [resume, Effect.bind_pure_state, onServer_apply, Effect.modify_apply]
    show (noteOutcome ctx.vars moment.now peerKey res state.server).failures = _
    cases bench : benchMode ctx.vars with
    | true =>
      simp only [noteOutcome, Pc.trackerCall, bench, if_true]
      rfl
    | false =>
      simp only [noteOutcome, Pc.trackerCall, bench, Bool.false_eq_true, if_false]
      rcases res with ⟨_ | _⟩ | _ <;> rfl
  | _ =>
    simp only [Pc.trackerCall, ite_self, FailureTracker.calls]
    first
      | exact congrArg ServerState.failures changes
      | obtain ⟨_, changed⟩ := changes
        rw [changed]

theorem perform_failures {G : Suite β S P} {ctx : ServerContext S} {world after : World β S P}
    {action : Action β S P} (taken : world.perform G ctx action = some after) :
    after.server.failures = world.server.failures.calls (action.trackerCall ctx.vars world) := by
  rcases perform_cases taken with ⟨_, _, _, _, rfl, _, rfl⟩ | ⟨_, _, _, rfl, _, rfl⟩ | ⟨i, moment, thread, rfl, present, rfl⟩
  · rfl
  · rfl
  · rw [Action.trackerCall, present, Option.bind_some]
    exact resume_failures G ctx moment thread.peerKey thread.random thread.pc ⟨world.server, thread.conn⟩

/-- The process and the last reading of its clock. -/
structure Clocked (β S P : Type) where
  world : World β S P
  clock : Nat

/-- A step of the process that does not set the clock back. -/
def Clocked.perform (G : Suite β S P) (ctx : ServerContext S) (clocked : Clocked β S P) (action : Action β S P) :
    Option (Clocked β S P) :=
  match action with
  | .advance _ moment =>
    if clocked.clock ≤ moment.now then (clocked.world.perform G ctx action).map (⟨·, moment.now⟩) else none
  | _ => (clocked.world.perform G ctx action).map (⟨·, clocked.clock⟩)

/-- The peer is blocked until the end of a ban that starts at `noted`, or for longer. -/
def FailureTracker.BannedSince (tracker : FailureTracker) (peer : String) (noted : Nat) : Prop :=
  ∃ state stop, tracker.peers.lookup peer = some state ∧ state.blockedUntil = some stop ∧ noted + failureBan ≤ stop

/-- No failure of a peer whose ban is in force comes later than `FAILURE_WINDOW` after the first
    failure of its window. -/
def FailureTracker.InWindow (tracker : FailureTracker) (peer : String) : TrackerCall → Prop
  | .noteFailure now other => other = peer → ∀ state, tracker.peers.lookup peer = some state →
      state.blockedUntil.any (fun stop => stop > now) = true → now - state.firstFailure ≤ failureWindow
  | _ => True

def TrackerCall.Unsuccessful (peer : String) : TrackerCall → Prop
  | .noteSuccess _ other => other ≠ peer
  | _ => True

namespace FailureTracker

variable {tracker : FailureTracker} {peer : String} {noted now : Nat}

theorem BannedSince.isBlocked (banned : tracker.BannedSince peer noted) (early : now < noted + failureBan)
    (other : String) : (tracker.isBlocked now other).2.BannedSince peer noted := by
  obtain ⟨state, stop, stored, until', late⟩ := banned
  have inForce : state.blockedUntil.any (fun stop => stop > now) = true := by
    rw [until', Option.any_some, decide_eq_true_eq]
    omega
  refine ⟨state, stop, ?_, until', late⟩
  rw [lookup_isBlocked, stored, Option.filter_some, inForce]
  rfl

theorem BannedSince.blocked (banned : tracker.BannedSince peer noted) (early : now < noted + failureBan) :
    (tracker.isBlocked now peer).1 = true := by
  obtain ⟨state, stop, stored, until', late⟩ := banned.isBlocked early peer
  rw [isBlocked_answer, stored, Option.bind_some, until', Option.any_some, decide_eq_true_eq]
  omega

theorem note_outside {state : FailureState} (outside : failureWindow < now - state.firstFailure) :
    state.note now = { firstFailure := now, failures := 1, blockedUntil := none } := by
  have one : min (0 + 1) (2 ^ 32 - 1) = 1 := by decide
  have few : ¬ 1 ≥ maxFailuresPerWindow := by decide
  simp only [FailureState.note, gt_iff_lt, outside, if_true, one, few, if_false]

theorem note_inside {state : FailureState} (inside : now - state.firstFailure ≤ failureWindow) :
    (state.note now).blockedUntil = some (now + failureBan) ∨
      (state.note now).blockedUntil = state.blockedUntil := by
  have unended : ¬ now - state.firstFailure > failureWindow := by omega
  simp only [FailureState.note, unended, if_false]
  split
  · exact .inl rfl
  · exact .inr rfl

theorem noteFailure_keeps_ban_iff {state : FailureState} {stop : Nat} (stored : tracker.peers.lookup peer = some state)
    (blocked : state.blockedUntil = some stop) (late : noted + failureBan ≤ stop) (after : noted ≤ now) :
    (tracker.noteFailure now peer).BannedSince peer noted ↔ now - state.firstFailure ≤ failureWindow := by
  have entry : (tracker.noteFailure now peer).peers.lookup peer = some (state.note now) := by
    rw [noteFailure_eq, AList.lookup_insert, stored, Option.getD_some]
  constructor
  · intro banned
    obtain ⟨state', stop', stored', blocked', _⟩ := banned
    by_contra outside
    have restarted := note_outside (show failureWindow < now - state.firstFailure by omega)
    rw [entry, restarted] at stored'
    cases stored'
    cases blocked'
  · intro inside
    rcases note_inside inside with extended | kept
    · exact ⟨state.note now, now + failureBan, entry, extended, by omega⟩
    · exact ⟨state.note now, stop, entry, kept.trans blocked, late⟩

theorem BannedSince.call (banned : tracker.BannedSince peer noted) {call : TrackerCall} (after : noted ≤ call.now)
    (early : call.now < noted + failureBan) (inWindow : tracker.InWindow peer call)
    (unsuccessful : call.Unsuccessful peer) : (tracker.call call).BannedSince peer noted := by
  cases call with
  | isBlocked now other => exact banned.isBlocked early other
  | noteFailure now other =>
    obtain ⟨state, stop, stored, blocked, late⟩ := banned
    by_cases same : other = peer
    · have inForce : state.blockedUntil.any (fun stop => stop > now) = true := by
        rw [blocked, Option.any_some, decide_eq_true_eq]
        exact Nat.lt_of_lt_of_le early late
      have inside := inWindow same state stored inForce
      rw [FailureTracker.call, same]
      exact (noteFailure_keeps_ban_iff stored blocked late after).mpr inside
    · have kept : (tracker.noteFailure now other).peers.lookup peer = tracker.peers.lookup peer :=
        AList.lookup_insert_ne (Ne.symm same)
      exact ⟨state, stop, kept.trans stored, blocked, late⟩
  | noteSuccess now other =>
    obtain ⟨state, stop, stored, blocked, late⟩ := banned
    have kept : (tracker.noteSuccess other).peers.lookup peer = tracker.peers.lookup peer :=
      AList.lookup_erase_ne (Ne.symm unsuccessful)
    exact ⟨state, stop, kept.trans stored, blocked, late⟩

end FailureTracker

/-- The step is not a success of the peer, and not a failure of it within a ban but outside of
    its window. -/
def SparesBan (ctx : ServerContext S) (peer : String) (clocked : Clocked β S P) (action : Action β S P) : Prop :=
  ∀ call, action.trackerCall ctx.vars clocked.world = some call →
    call.Unsuccessful peer ∧ clocked.world.server.failures.InWindow peer call

theorem clocked_perform {G : Suite β S P} {ctx : ServerContext S} {clocked after : Clocked β S P}
    {action : Action β S P} (taken : clocked.perform G ctx action = some after) :
    clocked.world.perform G ctx action = some after.world ∧ clocked.clock ≤ after.clock ∧
      ∀ call, action.trackerCall ctx.vars clocked.world = some call → call.now = after.clock := by
  cases action with
  | advance i moment =>
    simp only [Clocked.perform] at taken
    split at taken
    case isTrue forward =>
      obtain ⟨world, performed, rfl⟩ := Option.map_eq_some_iff.mp taken
      refine ⟨performed, forward, ?_⟩
      intro call made
      obtain ⟨thread, _, made⟩ := Option.bind_eq_some_iff.mp made
      unfold Pc.trackerCall at made
      split at made
      · cases made
      · split at made <;> cases made <;> rfl
    case isFalse => cases taken
  | accept i peerKey random writeFault =>
    obtain ⟨world, performed, rfl⟩ := Option.map_eq_some_iff.mp taken
    exact ⟨performed, Nat.le_refl _, nofun⟩
  | deliver i bytes =>
    obtain ⟨world, performed, rfl⟩ := Option.map_eq_some_iff.mp taken
    exact ⟨performed, Nat.le_refl _, nofun⟩

theorem ban_survives {G : Suite β S P} {ctx : ServerContext S} {banned last : Clocked β S P} {peer : String}
    {noted : Nat} (run : Run (Clocked.perform G ctx) (SparesBan ctx peer) banned last) (start : noted ≤ banned.clock)
    (blocked : banned.world.server.failures.BannedSince peer noted) (early : last.clock < noted + failureBan) :
    last.world.server.failures.BannedSince peer noted := by
  have holds := run.invariant
    (fun clocked => noted ≤ clocked.clock ∧
      (clocked.clock < noted + failureBan → clocked.world.server.failures.BannedSince peer noted))
    ⟨start, fun _ => blocked⟩ ?_
  · exact holds.2 early
  · intro clocked action next holds spares taken
    obtain ⟨performed, forward, timed⟩ := clocked_perform taken
    refine ⟨holds.1.trans forward, fun early => ?_⟩
    have before := holds.2 (Nat.lt_of_le_of_lt forward early)
    rw [perform_failures performed]
    cases made : action.trackerCall ctx.vars clocked.world with
    | none => exact before
    | some call =>
      obtain ⟨unsuccessful, inWindow⟩ := spares call made
      have time := timed call made
      exact before.call (by rw [time]; exact holds.1.trans forward) (by rw [time]; exact early) inWindow unsuccessful

theorem blocked_setup_refused {G : Suite β S P} {ctx : ServerContext S} {world : World β S P} {i : Nat}
    {thread : Thread β S P} {moment : Moment β P} (notBench : benchMode ctx.vars = false)
    (position : thread.pc = .setupAccepted)
    (blocked : (world.server.failures.isBlocked moment.now thread.peerKey).1 = true) :
    (world.advance G ctx i thread moment).threads i = some { thread with
      pc := .answered (.error (permissionDenied "peer temporarily rate limited")) } := by
  have refused : resume G ctx moment thread.peerKey thread.random .setupAccepted ⟨world.server, thread.conn⟩ =
      (.error (permissionDenied "peer temporarily rate limited"),
        ⟨{ world.server with failures := (world.server.failures.isBlocked moment.now thread.peerKey).2 },
          thread.conn⟩) := by
    have checked := onServer_apply (isRateLimited ctx.vars moment thread.peerKey) ⟨world.server, thread.conn⟩
    rw [isRateLimited_notBench notBench moment thread.peerKey world.server, blocked] at checked
    apply Effect.bind_of_error
    rw [checkRateLimit, Effect.bind_of_ok checked]
    rfl
  rw [← position] at refused
  rw [advance_of_eq refused, position]
  exact Function.update_self _ _ _

omit [Octet β] [Field S] [AddCommGroup P] [Module S P] [DecidableEq β] [DecidableEq P] [DecidableEq S] in
theorem notBench_of_noteFailure {ctx : ServerContext S} {world : World β S P} {action : Action β S P}
    {call : TrackerCall} (made : action.trackerCall ctx.vars world = some call) : benchMode ctx.vars = false := by
  cases action with
  | advance i moment =>
    obtain ⟨thread, _, made⟩ := Option.bind_eq_some_iff.mp made
    unfold Pc.trackerCall at made
    split at made
    case isTrue => cases made
    case isFalse notBench => exact Bool.eq_false_of_not_eq_true notBench
  | _ => cases made

/-- A ban lasts its term in every run in which no request of the peer succeeds, and none fails
    within the ban but outside of the counting window. -/
theorem ban_lasts_full_term {G : Suite β S P} {ctx : ServerContext S} {before banned last : Clocked β S P}
    {i : Nat} {moment : Moment β P} {peer : String} {state : FailureState}
    (taken : before.perform G ctx (.advance i moment) = some banned)
    (failed : (Action.advance i moment).trackerCall ctx.vars before.world = some (.noteFailure moment.now peer))
    (stored : banned.world.server.failures.peers.lookup peer = some state)
    (blocked : state.blockedUntil = some (moment.now + failureBan))
    (run : Run (Clocked.perform G ctx) (SparesBan ctx peer) banned last) {now : Nat} (current : last.clock ≤ now)
    (within : now < moment.now + failureBan) :
    (last.world.server.failures.isBlocked now peer).1 = true ∧
      ∀ j thread (later : Moment β P), last.world.threads j = some thread → thread.peerKey = peer →
        thread.pc = .setupAccepted → later.now = now →
        (last.world.advance G ctx j thread later).threads j = some { thread with
          pc := .answered (.error (permissionDenied "peer temporarily rate limited")) } := by
  obtain ⟨_, _, timed⟩ := clocked_perform taken
  have start : moment.now ≤ banned.clock := Nat.le_of_eq (timed _ failed)
  have survives := ban_survives run start ⟨state, _, stored, blocked, Nat.le_refl _⟩
    (Nat.lt_of_le_of_lt current within)
  have refuses := survives.blocked within
  refine ⟨refuses, ?_⟩
  intro j thread later present own position time
  apply blocked_setup_refused (notBench_of_noteFailure failed) position
  rw [own, time]
  exact refuses

def plainContext : ServerContext (ZMod 5) := { benchContext with vars := fun _ => none }

noncomputable def atSecond (count : Nat) : Moment UInt8 (ZMod 5) := { Moment.quiet with now := seconds count }

noncomputable def failingConnection (i : Nat) : List (Action UInt8 (ZMod 5) (ZMod 5)) :=
  [.accept i "peer" toyClientRandom fun _ => none, .deliver i [0], .advance i (atSecond 0)]

noncomputable def sevenFailures : List (Action UInt8 (ZMod 5) (ZMod 5)) :=
  (List.range 9).flatMap failingConnection ++ (List.range 7).map fun i => .advance i (atSecond 0)

noncomputable def clockedStart : Clocked UInt8 (ZMod 5) (ZMod 5) := ⟨boot toySuite 64 .quiet .absent .absent, 0⟩

noncomputable def openedSetup (i : Nat) : List (Action UInt8 (ZMod 5) (ZMod 5)) :=
  [.accept i "peer" toyClientRandom fun _ => none, .deliver i [0x01], .advance i (atSecond 0)]

noncomputable def upToEighthFailure : List (Action UInt8 (ZMod 5) (ZMod 5)) := sevenFailures ++ openedSetup 9

def tracked (clocked : Clocked UInt8 (ZMod 5) (ZMod 5)) : Option (Nat × Nat × Option Nat) × Nat :=
  ((clocked.world.server.failures.peers.lookup "peer").map fun state =>
    (state.firstFailure, state.failures, state.blockedUntil), clocked.clock)

theorem lookup_of_tracked {clocked : Clocked UInt8 (ZMod 5) (ZMod 5)} {first failures clock : Nat}
    {stop : Option Nat} (seen : tracked clocked = (some (first, failures, stop), clock)) :
    clocked.world.server.failures.peers.lookup "peer" = some ⟨first, failures, stop⟩ ∧ clocked.clock = clock := by
  obtain ⟨state, stored, same⟩ := Option.map_eq_some_iff.mp (congrArg (·.1) seen)
  constructor
  · rw [stored]
    cases same
    rfl
  · exact congrArg (·.2) seen

noncomputable def afterActions (actions : List (Action UInt8 (ZMod 5) (ZMod 5))) :
    Option (Clocked UInt8 (ZMod 5) (ZMod 5)) :=
  actions.foldlM (Clocked.perform toySuite plainContext) clockedStart

theorem afterActions_concat {middle : Clocked UInt8 (ZMod 5) (ZMod 5)} {actions : List (Action UInt8 (ZMod 5) (ZMod 5))}
    (before : afterActions actions = some middle) (action : Action UInt8 (ZMod 5) (ZMod 5)) :
    afterActions (actions ++ [action]) = middle.perform toySuite plainContext action := by
  unfold afterActions at before ⊢
  simp only [List.foldlM_append, before, Option.bind_eq_bind, Option.bind_some, List.foldlM_cons, List.foldlM_nil]
  exact Option.bind_fun_some _

noncomputable def eighthFailure : Action UInt8 (ZMod 5) (ZMod 5) := .advance 7 (atSecond 0)
noncomputable def lateFailure : Action UInt8 (ZMod 5) (ZMod 5) := .advance 8 (atSecond 61)
noncomputable def earlySetup : Action UInt8 (ZMod 5) (ZMod 5) := .advance 9 (atSecond 30)

set_option maxRecDepth 100000 in
theorem afterActions_seven : (afterActions upToEighthFailure).map
    (fun clocked => eighthFailure.trackerCall plainContext.vars clocked.world) =
      some (some (.noteFailure 0 "peer")) := by
  decide

set_option maxRecDepth 100000 in
theorem afterActions_eight : (afterActions (upToEighthFailure ++ [eighthFailure])).map
    tracked = some (some (0, 8, some (seconds 120)), 0) := by
  decide

set_option maxRecDepth 100000 in
theorem afterActions_eight_calls : (afterActions (upToEighthFailure ++ [eighthFailure])).map
    (fun clocked => [earlySetup.trackerCall plainContext.vars clocked.world,
      lateFailure.trackerCall plainContext.vars clocked.world]) =
      some [some (.isBlocked (seconds 30) "peer"), some (.noteFailure (seconds 61) "peer")] := by
  decide

theorem afterActions_banned :
    ∃ banned, afterActions (upToEighthFailure ++ [eighthFailure]) = some banned ∧
      banned.world.server.failures.peers.lookup "peer" = some ⟨0, 8, some (seconds 120)⟩ ∧
      earlySetup.trackerCall plainContext.vars banned.world = some (.isBlocked (seconds 30) "peer") ∧
      lateFailure.trackerCall plainContext.vars banned.world = some (.noteFailure (seconds 61) "peer") := by
  obtain ⟨banned, noted, seen⟩ := Option.map_eq_some_iff.mp afterActions_eight
  obtain ⟨same, noted', calls⟩ := Option.map_eq_some_iff.mp afterActions_eight_calls
  rw [noted] at noted'
  cases noted'
  obtain ⟨stored, _⟩ := lookup_of_tracked seen
  simp only [List.cons.injEq] at calls
  exact ⟨banned, noted, stored, calls.1, calls.2.1⟩

set_option maxRecDepth 100000 in
theorem afterActions_setup : (afterActions (upToEighthFailure ++ [eighthFailure] ++ [earlySetup])).map
    (·.clock) = some (seconds 30) := by
  decide

set_option maxRecDepth 100000 in
theorem afterActions_late : (afterActions (upToEighthFailure ++ [eighthFailure] ++ [lateFailure])).map tracked =
    some (some (seconds 61, 1, none), seconds 61) := by
  decide

/-- A refused enrollment within the ban leaves the peer blocked to the end of it. -/
theorem ban_lasts_full_term_after_setup :
    ∃ last, afterActions (upToEighthFailure ++ [eighthFailure] ++ [earlySetup]) = some last ∧
      (last.world.server.failures.isBlocked (seconds 119) "peer").1 = true := by
  obtain ⟨before, reached, failed⟩ := Option.map_eq_some_iff.mp afterActions_seven
  obtain ⟨banned, noted, stored, check, _⟩ := afterActions_banned
  obtain ⟨last, refused, clock⟩ := Option.map_eq_some_iff.mp afterActions_setup
  have run : Run (Clocked.perform toySuite plainContext) (SparesBan plainContext "peer") banned last := by
    apply Run.step earlySetup .refl
    · intro call made
      rw [check] at made
      cases made
      exact ⟨trivial, trivial⟩
    · rw [← afterActions_concat noted]
      exact refused
  rw [afterActions_concat reached] at noted
  refine ⟨last, refused, ?_⟩
  exact (ban_lasts_full_term noted failed stored rfl run (show last.clock ≤ seconds 119 by rw [clock]; decide)
    (by decide)).1

/-- A ban from second 0 to second 120 that a failure at second 61 ends. -/
theorem late_failure_ends_ban :
    ∃ before banned last state, Run (Clocked.perform toySuite plainContext) (fun _ _ => True) clockedStart before ∧
      before.perform toySuite plainContext eighthFailure = some banned ∧
      eighthFailure.trackerCall plainContext.vars before.world = some (.noteFailure 0 "peer") ∧
      banned.world.server.failures.peers.lookup "peer" = some state ∧
      state.blockedUntil = some (0 + failureBan) ∧
      Run (Clocked.perform toySuite plainContext) (fun clocked action =>
        ∀ call, action.trackerCall plainContext.vars clocked.world = some call → call.Unsuccessful "peer")
        banned last ∧
      last.clock < 0 + failureBan ∧ (last.world.server.failures.isBlocked last.clock "peer").1 = false := by
  obtain ⟨before, reached, failed⟩ := Option.map_eq_some_iff.mp afterActions_seven
  obtain ⟨banned, noted, stored, _, failure⟩ := afterActions_banned
  obtain ⟨last, ended, released⟩ := Option.map_eq_some_iff.mp afterActions_late
  obtain ⟨free, clock⟩ := lookup_of_tracked released
  rw [afterActions_concat noted] at ended
  rw [afterActions_concat reached] at noted
  refine ⟨before, banned, last, _, .of_foldlM (fun _ _ _ => trivial) reached, noted, failed, stored, rfl, ?_, ?_, ?_⟩
  · apply Run.step lateFailure .refl _ ended
    intro call made
    rw [failure] at made
    cases made
    exact trivial
  · rw [clock]
    decide
  · rw [FailureTracker.isBlocked_answer, FailureTracker.lookup_isBlocked, free, clock]
    rfl

end ZkArche.Server

import Mathlib.Data.List.Induction
import Mathlib.Data.Option.Basic

namespace Foundation

/-- A limiter bans for `ban` once `threshold` events fall into one window, which ends `span`
    after its first event. -/
structure Limits where
  span : Nat
  ban : Nat
  threshold : Nat

structure Window where
  first : Nat
  last : Nat
  count : Nat
  deriving DecidableEq

namespace Window

variable {limits : Limits} {window : Option Window} {w : Window}

def Banned (limits : Limits) (now : Nat) (w : Window) : Prop :=
  limits.threshold ≤ w.count ∧ now < w.last + limits.ban

instance (limits : Limits) (now : Nat) (w : Window) : Decidable (w.Banned limits now) :=
  inferInstanceAs (Decidable (_ ∧ _))

def Over (limits : Limits) (now : Nat) (w : Window) : Prop :=
  limits.span < now - w.first ∧ ¬ w.Banned limits now

instance (limits : Limits) (now : Nat) (w : Window) : Decidable (w.Over limits now) :=
  inferInstanceAs (Decidable (_ ∧ _))

/-- The window has ended for an event at `now`, or was dropped as over at the later reading of
    the clock that the event makes. -/
def Ended (limits : Limits) (now late : Nat) (w : Window) : Prop :=
  limits.span < now - w.first ∨ w.Over limits late

instance (limits : Limits) (now late : Nat) (w : Window) : Decidable (w.Ended limits now late) :=
  inferInstanceAs (Decidable (_ ∨ _))

theorem ended_self {now : Nat} : w.Ended limits now now ↔ limits.span < now - w.first := by
  unfold Ended Over
  tauto

theorem Banned.earlier {now clock : Nat} (banned : w.Banned limits now) (before : clock ≤ now) :
    w.Banned limits clock :=
  ⟨banned.1, Nat.lt_of_le_of_lt before banned.2⟩

theorem Over.later {now clock : Nat} (lapsed : w.Over limits clock) (after : clock ≤ now) : w.Over limits now := by
  obtain ⟨ended, free⟩ := lapsed
  constructor
  · omega
  · intro banned
    exact free (banned.earlier after)

def note (limits : Limits) (now late : Nat) : Option Window → Window
  | none => ⟨now, now, 1⟩
  | some w => if w.Ended limits now late then ⟨now, now, 1⟩ else ⟨w.first, now, w.count + 1⟩

@[simp] theorem note_last (limits : Limits) (now late : Nat) (window : Option Window) :
    (note limits now late window).last = now := by
  cases window with
  | none => rfl
  | some w =>
    rw [note]
    split <;> rfl

theorem note_of_ended {now late : Nat} (ended : w.Ended limits now late) :
    note limits now late (some w) = ⟨now, now, 1⟩ := by
  rw [note, if_pos ended]

theorem note_of_open {now late : Nat} (unended : ¬ w.Ended limits now late) :
    note limits now late (some w) = ⟨w.first, now, w.count + 1⟩ := by
  rw [note, if_neg unended]

theorem note_first_le {now late : Nat} (ordered : ∀ w ∈ window, w.first ≤ now) :
    (note limits now late window).first ≤ now := by
  cases window with
  | none => exact Nat.le_refl _
  | some w =>
    rw [note]
    split
    · exact Nat.le_refl _
    · exact ordered w rfl

def Spans (limits : Limits) (w : Window) (times : List Nat) : Prop :=
  ∃ earlier burst, times = earlier ++ burst ++ [w.last] ∧ burst.length + 1 = w.count ∧
    ∀ time ∈ burst ++ [w.last], w.first ≤ time ∧ time ≤ w.first + limits.span

theorem spans_alone (now : Nat) (times : List Nat) : Spans limits ⟨now, now, 1⟩ (times ++ [now]) := by
  refine ⟨times, [], by simp, rfl, ?_⟩
  intro time member
  have same : time = now := List.mem_singleton.mp member
  simp only
  omega

theorem Spans.note {now late : Nat} {times : List Nat} (spans : ∀ w ∈ window, w.Spans limits times)
    (ordered : ∀ w ∈ window, w.first ≤ now) : Spans limits (note limits now late window) (times ++ [now]) := by
  cases window with
  | none => exact spans_alone now times
  | some w =>
    by_cases ended : w.Ended limits now late
    · rw [note_of_ended ended]
      exact spans_alone now times
    · rw [note_of_open ended]
      obtain ⟨earlier, burst, split, count, inside⟩ := spans w rfl
      have start := ordered w rfl
      have stop : ¬ limits.span < now - w.first := fun lapsed => ended (.inl lapsed)
      refine ⟨earlier, burst ++ [w.last], by simp [split], by simp [← count], ?_⟩
      intro time member
      rcases List.mem_append.mp member with earlierTime | last
      · exact inside time earlierTime
      · have same : time = now := List.mem_singleton.mp last
        simp only
        omega

end Window

inductive EventKind where
  | hit
  | clear
  | look
  deriving DecidableEq

/-- An event of one key, with the first and the last reading of the clock that it makes. -/
structure Event (κ : Type) where
  key : κ
  kind : EventKind
  now : Nat
  late : Nat

namespace Event

variable {κ : Type} {limits : Limits} {key : κ} {events : List (Event κ)}

def InOrder (events : List (Event κ)) : Prop :=
  (∀ event ∈ events, event.now ≤ event.late) ∧ events.Pairwise fun earlier later => earlier.late ≤ later.now

theorem inOrder_concat {event : Event κ} :
    InOrder (events ++ [event]) ↔
      InOrder events ∧ event.now ≤ event.late ∧ ∀ earlier ∈ events, earlier.late ≤ event.now := by
  simp only [InOrder, List.mem_append, List.mem_singleton, List.pairwise_append, List.pairwise_singleton,
    forall_eq, true_and, or_imp, forall_and]
  tauto

variable [DecidableEq κ]

def update (limits : Limits) (key : κ) (window : Option Window) (event : Event κ) : Option Window :=
  if event.key = key then
    match event.kind with
    | .hit => some (Window.note limits event.now event.late window)
    | .clear => none
    | .look => window
  else window

def windowOf (limits : Limits) (key : κ) (events : List (Event κ)) : Option Window :=
  events.foldl (update limits key) none

theorem windowOf_concat (events : List (Event κ)) (event : Event κ) :
    windowOf limits key (events ++ [event]) = update limits key (windowOf limits key events) event :=
  List.foldl_append

theorem update_other {event : Event κ} (other : event.key ≠ key) (window : Option Window) :
    update limits key window event = window := by
  rw [update, if_neg other]

theorem update_hit {event : Event κ} (own : event.key = key) (hit : event.kind = .hit) (window : Option Window) :
    update limits key window event = some (Window.note limits event.now event.late window) := by
  rw [update, if_pos own, hit]

theorem update_clear {event : Event κ} (own : event.key = key) (clear : event.kind = .clear)
    (window : Option Window) : update limits key window event = none := by
  rw [update, if_pos own, clear]

theorem update_look {event : Event κ} (look : event.kind = .look) (window : Option Window) :
    update limits key window event = window := by
  rw [update, look]
  split <;> rfl

theorem windowOf_recent (inOrder : InOrder events) {hit : Event κ} (member : hit ∈ events) (own : hit.key = key)
    (isHit : hit.kind = .hit)
    (uncleared : ∀ event ∈ events, event.key = key → event.kind = .clear → event.late < hit.now) :
    ∃ w, windowOf limits key events = some w ∧ hit.now ≤ w.last := by
  induction events using List.reverseRecOn with
  | nil => cases member
  | append_singleton events event ih =>
    obtain ⟨before, forward, ordered⟩ := inOrder_concat.mp inOrder
    have notLater : hit.now ≤ event.now := by
      rcases List.mem_append.mp member with earlier | last
      · have start := before.1 hit earlier
        have stop := ordered hit earlier
        omega
      · exact Nat.le_of_eq (congrArg Event.now (List.mem_singleton.mp last))
    have uncleared' : event.key = key → event.kind ≠ .clear := by
      intro same clear
      have early := uncleared event (by simp) same clear
      omega
    rw [windowOf_concat]
    by_cases same : event.key = key ∧ event.kind = .hit
    · rw [update_hit same.1 same.2]
      exact ⟨_, rfl, by rw [Window.note_last]; exact notLater⟩
    · have skipped : update limits key (windowOf limits key events) event = windowOf limits key events := by
        by_cases mine : event.key = key
        · cases kind : event.kind with
          | hit => exact absurd ⟨mine, kind⟩ same
          | clear => exact absurd kind (uncleared' mine)
          | look => exact update_look kind _
        · exact update_other mine _
      rw [skipped]
      apply ih before
      · rcases List.mem_append.mp member with earlier | last
        · exact earlier
        · rw [List.mem_singleton.mp last] at own isHit
          exact absurd ⟨own, isHit⟩ same
      · intro other inside
        exact uncleared other (List.mem_append_left _ inside)

theorem windowOf_first_le {clock : Nat} (inOrder : InOrder events) (past : ∀ event ∈ events, event.late ≤ clock) :
    ∀ w ∈ windowOf limits key events, w.first ≤ w.last ∧ w.last ≤ clock := by
  induction events using List.reverseRecOn generalizing clock with
  | nil => simp [windowOf]
  | append_singleton events event ih =>
    obtain ⟨before, forward, ordered⟩ := inOrder_concat.mp inOrder
    have stop := past event (by simp)
    have older := ih before ordered
    intro w member
    rw [windowOf_concat, update] at member
    have later : ∀ w ∈ windowOf limits key events, w.first ≤ w.last ∧ w.last ≤ clock := by
      intro w member
      obtain ⟨start, bound⟩ := older w member
      omega
    split at member
    · cases kind : event.kind with
      | hit =>
        rw [kind] at member
        cases member
        rw [Window.note_last]
        refine ⟨Window.note_first_le fun w member => ?_, by omega⟩
        obtain ⟨start, bound⟩ := older w member
        omega
      | clear =>
        rw [kind] at member
        cases member
      | look =>
        rw [kind] at member
        exact later w member
    · exact later w member

def hitTimes (key : κ) (events : List (Event κ)) : List Nat :=
  events.foldl (fun times event =>
    if event.key = key then
      match event.kind with
      | .hit => times ++ [event.now]
      | .clear => []
      | .look => times
    else times) []

theorem hitTimes_concat (events : List (Event κ)) (event : Event κ) :
    hitTimes key (events ++ [event]) =
      if event.key = key then
        match event.kind with
        | .hit => hitTimes key events ++ [event.now]
        | .clear => []
        | .look => hitTimes key events
      else hitTimes key events :=
  List.foldl_append

theorem windowOf_spans (inOrder : InOrder events) :
    ∀ w ∈ windowOf limits key events, w.Spans limits (hitTimes key events) := by
  induction events using List.reverseRecOn with
  | nil =>
    intro w member
    cases member
  | append_singleton events event ih =>
    obtain ⟨before, forward, ordered⟩ := inOrder_concat.mp inOrder
    have older := ih before
    have young : ∀ w ∈ windowOf limits key events, w.first ≤ w.last ∧ w.last ≤ event.now :=
      windowOf_first_le before ordered
    intro w member
    rw [windowOf_concat, update] at member
    rw [hitTimes_concat]
    by_cases own : event.key = key
    · rw [if_pos own] at member ⊢
      cases kind : event.kind with
      | hit =>
        rw [kind] at member
        cases member
        apply Window.Spans.note older
        intro w member
        have bound := young w member
        omega
      | clear =>
        rw [kind] at member
        cases member
      | look =>
        rw [kind] at member
        exact older w member
    · rw [if_neg own] at member ⊢
      exact older w member

end Event

/-- The limits on a clock that counts `factor` times as fast. -/
def Limits.scale (factor : Nat) (limits : Limits) : Limits :=
  ⟨limits.span * factor, limits.ban * factor, limits.threshold⟩

def Window.scale (factor : Nat) (w : Window) : Window := ⟨w.first * factor, w.last * factor, w.count⟩

def Event.scale {κ : Type} (factor : Nat) (event : Event κ) : Event κ :=
  { event with now := event.now * factor, late := event.late * factor }

section Scale

variable {κ : Type} [DecidableEq κ] {limits : Limits} {factor : Nat} {w : Window} {now late : Nat} {key : κ}

theorem Window.banned_scale (positive : 0 < factor) :
    (w.scale factor).Banned (limits.scale factor) (now * factor) ↔ w.Banned limits now := by
  have before : now * factor < w.last * factor + limits.ban * factor ↔ now < w.last + limits.ban := by
    rw [← Nat.add_mul]
    exact Nat.mul_lt_mul_right positive
  exact and_congr_right fun _ => before

theorem Window.ended_scale (positive : 0 < factor) :
    (w.scale factor).Ended (limits.scale factor) (now * factor) (late * factor) ↔ w.Ended limits now late := by
  have after : ∀ time, limits.span * factor < time * factor - w.first * factor ↔ limits.span < time - w.first := by
    intro time
    rw [← Nat.sub_mul]
    exact Nat.mul_lt_mul_right positive
  have lapsed : (w.scale factor).Over (limits.scale factor) (late * factor) ↔ w.Over limits late :=
    and_congr (after late) (not_congr (banned_scale positive))
  exact or_congr (after now) lapsed

theorem Window.note_scale (positive : 0 < factor) (window : Option Window) :
    note (limits.scale factor) (now * factor) (late * factor) (window.map (Window.scale factor)) =
      (note limits now late window).scale factor := by
  cases window with
  | none => rfl
  | some w =>
    rw [Option.map_some]
    by_cases ended : w.Ended limits now late
    · rw [note_of_ended ended, note_of_ended ((ended_scale positive).mpr ended)]
      rfl
    · rw [note_of_open ended, note_of_open fun scaled => ended ((ended_scale positive).mp scaled)]
      rfl

theorem Event.windowOf_scale (positive : 0 < factor) (events : List (Event κ)) :
    windowOf (limits.scale factor) key (events.map (Event.scale factor)) =
      (windowOf limits key events).map (Window.scale factor) := by
  induction events using List.reverseRecOn with
  | nil => rfl
  | append_singleton events event ih =>
    rw [List.map_append, List.map_singleton, windowOf_concat, windowOf_concat, ih]
    by_cases own : event.key = key
    · have alsoOwn : (event.scale factor).key = key := own
      cases kind : event.kind with
      | hit =>
        rw [update_hit own kind, update_hit alsoOwn kind, Option.map_some]
        congr 1
        exact Window.note_scale positive _
      | clear => rw [update_clear own kind, update_clear alsoOwn kind, Option.map_none]
      | look =>
        have alsoLook : (event.scale factor).kind = .look := kind
        rw [update_look kind, update_look alsoLook]
    · have alsoOther : (event.scale factor).key ≠ key := own
      rw [update_other own, update_other alsoOther]

end Scale

/-- What a limiter stores of a window: nothing once the window is over, and otherwise its own
    rendering of it. -/
def Tracks {σ : Type} (limits : Limits) (render : Window → σ) (clock : Nat) (stored : Option σ)
    (window : Option Window) : Prop :=
  stored = window.map render ∨ (stored = none ∧ ∃ w, window = some w ∧ w.Over limits clock)

namespace Tracks

variable {σ : Type} {limits : Limits} {render : Window → σ} {clock : Nat} {stored : Option σ}
  {window : Option Window}

theorem later {now : Nat} (tracks : Tracks limits render clock stored window) (after : clock ≤ now) :
    Tracks limits render now stored window := by
  rcases tracks with same | ⟨dropped, w, isSome, lapsed⟩
  · exact .inl same
  · exact .inr ⟨dropped, w, isSome, lapsed.later after⟩

theorem prune {keep : σ → Bool} (tracks : Tracks limits render clock stored window)
    (keeps : ∀ w ∈ window, keep (render w) = decide ¬ w.Over limits clock) :
    Tracks limits render clock (stored.filter keep) window := by
  rcases tracks with same | ⟨dropped, lapsed⟩
  · cases window with
    | none =>
      left
      rw [same]
      rfl
    | some w =>
      by_cases lapsed : w.Over limits clock
      · right
        constructor
        · rw [same]
          simp [keeps w rfl, lapsed]
        · exact ⟨w, rfl, lapsed⟩
      · left
        rw [same]
        simp [keeps w rfl, lapsed]
  · right
    constructor
    · rw [dropped]
      rfl
    · exact lapsed

theorem note_of_none {now late : Nat} (tracks : Tracks limits render late none window) :
    Window.note limits now late window = ⟨now, now, 1⟩ := by
  rcases tracks with same | ⟨_, w, isSome, lapsed⟩
  · cases window with
    | none => rfl
    | some w => cases same
  · rw [isSome]
    exact Window.note_of_ended (.inr lapsed)

theorem eq_render {entry : σ} (tracks : Tracks limits render clock (some entry) window) :
    ∃ w, window = some w ∧ entry = render w := by
  rcases tracks with same | ⟨impossible, _⟩
  · obtain ⟨w, isSome, rendered⟩ := Option.map_eq_some_iff.mp same.symm
    exact ⟨w, isSome, rendered.symm⟩
  · cases impossible

end Tracks

end Foundation

import Mathlib.Data.List.Basic

namespace Foundation

variable {σ α : Type} {step : σ → α → Option σ} {admits : σ → α → Prop}

/-- The states that a machine reaches from `start` by steps that a condition admits in the
    state they are taken in. -/
inductive Run (step : σ → α → Option σ) (admits : σ → α → Prop) (start : σ) : σ → Prop where
  | refl : Run step admits start start
  | step {middle last : σ} (action : α) (before : Run step admits start middle)
      (admitted : admits middle action) (taken : step middle action = some last) : Run step admits start last

namespace Run

variable {start middle last : σ}

theorem invariant (holds : σ → Prop) (run : Run step admits start last) (initial : holds start)
    (preserved : ∀ state action next, holds state → admits state action → step state action = some next →
      holds next) : holds last := by
  induction run with
  | refl => exact initial
  | step action _ admitted taken ih => exact preserved _ action _ ih admitted taken

theorem trans (first : Run step admits start middle) (second : Run step admits middle last) :
    Run step admits start last := by
  induction second with
  | refl => exact first
  | step action _ admitted taken ih => exact .step action ih admitted taken

theorem mono {weaker : σ → α → Prop} (run : Run step admits start last)
    (weaken : ∀ state action, admits state action → weaker state action) : Run step weaker start last := by
  induction run with
  | refl => exact .refl
  | step action _ admitted taken ih => exact .step action ih (weaken _ _ admitted) taken

theorem of_foldlM {actions : List α} (everything : ∀ state, ∀ action ∈ actions, admits state action)
    (taken : actions.foldlM step start = some last) : Run step admits start last := by
  induction actions generalizing start with
  | nil =>
    cases taken
    exact .refl
  | cons action actions ih =>
    obtain ⟨next, here, there⟩ := Option.bind_eq_some_iff.mp taken
    have rest := ih (fun state other member => everything state other (List.mem_cons_of_mem _ member)) there
    exact (Run.step action .refl (everything start action List.mem_cons_self) here).trans rest

def guarded (step : σ → α → Option σ) (admits : σ → α → Prop) [∀ state action, Decidable (admits state action)]
    (state : σ) (action : α) : Option σ :=
  if admits state action then step state action else none

theorem of_guarded [∀ state action, Decidable (admits state action)] {actions : List α}
    (taken : actions.foldlM (guarded step admits) start = some last) : Run step admits start last := by
  induction actions generalizing start with
  | nil =>
    cases taken
    exact .refl
  | cons action actions ih =>
    obtain ⟨next, here, there⟩ := Option.bind_eq_some_iff.mp taken
    unfold guarded at here
    split at here
    case isTrue admitted => exact (Run.step action .refl admitted here).trans (ih there)
    case isFalse => cases here

end Run

section CrashPoints

/-- The state that a crash after `count` actions finds. -/
def stateAfter (step : σ → α → Option σ) (start : σ) (actions : List α) (count : Nat) : Option σ :=
  (actions.take count).foldlM step start

variable {start state : σ} {actions : List α} {action : α} {count : Nat}

theorem stateAfter_succ (there : actions[count]? = some action) :
    stateAfter step start actions (count + 1) = (stateAfter step start actions count).bind (step · action) := by
  obtain ⟨inside, here⟩ := List.getElem?_eq_some_iff.mp there
  rw [stateAfter, List.take_succ_eq_append_getElem inside, here, List.foldlM_append]
  simp [stateAfter]

theorem stateAfter_end (past : actions[count]? = none) :
    stateAfter step start actions (count + 1) = stateAfter step start actions count := by
  have bound := List.getElem?_eq_none_iff.mp past
  rw [stateAfter, stateAfter, List.take_of_length_le bound, List.take_of_length_le (Nat.le_succ_of_le bound)]

/-- A property holds at every crash point exactly when each step that is taken keeps it, which is
    told by a condition on the step alone. -/
theorem forall_crashPoints_iff {known good : σ → Prop} {careful : σ → α → Prop} (knownStart : known start)
    (goodStart : good start)
    (preserved : ∀ state action next, known state → step state action = some next → known next)
    (exact : ∀ state action next, known state → good state → step state action = some next →
      (good next ↔ careful state action)) :
    (∀ count state, stateAfter step start actions count = some state → good state) ↔
      ∀ count state action next, actions[count]? = some action → stateAfter step start actions count = some state →
        step state action = some next → careful state action := by
  have reached : ∀ count state, stateAfter step start actions count = some state → known state := by
    intro count
    induction count with
    | zero =>
      intro state here
      cases here
      exact knownStart
    | succ count ih =>
      intro state here
      cases there : actions[count]? with
      | none =>
        rw [stateAfter_end there] at here
        exact ih state here
      | some action =>
        rw [stateAfter_succ there, Option.bind_eq_some_iff] at here
        obtain ⟨before, earlier, taken⟩ := here
        exact preserved before action state (ih before earlier) taken
  constructor
  · intro throughout count state action next there here taken
    have after : stateAfter step start actions (count + 1) = some next := by
      rw [stateAfter_succ there, here]
      exact taken
    exact (exact state action next (reached count state here) (throughout count state here) taken).mp
      (throughout (count + 1) next after)
  · intro careful count
    induction count with
    | zero =>
      intro state here
      cases here
      exact goodStart
    | succ count ih =>
      intro state here
      cases there : actions[count]? with
      | none =>
        rw [stateAfter_end there] at here
        exact ih state here
      | some action =>
        have further := here
        rw [stateAfter_succ there, Option.bind_eq_some_iff] at further
        obtain ⟨before, earlier, taken⟩ := further
        exact (exact before action state (reached count before earlier) (ih before earlier) taken).mpr
          (careful count before action state there earlier taken)

end CrashPoints

end Foundation

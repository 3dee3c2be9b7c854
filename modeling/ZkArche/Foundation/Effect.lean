import Mathlib.Data.List.Basic
import Mathlib.Data.List.Forall2

namespace Foundation

/-- A computation over a persistent state. A failure keeps the state it was reached in,
    as a Rust function does that returns early with `?`. -/
def Effect (ε σ α : Type) : Type := σ → Except ε α × σ

namespace Effect

variable {ε σ τ α γ : Type}

protected def pure (value : α) : Effect ε σ α := fun state => (.ok value, state)

protected def bind (first : Effect ε σ α) (next : α → Effect ε σ γ) : Effect ε σ γ := fun state =>
  match first state with
  | (.ok value, after) => next value after
  | (.error failure, after) => (.error failure, after)

instance : Monad (Effect ε σ) where
  pure := Effect.pure
  bind := Effect.bind

def fail (failure : ε) : Effect ε σ α := fun state => (.error failure, state)
def failIf (condition : Bool) (failure : ε) : Effect ε σ Unit :=
  if condition then fail failure else pure ()
def lift (value : Except ε α) : Effect ε σ α := fun state => (value, state)
def get : Effect ε σ σ := fun state => (.ok state, state)
def modify (change : σ → σ) : Effect ε σ Unit := fun state => (.ok (), change state)

def atomically (update : σ → α × σ) : Effect ε σ α := fun state =>
  (.ok (update state).1, (update state).2)

def attempt (part : Effect ε σ α) : Effect ε σ (Except ε α) := fun state => (.ok (part state).1, (part state).2)

def zoom (view : σ → τ) (put : τ → σ → σ) (part : Effect ε τ α) : Effect ε σ α := fun state =>
  ((part (view state)).1, put (part (view state)).2 state)

@[simp] theorem pure_apply (value : α) (state : σ) :
    (pure value : Effect ε σ α) state = (.ok value, state) := rfl

@[simp] theorem fail_apply (failure : ε) (state : σ) :
    (fail failure : Effect ε σ α) state = (.error failure, state) := rfl

@[simp] theorem lift_apply (value : Except ε α) (state : σ) :
    (lift value : Effect ε σ α) state = (value, state) := rfl

theorem lift_of_ok {result : Except ε α} {value : α} (succeeds : result = .ok value) {state : σ} :
    (lift result : Effect ε σ α) state = (.ok value, state) := by
  rw [lift_apply, succeeds]

@[simp] theorem get_apply (state : σ) : (get : Effect ε σ σ) state = (.ok state, state) := rfl

@[simp] theorem modify_apply (change : σ → σ) (state : σ) :
    (modify change : Effect ε σ Unit) state = (.ok (), change state) := rfl

@[simp] theorem atomically_apply (update : σ → α × σ) (state : σ) :
    (atomically update : Effect ε σ α) state = (.ok (update state).1, (update state).2) := rfl

theorem attempt_apply (part : Effect ε σ α) (state : σ) :
    part.attempt state = (.ok (part state).1, (part state).2) := rfl

theorem attempt_of_eq {part : Effect ε σ α} {state after : σ} {result : Except ε α} (run : part state = (result, after)) :
    part.attempt state = (.ok result, after) := by
  rw [attempt_apply, run]

theorem zoom_apply (view : σ → τ) (put : τ → σ → σ) (part : Effect ε τ α) (state : σ) :
    zoom view put part state = ((part (view state)).1, put (part (view state)).2 state) := rfl

theorem zoom_eq_iff {view : σ → τ} {put : τ → σ → σ} {part : Effect ε τ α} {state after : σ} {result : Except ε α} :
    zoom view put part state = (result, after) ↔
      ∃ inner, part (view state) = (result, inner) ∧ after = put inner state := by
  rw [zoom_apply, Prod.mk.injEq]
  constructor
  · intro ⟨outcome, same⟩
    exact ⟨_, Prod.ext outcome rfl, same.symm⟩
  · intro ⟨inner, run, same⟩
    rw [run]
    exact ⟨rfl, same.symm⟩

@[simp] theorem failIf_apply (condition : Bool) (failure : ε) (state : σ) :
    (failIf condition failure : Effect ε σ Unit) state =
      if condition then (.error failure, state) else (.ok (), state) := by
  cases condition <;> rfl

theorem bind_apply (first : Effect ε σ α) (next : α → Effect ε σ γ) (state : σ) :
    (first >>= next) state =
      match first state with
      | (.ok value, after) => next value after
      | (.error failure, after) => (.error failure, after) := rfl

theorem bind_of_ok {first : Effect ε σ α} {next : α → Effect ε σ γ} {state after : σ} {value : α}
    (run : first state = (.ok value, after)) : (first >>= next) state = next value after := by
  rw [bind_apply, run]

theorem bind_of_error {first : Effect ε σ α} {next : α → Effect ε σ γ} {state after : σ} {failure : ε}
    (run : first state = (.error failure, after)) :
    (first >>= next) state = (.error failure, after) := by
  rw [bind_apply, run]

theorem bind_ok {first : Effect ε σ α} {next : α → Effect ε σ γ} {state final : σ} {result : γ} :
    (first >>= next) state = (.ok result, final) ↔
      ∃ value middle, first state = (.ok value, middle) ∧ next value middle = (.ok result, final) := by
  rw [bind_apply]
  constructor
  · intro run
    rcases outcome : first state with ⟨failure | value, middle⟩
    · rw [outcome] at run
      cases run
    · rw [outcome] at run
      exact ⟨value, middle, rfl, run⟩
  · rintro ⟨value, middle, run, rest⟩
    rw [run]
    exact rest

theorem bind_error {first : Effect ε σ α} {next : α → Effect ε σ γ} {state final : σ} {failure : ε} :
    (first >>= next) state = (.error failure, final) ↔
      first state = (.error failure, final) ∨
      ∃ value middle, first state = (.ok value, middle) ∧
        next value middle = (.error failure, final) := by
  rw [bind_apply]
  rcases outcome : first state with ⟨failed | value, middle⟩
  · simp
  · simp

theorem bind_pure_state (first : Effect ε σ α) (value : α → γ) (state : σ) :
    ((first >>= fun result => pure (value result)) state).2 = (first state).2 := by
  rw [bind_apply]
  rcases first state with ⟨_ | _, _⟩ <;> rfl

@[simp] theorem failIf_ok {condition : Bool} {failure : ε} {state after : σ} {value : Unit} :
    (failIf condition failure : Effect ε σ Unit) state = (.ok value, after) ↔
      condition = false ∧ after = state := by
  cases condition <;> simp [eq_comm]

theorem failIf_error {condition : Bool} {failure error : ε} {state after : σ}
    (failed : (failIf condition failure : Effect ε σ Unit) state = (.error error, after)) : after = state := by
  rw [failIf_apply] at failed
  split at failed <;> cases failed
  rfl

theorem failIf_of_false {condition : Bool} (passed : condition = false) {failure : ε} {state : σ} :
    (failIf condition failure : Effect ε σ Unit) state = (.ok (), state) :=
  failIf_ok.mpr ⟨passed, rfl⟩

instance : LawfulMonad (Effect ε σ) := LawfulMonad.mk' _
  (fun first => by
    funext state
    show (first >>= fun value => pure value) state = first state
    rw [bind_apply]
    rcases first state with ⟨_ | _, _⟩ <;> rfl)
  (fun value next => rfl)
  (fun first next last => by
    funext state
    simp only [bind_apply]
    rcases first state with ⟨_ | value, middle⟩ <;> rfl)

def Succeeds (run : Effect ε σ α) (state : σ) : Prop := ∃ value after, run state = (.ok value, after)

theorem succeeds_of_ok {run : Effect ε σ α} {state after : σ} {value : α} (ends : run state = (.ok value, after)) :
    Succeeds run state := ⟨value, after, ends⟩

theorem succeeds_bind {first : Effect ε σ α} {next : α → Effect ε σ γ} {state : σ} :
    Succeeds (first >>= next) state ↔
      ∃ value middle, first state = (.ok value, middle) ∧ Succeeds (next value) middle := by
  constructor
  · rintro ⟨result, final, run⟩
    obtain ⟨value, middle, head, tail⟩ := bind_ok.mp run
    exact ⟨value, middle, head, result, final, tail⟩
  · rintro ⟨value, middle, head, result, final, tail⟩
    exact ⟨result, final, bind_ok.mpr ⟨value, middle, head, tail⟩⟩

theorem succeeds_pure (value : α) (state : σ) : Succeeds (pure value : Effect ε σ α) state := ⟨value, state, rfl⟩

theorem succeeds_failIf_bind {condition : Bool} {failure : ε} {next : Unit → Effect ε σ γ} {state : σ} :
    Succeeds (failIf condition failure >>= next) state ↔ condition = false ∧ Succeeds (next ()) state := by
  rw [succeeds_bind]
  constructor
  · rintro ⟨value, middle, run, tail⟩
    obtain ⟨passed, rfl⟩ := failIf_ok.mp run
    exact ⟨passed, tail⟩
  · rintro ⟨passed, tail⟩
    exact ⟨(), state, failIf_of_false passed, tail⟩

theorem succeeds_lift_bind {result : Except ε α} {next : α → Effect ε σ γ} {state : σ} :
    Succeeds (lift result >>= next) state ↔ ∃ value, result = .ok value ∧ Succeeds (next value) state := by
  rw [succeeds_bind]
  constructor
  · rintro ⟨value, middle, run, tail⟩
    rw [lift_apply, Prod.mk.injEq] at run
    obtain ⟨succeeds, rfl⟩ := run
    exact ⟨value, succeeds, tail⟩
  · rintro ⟨value, succeeds, tail⟩
    exact ⟨value, state, lift_of_ok succeeds, tail⟩

theorem succeeds_zoom_bind {view : σ → τ} {put : τ → σ → σ} {part : Effect ε τ α} {next : α → Effect ε σ γ}
    {state : σ} : Succeeds (zoom view put part >>= next) state ↔
      ∃ value inner, part (view state) = (.ok value, inner) ∧ Succeeds (next value) (put inner state) := by
  rw [succeeds_bind]
  constructor
  · rintro ⟨value, middle, run, tail⟩
    rw [zoom_apply, Prod.mk.injEq] at run
    obtain ⟨ends, rfl⟩ := run
    exact ⟨value, _, Prod.ext ends rfl, tail⟩
  · rintro ⟨value, inner, run, tail⟩
    exact ⟨value, put inner state, by rw [zoom_apply, run], tail⟩

def Keeps (holds : σ → Prop) (run : Effect ε σ α) : Prop := ∀ state, holds state → holds (run state).2

variable {holds : σ → Prop}

theorem Keeps.bind {first : Effect ε σ α} {next : α → Effect ε σ γ} (head : Keeps holds first)
    (tail : ∀ value, Keeps holds (next value)) : Keeps holds (first >>= next) := by
  intro state start
  have middle := head state start
  rcases outcome : first state with ⟨failure | value, after⟩
  · rw [outcome] at middle
    rw [bind_of_error outcome]
    exact middle
  · rw [outcome] at middle
    rw [bind_of_ok outcome]
    exact tail value after middle

theorem keeps_pure (value : α) : Keeps holds (pure value : Effect ε σ α) := fun _ start => start

theorem keeps_lift (value : Except ε α) : Keeps holds (lift value : Effect ε σ α) := fun _ start => start

theorem keeps_get : Keeps holds (get : Effect ε σ σ) := fun _ start => start

theorem keeps_failIf (condition : Bool) (failure : ε) :
    Keeps holds (failIf condition failure : Effect ε σ Unit) := by
  intro state start
  cases condition <;> exact start

/-- The frame rule: a property that no change of one component can break is kept by every
    computation on that component. -/
theorem keeps_zoom {view : σ → τ} {put : τ → σ → σ} {part : Effect ε τ α}
    (frame : ∀ state inner, holds state → holds (put inner state)) : Keeps holds (zoom view put part) :=
  fun state start => frame state _ start

def Returns (post : α → Prop) (run : Effect ε σ α) : Prop :=
  ∀ state value after, run state = (.ok value, after) → post value

theorem Returns.bind {pre : α → Prop} {post : γ → Prop} {first : Effect ε σ α} {next : α → Effect ε σ γ}
    (head : Returns pre first) (tail : ∀ value, pre value → Returns post (next value)) : Returns post (first >>= next) := by
  intro state value after run
  obtain ⟨result, middle, here, there⟩ := bind_ok.mp run
  exact tail result (head state result middle here) middle value after there

theorem Returns.last {post : γ → Prop} {first : Effect ε σ α} {next : α → Effect ε σ γ}
    (tail : ∀ value, Returns post (next value)) : Returns post (first >>= next) := by
  intro state value after run
  obtain ⟨result, middle, _, there⟩ := bind_ok.mp run
  exact tail result middle value after there

theorem returns_pure {post : α → Prop} {value : α} (holds : post value) : Returns post (pure value : Effect ε σ α) := by
  intro state value after run
  cases run
  exact holds

theorem returns_failIf (condition : Bool) (failure : ε) :
    Returns (fun _ => condition = false) (failIf condition failure : Effect ε σ Unit) :=
  fun _ _ _ run => (failIf_ok.mp run).1

/-- What follows has to keep the property only for the values that the first part can return. -/
theorem Keeps.bind_returned {post : α → Prop} {first : Effect ε σ α} {next : α → Effect ε σ γ} (head : Keeps holds first)
    (returned : Returns post first) (tail : ∀ value, post value → Keeps holds (next value)) :
    Keeps holds (first >>= next) := by
  intro state start
  have middle := head state start
  rcases outcome : first state with ⟨failure | value, after⟩
  · rw [outcome] at middle
    rw [bind_of_error outcome]
    exact middle
  · rw [outcome] at middle
    rw [bind_of_ok outcome]
    exact tail value (returned state value after outcome) after middle

theorem Returns.zoom {post : α → Prop} {view : σ → τ} {put : τ → σ → σ} {part : Effect ε τ α}
    (inner : Returns post part) : Returns post (zoom view put part) := by
  intro state value after run
  rw [zoom_apply, Prod.mk.injEq] at run
  exact inner (view state) value _ (Prod.ext run.1 rfl)

end Effect

section Pure

variable {ε α γ : Type}

theorem Except.bind_ok_iff {first : Except ε α} {next : α → Except ε γ} {result : γ} :
    (first >>= next) = .ok result ↔ ∃ value, first = .ok value ∧ next value = .ok result := by
  cases first with
  | error failure => exact ⟨nofun, fun ⟨_, impossible, _⟩ => nomatch impossible⟩
  | ok value => exact ⟨fun run => ⟨value, rfl, run⟩, fun ⟨_, same, run⟩ => by cases same; exact run⟩

theorem Except.bind_error_iff {first : Except ε α} {next : α → Except ε γ} {failure : ε} :
    (first >>= next) = .error failure ↔
      first = .error failure ∨ ∃ value, first = .ok value ∧ next value = .error failure := by
  cases first with
  | error failed =>
    refine ⟨fun run => .inl (by cases run; rfl), ?_⟩
    rintro (same | ⟨_, impossible, _⟩)
    · cases same
      rfl
    · cases impossible
  | ok value =>
    refine ⟨fun run => .inr ⟨value, rfl, run⟩, ?_⟩
    rintro (impossible | ⟨_, same, run⟩)
    · cases impossible
    · cases same
      exact run

theorem Except.mapM_ok_iff {step : α → Except ε γ} {items : List α} {results : List γ} :
    items.mapM step = .ok results ↔ List.Forall₂ (fun item result => step item = .ok result) items results := by
  induction items generalizing results with
  | nil =>
    simp only [List.mapM_nil, List.forall₂_nil_left_iff]
    exact ⟨fun run => by cases run; rfl, fun empty => by rw [empty]; rfl⟩
  | cons item items ih =>
    simp only [List.mapM_cons, Except.bind_ok_iff, List.forall₂_cons_left_iff, ih]
    constructor
    · rintro ⟨value, here, rest, there, run⟩
      cases run
      exact ⟨value, rest, here, there, rfl⟩
    · rintro ⟨value, rest, here, there, rfl⟩
      exact ⟨value, here, rest, there, rfl⟩

end Pure

end Foundation

import Mathlib.Algebra.Order.Ring.Nat
import Mathlib.Data.Finset.Card
import Mathlib.Logic.Function.Basic

namespace ZkArche.Server

def maxActiveConnections : Nat := 128

/-- Where a thread stands between two atomic steps of `ActiveConnGuard::try_acquire`. -/
inductive Acquiring (word : Nat) where
  | outside
  | looping
  | loaded (current : BitVec word)

/-- The counter, the guards that are alive, how many were handed out so far, and the threads. -/
structure Limiter (word : Nat) (τ : Type) where
  active : BitVec word
  live : Finset Nat
  issued : Nat
  threads : τ → Acquiring word

namespace Limiter

variable {word : Nat} {τ : Type}

def idle (word : Nat) (τ : Type) : Limiter word τ :=
  { active := 0, live := ∅, issued := 0, threads := fun _ => .outside }

/-- The atomic steps. A guard is dropped by whoever owns it, also while a handler panics. -/
inductive Event (τ : Type) where
  | call (thread : τ)
  | load (thread : τ)
  | refuse (thread : τ)
  | exchange (thread : τ)
  | drop (guard : Nat)

variable [DecidableEq τ]

def goto (limiter : Limiter word τ) (thread : τ) (next : Acquiring word) : Limiter word τ :=
  { limiter with threads := Function.update limiter.threads thread next }

/-- The exchange of a thread that has loaded `current`; it fails when the counter has changed since. -/
def exchange (limiter : Limiter word τ) (thread : τ) (current : BitVec word) : Limiter word τ :=
  if limiter.active = current then
    { limiter.goto thread .outside with
      active := current + 1
      live := insert limiter.issued limiter.live
      issued := limiter.issued + 1 }
  else limiter.goto thread .looping

def step (limiter : Limiter word τ) : Event τ → Option (Limiter word τ)
  | .call thread =>
    match limiter.threads thread with
    | .outside => some (limiter.goto thread .looping)
    | _ => none
  | .load thread =>
    match limiter.threads thread with
    | .looping => some (limiter.goto thread (.loaded limiter.active))
    | _ => none
  | .refuse thread =>
    match limiter.threads thread with
    | .loaded current => if current.toNat ≥ maxActiveConnections then some (limiter.goto thread .outside) else none
    | _ => none
  | .exchange thread =>
    match limiter.threads thread with
    | .loaded current => if current.toNat ≥ maxActiveConnections then none else some (limiter.exchange thread current)
    | _ => none
  | .drop guard =>
    if guard ∈ limiter.live then
      some { limiter with active := limiter.active - 1, live := limiter.live.erase guard }
    else none

structure Exact (limiter : Limiter word τ) : Prop where
  counted : limiter.active.toNat = limiter.live.card
  bounded : limiter.live.card ≤ maxActiveConnections
  fresh : ∀ guard ∈ limiter.live, guard < limiter.issued

section Counters

variable {counter : BitVec word}

theorem toNat_succ (room : counter.toNat + 1 < 2 ^ word) : (counter + 1).toNat = counter.toNat + 1 := by
  have one : 1 < 2 ^ word := by omega
  rw [BitVec.toNat_add, BitVec.ofNat_eq_ofNat, BitVec.toNat_ofNat, Nat.mod_eq_of_lt one, Nat.mod_eq_of_lt room]

theorem toNat_pred (positive : 0 < counter.toNat) : (counter - 1).toNat = counter.toNat - 1 := by
  have bound := counter.isLt
  have one : 1 < 2 ^ word := by omega
  rw [BitVec.toNat_sub, BitVec.ofNat_eq_ofNat, BitVec.toNat_ofNat, Nat.mod_eq_of_lt one,
    show 2 ^ word - 1 + counter.toNat = counter.toNat - 1 + 2 ^ word by omega, Nat.add_mod_right,
    Nat.mod_eq_of_lt (by omega)]

end Counters

variable {limiter next : Limiter word τ} {thread : τ} {guard : Nat} {current : BitVec word} {events : List (Event τ)}

omit [DecidableEq τ] in
theorem exact_idle : (idle word τ).Exact :=
  ⟨rfl, Nat.zero_le _, fun _ member => absurd member (Finset.notMem_empty _)⟩

theorem Exact.goto (exact : limiter.Exact) (thread : τ) (phase : Acquiring word) : (limiter.goto thread phase).Exact :=
  ⟨exact.counted, exact.bounded, exact.fresh⟩

theorem Exact.exchange (wide : maxActiveConnections < 2 ^ word) (exact : limiter.Exact)
    (below : current.toNat < maxActiveConnections) (thread : τ) : (limiter.exchange thread current).Exact := by
  unfold Limiter.exchange
  split
  case isTrue unchanged =>
    subst unchanged
    have counted := exact.counted
    have new : limiter.issued ∉ limiter.live := fun member => Nat.lt_irrefl _ (exact.fresh _ member)
    have grown : (insert limiter.issued limiter.live).card = limiter.live.card + 1 := Finset.card_insert_of_notMem new
    refine ⟨?_, ?_, ?_⟩
    · rw [grown, ← counted]
      exact toNat_succ (by omega)
    · rw [grown]
      omega
    · intro guard member
      rcases Finset.mem_insert.mp member with rfl | member
      · exact Nat.lt_succ_self _
      · exact Nat.lt_succ_of_lt (exact.fresh guard member)
  case isFalse => exact exact.goto thread .looping

omit [DecidableEq τ] in
theorem Exact.counted_pos (exact : limiter.Exact) (member : guard ∈ limiter.live) : 0 < limiter.active.toNat := by
  rw [exact.counted]
  exact Finset.card_pos.mpr ⟨guard, member⟩

omit [DecidableEq τ] in
theorem Exact.drop (exact : limiter.Exact) (member : guard ∈ limiter.live) :
    Exact { limiter with active := limiter.active - 1, live := limiter.live.erase guard } := by
  have shrunk : (limiter.live.erase guard).card = limiter.live.card - 1 := Finset.card_erase_of_mem member
  have bounded := exact.bounded
  refine ⟨?_, ?_, fun other kept => exact.fresh other (Finset.mem_of_mem_erase kept)⟩
  · dsimp only
    rw [shrunk, toNat_pred (exact.counted_pos member), exact.counted]
  · dsimp only
    omega

theorem Exact.step (wide : maxActiveConnections < 2 ^ word) (exact : limiter.Exact) {event : Event τ}
    (taken : limiter.step event = some next) : next.Exact := by
  cases event with
  | call thread =>
    simp only [Limiter.step] at taken
    split at taken
    case h_1 =>
      cases taken
      exact exact.goto thread .looping
    case h_2 => cases taken
  | load thread =>
    simp only [Limiter.step] at taken
    split at taken
    case h_1 =>
      cases taken
      exact exact.goto thread (.loaded limiter.active)
    case h_2 => cases taken
  | refuse thread =>
    simp only [Limiter.step] at taken
    split at taken
    case h_1 =>
      obtain ⟨_, done⟩ := Option.ite_none_right_eq_some.mp taken
      cases done
      exact exact.goto thread .outside
    case h_2 => cases taken
  | exchange thread =>
    simp only [Limiter.step] at taken
    split at taken
    case h_1 =>
      obtain ⟨below, done⟩ := Option.ite_none_left_eq_some.mp taken
      cases done
      exact exact.exchange wide (Nat.lt_of_not_le below) thread
    case h_2 => cases taken
  | drop guard =>
    obtain ⟨member, done⟩ := Option.ite_none_right_eq_some.mp taken
    cases done
    exact exact.drop member

/-- The events of a run have led from the idle limiter to this state. -/
def Reached (events : List (Event τ)) (limiter : Limiter word τ) : Prop :=
  events.foldlM step (idle word τ) = some limiter

theorem reached_snoc {event : Event τ} :
    Reached (events ++ [event]) next ↔ ∃ limiter : Limiter word τ, Reached events limiter ∧ limiter.step event = some next := by
  simp only [Reached, List.foldlM_append, List.foldlM_cons, List.foldlM_nil, Option.bind_eq_bind, Option.bind_eq_some_iff,
    pure, Option.some.injEq, exists_eq_right]

theorem Reached.exact (wide : maxActiveConnections < 2 ^ word) (run : Reached events limiter) : limiter.Exact := by
  induction events using List.reverseRecOn generalizing limiter with
  | nil =>
    cases run
    exact exact_idle
  | append_singleton events event ih =>
    obtain ⟨before, reached, taken⟩ := reached_snoc.mp run
    exact (ih reached).step wide taken

def LastLoad (events : List (Event τ)) (thread : τ) (current : BitVec word) : Prop :=
  ∃ (before after : List (Event τ)) (atLoad : Limiter word τ), events = before ++ .load thread :: after ∧
    .load thread ∉ after ∧ Reached before atLoad ∧ atLoad.active = current

theorem LastLoad.snoc {event : Event τ} (last : LastLoad events thread current) (other : event ≠ .load thread) :
    LastLoad (events ++ [event]) thread current := by
  obtain ⟨before, after, atLoad, rfl, none, reached, value⟩ := last
  refine ⟨before, after ++ [event], atLoad, by simp, ?_, reached, value⟩
  simp only [List.mem_append, List.mem_singleton, not_or]
  exact ⟨none, other.symm⟩

@[simp] theorem goto_self (phase : Acquiring word) : (limiter.goto thread phase).threads thread = phase :=
  Function.update_self _ _ _

theorem goto_other {other : τ} (differs : thread ≠ other) (phase : Acquiring word) :
    (limiter.goto other phase).threads thread = limiter.threads thread :=
  Function.update_of_ne differs _ _

theorem loaded_of_goto {other : τ} {phase : Acquiring word} (unloaded : ∀ value, phase ≠ .loaded value)
    (loaded : (limiter.goto other phase).threads thread = .loaded current) : limiter.threads thread = .loaded current := by
  by_cases same : thread = other
  · rw [same, goto_self] at loaded
    exact absurd loaded (unloaded current)
  · rwa [goto_other same] at loaded

/-- A thread holds a loaded value since its load, and nothing but a load changes that value. -/
theorem loaded_of_step {event : Event τ} (taken : limiter.step event = some next)
    (loaded : next.threads thread = .loaded current) :
    event = .load thread ∧ limiter.active = current ∨ event ≠ .load thread ∧ limiter.threads thread = .loaded current := by
  cases event with
  | call other =>
    simp only [Limiter.step] at taken
    split at taken
    case h_1 =>
      cases taken
      exact .inr ⟨by simp, loaded_of_goto (by simp) loaded⟩
    case h_2 => cases taken
  | load other =>
    simp only [Limiter.step] at taken
    split at taken
    case h_1 =>
      cases taken
      by_cases same : thread = other
      · rw [same, goto_self] at loaded
        exact .inl ⟨by rw [same], Acquiring.loaded.inj loaded⟩
      · rw [goto_other same] at loaded
        exact .inr ⟨fun event => same (Event.load.inj event).symm, loaded⟩
    case h_2 => cases taken
  | refuse other =>
    simp only [Limiter.step] at taken
    split at taken
    case h_1 =>
      obtain ⟨_, done⟩ := Option.ite_none_right_eq_some.mp taken
      cases done
      exact .inr ⟨by simp, loaded_of_goto (by simp) loaded⟩
    case h_2 => cases taken
  | exchange other =>
    simp only [Limiter.step] at taken
    split at taken
    case h_1 =>
      obtain ⟨_, done⟩ := Option.ite_none_left_eq_some.mp taken
      cases done
      unfold exchange at loaded
      split at loaded
      case isTrue => exact .inr ⟨by simp, loaded_of_goto (by simp) loaded⟩
      case isFalse => exact .inr ⟨by simp, loaded_of_goto (by simp) loaded⟩
    case h_2 => cases taken
  | drop guard =>
    obtain ⟨_, done⟩ := Option.ite_none_right_eq_some.mp taken
    cases done
    exact .inr ⟨by simp, loaded⟩

theorem Reached.lastLoad (run : Reached events limiter) (loaded : limiter.threads thread = .loaded current) :
    LastLoad events thread current := by
  induction events using List.reverseRecOn generalizing limiter with
  | nil =>
    cases run
    cases loaded
  | append_singleton events event ih =>
    obtain ⟨before, reached, taken⟩ := reached_snoc.mp run
    rcases loaded_of_step taken loaded with ⟨rfl, value⟩ | ⟨other, still⟩
    · exact ⟨events, [], before, rfl, List.not_mem_nil, reached, value⟩
    · exact (ih reached still).snoc other

theorem Reached.refused (wide : maxActiveConnections < 2 ^ word) (run : Reached events limiter)
    (refused : limiter.step (.refuse thread) = some next) :
    ∃ current : BitVec word, LastLoad events thread current ∧ current.toNat = maxActiveConnections := by
  simp only [Limiter.step] at refused
  split at refused
  case h_1 current loaded =>
    obtain ⟨full, _⟩ := Option.ite_none_right_eq_some.mp refused
    obtain ⟨before, after, atLoad, split, last, reached, value⟩ := run.lastLoad loaded
    have exact := reached.exact wide
    have counted := exact.counted
    have bounded := exact.bounded
    rw [value] at counted
    exact ⟨current, ⟨before, after, atLoad, split, last, reached, value⟩, by omega⟩
  case h_2 => cases refused

/-- Whatever the threads have done, the counter counts the live guards up to the limit, and no thread is refused below
    it. -/
theorem connection_limiter_exact (wide : maxActiveConnections < 2 ^ word) (run : Reached events limiter) :
    limiter.active.toNat = limiter.live.card ∧ limiter.active.toNat ≤ maxActiveConnections ∧
    (∀ guard next, limiter.step (.drop guard) = some next → next.active.toNat + 1 = limiter.active.toNat) ∧
    ∀ thread next, limiter.step (.refuse thread) = some next →
      ∃ (before after : List (Event τ)) (atLoad : Limiter word τ), events = before ++ .load thread :: after ∧
        .load thread ∉ after ∧ Reached before atLoad ∧ atLoad.live.card = maxActiveConnections := by
  have exact := run.exact wide
  refine ⟨exact.counted, by rw [exact.counted]; exact exact.bounded, ?_, ?_⟩
  · intro guard next dropped
    obtain ⟨member, done⟩ := Option.ite_none_right_eq_some.mp dropped
    cases done
    have positive := exact.counted_pos member
    rw [toNat_pred positive]
    omega
  · intro thread next refused
    obtain ⟨current, ⟨before, after, atLoad, events, last, reached, value⟩, full⟩ := run.refused wide refused
    refine ⟨before, after, atLoad, events, last, reached, ?_⟩
    rw [← (reached.exact wide).counted, value, full]

def race : List (Event Bool) :=
  [.call true, .call false, .load true, .load false, .exchange false, .exchange true, .load true, .exchange true, .drop 0]

theorem connection_limiter_exact_race :
    ∃ limiter : Limiter 64 Bool, Reached race limiter ∧ limiter.active.toNat = limiter.live.card := by
  have finished : (race.foldlM step (idle 64 Bool)).isSome := by decide
  have reached : Reached race ((race.foldlM step (idle 64 Bool)).get finished) := (Option.some_get finished).symm
  exact ⟨_, reached, (connection_limiter_exact (by decide) reached).1⟩

end Limiter

end ZkArche.Server

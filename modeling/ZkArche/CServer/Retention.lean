import ZkArche.CServer.ReplayFile

namespace ZkArche.CServer

open Foundation CImpl

namespace ReplayCache

/-- The key is in the younger array, or in the older one while the younger has not grown by more
    than the number of keys that came since. -/
def Retains (cache : ReplayCache) (key : ReplayKey) (since : Nat) : Prop :=
  key ∈ cache.current.keys ∨ (key ∈ cache.previous.keys ∧ cache.current.keys.length ≤ since)

variable {cache after : ReplayCache} {key other : ReplayKey} {since later : Nat} {pid nonceC : Block UInt8 32}

theorem Retains.contains (retains : cache.Retains key since) : cache.contains key = true := by
  rw [contains_iff]
  rcases retains with young | ⟨old, _⟩
  · exact .inl young
  · exact .inr old

theorem Retains.mono (retains : cache.Retains key since) (more : since ≤ later) : cache.Retains key later := by
  rcases retains with young | ⟨old, small⟩
  · exact .inl young
  · exact .inr ⟨old, by omega⟩

theorem SameKeys.retains (same : after.SameKeys cache) (retains : cache.Retains key since) :
    after.Retains key since := by
  unfold Retains at *
  rw [same.1, same.2]
  exact retains

theorem SameKeys.sized (same : after.SameKeys cache) (sized : cache.Sized) : after.Sized := by
  constructor
  · rw [same.1]
    exact sized.current
  · rw [same.2]
    exact sized.previous

theorem rotate_of_young (young : cache.current.keys.length < replayGenMax) : cache.rotate = cache := by
  rw [rotate, if_neg (by omega)]

theorem rotate_of_full (full : replayGenMax ≤ cache.current.keys.length) :
    cache.rotate = { cache with previous := cache.current, current := .null, dirty := true } := by
  rw [rotate, if_pos full]

theorem rotate_pendingInserts (cache : ReplayCache) : cache.rotate.pendingInserts = cache.pendingInserts := by
  unfold rotate
  split <;> rfl

theorem rotate_lastPersist (cache : ReplayCache) : cache.rotate.lastPersist = cache.lastPersist := by
  unfold rotate
  split <;> rfl

/-- The three outcomes of `replay_cache_check_and_insert`. -/
inductive Checked (memory : Bool) (cache : ReplayCache) (key : ReplayKey) : Int × ReplayCache → Prop
  | replayed (seen : cache.contains key = true) : Checked memory cache key (0, cache)
  | starved (fresh : cache.contains key = false) (refused : memory = false) :
      Checked memory cache key (-1, cache.rotate)
  | accepted (fresh : cache.contains key = false) (grown : KeyArray)
      (keys : grown.keys = cache.rotate.current.keys ++ [key]) :
      Checked memory cache key (1, { cache.rotate with
        current := grown
        dirty := true
        pendingInserts := cache.pendingInserts + 1 })

theorem checkAndInsert_checked (memory : Bool) (cache : ReplayCache) (pid nonceC : Block UInt8 32) :
    Checked memory cache (replayKey pid nonceC) (cache.checkAndInsert memory pid nonceC) := by
  cases seen : cache.contains (replayKey pid nonceC) with
  | true =>
    simp only [checkAndInsert, seen, if_true]
    exact .replayed seen
  | false =>
    cases reserved : cache.rotate.current.reserve memory (cache.rotate.current.keys.length + 1) with
    | none =>
      have refused : memory = false := by
        cases memory with
        | false => rfl
        | true =>
          obtain ⟨grown, enough⟩ := reserve_of_memory cache.rotate.current (cache.rotate.current.keys.length + 1)
          rw [enough] at reserved
          cases reserved
      simp only [checkAndInsert, seen, reserved, Bool.false_eq_true, if_false]
      exact .starved seen refused
    | some grown =>
      simp only [checkAndInsert, seen, reserved, Bool.false_eq_true, if_false, rotate_pendingInserts]
      exact .accepted seen _ (show grown.keys ++ _ = _ by rw [reserve_keys reserved])

theorem checkAndInsert_eq_zero {memory : Bool} :
    (cache.checkAndInsert memory pid nonceC).1 = 0 ↔ cache.contains (replayKey pid nonceC) = true := by
  have checked := checkAndInsert_checked memory cache pid nonceC
  generalize cache.checkAndInsert memory pid nonceC = outcome at checked
  cases checked with
  | replayed seen => simp [seen]
  | starved fresh _ => simp [fresh]
  | accepted fresh _ _ => simp [fresh]

theorem Retains.checked {memory : Bool} {answer : Int} (retains : cache.Retains other since)
    (checked : Checked memory cache key (answer, after))
    (room : memory = true ∨ cache.current.keys.length < replayGenMax)
    (recent : since + (if answer = 1 then 1 else 0) ≤ replayGenMax) :
    after.Retains other (since + if answer = 1 then 1 else 0) := by
  cases checked with
  | replayed _ => exact retains
  | starved _ refused =>
    rcases room with memory | young
    · rw [memory] at refused
      cases refused
    · rw [rotate_of_young young]
      exact retains
  | accepted _ grown keys =>
    rw [if_pos rfl] at recent ⊢
    by_cases young : cache.current.keys.length < replayGenMax
    · rw [rotate_of_young young] at keys ⊢
      rcases retains with here | ⟨old, small⟩
      · exact .inl (by rw [keys]; exact List.mem_append_left _ here)
      · exact .inr ⟨old, by rw [keys, List.length_append, List.length_singleton]; omega⟩
    · rw [rotate_of_full (by omega)] at keys ⊢
      rcases retains with here | ⟨_, small⟩
      · exact .inr ⟨here, by rw [keys, List.length_append, List.length_singleton]; simp [KeyArray.null]⟩
      · omega

theorem Checked.retains_new {memory : Bool} (checked : Checked memory cache key (1, after)) :
    after.Retains key 0 := by
  cases checked with
  | accepted _ grown keys => exact .inl (by rw [keys]; exact List.mem_append_right _ (List.mem_singleton_self key))

theorem Sized.checked {memory : Bool} {answer : Int} (sized : cache.Sized)
    (checked : Checked memory cache key (answer, after)) : after.Sized := by
  have rotated : cache.rotate.Sized ∧ cache.rotate.current.keys.length < replayGenMax := by
    by_cases young : cache.current.keys.length < replayGenMax
    · rw [rotate_of_young young]
      exact ⟨sized, young⟩
    · rw [rotate_of_full (by omega)]
      exact ⟨⟨Nat.two_pow_pos 32, sized.current⟩, show 0 < replayGenMax by decide⟩
  cases checked with
  | replayed _ => exact sized
  | starved _ _ => exact rotated.1
  | accepted _ grown keys =>
    constructor
    · have small : replayGenMax + 1 ≤ 2 ^ 32 := by decide
      rw [keys, List.length_append, List.length_singleton]
      omega
    · exact rotated.1.previous

def PersistsNext (cache : ReplayCache) (now : Nat) : Prop :=
  cache.pendingInserts + 1 ≥ replayPersistEveryInserts ∨ cache.lastPersist = 0 ∨
    now - cache.lastPersist ≥ replayPersistIntervalSec

theorem Checked.due_iff {memory : Bool} {now : Nat} (checked : Checked memory cache key (1, after)) :
    after.due now false = true ↔ cache.PersistsNext now := by
  cases checked with
  | accepted _ grown _ =>
    unfold due PersistsNext
    rw [Bool.or_eq_true, Bool.or_eq_true, Bool.false_or, decide_eq_true_iff, decide_eq_true_iff, decide_eq_true_iff,
      rotate_lastPersist]
    exact or_assoc

theorem Checked.dirty {memory : Bool} (checked : Checked memory cache key (1, after)) : after.dirty = true := by
  cases checked with
  | accepted _ _ _ => rfl

end ReplayCache

end ZkArche.CServer

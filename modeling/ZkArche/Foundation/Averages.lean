import Mathlib.Algebra.Order.BigOperators.Group.List
import Mathlib.Algebra.Order.Field.Basic
import Mathlib.Tactic.FieldSimp
import Mathlib.Tactic.Linarith
import Mathlib.Tactic.Ring

namespace Foundation

section Weighted

variable {K : Type*} [Field K] {pairs : List (K × K)}

def weighted (pairs : List (K × K)) : K := (pairs.map fun pair => pair.1 * pair.2).sum

/-- How weights and rates differ together: over any two places, the product of both differences. -/
def covariation : List (K × K) → K
  | [] => 0
  | pair :: pairs => (pairs.map fun other => (pair.1 - other.1) * (pair.2 - other.2)).sum + covariation pairs

theorem sum_differences (weight rate : K) (pairs : List (K × K)) :
    (pairs.map fun other => (weight - other.1) * (rate - other.2)).sum = pairs.length * (weight * rate) -
      weight * (pairs.map Prod.snd).sum - rate * (pairs.map Prod.fst).sum + weighted pairs := by
  induction pairs with
  | nil => simp [weighted]
  | cons pair pairs ih =>
    rw [List.map_cons, List.sum_cons, ih]
    simp only [weighted, List.map_cons, List.sum_cons, List.length_cons, Nat.cast_add, Nat.cast_one]
    ring

/-- The weighted sum exceeds the product of the plain sums by what the pairs differ together. -/
theorem covariation_eq (pairs : List (K × K)) : covariation pairs =
    pairs.length * weighted pairs - (pairs.map Prod.fst).sum * (pairs.map Prod.snd).sum := by
  induction pairs with
  | nil => simp [covariation, weighted]
  | cons pair pairs ih =>
    rw [covariation, ih, sum_differences]
    simp only [weighted, List.map_cons, List.sum_cons, List.length_cons, Nat.cast_add, Nat.cast_one]
    ring

theorem covariation_of_equal_weights {weight : K} (equal : ∀ pair ∈ pairs, pair.1 = weight) : covariation pairs = 0 := by
  induction pairs with
  | nil => rfl
  | cons pair pairs ih =>
    have same : ∀ other ∈ pairs, (pair.1 - other.1) * (pair.2 - other.2) = 0 := by
      intro other member
      rw [equal pair List.mem_cons_self, equal other (List.mem_cons_of_mem _ member), sub_self, zero_mul]
    have zero : (pairs.map fun other => (pair.1 - other.1) * (pair.2 - other.2)).sum = 0 :=
      List.sum_eq_zero fun value member => by
        obtain ⟨other, inside, rfl⟩ := List.mem_map.mp member
        exact same other inside
    rw [covariation, zero, ih fun other member => equal other (List.mem_cons_of_mem _ member), add_zero]

/-- The plain mean of the rates is the weighted one just when weights and rates do not differ together. -/
theorem mean_eq_weighted_iff [CharZero K] (nonempty : pairs ≠ []) (positive : (pairs.map Prod.fst).sum ≠ 0) :
    (pairs.map Prod.snd).sum / pairs.length = weighted pairs / (pairs.map Prod.fst).sum ↔ covariation pairs = 0 := by
  have filled : (pairs.length : K) ≠ 0 := Nat.cast_ne_zero.mpr (List.length_pos_iff.mpr nonempty).ne'
  rw [div_eq_div_iff filled positive, covariation_eq, sub_eq_zero, eq_comm, mul_comm (weighted pairs),
    mul_comm (pairs.map Prod.fst).sum]

end Weighted

section Ordered

variable {α K : Type*} [Field K] [LinearOrder K] [IsStrictOrderedRing K] {values : List α} {low high : α → K}

/-- Sums of which one is below the other at every place are equal only when they are at every place. -/
theorem sum_map_eq_iff (order : ∀ value ∈ values, low value ≤ high value) :
    (values.map low).sum = (values.map high).sum ↔ ∀ value ∈ values, low value = high value := by
  induction values with
  | nil => simp
  | cons value values ih =>
    have first := order value List.mem_cons_self
    have others : ∀ other ∈ values, low other ≤ high other := fun other member => order other (List.mem_cons_of_mem _ member)
    have rest := List.sum_le_sum others
    rw [List.map_cons, List.map_cons, List.sum_cons, List.sum_cons, List.forall_mem_cons, ← ih others]
    constructor
    · intro total
      constructor <;> linarith
    · intro ⟨here, there⟩
      rw [here, there]

end Ordered

end Foundation

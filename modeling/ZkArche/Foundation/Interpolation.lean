import Mathlib.Algebra.Order.Floor.Ring
import Mathlib.Data.List.Sort
import Mathlib.Tactic.Linarith
import Mathlib.Tactic.Ring

namespace Foundation

section Ranks

variable {K : Type*} [Zero K] {values : List K} {rank : ℕ}

def ranked (values : List K) (rank : ℕ) : K := (values[min rank (values.length - 1)]?).getD 0

theorem ranked_of_lt (inside : rank < values.length) : values[rank]? = some (ranked values rank) := by
  have last : min rank (values.length - 1) = rank := Nat.min_eq_left (by omega)
  rw [ranked, last, List.getElem?_eq_getElem inside, Option.getD_some]

theorem ranked_mem (inside : rank < values.length) : ranked values rank ∈ values :=
  List.mem_of_getElem? (ranked_of_lt inside)

theorem exists_rank {value : K} (member : value ∈ values) : ∃ rank < values.length, ranked values rank = value := by
  obtain ⟨rank, found⟩ := List.mem_iff_getElem?.mp member
  obtain ⟨inside, _⟩ := List.getElem?_eq_some_iff.mp found
  rw [ranked_of_lt inside] at found
  exact ⟨rank, inside, Option.some.inj found⟩

theorem ranked_mono [LinearOrder K] (sorted : values.SortedLE) : Monotone (ranked values) := by
  intro first second order
  rcases Nat.eq_zero_or_pos values.length with empty | filled
  · rw [List.length_eq_zero_iff.mp empty]
    exact le_refl _
  · have low : min first (values.length - 1) < values.length := by omega
    have high : min second (values.length - 1) < values.length := by omega
    rw [ranked, ranked, List.getElem?_eq_getElem low, List.getElem?_eq_getElem high]
    exact sorted.getElem_le_getElem_of_le (by omega)

end Ranks

section Positions

variable {K : Type*} [Field K] [LinearOrder K] [IsStrictOrderedRing K] [FloorRing K]

def interpolate (value : ℕ → K) (position : K) : K :=
  value ⌊position⌋₊ + (value (⌊position⌋₊ + 1) - value ⌊position⌋₊) * (position - ⌊position⌋₊)

variable {value : ℕ → K} {position low high : K} {index : ℕ}

theorem interpolate_natCast (value : ℕ → K) (index : ℕ) : interpolate value index = value index := by
  rw [interpolate, Nat.floor_natCast, sub_self, mul_zero, add_zero]

theorem interpolate_half (value : ℕ → K) (index : ℕ) :
    interpolate value (index + 1 / 2) = (value index + value (index + 1)) / 2 := by
  have floor : ⌊(index : K) + 1 / 2⌋₊ = index := by
    rw [Nat.floor_eq_iff (by positivity)]
    constructor <;> linarith
  rw [interpolate, floor]
  ring

theorem le_interpolate (mono : Monotone value) (start : 0 ≤ position) : value ⌊position⌋₊ ≤ interpolate value position := by
  have step : 0 ≤ value (⌊position⌋₊ + 1) - value ⌊position⌋₊ := sub_nonneg.mpr (mono (Nat.le_succ _))
  have part : 0 ≤ position - ⌊position⌋₊ := sub_nonneg.mpr (Nat.floor_le start)
  have gain := mul_nonneg step part
  rw [interpolate]
  linarith

theorem interpolate_le (mono : Monotone value) (position : K) :
    interpolate value position ≤ value (⌊position⌋₊ + 1) := by
  have step : 0 ≤ value (⌊position⌋₊ + 1) - value ⌊position⌋₊ := sub_nonneg.mpr (mono (Nat.le_succ _))
  have part : position - ⌊position⌋₊ ≤ 1 := by linarith [Nat.lt_floor_add_one position]
  have gain := mul_le_mul_of_nonneg_left part step
  rw [interpolate]
  linarith

/-- Across an index the value at the index lies in between; between two indices only the part grows. -/
theorem interpolate_mono (mono : Monotone value) (start : 0 ≤ low) (order : low ≤ high) :
    interpolate value low ≤ interpolate value high := by
  rcases Nat.eq_or_lt_of_le (Nat.floor_mono order) with same | further
  · have step : 0 ≤ value (⌊low⌋₊ + 1) - value ⌊low⌋₊ := sub_nonneg.mpr (mono (Nat.le_succ _))
    have part : low - ⌊low⌋₊ ≤ high - ⌊low⌋₊ := by linarith
    have gain := mul_le_mul_of_nonneg_left part step
    rw [interpolate, interpolate, ← same]
    linarith
  · calc interpolate value low ≤ value (⌊low⌋₊ + 1) := interpolate_le mono low
      _ ≤ value ⌊high⌋₊ := mono further
      _ ≤ interpolate value high := le_interpolate mono (start.trans order)

end Positions

end Foundation

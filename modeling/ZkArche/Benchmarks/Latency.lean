import Mathlib.Data.Rat.Floor
import ZkArche.Foundation.Interpolation

namespace ZkArche.Benchmarks

open Foundation

inductive Figure where
  | nan
  | number (value : ℚ)
  deriving DecidableEq

inductive IndexError where
  | outOfRange
  deriving DecidableEq

/-- `s[index]`; a negative index counts from the end. -/
def item (s : List ℚ) (index : ℤ) : Except IndexError ℚ :=
  let place := if 0 ≤ index then index else s.length + index
  if place < 0 then .error .outOfRange
  else
    match s[place.toNat]? with
    | none => .error .outOfRange
    | some value => .ok value

def sorted (values : List ℚ) : List ℚ := values.mergeSort fun first second => decide (first ≤ second)

/-- `int(k)`. -/
def truncate (k : ℚ) : ℤ := if 0 ≤ k then ⌊k⌋ else ⌈k⌉

def percentile (values : List ℚ) (pct : ℚ) : Except IndexError Figure :=
  if values.isEmpty then .ok .nan
  else if (sorted values).length = 1 then do
    let only ← item (sorted values) 0
    pure (.number only)
  else do
    let k := (((sorted values).length : ℚ) - 1) * (pct / 100)
    if ⌊k⌋ = ⌈k⌉ then
      let value ← item (sorted values) (truncate k)
      pure (.number value)
    else
      let low ← item (sorted values) ⌊k⌋
      let high ← item (sorted values) ⌈k⌉
      pure (.number (low + (high - low) * (k - ⌊k⌋)))

def safeMean (values : List ℚ) : Figure :=
  if values.isEmpty then .nan else .number (values.sum / values.length)

def safeStdev (sqrt : ℚ → ℚ) (values : List ℚ) : Figure :=
  if values.length < 2 then .number 0
  else
    let mean := values.sum / values.length
    .number (sqrt ((values.map fun value => (value - mean) * (value - mean)).sum / (values.length - 1)))

/-- `statistics.median` of a list that is not empty. -/
def median (values : List ℚ) : Except IndexError Figure := do
  let middle := (sorted values).length / 2
  if (sorted values).length % 2 = 1 then
    let value ← item (sorted values) middle
    pure (.number value)
  else
    let low ← item (sorted values) (middle - 1 : ℤ)
    let high ← item (sorted values) middle
    pure (.number ((low + high) / 2))

def pick (better : ℚ → ℚ → Bool) : List ℚ → Figure
  | [] => .nan
  | value :: values => .number (values.foldl (fun best next => if better next best then next else best) value)

/-- `min(values)`. -/
def smallest (values : List ℚ) : Figure := pick (fun next best => decide (next < best)) values

/-- `max(values)`. -/
def largest (values : List ℚ) : Figure := pick (fun next best => decide (best < next)) values

structure LatencyStats where
  mean : Figure
  median : Figure
  p95 : Figure
  p99 : Figure
  min : Figure
  max : Figure
  stdev : Figure
  deriving DecidableEq

def LatencyStats.fromValues (sqrt : ℚ → ℚ) (values : List ℚ) : Except IndexError LatencyStats :=
  if values.isEmpty then .ok ⟨.nan, .nan, .nan, .nan, .nan, .nan, .number 0⟩
  else do
    let middle ← Benchmarks.median values
    let p95 ← percentile values 95
    let p99 ← percentile values 99
    pure ⟨safeMean values, middle, p95, p99, smallest values, largest values, safeStdev sqrt values⟩

variable {values others s : List ℚ} {pct low high : ℚ} {place : Nat}

section Sorting

theorem length_sorted (values : List ℚ) : (sorted values).length = values.length := List.length_mergeSort values

theorem sorted_perm (values : List ℚ) : (sorted values).Perm values := List.mergeSort_perm values _

theorem sorted_sortedLE (values : List ℚ) : (sorted values).SortedLE := List.sortedLE_mergeSort

theorem sorted_eq_of_perm (perm : values.Perm others) : sorted values = sorted others :=
  List.Perm.eq_of_sortedLE (sorted_sortedLE values) (sorted_sortedLE others)
    ((sorted_perm values).trans (perm.trans (sorted_perm others).symm))

theorem item_of_lt (inside : place < s.length) : item s place = .ok (ranked s place) := by
  have positive : (0 : ℤ) ≤ place := Int.natCast_nonneg place
  rw [item, if_pos positive, if_neg (Int.not_lt.mpr positive), Int.toNat_natCast, ranked_of_lt inside]

end Sorting

section Percentiles

/-- The position that a percentage has between the ranks. -/
def position (values : List ℚ) (pct : ℚ) : ℚ := (values.length - 1) * (pct / 100)

theorem position_nonneg (nonempty : values ≠ []) (start : 0 ≤ pct) : 0 ≤ position values pct := by
  have filled : (1 : ℚ) ≤ values.length := by exact_mod_cast List.length_pos_iff.mpr nonempty
  exact mul_nonneg (by linarith) (by linarith)

theorem position_mono (nonempty : values ≠ []) (order : low ≤ high) : position values low ≤ position values high := by
  have filled : (1 : ℚ) ≤ values.length := by exact_mod_cast List.length_pos_iff.mpr nonempty
  exact mul_le_mul_of_nonneg_left (by linarith) (by linarith)

theorem position_le (nonempty : values ≠ []) (stop : pct ≤ 100) : position values pct ≤ values.length - 1 := by
  have last := position_mono nonempty stop
  rw [position, position, div_self (by norm_num), mul_one] at last
  exact last

theorem percentile_eq (nonempty : values ≠ []) (start : 0 ≤ pct) (stop : pct ≤ 100) :
    percentile values pct = .ok (.number (interpolate (ranked (sorted values)) (position values pct))) := by
  have filled : 0 < (sorted values).length := by rw [length_sorted]; exact List.length_pos_iff.mpr nonempty
  have notEmpty : ¬ values.isEmpty = true := by rwa [List.isEmpty_iff]
  have below : ((sorted values).length : ℚ) - 1 = values.length - 1 := by rw [length_sorted]
  have nonneg := position_nonneg nonempty start
  have bound := position_le nonempty stop
  rw [percentile, if_neg notEmpty]
  split
  case isTrue single =>
    have zero : position values pct = (0 : ℕ) := by
      rw [length_sorted] at single
      rw [position, single]
      norm_num
    have only : item (sorted values) 0 = .ok (ranked (sorted values) 0) := item_of_lt filled
    rw [only, zero, interpolate_natCast]
    rfl
  case isFalse =>
    rw [below]
    show (if ⌊position values pct⌋ = ⌈position values pct⌉ then
        item (sorted values) (truncate (position values pct)) >>= fun value => pure (Figure.number value)
      else item (sorted values) ⌊position values pct⌋ >>= fun low => item (sorted values) ⌈position values pct⌉ >>= fun high =>
        pure (Figure.number (low + (high - low) * (position values pct - ⌊position values pct⌋)))) = _
    have floor : ⌊position values pct⌋ = (⌊position values pct⌋₊ : ℤ) := (Int.natCast_floor_eq_floor nonneg).symm
    have least := Nat.floor_le nonneg
    have inside : ⌊position values pct⌋₊ < (sorted values).length := by
      have cast : (⌊position values pct⌋₊ : ℚ) < (sorted values).length := by linarith
      exact_mod_cast cast
    split
    case isTrue whole =>
      have exact : position values pct = (⌊position values pct⌋₊ : ℚ) := by
        refine le_antisymm ?_ least
        calc position values pct ≤ (⌈position values pct⌉ : ℤ) := Int.le_ceil _
          _ = (⌊position values pct⌋₊ : ℚ) := by rw [← whole, floor, Int.cast_natCast]
      have value := item_of_lt inside
      rw [truncate, if_pos nonneg, floor, value]
      conv_rhs => rw [exact, interpolate_natCast]
      rfl
    case isFalse broken =>
      have ceil : ⌈position values pct⌉ = ((⌊position values pct⌋₊ + 1 : ℕ) : ℤ) := by
        have upper := Int.ceil_le_floor_add_one (position values pct)
        have lower := Int.floor_le_ceil (position values pct)
        push_cast
        omega
      have next : ⌊position values pct⌋₊ + 1 < (sorted values).length := by
        have last : ⌈position values pct⌉ ≤ (values.length : ℤ) - 1 := Int.ceil_le.mpr (by push_cast; exact bound)
        rw [length_sorted]
        omega
      rw [ceil, floor, item_of_lt inside, item_of_lt next]
      rfl

theorem percentile_total (nonempty : values ≠ []) (pct : ℚ) (start : 0 ≤ pct) (stop : pct ≤ 100) :
    ∃ value, percentile values pct = .ok (.number value) := ⟨_, percentile_eq nonempty start stop⟩

theorem percentile_perm (perm : values.Perm others) (pct : ℚ) : percentile values pct = percentile others pct := by
  rw [percentile, percentile, sorted_eq_of_perm perm, perm.isEmpty_eq]

theorem percentile_mono {lower upper : ℚ} (nonempty : values ≠ []) (start : 0 ≤ low) (order : low ≤ high) (stop : high ≤ 100)
    (first : percentile values low = .ok (.number lower)) (second : percentile values high = .ok (.number upper)) :
    lower ≤ upper := by
  rw [percentile_eq nonempty start (order.trans stop)] at first
  rw [percentile_eq nonempty (start.trans order) stop] at second
  cases first
  cases second
  exact interpolate_mono (ranked_mono (sorted_sortedLE values)) (position_nonneg nonempty start) (position_mono nonempty order)

end Percentiles

section Extremes

theorem pick_spec {better : ℚ → ℚ → Bool} {order : ℚ → ℚ → Prop} (refl : ∀ value, order value value)
    (trans : ∀ first second third, order first second → order second third → order first third)
    (wins : ∀ next best, better next best = true → order next best)
    (keeps : ∀ next best, better next best = false → order best next) (nonempty : values ≠ []) :
    ∃ best, pick better values = .number best ∧ best ∈ values ∧ ∀ value ∈ values, order best value := by
  obtain ⟨value, values, rfl⟩ := List.exists_cons_of_ne_nil nonempty
  refine ⟨_, rfl, ?_⟩
  clear nonempty
  induction values generalizing value with
  | nil => exact ⟨List.mem_cons_self, fun other member => by rw [List.mem_singleton.mp member]; exact refl value⟩
  | cons next values ih =>
    rw [List.foldl_cons]
    have step : ∃ kept, (if better next value then next else value) = kept ∧ kept ∈ [value, next] ∧
        order kept value ∧ order kept next := by
      cases compared : better next value with
      | true => exact ⟨next, rfl, by simp, wins next value compared, refl next⟩
      | false => exact ⟨value, rfl, by simp, refl value, keeps next value compared⟩
    obtain ⟨kept, same, one, first, second⟩ := step
    rw [same]
    obtain ⟨member, best⟩ := ih kept
    have before := best kept List.mem_cons_self
    refine ⟨?_, fun other listed => ?_⟩
    · rcases List.mem_cons.mp member with found | found
      · rw [found]
        rcases List.mem_cons.mp one with rfl | single
        · exact List.mem_cons_self
        · rw [List.mem_singleton.mp single]
          exact List.mem_cons_of_mem _ List.mem_cons_self
      · exact List.mem_cons_of_mem _ (List.mem_cons_of_mem _ found)
    · rcases List.mem_cons.mp listed with rfl | listed
      · exact trans _ _ _ before first
      · rcases List.mem_cons.mp listed with rfl | listed
        · exact trans _ _ _ before second
        · exact best other (List.mem_cons_of_mem _ listed)

theorem filled_sorted (nonempty : values ≠ []) : 0 < (sorted values).length := by
  rw [length_sorted]
  exact List.length_pos_iff.mpr nonempty

theorem ranked_bounds {value : ℚ} (member : value ∈ values) :
    ranked (sorted values) 0 ≤ value ∧ value ≤ ranked (sorted values) (values.length - 1) := by
  obtain ⟨rank, inside, rfl⟩ := exists_rank ((sorted_perm values).mem_iff.mpr member)
  rw [length_sorted] at inside
  exact ⟨ranked_mono (sorted_sortedLE values) (Nat.zero_le rank), ranked_mono (sorted_sortedLE values) (by omega)⟩

theorem smallest_eq (nonempty : values ≠ []) : smallest values = .number (ranked (sorted values) 0) := by
  have picked : ∃ best, smallest values = .number best ∧ best ∈ values ∧ ∀ value ∈ values, best ≤ value :=
    pick_spec le_refl (fun _ _ _ => le_trans) (fun _ _ wins => (of_decide_eq_true wins).le)
      (fun _ _ keeps => not_lt.mp (of_decide_eq_false keeps)) nonempty
  obtain ⟨best, found, member, least⟩ := picked
  have first := least _ ((sorted_perm values).mem_iff.mp (ranked_mem (filled_sorted nonempty)))
  rw [found, le_antisymm first (ranked_bounds member).1]

theorem largest_eq (nonempty : values ≠ []) : largest values = .number (ranked (sorted values) (values.length - 1)) := by
  have picked : ∃ best, largest values = .number best ∧ best ∈ values ∧ ∀ value ∈ values, best ≥ value :=
    pick_spec le_refl (fun _ _ _ first second => le_trans second first) (fun _ _ wins => (of_decide_eq_true wins).le)
      (fun _ _ keeps => not_lt.mp (of_decide_eq_false keeps)) nonempty
  obtain ⟨best, found, member, most⟩ := picked
  have inside : values.length - 1 < (sorted values).length := by
    have filled := filled_sorted nonempty
    rw [length_sorted] at filled ⊢
    omega
  have last := most _ ((sorted_perm values).mem_iff.mp (ranked_mem inside))
  rw [found, le_antisymm (ranked_bounds member).2 last]

theorem smallest_spec (nonempty : values ≠ []) :
    ∃ least ∈ values, (∀ value ∈ values, least ≤ value) ∧ smallest values = .number least :=
  ⟨_, (sorted_perm values).mem_iff.mp (ranked_mem (filled_sorted nonempty)),
    fun _ member => (ranked_bounds member).1, smallest_eq nonempty⟩

theorem largest_spec (nonempty : values ≠ []) :
    ∃ greatest ∈ values, (∀ value ∈ values, value ≤ greatest) ∧ largest values = .number greatest := by
  have inside : values.length - 1 < (sorted values).length := by
    have filled := filled_sorted nonempty
    rw [length_sorted] at filled ⊢
    omega
  exact ⟨_, (sorted_perm values).mem_iff.mp (ranked_mem inside), fun _ member => (ranked_bounds member).2,
    largest_eq nonempty⟩

theorem percentile_zero (nonempty : values ≠ []) : percentile values 0 = .ok (smallest values) := by
  have zero : position values 0 = (0 : ℕ) := by
    rw [position, zero_div, mul_zero, Nat.cast_zero]
  rw [percentile_eq nonempty (le_refl 0) (by norm_num), zero, interpolate_natCast, smallest_eq nonempty]

theorem percentile_hundred (nonempty : values ≠ []) : percentile values 100 = .ok (largest values) := by
  have filled : 1 ≤ values.length := List.length_pos_iff.mpr nonempty
  have last : position values 100 = (values.length - 1 : ℕ) := by
    rw [position, div_self (by norm_num), mul_one, Nat.cast_sub filled, Nat.cast_one]
  rw [percentile_eq nonempty (by norm_num) (le_refl 100), last, interpolate_natCast, largest_eq nonempty]

/-- With an odd number of values the middle one; with an even number the position is halfway between the two in the
    middle. -/
theorem percentile_fifty (nonempty : values ≠ []) : percentile values 50 = median values := by
  have filled : 0 < values.length := List.length_pos_iff.mpr nonempty
  have size : (values.length : ℚ) = (2 * (values.length / 2) + values.length % 2 : ℕ) := by
    rw [Nat.div_add_mod]
  rw [percentile_eq nonempty (by norm_num) (by norm_num), median, length_sorted]
  split
  case isTrue odd =>
    have middle : position values 50 = (values.length / 2 : ℕ) := by
      rw [odd] at size
      rw [position, size]
      push_cast
      ring
    have value : item (sorted values) (values.length / 2 : ℕ) = .ok (ranked (sorted values) (values.length / 2)) :=
      item_of_lt (by rw [length_sorted]; omega)
    rw [middle, interpolate_natCast, value]
    rfl
  case isFalse even =>
    have zero : values.length % 2 = 0 := by omega
    have half : 1 ≤ values.length / 2 := by omega
    have middle : position values 50 = ((values.length / 2 - 1 : ℕ) : ℚ) + 1 / 2 := by
      rw [zero] at size
      rw [position, size, Nat.cast_sub half]
      push_cast
      ring
    have before : ((values.length / 2 : ℕ) : ℤ) - 1 = ((values.length / 2 - 1 : ℕ) : ℤ) := by omega
    have low : item (sorted values) (values.length / 2 - 1 : ℕ) = .ok (ranked (sorted values) (values.length / 2 - 1)) :=
      item_of_lt (by rw [length_sorted]; omega)
    have high : item (sorted values) (values.length / 2 : ℕ) = .ok (ranked (sorted values) (values.length / 2)) :=
      item_of_lt (by rw [length_sorted]; omega)
    rw [middle, interpolate_half, before, low, high, Nat.sub_add_cancel half]
    rfl

end Extremes

section Statistics

theorem fromValues_ordered (sqrt : ℚ → ℚ) (nonempty : values ≠ []) :
    ∃ stats least middle p95 p99 greatest, LatencyStats.fromValues sqrt values = .ok stats ∧
      (stats.min = .number least ∧ least ∈ values ∧ ∀ value ∈ values, least ≤ value) ∧
      (stats.median = .number middle ∧ median values = .ok (.number middle)) ∧
      (stats.p95 = .number p95 ∧ percentile values 95 = .ok (.number p95)) ∧
      (stats.p99 = .number p99 ∧ percentile values 99 = .ok (.number p99)) ∧
      (stats.max = .number greatest ∧ greatest ∈ values ∧ ∀ value ∈ values, value ≤ greatest) ∧
      least ≤ middle ∧ middle ≤ p95 ∧ p95 ≤ p99 ∧ p99 ≤ greatest := by
  obtain ⟨least, first, below, lowest⟩ := smallest_spec nonempty
  obtain ⟨greatest, last, above, highest⟩ := largest_spec nonempty
  obtain ⟨middle, half⟩ := percentile_total nonempty 50 (by norm_num) (by norm_num)
  obtain ⟨p95, nearly⟩ := percentile_total nonempty 95 (by norm_num) (by norm_num)
  obtain ⟨p99, almost⟩ := percentile_total nonempty 99 (by norm_num) (by norm_num)
  have start : percentile values 0 = .ok (.number least) := by rw [percentile_zero nonempty, lowest]
  have stop : percentile values 100 = .ok (.number greatest) := by rw [percentile_hundred nonempty, highest]
  have central : median values = .ok (.number middle) := by rw [← percentile_fifty nonempty, half]
  have notEmpty : ¬ values.isEmpty = true := by rwa [List.isEmpty_iff]
  have stats : LatencyStats.fromValues sqrt values = .ok ⟨safeMean values, .number middle, .number p95, .number p99,
      .number least, .number greatest, safeStdev sqrt values⟩ := by
    rw [LatencyStats.fromValues, if_neg notEmpty, central, nearly, almost, lowest, highest]
    rfl
  exact ⟨_, least, middle, p95, p99, greatest, stats, ⟨rfl, first, below⟩, ⟨rfl, central⟩, ⟨rfl, nearly⟩, ⟨rfl, almost⟩,
    ⟨rfl, last, above⟩,
    percentile_mono nonempty (le_refl 0) (by norm_num) (by norm_num) start half,
    percentile_mono nonempty (by norm_num) (by norm_num) (by norm_num) half nearly,
    percentile_mono nonempty (by norm_num) (by norm_num) (by norm_num) nearly almost,
    percentile_mono nonempty (by norm_num) (by norm_num) (le_refl 100) almost stop⟩

/-- The order of the list does not matter, the percentile grows with the percentage from the least value over the median
    to the greatest, and the statistics are these percentiles, in that order. -/
theorem latency_statistics_ordered (sqrt : ℚ → ℚ) (values : List ℚ) (nonempty : values ≠ []) :
    (∀ pct, 0 ≤ pct → pct ≤ 100 → ∃ value, percentile values pct = .ok (.number value)) ∧
    (∀ others pct, values.Perm others → percentile values pct = percentile others pct) ∧
    (∀ low high lower upper, 0 ≤ low → low ≤ high → high ≤ 100 → percentile values low = .ok (.number lower) →
      percentile values high = .ok (.number upper) → lower ≤ upper) ∧
    (∃ least ∈ values, (∀ value ∈ values, least ≤ value) ∧ percentile values 0 = .ok (.number least)) ∧
    (∃ greatest ∈ values, (∀ value ∈ values, value ≤ greatest) ∧ percentile values 100 = .ok (.number greatest)) ∧
    percentile values 50 = median values ∧
    ∃ stats least middle p95 p99 greatest, LatencyStats.fromValues sqrt values = .ok stats ∧
      (stats.min = .number least ∧ least ∈ values ∧ ∀ value ∈ values, least ≤ value) ∧
      (stats.median = .number middle ∧ median values = .ok (.number middle)) ∧
      (stats.p95 = .number p95 ∧ percentile values 95 = .ok (.number p95)) ∧
      (stats.p99 = .number p99 ∧ percentile values 99 = .ok (.number p99)) ∧
      (stats.max = .number greatest ∧ greatest ∈ values ∧ ∀ value ∈ values, value ≤ greatest) ∧
      least ≤ middle ∧ middle ≤ p95 ∧ p95 ≤ p99 ∧ p99 ≤ greatest := by
  obtain ⟨least, first, below, lowest⟩ := smallest_spec nonempty
  obtain ⟨greatest, last, above, highest⟩ := largest_spec nonempty
  have start : percentile values 0 = .ok (.number least) := by rw [percentile_zero nonempty, lowest]
  have stop : percentile values 100 = .ok (.number greatest) := by rw [percentile_hundred nonempty, highest]
  exact ⟨percentile_total nonempty, fun _ pct perm => percentile_perm perm pct,
    fun _ _ _ _ => percentile_mono nonempty, ⟨least, first, below, start⟩, ⟨greatest, last, above, stop⟩,
    percentile_fifty nonempty, fromValues_ordered sqrt nonempty⟩

theorem sorted_four : sorted [3, 1, 2, 8] = [1, 2, 3, 8] := by
  have perm : List.Perm [3, 1, 2, 8] ([1, 2, 3, 8] : List ℚ) := by decide
  rw [sorted_eq_of_perm perm]
  exact List.mergeSort_of_pairwise (by norm_num)

theorem percentile_four (start : 200 / 3 ≤ pct) (stop : pct < 100) :
    percentile [3, 1, 2, 8] pct = .ok (.number (3 + 5 * (3 * (pct / 100) - 2))) := by
  have place : position [3, 1, 2, 8] pct = 3 * (pct / 100) := by
    rw [position]
    norm_num
  have floor : ⌊3 * (pct / 100)⌋₊ = 2 := by
    rw [Nat.floor_eq_iff (by linarith)]
    norm_num
    constructor <;> linarith
  have third : ranked ([1, 2, 3, 8] : List ℚ) 2 = 3 := rfl
  have fourth : ranked ([1, 2, 3, 8] : List ℚ) (2 + 1) = 8 := rfl
  rw [percentile_eq (by simp) (by linarith) stop.le, place, sorted_four, interpolate, floor, third, fourth]
  norm_num

/-- Four latencies: the median lies between two of them, as do the two percentiles. -/
theorem latency_statistics_ordered_four :
    ([3, 1, 2, 8] : List ℚ) ≠ [] ∧ ∃ stats, LatencyStats.fromValues id [3, 1, 2, 8] = .ok stats ∧
      stats.min = .number 1 ∧ stats.median = .number (5 / 2) ∧ stats.p95 = .number (29 / 4) ∧
      stats.p99 = .number (157 / 20) ∧ stats.max = .number 8 := by
  have nonempty : ([3, 1, 2, 8] : List ℚ) ≠ [] := by decide
  obtain ⟨_, _, _, _, _, _, stats, least, middle, p95, p99, greatest, made, ⟨min, first, below⟩, ⟨half, central⟩,
    ⟨nearly, ninetyFive⟩, ⟨almost, ninetyNine⟩, ⟨max, last, above⟩, _⟩ :=
    latency_statistics_ordered id [3, 1, 2, 8] nonempty
  have lowest : least = 1 := by
    have bound := below 1 (by simp)
    simp only [List.mem_cons, List.not_mem_nil, or_false] at first
    rcases first with rfl | rfl | rfl | rfl
    · norm_num at bound
    · rfl
    · norm_num at bound
    · norm_num at bound
  have highest : greatest = 8 := by
    have bound := above 8 (by simp)
    simp only [List.mem_cons, List.not_mem_nil, or_false] at last
    rcases last with rfl | rfl | rfl | rfl
    · norm_num at bound
    · norm_num at bound
    · norm_num at bound
    · rfl
  have inside : middle = 5 / 2 := by
    have value : median [3, 1, 2, 8] = .ok (.number ((2 + 3) / 2)) := by
      rw [median, sorted_four]
      rfl
    rw [value] at central
    cases central
    norm_num
  have upper : p95 = 29 / 4 := by
    rw [percentile_four (by norm_num) (by norm_num)] at ninetyFive
    cases ninetyFive
    norm_num
  have top : p99 = 157 / 20 := by
    rw [percentile_four (by norm_num) (by norm_num)] at ninetyNine
    cases ninetyNine
    norm_num
  subst lowest highest inside upper top
  exact ⟨nonempty, stats, made, min, half, nearly, almost, max⟩

end Statistics

end ZkArche.Benchmarks

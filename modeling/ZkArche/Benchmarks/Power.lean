import ZkArche.Benchmarks.Sampler
import ZkArche.Benchmarks.Latency

namespace ZkArche.Benchmarks

open Foundation

structure DevicePowerProfile where
  idleW : ℚ
  maxW : ℚ

/-- `max(0.0, min(1.0, u))`. -/
def clamped (u : ℚ) : ℚ := max 0 (min 1 u)

def linearPower (profile : DevicePowerProfile) (fraction : ℚ) : ℚ :=
  profile.idleW + (profile.maxW - profile.idleW) * fraction

def cpuFractionNow (samples : List ℚ) : ℚ :=
  match samples.getLast? with
  | none => 0
  | some sample => sample / 100

def readPowerW (profile : DevicePowerProfile) (cpuFraction : ℚ) : ℚ := linearPower profile (clamped cpuFraction)

/-- What the meter reads after each of the samples. -/
def readings (profile : DevicePowerProfile) (samples : List ℚ) : List ℚ :=
  (List.range samples.length).map fun count => readPowerW profile (cpuFractionNow (samples.take (count + 1)))

/-- The average power in `estimate_energy_per_auth_mJ`. -/
def estimatedPowerW (resources : ResourceSummary) (profile : DevicePowerProfile) : ℚ :=
  linearPower profile (clamped (resources.cpuPctNormalised / 100))

def estimateEnergyPerAuthMJ (resources : ResourceSummary) (nSuccessfulAuths : Int) (profile : DevicePowerProfile) : Figure :=
  if nSuccessfulAuths ≤ 0 ∨ resources.durationS ≤ 0 then .nan
  else .number (estimatedPowerW resources profile * resources.durationS / nSuccessfulAuths * 1000)

variable {m : Machine} {profile : DevicePowerProfile} {s : ProcSampler} {samples : List ℚ} {sample u : ℚ}

section Readings

theorem clamped_of_fraction (start : 0 ≤ u) (stop : u ≤ 1) : clamped u = u := by
  rw [clamped, min_eq_right stop, max_eq_right start]

theorem readings_eq (profile : DevicePowerProfile) (samples : List ℚ) :
    readings profile samples = samples.map fun sample => readPowerW profile (sample / 100) := by
  apply List.ext_getElem
  · rw [readings, List.length_map, List.length_range, List.length_map]
  · intro count inside _
    rw [readings, List.length_map, List.length_range] at inside
    have last : (samples.take (count + 1)).getLast? = some samples[count] := by
      rw [List.getLast?_take, if_neg (Nat.succ_ne_zero count), Nat.add_sub_cancel, List.getElem?_eq_getElem inside]
      rfl
    simp only [readings, List.getElem_map, List.getElem_range, cpuFractionNow, last]

theorem sum_linearPower (profile : DevicePowerProfile) (fraction : ℚ → ℚ) (samples : List ℚ) :
    (samples.map fun sample => linearPower profile (fraction sample)).sum =
      samples.length * profile.idleW + (profile.maxW - profile.idleW) * (samples.map fraction).sum := by
  induction samples with
  | nil => simp
  | cons sample samples ih =>
    rw [List.map_cons, List.sum_cons, ih, List.map_cons, List.sum_cons, List.length_cons, linearPower]
    push_cast
    ring

theorem cores_le (m : Machine) : (1 : ℚ) ≤ m.ncpu := by exact_mod_cast m.ncpu_pos

/-- A percentage of one core stands for at least the fraction of all cores that it is, and for just this only when nothing
    runs or everything does. -/
theorem clamped_percent (start : 0 ≤ sample) (stop : sample ≤ 100 * m.ncpu) :
    sample / (100 * m.ncpu) ≤ clamped (sample / 100) ∧
      (sample / (100 * m.ncpu) = clamped (sample / 100) ↔ m.ncpu = 1 ∨ sample = 0 ∨ sample = 100 * m.ncpu) := by
  have cores := cores_le m
  have one : m.ncpu = 1 ↔ (m.ncpu : ℚ) = 1 := by exact_mod_cast Iff.rfl
  have all : (0 : ℚ) < 100 * m.ncpu := by linarith
  rw [one]
  generalize (m.ncpu : ℚ) = count at cores all stop ⊢
  have percent : 0 ≤ sample / 100 := by linarith
  rcases le_total sample 100 with part | more
  · have below : clamped (sample / 100) = sample / 100 := clamped_of_fraction percent (by linarith)
    rw [below, div_le_div_iff₀ all (by norm_num), div_eq_div_iff all.ne' (by norm_num)]
    constructor
    · nlinarith
    · constructor
      · intro equal
        have factors : sample * (count - 1) = 0 := by linarith
        rcases mul_eq_zero.mp factors with zero | single
        · exact .inr (.inl zero)
        · exact .inl (by linarith)
      · rintro (single | zero | whole)
        · rw [single]
          ring
        · rw [zero]
          ring
        · have single : count = 1 := by linarith
          rw [single]
          ring
  · have above : clamped (sample / 100) = 1 := by
      rw [clamped, min_eq_left (by linarith), max_eq_right zero_le_one]
    rw [above, div_le_one all, div_eq_one_iff_eq all.ne']
    refine ⟨stop, fun whole => .inr (.inr whole), ?_⟩
    rintro (single | zero | whole)
    · rw [single] at stop ⊢
      linarith
    · linarith
    · exact whole

end Readings

section Agreement

theorem sum_div (samples : List ℚ) (count : ℚ) : (samples.map fun sample => sample / count).sum = samples.sum / count := by
  induction samples with
  | nil => simp
  | cons sample samples ih => rw [List.map_cons, List.sum_cons, ih, List.sum_cons, add_div]

/-- The average power of the estimate is that of the mean fraction of all cores, for which nothing is cut off. -/
theorem estimatedPowerW_eq (nonempty : s.cpuPctSamples ≠ [])
    (within : ∀ sample ∈ s.cpuPctSamples, 0 ≤ sample ∧ sample ≤ 100 * m.ncpu) :
    estimatedPowerW (s.summary m) profile = linearPower profile
      ((s.cpuPctSamples.map fun sample => sample / (100 * (m.ncpu : ℚ))).sum / s.cpuPctSamples.length) := by
  have cores := cores_le m
  have all : (0 : ℚ) < 100 * m.ncpu := by linarith
  have filled : (0 : ℚ) < s.cpuPctSamples.length := Nat.cast_pos.mpr (List.length_pos_iff.mpr nonempty)
  have notEmpty : ¬ s.cpuPctSamples.isEmpty = true := by rwa [List.isEmpty_iff]
  have fraction : (s.summary m).cpuPctNormalised / 100 =
      (s.cpuPctSamples.map fun sample => sample / (100 * (m.ncpu : ℚ))).sum / s.cpuPctSamples.length := by
    show (if s.cpuPctSamples.isEmpty = true then 0 else s.cpuPctSamples.sum / s.cpuPctSamples.length) / (m.ncpu : ℚ) / 100 = _
    rw [if_neg notEmpty, sum_div]
    field_simp
  have least : 0 ≤ (s.cpuPctSamples.map fun sample => sample / (100 * (m.ncpu : ℚ))).sum := by
    apply List.sum_nonneg
    intro value member
    obtain ⟨sample, taken, rfl⟩ := List.mem_map.mp member
    exact div_nonneg (within sample taken).1 all.le
  have most : (s.cpuPctSamples.map fun sample => sample / (100 * (m.ncpu : ℚ))).sum ≤ s.cpuPctSamples.length := by
    have bounded := List.sum_le_card_nsmul (s.cpuPctSamples.map fun sample => sample / (100 * (m.ncpu : ℚ))) 1
      (fun value member => by
        obtain ⟨sample, taken, rfl⟩ := List.mem_map.mp member
        exact (div_le_one all).mpr (within sample taken).2)
    rwa [List.length_map, nsmul_one] at bounded
  rw [estimatedPowerW, fraction, clamped_of_fraction (div_nonneg least filled.le) ((div_le_one filled).mpr most)]

/-- The mean of the meter's readings is the power of the estimate if and only if power does not depend on the load, there
    is one core, or in every sample nothing ran or everything did. -/
theorem meter_agrees_iff (m : Machine) (profile : DevicePowerProfile) (s : ProcSampler) (nonempty : s.cpuPctSamples ≠ [])
    (within : ∀ sample ∈ s.cpuPctSamples, 0 ≤ sample / 100 / m.ncpu ∧ sample / 100 / m.ncpu ≤ 1) :
    (readings profile s.cpuPctSamples).sum / s.cpuPctSamples.length = estimatedPowerW (s.summary m) profile ↔
      profile.maxW = profile.idleW ∨ m.ncpu = 1 ∨ ∀ sample ∈ s.cpuPctSamples, sample = 0 ∨ sample = 100 * m.ncpu := by
  have cores := cores_le m
  have all : (0 : ℚ) < 100 * m.ncpu := by linarith
  have filled : (s.cpuPctSamples.length : ℚ) ≠ 0 := Nat.cast_ne_zero.mpr (List.length_pos_iff.mpr nonempty).ne'
  have range : ∀ sample ∈ s.cpuPctSamples, 0 ≤ sample ∧ sample ≤ 100 * m.ncpu := by
    intro sample member
    obtain ⟨start, stop⟩ := within sample member
    rw [div_div] at start stop
    have nonneg := (le_div_iff₀ all).mp start
    exact ⟨by linarith, (div_le_one all).mp stop⟩
  have read : (readings profile s.cpuPctSamples).sum = s.cpuPctSamples.length * profile.idleW +
      (profile.maxW - profile.idleW) * (s.cpuPctSamples.map fun sample => clamped (sample / 100)).sum := by
    rw [readings_eq]
    exact sum_linearPower profile (fun sample => clamped (sample / 100)) s.cpuPctSamples
  have apart : (∀ sample ∈ s.cpuPctSamples, sample / (100 * (m.ncpu : ℚ)) = clamped (sample / 100)) ↔
      m.ncpu = 1 ∨ ∀ sample ∈ s.cpuPctSamples, sample = 0 ∨ sample = 100 * m.ncpu := by
    by_cases single : m.ncpu = 1
    · exact iff_of_true (fun sample member => ((clamped_percent (range sample member).1 (range sample member).2).2).mpr
        (.inl single)) (.inl single)
    · rw [or_iff_right single]
      refine forall₂_congr fun sample member => ?_
      rw [(clamped_percent (range sample member).1 (range sample member).2).2, or_iff_right single]
  rw [read, estimatedPowerW_eq nonempty range, ← apart,
    ← sum_map_eq_iff fun sample member => (clamped_percent (range sample member).1 (range sample member).2).1, linearPower]
  generalize (s.cpuPctSamples.map fun sample => clamped (sample / 100)).sum = metered
  generalize (s.cpuPctSamples.map fun sample => sample / (100 * (m.ncpu : ℚ))).sum = estimated
  rw [add_div, mul_div_cancel_left₀ _ filled, mul_div_assoc, add_right_inj, mul_eq_mul_left_iff, div_left_inj' filled,
    sub_eq_zero, or_comm, eq_comm (a := metered)]

/-- Four cores of which first none and then every one is busy. -/
theorem meter_agrees_iff_extremes :
    (readings ⟨2, 5⟩ [0, 400]).sum / ([0, 400] : List ℚ).length =
      estimatedPowerW (ProcSampler.summary fourCores ⟨0, [0, 400], none, none⟩) ⟨2, 5⟩ :=
  (meter_agrees_iff fourCores ⟨2, 5⟩ ⟨0, [0, 400], none, none⟩ (List.cons_ne_nil _ _) (by decide +kernel)).mpr
    (.inr (.inr (by decide +kernel)))

/-- One busy core of four: the meter takes it for the whole machine. -/
theorem single_core_metered :
    (readings ⟨2, 5⟩ [100]).sum / ([100] : List ℚ).length = 5 ∧
      estimatedPowerW (ProcSampler.summary fourCores ⟨0, [100], none, none⟩) ⟨2, 5⟩ = 11 / 4 := by
  decide +kernel

end Agreement

end ZkArche.Benchmarks

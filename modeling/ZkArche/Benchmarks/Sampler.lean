import Mathlib.Data.Rat.Lemmas
import ZkArche.Foundation.Averages

namespace ZkArche.Benchmarks

open Foundation

/-- `_PAGE_SIZE`, `_CLK_TCK` and `_NCPU`. -/
structure Machine where
  pageSize : Nat
  clkTck : Nat
  ncpu : Nat
  clkTck_pos : 0 < clkTck
  ncpu_pos : 0 < ncpu

/-- What `_read_stat` finds. -/
structure ProcStat where
  utime : Int
  stime : Int
  rssPages : Int

/-- What one round of the loop reads: `/proc/<pid>/stat` and `status`, when they are there, and the clock. -/
structure Poll where
  stat : Option ProcStat
  vmRssKb : Option Int
  now : ℚ

structure Ticks where
  utime : Int
  stime : Int
  now : ℚ

def Ticks.total (ticks : Ticks) : Int := ticks.utime + ticks.stime

structure ProcSampler where
  peakRssBytes : Int
  cpuPctSamples : List ℚ
  firstTicks : Option Ticks
  lastTicks : Option Ticks

structure ResourceSummary where
  samples : Nat
  durationS : ℚ
  peakRssBytes : Int
  meanCpuPct : ℚ
  peakCpuPct : ℚ
  cpuPctNormalised : ℚ

namespace ProcSampler

def new : ProcSampler := ⟨0, [], none, none⟩

/-- The resident set in bytes, from the kB of `status` when these are there. -/
def rssBytes (m : Machine) (stat : ProcStat) : Option Int → Int
  | some kb => kb * 1024
  | none => stat.rssPages * m.pageSize

def notePeak (s : ProcSampler) (rssBytes : Int) : ProcSampler :=
  if rssBytes > s.peakRssBytes then { s with peakRssBytes := rssBytes } else s

def noteTicks (m : Machine) (s : ProcSampler) (here : Ticks) : ProcSampler :=
  match s.firstTicks, s.lastTicks with
  | some _, some last =>
    let dTicks := here.total - last.total
    let dT := here.now - last.now
    let s := if dT > 0 then
        { s with cpuPctSamples := s.cpuPctSamples ++ [((dTicks : ℚ) / m.clkTck) / dT * 100] }
      else s
    { s with lastTicks := some here }
  | _, _ => { s with firstTicks := some here, lastTicks := some here }

def sampleOnce (m : Machine) (s : ProcSampler) (poll : Poll) : ProcSampler :=
  match poll.stat with
  | none => s
  | some stat => (s.notePeak (rssBytes m stat poll.vmRssKb)).noteTicks m ⟨stat.utime, stat.stime, poll.now⟩

@[simp] theorem notePeak_cpuPctSamples (s : ProcSampler) (bytes : Int) :
    (s.notePeak bytes).cpuPctSamples = s.cpuPctSamples := by
  unfold notePeak
  split <;> rfl

@[simp] theorem notePeak_firstTicks (s : ProcSampler) (bytes : Int) : (s.notePeak bytes).firstTicks = s.firstTicks := by
  unfold notePeak
  split <;> rfl

@[simp] theorem notePeak_lastTicks (s : ProcSampler) (bytes : Int) : (s.notePeak bytes).lastTicks = s.lastTicks := by
  unfold notePeak
  split <;> rfl

def run (m : Machine) (polls : List Poll) : ProcSampler := polls.foldl (sampleOnce m) new

def summary (m : Machine) (s : ProcSampler) : ResourceSummary :=
  let durationS := match s.firstTicks, s.lastTicks with
    | some first, some last => max (last.now - first.now) (1 / 1000000)
    | _, _ => 0
  let meanCpu := if s.cpuPctSamples.isEmpty then 0 else s.cpuPctSamples.sum / s.cpuPctSamples.length
  let peakCpu := match s.cpuPctSamples with
    | [] => 0
    | sample :: samples => samples.foldl max sample
  { samples := s.cpuPctSamples.length
    durationS
    peakRssBytes := s.peakRssBytes
    meanCpuPct := meanCpu
    peakCpuPct := peakCpu
    cpuPctNormalised := meanCpu / m.ncpu }

end ProcSampler

/-- The ticks of a round that found the process. -/
def Poll.sample (poll : Poll) : Option Ticks := poll.stat.map fun stat => ⟨stat.utime, stat.stime, poll.now⟩

/-- T_cpu / (T_wall * C) * 100 between two samples. -/
def cpuNorm (m : Machine) (first last : Ticks) : ℚ :=
  let tCpu := ((last.total - first.total : Int) : ℚ) / m.clkTck
  let tWall := last.now - first.now
  tCpu / (tWall * m.ncpu) * 100

def rate (m : Machine) (before after : Ticks) : ℚ :=
  (((after.total - before.total : Int) : ℚ) / m.clkTck) / (after.now - before.now) * 100

/-- The lengths of the intervals between samples, with their CPU percentages. -/
def intervals (m : Machine) : Ticks → List Ticks → List (ℚ × ℚ)
  | _, [] => []
  | before, after :: rest => (after.now - before.now, rate m before after) :: intervals m after rest

variable {m : Machine} {s : ProcSampler} {poll : Poll} {polls : List Poll} {here first last : Ticks} {rest : List Ticks}

section Loop

theorem sampleOnce_missed (missed : poll.sample = none) : s.sampleOnce m poll = s := by
  rw [Poll.sample, Option.map_eq_none_iff] at missed
  rw [ProcSampler.sampleOnce, missed]

theorem sampleOnce_first (found : poll.sample = some here) (start : s.firstTicks = none) :
    (s.sampleOnce m poll).cpuPctSamples = s.cpuPctSamples ∧ (s.sampleOnce m poll).firstTicks = some here ∧
      (s.sampleOnce m poll).lastTicks = some here := by
  obtain ⟨stat, read, rfl⟩ := Option.map_eq_some_iff.mp found
  rw [ProcSampler.sampleOnce, read]
  simp [ProcSampler.noteTicks, start]

theorem sampleOnce_next (found : poll.sample = some here) (started : s.firstTicks = some first)
    (before : s.lastTicks = some last) (later : last.now < here.now) :
    (s.sampleOnce m poll).cpuPctSamples = s.cpuPctSamples ++ [rate m last here] ∧
      (s.sampleOnce m poll).firstTicks = some first ∧ (s.sampleOnce m poll).lastTicks = some here := by
  obtain ⟨stat, read, rfl⟩ := Option.map_eq_some_iff.mp found
  rw [ProcSampler.sampleOnce, read]
  simp [ProcSampler.noteTicks, started, before, later, rate]

theorem run_from (started : s.firstTicks = some first) (before : s.lastTicks = some last)
    (found : polls.filterMap Poll.sample = rest) (later : (last :: rest).Pairwise fun before after => before.now < after.now) :
    (polls.foldl (ProcSampler.sampleOnce m) s).cpuPctSamples = s.cpuPctSamples ++ (intervals m last rest).map Prod.snd ∧
      (polls.foldl (ProcSampler.sampleOnce m) s).firstTicks = some first ∧
      (polls.foldl (ProcSampler.sampleOnce m) s).lastTicks = some ((last :: rest).getLast (List.cons_ne_nil last rest)) := by
  induction polls generalizing s last rest with
  | nil =>
    subst found
    exact ⟨(List.append_nil _).symm, started, before⟩
  | cons poll polls ih =>
    rw [List.foldl_cons]
    cases read : poll.sample with
    | none =>
      rw [List.filterMap_cons_none read] at found
      rw [sampleOnce_missed read]
      exact ih started before found later
    | some here =>
      rw [List.filterMap_cons_some read] at found
      subst found
      have next : last.now < here.now := (List.pairwise_cons.mp later).1 here List.mem_cons_self
      obtain ⟨samples, stillFirst, nowLast⟩ := sampleOnce_next read started before next
      obtain ⟨all, same, final⟩ := ih stillFirst nowLast rfl (List.pairwise_cons.mp later).2
      refine ⟨?_, same, ?_⟩
      · rw [all, samples, intervals, List.map_cons, List.append_assoc, List.singleton_append]
      · rw [final, List.getLast_cons (List.cons_ne_nil here _)]

theorem run_samples (found : polls.filterMap Poll.sample = first :: rest)
    (later : (first :: rest).Pairwise fun before after => before.now < after.now) :
    (ProcSampler.run m polls).cpuPctSamples = (intervals m first rest).map Prod.snd ∧
      (ProcSampler.run m polls).firstTicks = some first ∧
      (ProcSampler.run m polls).lastTicks = some ((first :: rest).getLast (List.cons_ne_nil first rest)) := by
  rw [ProcSampler.run]
  induction polls with
  | nil => cases found
  | cons poll polls ih =>
    rw [List.foldl_cons]
    cases read : poll.sample with
    | none =>
      rw [List.filterMap_cons_none read] at found
      rw [sampleOnce_missed read]
      exact ih found
    | some here =>
      rw [List.filterMap_cons_some read] at found
      obtain ⟨rfl, others⟩ := List.cons.inj found
      obtain ⟨samples, started, before⟩ := sampleOnce_first (s := .new) read rfl
      obtain ⟨all, same, final⟩ := run_from started before others later
      rw [samples] at all
      exact ⟨all, same, final⟩

end Loop

section Figure

theorem sum_lengths (m : Machine) (first : Ticks) (rest : List Ticks) :
    ((intervals m first rest).map Prod.fst).sum = ((first :: rest).getLast (List.cons_ne_nil first rest)).now - first.now := by
  induction rest generalizing first with
  | nil => simp [intervals]
  | cons next rest ih =>
    rw [intervals, List.map_cons, List.sum_cons, ih, List.getLast_cons (List.cons_ne_nil next rest)]
    ring

/-- Weighted with the lengths of the intervals the percentages add up to the time between the first and last sample. -/
theorem weighted_intervals (later : (first :: rest).Pairwise fun before after => before.now < after.now) :
    weighted (intervals m first rest) =
      ((((first :: rest).getLast (List.cons_ne_nil first rest)).total - first.total : Int) : ℚ) / m.clkTck * 100 := by
  induction rest generalizing first with
  | nil => simp [intervals, weighted]
  | cons next rest ih =>
    have step : next.now - first.now ≠ 0 := (sub_pos.mpr ((List.pairwise_cons.mp later).1 next List.mem_cons_self)).ne'
    have onward := ih (List.pairwise_cons.mp later).2
    rw [weighted] at onward ⊢
    have interval : (next.now - first.now) * rate m first next = ((next.total - first.total : Int) : ℚ) / m.clkTck * 100 := by
      rw [rate]
      field_simp
    rw [intervals, List.map_cons, List.sum_cons, onward, List.getLast_cons (List.cons_ne_nil next rest), interval]
    push_cast
    ring

theorem normalised_eq {second : Ticks} (found : polls.filterMap Poll.sample = first :: second :: rest)
    (later : (first :: second :: rest).Pairwise fun before after => before.now < after.now) :
    ((ProcSampler.run m polls).summary m).cpuPctNormalised =
      ((intervals m first (second :: rest)).map Prod.snd).sum / (intervals m first (second :: rest)).length / m.ncpu := by
  obtain ⟨samples, _, _⟩ := run_samples (m := m) found later
  show (if (ProcSampler.run m polls).cpuPctSamples.isEmpty = true then 0 else
    (ProcSampler.run m polls).cpuPctSamples.sum / (ProcSampler.run m polls).cpuPctSamples.length) / (m.ncpu : ℚ) = _
  rw [samples, List.length_map]
  rfl

theorem cpuNorm_eq {second : Ticks}
    (later : (first :: second :: rest).Pairwise fun before after => before.now < after.now) :
    cpuNorm m first ((second :: rest).getLast (List.cons_ne_nil second rest)) =
        weighted (intervals m first (second :: rest)) / ((intervals m first (second :: rest)).map Prod.fst).sum / m.ncpu ∧
      ((intervals m first (second :: rest)).map Prod.fst).sum ≠ 0 := by
  have wall : 0 < ((second :: rest).getLast (List.cons_ne_nil second rest)).now - first.now :=
    sub_pos.mpr ((List.pairwise_cons.mp later).1 _ (List.getLast_mem _))
  have lengths := sum_lengths m first (second :: rest)
  have total := weighted_intervals (m := m) later
  rw [List.getLast_cons (List.cons_ne_nil second rest)] at lengths total
  have cores : (m.ncpu : ℚ) ≠ 0 := Nat.cast_ne_zero.mpr m.ncpu_pos.ne'
  have ticks : (m.clkTck : ℚ) ≠ 0 := Nat.cast_ne_zero.mpr m.clkTck_pos.ne'
  constructor
  · rw [total, lengths, cpuNorm]
    field_simp
  · rw [lengths]
    exact wall.ne'

/-- With at least two samples the reported figure is the documented one if and only if the intervals between the samples
    and the CPU percentages in them do not differ together. -/
theorem cpu_figure_documented_iff (m : Machine) (polls : List Poll) (first second : Ticks) (rest : List Ticks)
    (found : polls.filterMap Poll.sample = first :: second :: rest)
    (later : (first :: second :: rest).Pairwise fun before after => before.now < after.now) :
    ((ProcSampler.run m polls).summary m).cpuPctNormalised =
        cpuNorm m first ((second :: rest).getLast (List.cons_ne_nil second rest)) ↔
      covariation (intervals m first (second :: rest)) = 0 := by
  obtain ⟨norm, positive⟩ := cpuNorm_eq (m := m) later
  have cores : (m.ncpu : ℚ) ≠ 0 := Nat.cast_ne_zero.mpr m.ncpu_pos.ne'
  rw [normalised_eq found later, norm, div_left_inj' cores]
  exact mean_eq_weighted_iff (List.cons_ne_nil _ _) positive

theorem fourCores_ncpu_pos : 0 < 4 := by decide

theorem fourCores_clkTck_pos : 0 < 100 := by decide

def fourCores : Machine := ⟨4096, 100, 4, fourCores_clkTck_pos, fourCores_ncpu_pos⟩

def Poll.at (utime : Int) (now : ℚ) : Poll := ⟨some ⟨utime, 0, 1⟩, none, now⟩

/-- Three samples, a second apart. -/
theorem cpu_figure_documented_iff_regular :
    ((ProcSampler.run fourCores [.at 0 0, .at 100 1, .at 100 2]).summary fourCores).cpuPctNormalised =
      cpuNorm fourCores ⟨0, 0, 0⟩ ⟨100, 0, 2⟩ :=
  (cpu_figure_documented_iff fourCores [.at 0 0, .at 100 1, .at 100 2] ⟨0, 0, 0⟩ ⟨100, 0, 1⟩ [⟨100, 0, 2⟩] rfl
    (by simp)).mpr (covariation_of_equal_weights
      (by decide +kernel : ∀ pair ∈ intervals fourCores ⟨0, 0, 0⟩ [⟨100, 0, 1⟩, ⟨100, 0, 2⟩], pair.1 = 1))

/-- A busy second, and two idle seconds until the next sample. -/
theorem irregular_polls_differ :
    ((ProcSampler.run fourCores [.at 0 0, .at 100 1, .at 100 3]).summary fourCores).cpuPctNormalised ≠
      cpuNorm fourCores ⟨0, 0, 0⟩ ⟨100, 0, 3⟩ := by
  decide +kernel

end Figure

end ZkArche.Benchmarks

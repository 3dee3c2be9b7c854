import ZkArche.Foundation.Doubling
import ZkArche.CServer.ReplayFile

namespace ZkArche.CServer

open Foundation CImpl

/-- Why a file is not loaded: -1 is returned, the loop that looks for a capacity goes on for ever,
    or more keys are read than were reserved. -/
inductive LoadFailure where
  | refused
  | loops
  | overruns
  deriving DecidableEq

/-- An array of keys as `realloc` hands it out: the capacity that is noted, and the bytes that
    there really are. -/
structure Allocation where
  arr : KeyArray
  size : Nat

def Allocation.null : Allocation := ⟨.null, 0⟩

/-- `replay_cache_reserve` on a machine with `word`-bit sizes. -/
def reserveOn (word fuel : Nat) (memory : Bool) (alloc : Allocation) (need : Nat) : Except LoadFailure Allocation :=
  if alloc.arr.cap ≥ need then .ok alloc
  else
    match doubleUntil word need fuel (if alloc.arr.cap = 0 then 256 else alloc.arr.cap) with
    | none => .error .loops
    | some newCap =>
      if memory then .ok ⟨{ alloc.arr with cap := newCap }, newCap * 64 % 2 ^ word⟩ else .error .refused

/-- `count && fread(arr, 64, count, f) != count`, where `data` is what the file still holds. -/
def freadKeys (alloc : Allocation) (count : Nat) (data : List UInt8) : Except LoadFailure KeyArray :=
  let keys := readKeys count data
  if alloc.size < keys.length * 64 then .error .overruns
  else if keys.length ≠ count then .error .refused
  else .ok { alloc.arr with keys }

/-- `replay_cache_load` on a machine with `word`-bit sizes, whose `long` has a sign. -/
def replayCacheLoadOn (word fuel : Nat) (memory : Bool × Bool) (now : Nat) :
    StateFile UInt8 → Except LoadFailure ReplayCache
  | .absent => .ok { ReplayCache.zero with lastPersist := now }
  | .unreadable _ => .error .refused
  | .present data _ =>
    let currentCount := le32Load data
    let previousCount := le32Load (data.drop 4)
    if data.length < 8 ∨ 2 ^ (word - 1) ≤ data.length then .error .refused
    else if data.length ≠ (8 + (currentCount + previousCount) * 64) % 2 ^ word then .error .refused
    else do
      let current ← reserveOn word fuel memory.1 .null currentCount
      let previous ← reserveOn word fuel memory.2 .null previousCount
      let current ← freadKeys current currentCount (data.drop 8)
      let previous ← freadKeys previous previousCount (data.drop (8 + currentCount * 64))
      pure { current, previous, dirty := false, pendingInserts := 0, lastPersist := now }

/-- Whatever memory there is, the loader comes to an end and stays inside its arrays. -/
def LoadsSafely (word : Nat) (file : StateFile UInt8) : Prop :=
  ∀ memory now, ∃ fuel, ∀ failure, replayCacheLoadOn word fuel memory now file = .error failure → failure = .refused

/-- The counts call for more bytes than the machine can count, and the rest of their number is the
    length of the file. -/
structure Wraps (word : Nat) (data : List UInt8) : Prop where
  header : 8 ≤ data.length
  length : data.length = (8 + (le32Load data + le32Load (data.drop 4)) * 64) % 2 ^ word
  wraps : 2 ^ word ≤ 8 + (le32Load data + le32Load (data.drop 4)) * 64

/-- A count is past every capacity, or gets an array of no bytes although the file of this length
    has a key left for it. -/
def Outgrows (word current previous length : Nat) : Prop :=
  2 ^ (word - 1) < current ∨ 2 ^ (word - 1) < previous ∨ 2 ^ (word - 7) < current ∧ 8 < length ∨
    current ≤ 2 ^ (word - 7) ∧ 8 + current * 64 < length

/-- The counts wrap, and the arrays cannot follow them. -/
structure Derails (word : Nat) (data : List UInt8) : Prop extends Wraps word data where
  short : data.length < 2 ^ (word - 1)
  derails : Outgrows word (le32Load data) (le32Load (data.drop 4)) data.length

variable {word fuel need count : Nat} {memory : Bool} {alloc : Allocation} {data : List UInt8}

theorem reserveOn_zero : reserveOn word fuel memory .null 0 = .ok .null := rfl

theorem reserveOn_null (positive : 0 < need) : reserveOn word fuel memory .null need =
    match doubleUntil word need fuel 256 with
    | none => .error .loops
    | some newCap => if memory then .ok ⟨⟨[], newCap⟩, newCap * 64 % 2 ^ word⟩ else .error .refused := by
  rw [reserveOn, if_neg (show ¬ Allocation.null.arr.cap ≥ need from Nat.not_le.mpr positive)]
  rfl

def Provides (word need : Nat) (alloc : Allocation) : Prop :=
  alloc.arr.keys = [] ∧ (need ≤ 2 ^ (word - 7) → need * 64 ≤ alloc.size) ∧
    (2 ^ (word - 7) < need → alloc.size = 0)

theorem capacity_provides {last : Nat} (wide : 32 ≤ word) (inside : last < word) (reaches : need ≤ 2 ^ last)
    (first : last = 8 ∨ 8 < last ∧ 2 ^ (last - 1) < need) :
    Provides word need ⟨⟨[], 2 ^ last⟩, 2 ^ last * 64 % 2 ^ word⟩ := by
  have bytes : 2 ^ last * 64 = 2 ^ (last + 6) := (Nat.pow_add 2 last 6).symm
  refine ⟨rfl, ?_, ?_⟩
  · intro small
    show need * 64 ≤ 2 ^ last * 64 % 2 ^ word
    have room : last + 6 < word := by
      rcases first with rfl | ⟨_, tight⟩
      · omega
      · have := (Nat.pow_lt_pow_iff_right (show 1 < 2 by decide)).mp (lt_of_lt_of_le tight small)
        omega
    rw [Nat.mod_eq_of_lt (by rw [bytes]; exact Nat.pow_lt_pow_right (by decide) room)]
    exact Nat.mul_le_mul_right 64 reaches
  · intro large
    show 2 ^ last * 64 % 2 ^ word = 0
    have past := (Nat.pow_lt_pow_iff_right (show 1 < 2 by decide)).mp (lt_of_lt_of_le large reaches)
    rw [bytes]
    exact Nat.mod_eq_zero_of_dvd (Nat.pow_dvd_pow 2 (by omega))

theorem reserveOn_cases (wide : 32 ≤ word) (reachable : need ≤ 2 ^ (word - 1)) (fuel : Nat) :
    (reserveOn word fuel true .null need = .error .loops ∨
      ∃ alloc, reserveOn word fuel true .null need = .ok alloc ∧ Provides word need alloc) ∧
    (word ≤ fuel → ∃ alloc, reserveOn word fuel true .null need = .ok alloc ∧ Provides word need alloc) := by
  rcases Nat.eq_zero_or_pos need with rfl | positive
  · have provides : Provides word 0 .null := ⟨rfl, fun _ => Nat.zero_le _, fun _ => rfl⟩
    exact ⟨.inr ⟨_, reserveOn_zero, provides⟩, fun _ => ⟨_, reserveOn_zero, provides⟩⟩
  have enough : word - 8 ≤ max word fuel := by omega
  obtain ⟨last, inside, ends, reaches, first⟩ := doubleUntil_pow reachable (by omega) enough
  have provides := capacity_provides wide inside reaches first
  rw [reserveOn_null positive]
  constructor
  · cases outcome : doubleUntil word need fuel 256 with
    | none => exact .inl rfl
    | some newCap =>
      have same := doubleUntil_mono outcome (Nat.le_max_right word fuel)
      rw [show (256 : Nat) = 2 ^ 8 by decide, ends] at same
      cases same
      exact .inr ⟨_, rfl, provides⟩
  · intro enough
    rw [max_eq_right enough] at ends
    rw [show (256 : Nat) = 2 ^ 8 by decide, ends]
    exact ⟨_, rfl, provides⟩

theorem reserveOn_huge (wide : 32 ≤ word) (huge : 2 ^ (word - 1) < need) (fuel : Nat) (memory : Bool) :
    reserveOn word fuel memory .null need = .error .loops := by
  rw [reserveOn_null (Nat.zero_lt_of_lt huge), doubleUntil_never huge (.inr ⟨8, by omega, by decide⟩)]

theorem reserveOn_noMemory (wide : 32 ≤ word) (reachable : need ≤ 2 ^ (word - 1)) (enough : word ≤ fuel) :
    reserveOn word fuel false .null need = .error .refused ∨
      ∃ alloc, reserveOn word fuel false .null need = .ok alloc ∧ Provides word need alloc := by
  rcases Nat.eq_zero_or_pos need with rfl | positive
  · exact .inr ⟨_, reserveOn_zero, rfl, fun _ => Nat.zero_le _, fun _ => rfl⟩
  · have steps : word - 8 ≤ fuel := by omega
    obtain ⟨last, _, ends, _⟩ := doubleUntil_pow reachable (by omega) steps
    rw [reserveOn_null positive, show (256 : Nat) = 2 ^ 8 by decide, ends]
    exact .inl rfl

theorem reserveOn_outcome (wide : 32 ≤ word) (reachable : need ≤ 2 ^ (word - 1)) (enough : word ≤ fuel) (memory : Bool) :
    reserveOn word fuel memory .null need = .error .refused ∨
      ∃ alloc, reserveOn word fuel memory .null need = .ok alloc ∧ Provides word need alloc := by
  cases memory with
  | false => exact reserveOn_noMemory wide reachable enough
  | true => exact .inr ((reserveOn_cases wide reachable fuel).2 enough)

theorem length_readKeys_mul (count : Nat) (data : List UInt8) : (readKeys count data).length * 64 ≤ data.length := by
  induction count generalizing data with
  | zero => simp [readKeys]
  | succ count ih =>
    rw [readKeys]
    split
    · have tail := ih (data.drop 64)
      rw [List.length_drop] at tail
      rw [List.length_cons]
      omega
    · simp

/-- Nothing is read past an array that is large enough, or from a file that has no key left. -/
theorem freadKeys_refuses (provides : Provides word need alloc) (safe : need ≤ 2 ^ (word - 7) ∨ data.length < 64)
    {failure : LoadFailure} (failed : freadKeys alloc need data = .error failure) : failure = .refused := by
  have inside : ¬ alloc.size < (readKeys need data).length * 64 := by
    rcases safe with small | short
    · have room := provides.2.1 small
      have counted := Nat.mul_le_mul_right 64 (length_readKeys need data)
      omega
    · have counted := length_readKeys_mul need data
      omega
  rw [freadKeys, if_neg inside] at failed
  split at failed
  · cases failed
    rfl
  · cases failed

def loadKeys (word fuel : Nat) (memory : Bool × Bool) (now : Nat) (data : List UInt8) :
    Except LoadFailure ReplayCache := do
  let current ← reserveOn word fuel memory.1 .null (le32Load data)
  let previous ← reserveOn word fuel memory.2 .null (le32Load (data.drop 4))
  let current ← freadKeys current (le32Load data) (data.drop 8)
  let previous ← freadKeys previous (le32Load (data.drop 4)) (data.drop (8 + le32Load data * 64))
  pure { current, previous, dirty := false, pendingInserts := 0, lastPersist := now }

structure Measured (word : Nat) (data : List UInt8) : Prop where
  header : 8 ≤ data.length
  short : data.length < 2 ^ (word - 1)
  length : data.length = (8 + (le32Load data + le32Load (data.drop 4)) * 64) % 2 ^ word

theorem replayCacheLoadOn_measured {now : Nat} (mode : Nat) {memory : Bool × Bool} (measured : Measured word data) :
    replayCacheLoadOn word fuel memory now (.present data mode) = loadKeys word fuel memory now data := by
  have header := measured.header
  have short := measured.short
  rw [replayCacheLoadOn]
  rw [if_neg (by omega), if_neg (not_not_intro measured.length)]
  rfl

theorem replayCacheLoadOn_unmeasured {now mode : Nat} {memory : Bool × Bool} (unmeasured : ¬ Measured word data) :
    replayCacheLoadOn word fuel memory now (.present data mode) = .error .refused := by
  rw [replayCacheLoadOn]
  split
  · rfl
  · rename_i sized
    have header : 8 ≤ data.length := by omega
    have short : data.length < 2 ^ (word - 1) := by omega
    rw [if_pos fun length => unmeasured ⟨header, short, length⟩]

structure Harmless (word : Nat) (data : List UInt8) : Prop where
  current : le32Load data ≤ 2 ^ (word - 1)
  previous : le32Load (data.drop 4) ≤ 2 ^ (word - 1)
  younger : le32Load data ≤ 2 ^ (word - 7) ∨ data.length < 8 + 64
  older : le32Load (data.drop 4) ≤ 2 ^ (word - 7) ∨ data.length < 8 + le32Load data * 64 + 64

theorem loadKeys_refuses {now : Nat} {memory : Bool × Bool} (wide : 32 ≤ word) (harmless : Harmless word data)
    {failure : LoadFailure} (failed : loadKeys word word memory now data = .error failure) : failure = .refused := by
  unfold loadKeys at failed
  rcases reserveOn_outcome wide harmless.current (Nat.le_refl word) memory.1 with refused | ⟨current, reserved, provides⟩
  · rw [refused] at failed
    cases failed
    rfl
  rw [reserved] at failed
  rcases reserveOn_outcome wide harmless.previous (Nat.le_refl word) memory.2 with refused | ⟨previous, reserved', provides'⟩
  · rw [refused] at failed
    cases failed
    rfl
  rw [reserved'] at failed
  rcases Except.bind_error_iff.mp failed with impossible | ⟨_, same, failed⟩
  · cases impossible
  cases same
  rcases Except.bind_error_iff.mp failed with impossible | ⟨_, same, failed⟩
  · cases impossible
  cases same
  rcases Except.bind_error_iff.mp failed with failed | ⟨_, _, failed⟩
  · have rest : le32Load data ≤ 2 ^ (word - 7) ∨ (data.drop 8).length < 64 := by
      rw [List.length_drop]
      have := harmless.younger
      omega
    exact freadKeys_refuses provides rest failed
  rcases Except.bind_error_iff.mp failed with failed | ⟨_, _, failed⟩
  · have rest : le32Load (data.drop 4) ≤ 2 ^ (word - 7) ∨ (data.drop (8 + le32Load data * 64)).length < 64 := by
      rw [List.length_drop]
      have := harmless.older
      omega
    exact freadKeys_refuses provides' rest failed
  · cases failed

theorem two_pow_split (wide : 32 ≤ word) : 2 ^ word = 64 * 2 ^ (word - 6) ∧ 2 ^ (word - 6) = 2 * 2 ^ (word - 7) ∧
    2 ^ word = 2 * 2 ^ (word - 1) := by
  refine ⟨?_, ?_, ?_⟩
  · rw [show word = 6 + (word - 6) by omega, Nat.pow_add, Nat.add_sub_cancel_left]
  · rw [← Nat.pow_succ', show (word - 7).succ = word - 6 by omega]
  · rw [← Nat.pow_succ', show (word - 1).succ = word by omega]

theorem Measured.exact_or_wraps (measured : Measured word data) :
    data.length = 8 + (le32Load data + le32Load (data.drop 4)) * 64 ∨ Wraps word data := by
  by_cases small : 8 + (le32Load data + le32Load (data.drop 4)) * 64 < 2 ^ word
  · exact .inl (measured.length.trans (Nat.mod_eq_of_lt small))
  · exact .inr ⟨measured.header, measured.length, Nat.not_lt.mp small⟩

theorem harmless_of_not_derails (wide : 32 ≤ word) (measured : Measured word data) (not : ¬ Derails word data) :
    Harmless word data := by
  obtain ⟨split, half, double⟩ := two_pow_split wide
  have header := measured.header
  have short := measured.short
  rcases measured.exact_or_wraps with exact_ | wraps
  · constructor <;> omega
  · have calm : ¬ Outgrows word (le32Load data) (le32Load (data.drop 4)) data.length :=
      fun outgrows => not ⟨wraps, short, outgrows⟩
    have total := wraps.wraps
    unfold Outgrows at calm
    constructor <;> omega

theorem length_readKeys_of_fits {count : Nat} (fits : count * 64 ≤ data.length) :
    (readKeys count data).length = count := by
  induction count generalizing data with
  | zero => rfl
  | succ count ih =>
    have here : 64 ≤ data.length := by omega
    rw [readKeys, dif_pos here, List.length_cons, ih (by rw [List.length_drop]; omega)]

theorem readKeys_pos (positive : 0 < count) (here : 64 ≤ data.length) : 0 < (readKeys count data).length := by
  cases count with
  | zero => cases positive
  | succ count =>
    rw [readKeys, dif_pos here]
    exact Nat.succ_pos _

theorem freadKeys_overruns (provides : Provides word need alloc) (large : 2 ^ (word - 7) < need)
    (here : 64 ≤ data.length) : freadKeys alloc need data = .error .overruns := by
  have empty := provides.2.2 large
  have some_key := readKeys_pos (Nat.zero_lt_of_lt large) here
  rw [freadKeys, if_pos (by omega)]

theorem freadKeys_ok (provides : Provides word need alloc) (small : need ≤ 2 ^ (word - 7))
    (here : need * 64 ≤ data.length) :
    freadKeys alloc need data = .ok { alloc.arr with keys := readKeys need data } := by
  have room := provides.2.1 small
  have count := length_readKeys_of_fits here
  rw [freadKeys, count, if_neg (Nat.not_lt.mpr room), if_neg (not_not_intro rfl)]

theorem loadKeys_reserved (now : Nat) (wide : 32 ≤ word) (current : le32Load data ≤ 2 ^ (word - 1))
    (previous : le32Load (data.drop 4) ≤ 2 ^ (word - 1)) (fuel : Nat) :
    loadKeys word fuel (true, true) now data = .error .loops ∨
      ∃ younger older, Provides word (le32Load data) younger ∧ Provides word (le32Load (data.drop 4)) older ∧
        loadKeys word fuel (true, true) now data = (do
          let current ← freadKeys younger (le32Load data) (data.drop 8)
          let previous ← freadKeys older (le32Load (data.drop 4)) (data.drop (8 + le32Load data * 64))
          pure { current, previous, dirty := false, pendingInserts := 0, lastPersist := now }) := by
  unfold loadKeys
  rcases (reserveOn_cases wide current fuel).1 with loops | ⟨younger, reserved, provides⟩
  · rw [loops]
    exact .inl rfl
  rw [reserved]
  rcases (reserveOn_cases wide previous fuel).1 with loops | ⟨older, reserved', provides'⟩
  · rw [loops]
    exact .inl rfl
  rw [reserved']
  exact .inr ⟨younger, older, provides, provides', rfl⟩

theorem loadKeys_derails (now : Nat) (wide : 32 ≤ word) (derails : Derails word data) (fuel : Nat) :
    ∃ failure, loadKeys word fuel (true, true) now data = .error failure ∧ failure ≠ .refused := by
  obtain ⟨split, half, double⟩ := two_pow_split wide
  have total := derails.wraps
  have aligned : data.length % 64 = 8 := by
    rw [derails.length, split, Nat.mod_mul_right_mod]
    omega
  by_cases huge : 2 ^ (word - 1) < le32Load data
  · refine ⟨.loops, ?_, nofun⟩
    rw [loadKeys, reserveOn_huge wide huge]
    rfl
  have current := Nat.not_lt.mp huge
  by_cases huge' : 2 ^ (word - 1) < le32Load (data.drop 4)
  · refine ⟨.loops, ?_, nofun⟩
    rw [loadKeys, reserveOn_huge wide huge']
    rcases (reserveOn_cases wide current fuel).1 with loops | ⟨younger, reserved, _⟩
    · rw [loops]
      rfl
    · rw [reserved]
      rfl
  have previous := Nat.not_lt.mp huge'
  rcases loadKeys_reserved now wide current previous fuel with loops | ⟨younger, older, provides, provides', reads⟩
  · exact ⟨.loops, loops, nofun⟩
  refine ⟨.overruns, ?_, nofun⟩
  rw [reads]
  rcases derails.derails with impossible | impossible | ⟨large, longer⟩ | ⟨small, longer⟩
  · exact absurd impossible huge
  · exact absurd impossible huge'
  · rw [freadKeys_overruns provides large (by rw [List.length_drop]; omega)]
    rfl
  · have here : le32Load data * 64 ≤ (data.drop 8).length := by
      rw [List.length_drop]
      omega
    have read := freadKeys_ok provides small here
    have larger : 2 ^ (word - 7) < le32Load (data.drop 4) := by
      by_contra less
      have sum : le32Load data + le32Load (data.drop 4) = 2 ^ (word - 6) := by omega
      have length := derails.length
      rw [sum, Nat.mul_comm, ← split, Nat.add_mod_right] at length
      have bound := Nat.mod_le 8 (2 ^ word)
      omega
    rw [read, freadKeys_overruns provides' larger (by rw [List.length_drop]; omega)]
    rfl

theorem loadsSafely_iff {mode : Nat} (wide : 32 ≤ word) : LoadsSafely word (.present data mode) ↔ ¬ Derails word data := by
  constructor
  · intro safe derails
    obtain ⟨fuel, refuses⟩ := safe (true, true) 0
    have measured : Measured word data := ⟨derails.header, derails.short, derails.length⟩
    obtain ⟨failure, failed, notRefused⟩ := loadKeys_derails 0 wide derails fuel
    rw [← replayCacheLoadOn_measured mode measured] at failed
    exact notRefused (refuses failure failed)
  · intro calm memory now
    refine ⟨word, fun failure failed => ?_⟩
    by_cases measured : Measured word data
    · rw [replayCacheLoadOn_measured _ measured] at failed
      exact loadKeys_refuses wide (harmless_of_not_derails wide measured calm) failed
    · rw [replayCacheLoadOn_unmeasured measured] at failed
      cases failed
      rfl

section SixtyFour

theorem growTo_pow {exponent last : Nat} (enough : last - exponent ≤ fuel) (reaches : need ≤ 2 ^ last)
    (first : last = exponent ∨ exponent < last ∧ 2 ^ (last - 1) < need) : growTo need fuel (2 ^ exponent) = 2 ^ last := by
  induction fuel generalizing exponent with
  | zero =>
    rw [growTo, show last = exponent by omega]
  | succ fuel ih =>
    rcases first with rfl | ⟨later, tight⟩
    · rw [growTo, if_neg (Nat.not_lt.mpr reaches)]
    · have short : 2 ^ exponent < need :=
        lt_of_le_of_lt (Nat.pow_le_pow_right (by decide) (by omega)) tight
      rw [growTo, if_pos short, ← Nat.pow_succ]
      exact ih (by omega) (by omega)

theorem reserveOn_sixtyFour (small : need < 2 ^ 32) (memory : Bool) :
    (reserveOn 64 64 memory .null need = .error .refused ∧ KeyArray.null.reserve memory need = none) ∨
      ∃ alloc, reserveOn 64 64 memory .null need = .ok alloc ∧ Provides 64 need alloc ∧
        KeyArray.null.reserve memory need = some alloc.arr := by
  rcases Nat.eq_zero_or_pos need with rfl | positive
  · exact .inr ⟨.null, rfl, ⟨rfl, fun _ => Nat.zero_le _, fun _ => rfl⟩, rfl⟩
  have reachable : need ≤ 2 ^ (64 - 1) := by omega
  have enough : 64 - 8 ≤ 64 := by decide
  obtain ⟨last, inside, ends, reaches, first⟩ := doubleUntil_pow reachable (by decide) enough
  have grown : growTo need need 256 = 2 ^ last := by
    have enough : last - 8 ≤ need := by
      rcases first with rfl | ⟨_, tight⟩
      · omega
      · have := (Nat.lt_two_pow_self (n := last - 1)).trans tight
        omega
    rw [show (256 : Nat) = 2 ^ 8 by decide]
    exact growTo_pow enough reaches first
  have reserved : reserveOn 64 64 memory .null need =
      if memory then .ok ⟨⟨[], 2 ^ last⟩, 2 ^ last * 64 % 2 ^ 64⟩ else .error .refused := by
    rw [reserveOn_null positive, show (256 : Nat) = 2 ^ 8 by decide, ends]
  have unlimited : KeyArray.null.reserve memory need = if memory then some ⟨[], 2 ^ last⟩ else none := by
    rw [KeyArray.reserve, if_neg (show ¬ KeyArray.null.cap ≥ need from Nat.not_le.mpr positive)]
    show (if memory then some (⟨[], growTo need need 256⟩ : KeyArray) else none) = _
    rw [grown]
  rw [reserved, unlimited]
  cases memory with
  | false => exact .inl ⟨rfl, rfl⟩
  | true => exact .inr ⟨_, rfl, capacity_provides (by decide) inside reaches first, rfl⟩

theorem replayCacheLoadOn_sixtyFour {memory : Bool × Bool} {now : Nat} {file : StateFile UInt8}
    (held : ∀ data mode, file = .present data mode → data.length < 2 ^ 63) :
    (replayCacheLoadOn 64 64 memory now file).toOption = replayCacheLoad memory now file := by
  cases file with
  | absent => rfl
  | unreadable error => rfl
  | present data mode =>
    have short := held data mode rfl
    have younger := le32Load_lt data
    have older := le32Load_lt (data.drop 4)
    have exact_ : (8 + (le32Load data + le32Load (data.drop 4)) * 64) % 2 ^ 64 =
        8 + (le32Load data + le32Load (data.drop 4)) * 64 := Nat.mod_eq_of_lt (by omega)
    by_cases measured : Measured 64 data
    · have header := measured.header
      have length := measured.length.trans exact_
      have unguarded : replayCacheLoad memory now (.present data mode) = (do
          let current ← KeyArray.null.reserve memory.1 (le32Load data)
          let previous ← KeyArray.null.reserve memory.2 (le32Load (data.drop 4))
          pure {
            current := { current with keys := readKeys (le32Load data) (data.drop 8) }
            previous := { previous with
              keys := readKeys (le32Load (data.drop 4)) (data.drop (8 + le32Load data * 64)) }
            dirty := false
            pendingInserts := 0
            lastPersist := now }) := by
        unfold replayCacheLoad
        simp only [guard, if_pos header, if_pos length]
        rfl
      rw [replayCacheLoadOn_measured _ measured, loadKeys, unguarded]
      rcases reserveOn_sixtyFour younger memory.1 with ⟨refused, none⟩ | ⟨current, reserved, provides, unlimited⟩
      · rw [refused, none]
        rfl
      rcases reserveOn_sixtyFour older memory.2 with ⟨refused, none⟩ | ⟨previous, reserved', provides', unlimited'⟩
      · rw [reserved, refused, unlimited, none]
        rfl
      have here : le32Load data * 64 ≤ (data.drop 8).length := by
        rw [List.length_drop]
        omega
      have there : le32Load (data.drop 4) * 64 ≤ (data.drop (8 + le32Load data * 64)).length := by
        rw [List.length_drop]
        omega
      have read := freadKeys_ok provides (by omega) here
      have read' := freadKeys_ok provides' (by omega) there
      rw [reserved, reserved', unlimited, unlimited']
      show (freadKeys current (le32Load data) (data.drop 8) >>= fun current => do
        let previous ← freadKeys previous (le32Load (data.drop 4)) (data.drop (8 + le32Load data * 64))
        pure _).toOption = _
      rw [read]
      show (freadKeys previous (le32Load (data.drop 4)) (data.drop (8 + le32Load data * 64)) >>= fun previous =>
        pure _).toOption = _
      rw [read']
      rfl
    · rw [replayCacheLoadOn_unmeasured measured]
      unfold replayCacheLoad
      by_cases header : 8 ≤ data.length
      · have wrong : ¬ data.length = 8 + (le32Load data + le32Load (data.drop 4)) * 64 :=
          fun length => measured ⟨header, short, length.trans exact_.symm⟩
        simp only [guard, if_pos header, if_neg wrong]
        rfl
      · simp only [guard, if_neg header]
        rfl

end SixtyFour

end ZkArche.CServer

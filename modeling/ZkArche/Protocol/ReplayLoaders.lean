import ZkArche.CServer.WordSize
import ZkArche.Server.ReplayFile

namespace ZkArche.Protocol

open Foundation
open CServer (le32Load Wraps Derails LoadsSafely)
open Server (mostKeys)

variable {word off count : Nat} {data : List UInt8}

theorem vals_bytes (bytes : List UInt8) : vals bytes = bytes := List.map_id bytes

theorem loadEntries_of_fits (fits : off + count * 64 ≤ data.length) : ∃ entries, Server.loadEntries data off count = .ok entries := by
  induction count generalizing off with
  | zero => exact ⟨∅, rfl⟩
  | succ count ih =>
    have later : off + 64 + count * 64 ≤ data.length := by omega
    obtain ⟨rest, there⟩ := ih later
    rw [Server.loadEntries, sliceBlock_eq rfl (by omega)]
    simp only [bind, Except.bind, there]
    exact ⟨_, rfl⟩

theorem load_present {now mode : Nat} : Server.ReplayCache.load word now (.present data mode) =
    if data.length < 8 then .error (invalidData "replay cache truncated")
    else if data.length ≠ (8 + (le32Load data + le32Load (data.drop 4)) * 64) % 2 ^ word then
      .error (invalidData "replay cache length mismatch")
    else (do
      Server.withCapacity word (le32Load data)
      Server.withCapacity word (le32Load (data.drop 4))
      let current ← Server.loadEntries data 8 (le32Load data)
      let previous ← Server.loadEntries data (8 + le32Load data * 64) (le32Load (data.drop 4))
      pure { current, previous, dirty := false, pendingInserts := 0, lastPersist := some now }) := by
  have young := vals_bytes (data.take 4)
  have old := vals_bytes ((data.drop 4).take 4)
  unfold le32Load
  rw [← young, ← old]
  rfl

/-- The file is as long as its counts say on this machine, and a count is more than a table has room for. -/
structure Overflows (word : Nat) (data : List UInt8) : Prop where
  header : 8 ≤ data.length
  length : data.length = (8 + (le32Load data + le32Load (data.drop 4)) * 64) % 2 ^ word
  overflows : mostKeys word < le32Load data ∨ mostKeys word < le32Load (data.drop 4)

theorem two_tables_fit (wide : 32 ≤ word) : 8 + (mostKeys word + mostKeys word) * 64 < 2 ^ word := by
  have grown : 2 ^ 21 ≤ 2 ^ (word - 11) := Nat.pow_le_pow_right (by decide) (by omega)
  have whole : 2 ^ word = 2048 * 2 ^ (word - 11) := by
    conv_lhs => rw [show word = word - 11 + 11 by omega, Nat.pow_add, Nat.mul_comm]
  unfold mostKeys
  omega

/-- The Rust loader never leaves the data: it panics on exactly the files that ask for too large a table, and when it
    makes the table. -/
theorem load_panics_iff (wide : 32 ≤ word) (data : List UInt8) (now mode : Nat) :
    (NoPanic (Server.ReplayCache.load word now (.present data mode)) ↔ ¬ Overflows word data) ∧
    ∀ message, Server.ReplayCache.load word now (.present data mode) = .error (.panic message) →
      message = "Hash table capacity overflow" := by
  rw [load_present]
  split
  case isTrue short => exact ⟨iff_of_true (failsOnly_error id) fun overflows => absurd overflows.header (by omega), nofun⟩
  case isFalse long =>
    split
    case isTrue other => exact ⟨iff_of_true (failsOnly_error id) fun overflows => other overflows.length, nofun⟩
    case isFalse same =>
      have length := not_not.mp same
      rw [Server.withCapacity_eq wide, Server.withCapacity_eq wide]
      split
      case isFalse past =>
        have overflows : Overflows word data := ⟨by omega, length, .inl (by omega)⟩
        exact ⟨iff_of_false (fun calm => calm _ rfl trivial) (not_not_intro overflows), fun _ panics => by cases panics; rfl⟩
      case isTrue young =>
        split
        case isFalse past =>
          have overflows : Overflows word data := ⟨by omega, length, .inr (by omega)⟩
          exact ⟨iff_of_false (fun calm => calm _ rfl trivial) (not_not_intro overflows), fun _ panics => by cases panics; rfl⟩
        case isTrue old =>
          have room := two_tables_fit wide
          rw [Nat.mod_eq_of_lt (by omega)] at length
          have first : 8 + le32Load data * 64 ≤ data.length := by omega
          have second : 8 + le32Load data * 64 + le32Load (data.drop 4) * 64 ≤ data.length := by omega
          obtain ⟨current, younger⟩ := loadEntries_of_fits first
          obtain ⟨previous, older⟩ := loadEntries_of_fits second
          rw [younger, older]
          refine ⟨iff_of_true (failsOnly_ok _) ?_, nofun⟩
          intro overflows
          rcases overflows.overflows with past | past
          · omega
          · omega

theorem counts_fit_sixtyFour (data : List UInt8) : ¬ Wraps 64 data ∧ ¬ Overflows 64 data := by
  have younger := CServer.le32Load_lt data
  have older := CServer.le32Load_lt (data.drop 4)
  have room : 2 ^ 32 ≤ mostKeys 64 := by decide +kernel
  constructor
  · intro wraps
    have total := wraps.wraps
    omega
  · intro overflows
    rcases overflows.overflows with past | past
    · omega
    · omega

theorem saved_loads_iff (wide : 32 ≤ word) {order : SetOrder (Server.ReplayKey UInt8)} {cache : Server.ReplayCache UInt8}
    {mode now : Nat} (current : cache.current.card < 2 ^ 32) (previous : cache.previous.card < 2 ^ 32)
    (fits : 8 + (cache.current.card + cache.previous.card) * 64 < 2 ^ word) :
    (∃ loaded, Server.ReplayCache.load word now (.present (cache.serialize order) mode) = .ok loaded ∧
      loaded.current = cache.current ∧ loaded.previous = cache.previous) ↔
    cache.current.card ≤ mostKeys word ∧ cache.previous.card ≤ mostKeys word := by
  have holds : Server.HoldsKeys (cache.serialize order) (order.list cache.current) (order.list cache.previous) := by
    rw [Server.serialize_eq]
    apply Server.cacheFile_holdsKeys
    · rwa [order.length_list]
    · rwa [order.length_list]
  constructor
  · intro loads
    obtain ⟨loaded, run, _⟩ := loads
    have calm : NoPanic (Server.ReplayCache.load word now (.present (cache.serialize order) mode)) := by
      rw [run]
      exact failsOnly_ok _
    obtain ⟨younger, older⟩ := holds.tables (by rwa [Server.length_serialize]) calm
    rw [order.length_list] at younger older
    exact ⟨Server.withCapacity_few wide younger, Server.withCapacity_few wide older⟩
  · intro few
    exact ⟨_, Server.load_serialize now current previous fits (Server.withCapacity_ok wide few.1)
      (Server.withCapacity_ok wide few.2), rfl, rfl⟩

/-- On 64 bits both loaders are safe on every file. On 32 bits the Rust loader is unless a count of a file that it takes
    is more than a table has room for, and the C loader unless an array is outgrown by counts that wrap. What is saved
    loads as it was, when there are tables for it. -/
theorem replay_loaders_safe_iff (width : word = 32 ∨ word = 64) :
    (∀ (data : List UInt8) (mode now : Nat),
      (NoPanic (Server.ReplayCache.load word now (.present data mode)) ↔ ¬ Overflows word data) ∧
      (∀ message, Server.ReplayCache.load word now (.present data mode) = .error (.panic message) →
        message = "Hash table capacity overflow") ∧
      (LoadsSafely word (.present data mode) ↔ ¬ Derails word data)) ∧
    (∀ data, Overflows word data ∨ Wraps word data → word = 32) ∧
    (∀ (order : SetOrder (Server.ReplayKey UInt8)) (cache : Server.ReplayCache UInt8) (mode now : Nat),
      cache.current.card < 2 ^ 32 → cache.previous.card < 2 ^ 32 →
      8 + (cache.current.card + cache.previous.card) * 64 < 2 ^ word →
      ((∃ loaded, Server.ReplayCache.load word now (.present (cache.serialize order) mode) = .ok loaded ∧
        loaded.current = cache.current ∧ loaded.previous = cache.previous) ↔
      cache.current.card ≤ mostKeys word ∧ cache.previous.card ≤ mostKeys word)) ∧
    mostKeys 32 = 14680064 ∧ 2 ^ 32 ≤ mostKeys 64 := by
  have wide : 32 ≤ word := by omega
  refine ⟨fun data mode now => ?_, ?_, ?_, by decide +kernel, by decide +kernel⟩
  · obtain ⟨calm, only⟩ := load_panics_iff wide data now mode
    exact ⟨calm, only, CServer.loadsSafely_iff wide⟩
  · intro data wraps
    rcases width with same | rfl
    · exact same
    · obtain ⟨unwrapped, fits⟩ := counts_fit_sixtyFour data
      rcases wraps with overflows | wraps
      · exact absurd overflows fits
      · exact absurd wraps unwrapped
  · intro order cache mode now current previous fits
    exact saved_loads_iff wide current previous fits

def oneKeyFile : List UInt8 := [1, 0, 0, 0, 0, 0, 0, 0] ++ List.replicate 64 0

def zeroKey : Server.ReplayKey UInt8 := ⟨List.replicate 64 0, List.length_replicate⟩

def oneKeyCache : Server.ReplayCache UInt8 := { Server.ReplayCache.empty with current := {zeroKey} }

theorem oneKeyFile_fits : ¬ Overflows 32 oneKeyFile ∧ ¬ Wraps 32 oneKeyFile := by
  have counts : le32Load oneKeyFile = 1 ∧ le32Load (oneKeyFile.drop 4) = 0 := ⟨by decide, by decide⟩
  have room : mostKeys 32 = 14680064 := by decide +kernel
  constructor
  · intro overflows
    rcases overflows.overflows with past | past
    · omega
    · omega
  · intro wraps
    have total := wraps.wraps
    omega

theorem replay_loaders_safe_iff_thirtyTwo :
    NoPanic (Server.ReplayCache.load 32 0 (.present oneKeyFile 0o600)) ∧ LoadsSafely 32 (.present oneKeyFile 0o600) ∧
    ∃ loaded, Server.ReplayCache.load 32 0 (.present (oneKeyCache.serialize default) 0o600) = .ok loaded ∧
      loaded.current = {zeroKey} ∧ loaded.previous = ∅ := by
  obtain ⟨safe, _, saved, _⟩ := replay_loaders_safe_iff (.inl rfl : (32 : Nat) = 32 ∨ (32 : Nat) = 64)
  obtain ⟨rust, _, c⟩ := safe oneKeyFile 0o600 0
  have current : oneKeyCache.current.card = 1 := Finset.card_singleton zeroKey
  have previous : oneKeyCache.previous.card = 0 := Finset.card_empty
  obtain ⟨loaded, run, young, old⟩ := (saved default oneKeyCache 0o600 0 (by omega) (by omega) (by omega)).mpr
    ⟨by rw [current]; decide +kernel, by rw [previous]; exact Nat.zero_le _⟩
  exact ⟨rust.mpr oneKeyFile_fits.1, c.mpr fun derails => oneKeyFile_fits.2 derails.toWraps, loaded, run, young, old⟩

/-- A header alone, whose first count is 2^26: the 2^32 bytes that it calls for count as none. -/
def wrappingHeader : List UInt8 := [0, 0, 0, 4, 0, 0, 0, 0]

def endlessHeader : List UInt8 := [0, 0, 0, 132, 0, 0, 0, 0]

def overrunningFile : List UInt8 := [1, 0, 0, 4, 0, 0, 0, 0] ++ List.replicate 64 0

theorem wrappingHeader_overflows : Overflows 32 wrappingHeader :=
  ⟨by decide, by decide +kernel, .inl (by decide +kernel)⟩

theorem endlessHeader_derails : Derails 32 endlessHeader :=
  ⟨⟨by decide, by decide +kernel, by decide +kernel⟩, by decide, .inl (by decide +kernel)⟩

theorem overrunningFile_derails : Derails 32 overrunningFile :=
  ⟨⟨by decide, by decide +kernel, by decide +kernel⟩, by decide,
    .inr (.inr (.inl ⟨by decide +kernel, by decide⟩))⟩

/-- On 32 bits the Rust loader panics on the first file, and the C loader goes on for ever on the
    second and reads past its array on the third. -/
theorem counts_wrap_on_thirtyTwo :
    Server.ReplayCache.load 32 0 (.present wrappingHeader 0o600) = .error (.panic "Hash table capacity overflow") ∧
    ¬ NoPanic (Server.ReplayCache.load 32 0 (.present wrappingHeader 0o600)) ∧
    (∀ fuel, CServer.replayCacheLoadOn 32 fuel (true, true) 0 (.present endlessHeader 0o600) = .error .loops) ∧
    ¬ LoadsSafely 32 (.present endlessHeader 0o600) ∧
    CServer.replayCacheLoadOn 32 32 (true, true) 0 (.present overrunningFile 0o600) = .error .overruns ∧
    ¬ LoadsSafely 32 (.present overrunningFile 0o600) := by
  have panics : ¬ NoPanic (Server.ReplayCache.load 32 0 (.present wrappingHeader 0o600)) :=
    fun calm => (load_panics_iff (by decide) wrappingHeader 0 0o600).1.mp calm wrappingHeader_overflows
  refine ⟨?_, panics, ?_, ?_, ?_, ?_⟩
  · cases run : Server.ReplayCache.load 32 0 (.present wrappingHeader 0o600) with
    | ok loaded =>
      rw [run] at panics
      exact absurd (failsOnly_ok _) panics
    | error failure =>
      rw [run] at panics
      cases failure with
      | io error => exact absurd (failsOnly_error id) panics
      | panic message => rw [(load_panics_iff (by decide) wrappingHeader 0 0o600).2 message run]
  · intro fuel
    have measured : CServer.Measured 32 endlessHeader :=
      ⟨endlessHeader_derails.header, endlessHeader_derails.short, endlessHeader_derails.length⟩
    rw [CServer.replayCacheLoadOn_measured _ measured, CServer.loadKeys,
      CServer.reserveOn_huge (by decide) (show 2 ^ (32 - 1) < le32Load endlessHeader by decide +kernel)]
    rfl
  · exact fun safe => (CServer.loadsSafely_iff (by decide)).mp safe endlessHeader_derails
  · decide +kernel
  · exact fun safe => (CServer.loadsSafely_iff (by decide)).mp safe overrunningFile_derails

end ZkArche.Protocol

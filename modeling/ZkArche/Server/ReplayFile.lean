import ZkArche.Foundation.Collections
import ZkArche.Foundation.Generations
import ZkArche.Server.Replay

namespace ZkArche.Server

open Foundation

variable {β : Type} [DecidableEq β]

def ReplayCache.generations (cache : ReplayCache β) : Generations (ReplayKey β) := ⟨cache.current, cache.previous⟩

theorem ReplayCache.keys_generations (cache : ReplayCache β) : cache.generations.keys = cache.keys := rfl

theorem ReplayCache.generations_inserted (cache : ReplayCache β) (k : ReplayKey β) :
    (cache.inserted k).generations = cache.generations.remember replayGenMax k := by
  unfold inserted Generations.remember generations
  split <;> rfl

omit [DecidableEq β] in
theorem ReplayCache.generations_takePersistBlob [Octet β] (order : SetOrder (ReplayKey β)) (now : Nat) (force : Bool)
    (cache : ReplayCache β) : (cache.takePersistBlob order now force).2.generations = cache.generations := by
  obtain ⟨current, previous⟩ := cache.takePersistBlob_keys order now force
  rw [generations, current, previous, generations]

theorem loadEntries_of_drop {data rest : List β} {off : Nat} {entries : List (ReplayKey β)}
    (tail : data.drop off = (entries.map Block.bytes).flatten ++ rest) :
    loadEntries data off entries.length = .ok entries.toFinset ∧ data.drop (off + entries.length * 64) = rest := by
  induction entries generalizing off with
  | nil => exact ⟨rfl, by simpa using tail⟩
  | cons entry entries ih =>
    rw [List.map_cons, List.flatten_cons, List.append_assoc] at tail
    obtain ⟨here, tail⟩ := sliceBlock_of_drop (off + 64) tail rfl (by decide)
    obtain ⟨others, finished⟩ := ih tail
    refine ⟨?_, by rw [← finished, List.length_cons]; congr 1; omega⟩
    rw [List.length_cons, loadEntries, here]
    simp only [bind, Except.bind, others, pure, Except.pure, List.toFinset_cons]

theorem loadEntries_ok {data : List β} {off count : Nat} {entries : Finset (ReplayKey β)}
    (run : loadEntries data off count = .ok entries) :
    entries.card ≤ count ∧ (off ≤ data.length → off + count * 64 ≤ data.length) := by
  induction count generalizing off entries with
  | zero =>
    cases run
    exact ⟨Nat.le_refl _, id⟩
  | succ count ih =>
    simp only [loadEntries, Except.bind_ok_iff] at run
    obtain ⟨entry, here, rest, there, done⟩ := run
    cases done
    obtain ⟨counted, inside⟩ := ih there
    have lengths := congrArg List.length (drop_of_sliceBlock here)
    rw [List.length_append, List.length_drop, List.length_drop, entry.bytes_length] at lengths
    have grown := Finset.card_insert_le entry rest
    exact ⟨by omega, fun start => by have := inside (by omega); omega⟩

theorem loadEntries_keys {data : List β} {off count : Nat} {entries : Finset (ReplayKey β)}
    (run : loadEntries data off count = .ok entries) :
    ∃ keys : List (ReplayKey β), keys.length = count ∧ entries = keys.toFinset ∧
      data.drop off = (keys.map Block.bytes).flatten ++ data.drop (off + count * 64) := by
  induction count generalizing off entries with
  | zero =>
    cases run
    exact ⟨[], rfl, rfl, by simp⟩
  | succ count ih =>
    simp only [loadEntries, Except.bind_ok_iff] at run
    obtain ⟨entry, here, rest, there, done⟩ := run
    cases done
    obtain ⟨keys, length, same, tail⟩ := ih there
    refine ⟨entry :: keys, by rw [List.length_cons, length], by rw [same, List.toFinset_cons], ?_⟩
    rw [drop_of_sliceBlock here, tail, List.map_cons, List.flatten_cons, List.append_assoc]
    congr 3
    omega

variable [Octet β]

def cacheFile (young old : List (ReplayKey β)) : List β :=
  lits (leBytes 4 young.length) ++ lits (leBytes 4 old.length) ++ (young.map Block.bytes).flatten ++
    (old.map Block.bytes).flatten

theorem serialize_eq (order : SetOrder (ReplayKey β)) (cache : ReplayCache β) :
    cache.serialize order = cacheFile (order.list cache.current) (order.list cache.previous) := by
  rw [ReplayCache.serialize, cacheFile, order.length_list, order.length_list]

omit [Octet β] [DecidableEq β] in
theorem length_flatten_keys (keys : List (ReplayKey β)) : ((keys.map Block.bytes).flatten).length = keys.length * 64 := by
  have each : ∀ piece ∈ keys.map Block.bytes, piece.length = 64 :=
    List.forall_mem_map.mpr fun block _ => block.bytes_length
  rw [length_flatten_of_forall each, List.length_map]

omit [DecidableEq β] in
theorem length_cacheFile (young old : List (ReplayKey β)) :
    (cacheFile young old).length = 8 + (young.length + old.length) * 64 := by
  simp only [cacheFile, List.length_append, lits_length, leBytes_length, length_flatten_keys]
  omega

theorem length_serialize (order : SetOrder (ReplayKey β)) (cache : ReplayCache β) :
    (cache.serialize order).length = 8 + (cache.current.card + cache.previous.card) * 64 := by
  rw [serialize_eq, length_cacheFile, order.length_list, order.length_list]

structure HoldsKeys (data : List β) (young old : List (ReplayKey β)) : Prop where
  header : 8 ≤ data.length
  younger : leNat (vals (data.take 4)) = young.length
  older : leNat (vals ((data.drop 4).take 4)) = old.length
  entries : data.drop 8 = (young.map Block.bytes).flatten ++ (old.map Block.bytes).flatten

omit [DecidableEq β] in
theorem HoldsKeys.length {data : List β} {young old : List (ReplayKey β)} (holds : HoldsKeys data young old) :
    data.length = 8 + (young.length + old.length) * 64 := by
  have lengths := congrArg List.length holds.entries
  rw [List.length_drop, List.length_append, length_flatten_keys, length_flatten_keys] at lengths
  have header := holds.header
  omega

omit [DecidableEq β] in
theorem cacheFile_holdsKeys {young old : List (ReplayKey β)} (younger : young.length < 2 ^ 32)
    (older : old.length < 2 ^ 32) : HoldsKeys (cacheFile young old) young old := by
  obtain ⟨data, encoded⟩ : ∃ data, data = cacheFile young old := ⟨_, rfl⟩
  rw [← encoded]
  simp only [cacheFile, List.append_assoc] at encoded
  constructor
  · simp only [encoded, List.length_append, lits_length, leBytes_length]
    omega
  · rw [encoded, List.take_left' (by simp), vals_lits]
    exact leNat_leBytes_of_lt younger
  · rw [encoded, List.drop_left' (by simp), List.take_left' (by simp), vals_lits]
    exact leNat_leBytes_of_lt older
  · rw [encoded, ← List.append_assoc, List.drop_left' (by simp)]

/-- The most keys that a hash table has room for. -/
def mostKeys (word : Nat) : Nat := 7 * 2 ^ (word - 11)

theorem bucketsFor_le {capacity room : Nat} (wide : 3 ≤ room) :
    bucketsFor capacity ≤ 2 ^ room ↔ capacity * 8 / 7 ≤ 2 ^ room := by
  have eight : 2 ^ 3 ≤ 2 ^ room := Nat.pow_le_pow_right (by decide) wide
  unfold bucketsFor
  split
  case isTrue => omega
  case isFalse =>
    split
    case isTrue => omega
    case isFalse => rw [Nat.pow_le_pow_iff_right (by decide), Nat.clog_le_iff_le_pow (by decide)]

theorem bucketsFor_pow (capacity : Nat) : ∃ exponent, bucketsFor capacity = 2 ^ exponent := by
  unfold bucketsFor
  split
  case isTrue => exact ⟨2, rfl⟩
  case isFalse =>
    split
    case isTrue => exact ⟨3, rfl⟩
    case isFalse => exact ⟨_, rfl⟩

/-- An allocation of 65 bytes for each bucket has room for half as many buckets as one of 64 bytes would. -/
theorem withCapacity_eq {word : Nat} (wide : 32 ≤ word) (capacity : Nat) :
    withCapacity word capacity =
      if capacity ≤ mostKeys word then .ok () else .error (.panic "Hash table capacity overflow") := by
  obtain ⟨exponent, buckets⟩ := bucketsFor_pow capacity
  have whole : 2 ^ (word - 1) = 128 * 2 ^ (word - 8) := by
    rw [show word - 1 = word - 8 + 7 by omega, Nat.pow_add, Nat.mul_comm]
  have eighth : 2 ^ (word - 8) = 8 * 2 ^ (word - 11) := by
    rw [show word - 8 = word - 11 + 3 by omega, Nat.pow_add, Nat.mul_comm]
  have large : 2 ^ 24 ≤ 2 ^ (word - 8) := Nat.pow_le_pow_right (by decide) (by omega)
  have tables : bucketsFor capacity ≤ 2 ^ (word - 8) ↔ capacity ≤ mostKeys word := by
    rw [bucketsFor_le (by omega), mostKeys, eighth]
    omega
  have doubles : ¬ bucketsFor capacity ≤ 2 ^ (word - 8) → 2 * 2 ^ (word - 8) ≤ bucketsFor capacity := by
    intro past
    rw [buckets] at past ⊢
    rw [Nat.pow_le_pow_iff_right (by decide)] at past
    rw [← Nat.pow_succ']
    exact Nat.pow_le_pow_right (by decide) (by omega)
  unfold withCapacity
  simp only
  congr 1
  rw [← tables, whole]
  refine propext ⟨?_, ?_⟩
  · intro fits
    rcases fits with rfl | fits
    · exact tables.mpr (Nat.zero_le _)
    · by_contra past
      have := doubles past
      omega
  · intro few
    exact .inr (by omega)

theorem withCapacity_ok {word capacity : Nat} (wide : 32 ≤ word) (few : capacity ≤ mostKeys word) :
    withCapacity word capacity = .ok () := by
  rw [withCapacity_eq wide, if_pos few]

theorem withCapacity_few {word capacity : Nat} (wide : 32 ≤ word) (holds : withCapacity word capacity = .ok ()) :
    capacity ≤ mostKeys word := by
  rw [withCapacity_eq wide] at holds
  split at holds
  case isTrue few => exact few
  case isFalse => cases holds

theorem replayGenMax_le_mostKeys {word : Nat} (wide : 32 ≤ word) : replayGenMax ≤ mostKeys word := by
  have grown : 2 ^ 21 ≤ 2 ^ (word - 11) := Nat.pow_le_pow_right (by decide) (by omega)
  unfold mostKeys replayGenMax
  omega

theorem HoldsKeys.load {word : Nat} (now : Nat) {data : List β} {young old : List (ReplayKey β)} {mode : Nat}
    (holds : HoldsKeys data young old) (fits : data.length < 2 ^ word) (younger : withCapacity word young.length = .ok ())
    (older : withCapacity word old.length = .ok ()) :
    ReplayCache.load word now (.present data mode) =
      .ok { current := young.toFinset, previous := old.toFinset, dirty := false, pendingInserts := 0
            lastPersist := some now } := by
  have length := holds.length
  have tail : data.drop 8 = (young.map Block.bytes).flatten ++ ((old.map Block.bytes).flatten ++ []) := by
    rw [holds.entries, List.append_nil]
  obtain ⟨current, tail⟩ := loadEntries_of_drop tail
  obtain ⟨previous, _⟩ := loadEntries_of_drop tail
  have long : ¬ data.length < 8 := by omega
  have expected : (8 + (young.length + old.length) * 64) % 2 ^ word = data.length := by
    rw [← length, Nat.mod_eq_of_lt fits]
  simp only [ReplayCache.load, StateFile.isPresent, StateFile.read, Bool.true_eq_false, ↓reduceIte, bind, Except.bind,
    long, holds.younger, holds.older, expected, ne_eq, not_true_eq_false, younger, older, current, previous, pure,
    Except.pure]

theorem withCapacity_noPanic {word capacity : Nat} (calm : NoPanic (withCapacity word capacity)) :
    withCapacity word capacity = .ok () := by
  unfold withCapacity at calm ⊢
  simp only at calm ⊢
  split
  case isTrue => rfl
  case isFalse past =>
    rw [if_neg past] at calm
    exact absurd trivial (calm _ rfl)

theorem HoldsKeys.tables {word now : Nat} {data : List β} {young old : List (ReplayKey β)} {mode : Nat}
    (holds : HoldsKeys data young old) (fits : data.length < 2 ^ word)
    (calm : NoPanic (ReplayCache.load word now (.present data mode))) :
    withCapacity word young.length = .ok () ∧ withCapacity word old.length = .ok () := by
  have length := holds.length
  have long : ¬ data.length < 8 := by omega
  have expected : (8 + (young.length + old.length) * 64) % 2 ^ word = data.length := by
    rw [← length, Nat.mod_eq_of_lt fits]
  simp only [ReplayCache.load, StateFile.isPresent, StateFile.read, Bool.true_eq_false, ↓reduceIte, bind, Except.bind,
    long, holds.younger, holds.older, expected, ne_eq, not_true_eq_false] at calm
  have younger : withCapacity word young.length = .ok () := withCapacity_noPanic (by
    cases table : withCapacity word young.length with
    | error failure =>
      rw [table] at calm
      exact fun failure' same => calm failure' (by cases same; rfl)
    | ok _ => exact failsOnly_ok _)
  refine ⟨younger, withCapacity_noPanic ?_⟩
  rw [younger] at calm
  cases table : withCapacity word old.length with
  | error failure =>
    rw [table] at calm
    exact fun failure' same => calm failure' (by cases same; rfl)
  | ok _ => exact failsOnly_ok _

theorem load_cacheFile {word : Nat} (now : Nat) {young old : List (ReplayKey β)} {mode : Nat}
    (younger : young.length < 2 ^ 32) (older : old.length < 2 ^ 32)
    (fits : 8 + (young.length + old.length) * 64 < 2 ^ word) (youngTable : withCapacity word young.length = .ok ())
    (oldTable : withCapacity word old.length = .ok ()) :
    ReplayCache.load word now (.present (cacheFile young old) mode) =
      .ok { current := young.toFinset, previous := old.toFinset, dirty := false, pendingInserts := 0
            lastPersist := some now } :=
  (cacheFile_holdsKeys younger older).load now (by rwa [length_cacheFile]) youngTable oldTable

theorem holdsKeys_of_load {word now : Nat} {data : List β} {mode : Nat} {cache : ReplayCache β}
    (loaded : ReplayCache.load word now (.present data mode) = .ok cache) :
    ∃ young old, HoldsKeys data young old ∧ cache.current = young.toFinset ∧ cache.previous = old.toFinset := by
  unfold ReplayCache.load at loaded
  rw [if_neg (show ¬ (StateFile.present data mode).isPresent = false from nofun)] at loaded
  obtain ⟨_, read, loaded⟩ := Except.bind_ok_iff.mp loaded
  cases read
  split at loaded
  case isTrue => cases loaded
  case isFalse long =>
    simp only at loaded
    split at loaded
    case isTrue => cases loaded
    case isFalse same =>
      obtain ⟨_, _, loaded⟩ := Except.bind_ok_iff.mp loaded
      obtain ⟨_, _, loaded⟩ := Except.bind_ok_iff.mp loaded
      obtain ⟨current, younger, loaded⟩ := Except.bind_ok_iff.mp loaded
      obtain ⟨previous, older, loaded⟩ := Except.bind_ok_iff.mp loaded
      cases loaded
      obtain ⟨young, youngLength, ofYoung, front⟩ := loadEntries_keys younger
      obtain ⟨old, oldLength, ofOld, back⟩ := loadEntries_keys older
      have bound := Nat.mod_le (8 + (leNat (vals (data.take 4)) + leNat (vals ((data.drop 4).take 4))) * 64) (2 ^ word)
      have ends : data.drop (8 + leNat (vals (data.take 4)) * 64 + leNat (vals ((data.drop 4).take 4)) * 64) = [] :=
        List.drop_of_length_le (by rw [not_not.mp same]; omega)
      rw [ends, List.append_nil] at back
      exact ⟨young, old, ⟨by omega, youngLength.symm, oldLength.symm, by rw [front, back]⟩, ofYoung, ofOld⟩

theorem load_serialize {word : Nat} (now : Nat) {order : SetOrder (ReplayKey β)} {cache : ReplayCache β} {mode : Nat}
    (current : cache.current.card < 2 ^ 32) (previous : cache.previous.card < 2 ^ 32)
    (fits : 8 + (cache.current.card + cache.previous.card) * 64 < 2 ^ word)
    (youngTable : withCapacity word cache.current.card = .ok ())
    (oldTable : withCapacity word cache.previous.card = .ok ()) :
    ReplayCache.load word now (.present (cache.serialize order) mode) =
      .ok { current := cache.current, previous := cache.previous, dirty := false, pendingInserts := 0
            lastPersist := some now } := by
  rw [serialize_eq, load_cacheFile now]
  · rw [order.toFinset_list, order.toFinset_list]
  · rwa [order.length_list]
  · rwa [order.length_list]
  · rwa [order.length_list, order.length_list]
  · rwa [order.length_list]
  · rwa [order.length_list]

/-- No buffer takes more than half of the address space. -/
def FitsMemory (word : Nat) (file : StateFile β) : Prop :=
  ∀ data mode, file = .present data mode → data.length < 2 ^ (word - 1)

def roomFor (word : Nat) : Nat := (2 ^ (word - 1) - 8) / 64

omit [DecidableEq β] in
theorem leNat_take_four (bytes : List β) : leNat (vals (bytes.take 4)) ≤ 2 ^ 32 - 1 := by
  have bound := leNat_lt (vals (bytes.take 4))
  have short : (vals (bytes.take 4)).length ≤ 4 := by simp
  have widened := Nat.pow_le_pow_right (show 0 < 256 by decide) short
  omega

theorem load_sized {word now : Nat} {file : StateFile β} {cache : ReplayCache β} (wide : 32 ≤ word)
    (memory : FitsMemory word file) (loaded : ReplayCache.load word now file = .ok cache) :
    cache.generations.Sized replayGenMax (min (2 ^ 32 - 1) (mostKeys word)) (roomFor word) := by
  unfold ReplayCache.load at loaded
  split at loaded
  case isTrue =>
    cases loaded
    exact ⟨Nat.zero_le _, Nat.zero_le _, .inr (Nat.zero_le _)⟩
  case isFalse present =>
    obtain ⟨data, read, loaded⟩ := Except.bind_ok_iff.mp loaded
    have small : data.length < 2 ^ (word - 1) := by
      cases file with
      | absent => cases read
      | unreadable error => cases read
      | present bytes mode =>
        cases read
        exact memory _ mode rfl
    split at loaded
    case isTrue => cases loaded
    case isFalse long =>
      simp only at loaded
      split at loaded
      case isTrue => cases loaded
      case isFalse =>
        obtain ⟨_, youngTable, loaded⟩ := Except.bind_ok_iff.mp loaded
        obtain ⟨_, oldTable, loaded⟩ := Except.bind_ok_iff.mp loaded
        obtain ⟨current, younger, loaded⟩ := Except.bind_ok_iff.mp loaded
        obtain ⟨previous, older, loaded⟩ := Except.bind_ok_iff.mp loaded
        cases loaded
        obtain ⟨youngerCount, youngerInside⟩ := loadEntries_ok younger
        obtain ⟨olderCount, olderInside⟩ := loadEntries_ok older
        have youngerWord := leNat_take_four data
        have olderWord := leNat_take_four (data.drop 4)
        have inside := olderInside (by have := youngerInside (by omega); omega)
        have youngerRoom := withCapacity_few wide youngTable
        have olderRoom := withCapacity_few wide oldTable
        refine ⟨youngerCount.trans (le_min youngerWord youngerRoom), olderCount.trans (le_min olderWord olderRoom), .inr ?_⟩
        show current.card + previous.card ≤ roomFor word
        unfold roomFor
        omega

end ZkArche.Server

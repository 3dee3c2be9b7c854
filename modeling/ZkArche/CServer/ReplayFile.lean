import ZkArche.CServer.Replay

namespace ZkArche.CServer

open Foundation CImpl

theorem readKeys_flatMap (keys : List ReplayKey) (rest : List UInt8) :
    readKeys keys.length (keys.flatMap Block.bytes ++ rest) = keys := by
  induction keys with
  | nil => rfl
  | cons key keys ih =>
    have fits : 64 ≤ ((key :: keys).flatMap Block.bytes ++ rest).length := by
      rw [List.flatMap_cons, List.length_append, List.length_append, key.bytes_length]
      omega
    have front : ((key :: keys).flatMap Block.bytes ++ rest).take 64 = key.bytes := by
      rw [List.flatMap_cons, List.append_assoc, List.take_left' key.bytes_length]
    have back : ((key :: keys).flatMap Block.bytes ++ rest).drop 64 = keys.flatMap Block.bytes ++ rest := by
      rw [List.flatMap_cons, List.append_assoc, List.drop_left' key.bytes_length]
    rw [List.length_cons, readKeys, dif_pos fits, back, ih]
    simp only [front]

theorem length_readKeys (count : Nat) (data : List UInt8) : (readKeys count data).length ≤ count := by
  induction count generalizing data with
  | zero => exact Nat.zero_le _
  | succ count ih =>
    rw [readKeys]
    split
    · rw [List.length_cons]
      exact Nat.succ_le_succ (ih _)
    · exact Nat.zero_le _

theorem length_flatMap_bytes (keys : List ReplayKey) : (keys.flatMap Block.bytes).length = keys.length * 64 := by
  induction keys with
  | nil => rfl
  | cons key keys ih =>
    rw [List.flatMap_cons, List.length_append, key.bytes_length, ih, List.length_cons]
    omega

theorem le32Load_append {count : Nat} (small : count < 2 ^ 32) (rest : List UInt8) :
    le32Load (leBytes 4 count ++ rest) = count := by
  rw [le32Load, List.take_left' (leBytes_length _ _)]
  exact leNat_leBytes_of_lt small

theorem le32Load_lt (data : List UInt8) : le32Load data < 2 ^ 32 := by
  have bound := leNat_lt (data.take 4)
  have short : (data.take 4).length ≤ 4 := by simp
  have widened := Nat.pow_le_pow_right (show 0 < 256 by decide) short
  unfold le32Load
  omega

theorem reserve_keys {memory : Bool} {arr grown : KeyArray} {need : Nat}
    (reserved : arr.reserve memory need = some grown) : grown.keys = arr.keys := by
  unfold KeyArray.reserve at reserved
  split at reserved
  · cases reserved
    rfl
  · split at reserved
    · cases reserved
      rfl
    · cases reserved

theorem reserve_of_memory (arr : KeyArray) (need : Nat) : ∃ grown, arr.reserve true need = some grown := by
  unfold KeyArray.reserve
  split
  · exact ⟨_, rfl⟩
  · exact ⟨_, rfl⟩

namespace ReplayCache

structure Sized (cache : ReplayCache) : Prop where
  current : cache.current.keys.length < 2 ^ 32
  previous : cache.previous.keys.length < 2 ^ 32

def SameKeys (left right : ReplayCache) : Prop :=
  left.current.keys = right.current.keys ∧ left.previous.keys = right.previous.keys

end ReplayCache

theorem replayCacheLoad_bytes {cache : ReplayCache} (sized : cache.Sized) (memory : Bool × Bool) (now mode : Nat) :
    replayCacheLoad memory now (.present cache.bytes mode) = (do
      let current ← KeyArray.null.reserve memory.1 cache.current.keys.length
      let previous ← KeyArray.null.reserve memory.2 cache.previous.keys.length
      pure {
        current := { current with keys := cache.current.keys }
        previous := { previous with keys := cache.previous.keys }
        dirty := false
        pendingInserts := 0
        lastPersist := now }) := by
  obtain ⟨data, encoded⟩ : ∃ data, data = cache.bytes := ⟨_, rfl⟩
  have length : data.length = 8 + (cache.current.keys.length + cache.previous.keys.length) * 64 := by
    simp only [encoded, ReplayCache.bytes, List.length_append, leBytes_length, length_flatMap_bytes]
    omega
  rw [← encoded]
  simp only [ReplayCache.bytes, List.append_assoc] at encoded
  have first : le32Load data = cache.current.keys.length := by
    rw [encoded]
    exact le32Load_append sized.current _
  have behind : data.drop 4 = leBytes 4 cache.previous.keys.length ++ (cache.current.keys.flatMap Block.bytes ++
      cache.previous.keys.flatMap Block.bytes) := by
    rw [encoded, List.drop_left' (leBytes_length _ _)]
  have second : le32Load (data.drop 4) = cache.previous.keys.length := by
    rw [behind]
    exact le32Load_append sized.previous _
  have arrays : data.drop 8 = cache.current.keys.flatMap Block.bytes ++
      cache.previous.keys.flatMap Block.bytes := by
    rw [show 8 = 4 + 4 from rfl, ← List.drop_drop, behind, List.drop_left' (leBytes_length _ _)]
  have younger : readKeys cache.current.keys.length (data.drop 8) = cache.current.keys := by
    rw [arrays, readKeys_flatMap]
  have older : readKeys cache.previous.keys.length (data.drop (8 + cache.current.keys.length * 64)) =
      cache.previous.keys := by
    rw [← List.drop_drop, arrays, List.drop_left' (length_flatMap_bytes _)]
    have whole := readKeys_flatMap cache.previous.keys []
    rwa [List.append_nil] at whole
  have long : data.length ≥ 8 := by omega
  unfold replayCacheLoad
  simp only [first, second, younger, older]
  rw [guard, if_pos long, guard, if_pos length]
  rfl

theorem replayCacheLoad_sameKeys {cache loaded : ReplayCache} (sized : cache.Sized) {memory : Bool × Bool}
    {now mode : Nat} (load : replayCacheLoad memory now (.present cache.bytes mode) = some loaded) :
    loaded.SameKeys cache := by
  rw [replayCacheLoad_bytes sized] at load
  simp only [Option.bind_eq_bind, Option.bind_eq_some_iff, Option.pure_def, Option.some.injEq] at load
  obtain ⟨_, _, _, _, rfl⟩ := load
  exact ⟨rfl, rfl⟩

theorem replayCacheLoad_of_memory {cache : ReplayCache} (sized : cache.Sized) (now mode : Nat) :
    ∃ loaded, replayCacheLoad (true, true) now (.present cache.bytes mode) = some loaded := by
  rw [replayCacheLoad_bytes sized]
  obtain ⟨current, younger⟩ := reserve_of_memory .null cache.current.keys.length
  obtain ⟨previous, older⟩ := reserve_of_memory .null cache.previous.keys.length
  simp only [younger, older, Option.bind_eq_bind, Option.bind_some, Option.pure_def]
  exact ⟨_, rfl⟩

theorem replayCacheLoad_again {memory : Bool × Bool} {now : Nat} {file : StateFile UInt8} {loaded : ReplayCache}
    (load : replayCacheLoad memory now file = some loaded) (later : Nat) :
    ∃ again, replayCacheLoad (true, true) later file = some again := by
  cases file with
  | absent => exact ⟨_, rfl⟩
  | unreadable error => cases load
  | present data mode =>
    simp only [replayCacheLoad, Option.bind_eq_bind, Option.bind_eq_some_iff] at load ⊢
    obtain ⟨long, longEnough, sized, exactly, _⟩ := load
    obtain ⟨current, younger⟩ := reserve_of_memory .null (le32Load data)
    obtain ⟨previous, older⟩ := reserve_of_memory .null (le32Load (data.drop 4))
    exact ⟨_, long, longEnough, sized, exactly, current, younger, previous, older, rfl⟩

theorem replayCacheLoad_sized {memory : Bool × Bool} {now : Nat} {file : StateFile UInt8} {loaded : ReplayCache}
    (load : replayCacheLoad memory now file = some loaded) : loaded.Sized := by
  cases file with
  | absent =>
    cases load
    exact ⟨Nat.two_pow_pos 32, Nat.two_pow_pos 32⟩
  | unreadable error => cases load
  | present data mode =>
    simp only [replayCacheLoad, Option.bind_eq_bind, Option.bind_eq_some_iff, Option.pure_def,
      Option.some.injEq] at load
    obtain ⟨_, _, _, _, _, _, _, _, rfl⟩ := load
    constructor
    · exact lt_of_le_of_lt (length_readKeys _ _) (le32Load_lt _)
    · exact lt_of_le_of_lt (length_readKeys _ _) (le32Load_lt _)

end ZkArche.CServer

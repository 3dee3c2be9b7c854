import ZkArche.CImpl.Transcript
import ZkArche.CServer.ReplayFile
import ZkArche.Server.ReplayWindow

namespace ZkArche.Protocol

open Foundation

structure Represents (arr : CServer.KeyArray) (set : Finset CServer.ReplayKey) : Prop where
  nodup : arr.keys.Nodup
  room : arr.keys.length ≤ arr.cap
  toFinset : arr.keys.toFinset = set

structure SameCaches (c : CServer.ReplayCache) (rust : Server.ReplayCache UInt8) : Prop where
  current : Represents c.current rust.current
  previous : Represents c.previous rust.previous

section Arrays

variable {arr grown : CServer.KeyArray} {set : Finset CServer.ReplayKey} {key : CServer.ReplayKey} {need : Nat}
  {memory : Bool}

theorem le_growTo {fuel newCap : Nat} (enough : need ≤ newCap * 2 ^ fuel) : need ≤ CServer.growTo need fuel newCap := by
  induction fuel generalizing newCap with
  | zero =>
    rw [Nat.pow_zero, Nat.mul_one] at enough
    exact enough
  | succ fuel ih =>
    rw [CServer.growTo]
    split
    case isTrue small =>
      apply ih
      rw [Nat.mul_assoc, ← Nat.pow_succ']
      exact enough
    case isFalse large => exact Nat.le_of_not_lt large

theorem reserve_room (reserved : arr.reserve memory need = some grown) : need ≤ grown.cap := by
  unfold CServer.KeyArray.reserve at reserved
  split at reserved
  case isTrue enough =>
    cases reserved
    exact enough
  case isFalse =>
    split at reserved
    case isTrue =>
      cases reserved
      apply le_growTo
      have positive : 1 ≤ if arr.cap = 0 then 256 else arr.cap := by
        split
        · decide
        · omega
      have doubled : need < 2 ^ need := Nat.lt_two_pow_self
      calc need ≤ 1 * 2 ^ need := by omega
        _ ≤ (if arr.cap = 0 then 256 else arr.cap) * 2 ^ need := Nat.mul_le_mul_right _ positive
    case isFalse => cases reserved

theorem represents_null : Represents .null ∅ := ⟨List.nodup_nil, Nat.le_refl 0, rfl⟩

theorem Represents.mem (represents : Represents arr set) : key ∈ arr.keys ↔ key ∈ set := by
  rw [← represents.toFinset, List.mem_toFinset]

theorem Represents.card (represents : Represents arr set) : arr.keys.length = set.card := by
  rw [← represents.toFinset, List.toFinset_card_of_nodup represents.nodup]

theorem Represents.push (represents : Represents arr set) (new : key ∉ set)
    (reserved : arr.reserve memory (arr.keys.length + 1) = some grown) :
    Represents { grown with keys := grown.keys ++ [key] } (insert key set) := by
  have room := reserve_room reserved
  have keys := CServer.reserve_keys reserved
  constructor
  · rw [keys]
    show (arr.keys ++ [key]).Nodup
    rw [← List.concat_eq_append]
    exact List.Nodup.concat (fun member => new (represents.mem.mp member)) represents.nodup
  · rw [keys, List.length_append]
    exact room
  · rw [keys, List.toFinset_append, represents.toFinset, Finset.union_comm]
    rfl

end Arrays

/-- The number that the C function returns for an answer of the Rust one. -/
def returned (accepted : Bool) : Int := if accepted then 1 else 0

section Steps

variable {c : CServer.ReplayCache} {rust : Server.ReplayCache UInt8}

theorem SameCaches.rotate (same : SameCaches c rust) : SameCaches c.rotate (rust.rotate Server.replayGenMax) := by
  have sizes := same.current.card
  unfold CServer.ReplayCache.rotate Server.ReplayCache.rotate
  by_cases full : rust.current.card ≥ Server.replayGenMax
  · rw [if_pos full, if_pos (by rw [sizes]; exact full)]
    exact ⟨represents_null, same.current⟩
  · rw [if_neg full, if_neg (by rw [sizes]; exact full)]
    exact same

theorem SameCaches.contains (same : SameCaches c rust) (key : CServer.ReplayKey) :
    c.contains key = true ↔ key ∈ rust.current ∨ key ∈ rust.previous := by
  rw [CServer.ReplayCache.contains_iff, same.current.mem, same.previous.mem]

theorem SameCaches.checkAndInsert (same : SameCaches c rust) (id nonceC : Block UInt8 32) :
    (c.checkAndInsert true id nonceC).1 = returned (rust.checkAndInsert id nonceC).1 ∧
      SameCaches (c.checkAndInsert true id nonceC).2 (rust.checkAndInsert id nonceC).2 := by
  have keys : CServer.replayKey id nonceC = Server.replayKey id nonceC := rfl
  rw [Server.ReplayCache.checkAndInsert_eq, Server.ReplayCache.checkAndInsertUpTo]
  by_cases seen : Server.replayKey id nonceC ∈ rust.current ∨ Server.replayKey id nonceC ∈ rust.previous
  · have contained := (same.contains _).mpr seen
    simp only [CServer.ReplayCache.checkAndInsert, keys, contained, if_true]
    rw [Server.ReplayCall.key, if_pos seen]
    exact ⟨rfl, same⟩
  · have missing : c.contains (Server.replayKey id nonceC) = false :=
      Bool.eq_false_of_not_eq_true fun contained => seen ((same.contains _).mp contained)
    have rotated := same.rotate
    have new : Server.replayKey id nonceC ∉ (rust.rotate Server.replayGenMax).current := by
      unfold Server.ReplayCache.rotate
      split
      · simp
      · exact fun member => seen (.inl member)
    obtain ⟨grown, reserved⟩ := CServer.reserve_of_memory c.rotate.current (c.rotate.current.keys.length + 1)
    simp only [CServer.ReplayCache.checkAndInsert, keys, missing, Bool.false_eq_true, if_false, reserved]
    rw [Server.ReplayCall.key, if_neg seen]
    exact ⟨rfl, rotated.current.push new reserved, rotated.previous⟩

end Steps

inductive Cache where
  | c (cache : CServer.ReplayCache)
  | rust (cache : Server.ReplayCache UInt8)

/-- What `replay_cache.bin` holds after a cache was saved. -/
inductive Saves : Cache → List UInt8 → Prop
  | c (cache : CServer.ReplayCache) : Saves (.c cache) cache.bytes
  | rust (cache : Server.ReplayCache UInt8) (order : SetOrder (Server.ReplayKey UInt8)) :
    Saves (.rust cache) (cache.serialize order)

/-- The caches that the servers reach by their own operations, on files that one of them saved. -/
inductive Reached (word : Nat) : Cache → Prop
  | cEmpty (now : Nat) : Reached word (.c { CServer.ReplayCache.zero with lastPersist := now })
  | rustEmpty : Reached word (.rust .empty)
  | cCall {cache : CServer.ReplayCache} (memory : Bool) (id nonceC : Block UInt8 32) (before : Reached word (.c cache)) :
    Reached word (.c (cache.checkAndInsert memory id nonceC).2)
  | rustCall {cache : Server.ReplayCache UInt8} (id nonceC : Block UInt8 32) (before : Reached word (.rust cache)) :
    Reached word (.rust (cache.checkAndInsert id nonceC).2)
  | cPersist {cache : CServer.ReplayCache} (now : Nat) (before : Reached word (.c cache)) :
    Reached word (.c (cache.persisted now))
  | rustPersist {cache : Server.ReplayCache UInt8} (order : SetOrder (Server.ReplayKey UInt8)) (now : Nat)
    (force : Bool) (before : Reached word (.rust cache)) : Reached word (.rust (cache.takePersistBlob order now force).2)
  | cLoad {saved : Cache} {data : List UInt8} {cache : CServer.ReplayCache} (memory : Bool × Bool) (now mode : Nat)
    (before : Reached word saved) (saves : Saves saved data)
    (loaded : CServer.replayCacheLoad memory now (.present data mode) = some cache) : Reached word (.c cache)
  | rustLoad {saved : Cache} {data : List UInt8} {cache : Server.ReplayCache UInt8} (now mode : Nat)
    (before : Reached word saved) (saves : Saves saved data)
    (loaded : Server.ReplayCache.load word now (.present data mode) = .ok cache) : Reached word (.rust cache)

/-- The keys of a generation, of which there are no more than `REPLAY_GEN_MAX` and no two alike. -/
structure SmallGeneration (keys : List CServer.ReplayKey) : Prop where
  nodup : keys.Nodup
  small : keys.length ≤ Server.replayGenMax

def Cache.Small : Cache → Prop
  | .c cache => SmallGeneration cache.current.keys ∧ SmallGeneration cache.previous.keys
  | .rust cache => cache.current.card ≤ Server.replayGenMax ∧ cache.previous.card ≤ Server.replayGenMax

section Files

variable {word : Nat} {saved : Cache} {data : List UInt8} {young old : List CServer.ReplayKey}
  {cache : CServer.ReplayCache}

theorem smallGeneration_nil : SmallGeneration [] := ⟨List.nodup_nil, Nat.zero_le _⟩

theorem bytes_eq (cache : CServer.ReplayCache) :
    cache.bytes = Server.cacheFile cache.current.keys cache.previous.keys := by
  simp only [CServer.ReplayCache.bytes, Server.cacheFile, CImpl.lits_bytes, List.flatMap_def]

theorem Saves.cacheFile (saves : Saves saved data) (small : saved.Small) :
    ∃ young old, data = Server.cacheFile young old ∧ SmallGeneration young ∧ SmallGeneration old := by
  cases saves with
  | c cache => exact ⟨_, _, bytes_eq cache, small.1, small.2⟩
  | rust cache order =>
    refine ⟨_, _, Server.serialize_eq order cache, ⟨order.nodup _, ?_⟩, ⟨order.nodup _, ?_⟩⟩
    · rw [order.length_list]
      exact small.1
    · rw [order.length_list]
      exact small.2

theorem SmallGeneration.lt (small : SmallGeneration young) : young.length < 2 ^ 32 :=
  Nat.lt_of_le_of_lt small.small (by decide)

theorem cLoad_cacheFile (younger : SmallGeneration young) (older : SmallGeneration old) {memory : Bool × Bool}
    {now mode : Nat} (loaded : CServer.replayCacheLoad memory now (.present (Server.cacheFile young old) mode) = some cache) :
    Represents cache.current young.toFinset ∧ Represents cache.previous old.toFinset ∧
      cache.current.keys = young ∧ cache.previous.keys = old := by
  let listed : CServer.ReplayCache := ⟨⟨young, 0⟩, ⟨old, 0⟩, false, 0, 0⟩
  have sized : listed.Sized := ⟨younger.lt, older.lt⟩
  have file : listed.bytes = Server.cacheFile young old := bytes_eq listed
  rw [← file, CServer.replayCacheLoad_bytes sized] at loaded
  simp only [Option.bind_eq_bind, Option.bind_eq_some_iff, Option.pure_def, Option.some.injEq] at loaded
  obtain ⟨current, youngReserved, previous, oldReserved, rfl⟩ := loaded
  have youngRoom : young.length ≤ current.cap := reserve_room youngReserved
  have oldRoom : old.length ≤ previous.cap := reserve_room oldReserved
  exact ⟨⟨younger.nodup, youngRoom, rfl⟩, ⟨older.nodup, oldRoom, rfl⟩, rfl, rfl⟩

theorem cLoad_of_memory (younger : SmallGeneration young) (older : SmallGeneration old) (now mode : Nat) :
    ∃ cache, CServer.replayCacheLoad (true, true) now (.present (Server.cacheFile young old) mode) = some cache := by
  let listed : CServer.ReplayCache := ⟨⟨young, 0⟩, ⟨old, 0⟩, false, 0, 0⟩
  have file : listed.bytes = Server.cacheFile young old := bytes_eq listed
  rw [← file]
  exact CServer.replayCacheLoad_of_memory ⟨younger.lt, older.lt⟩ now mode

theorem rustLoad_cacheFile (large : 32 ≤ word) (younger : SmallGeneration young) (older : SmallGeneration old)
    (now mode : Nat) : Server.ReplayCache.load word now (.present (Server.cacheFile young old) mode) =
      .ok { current := young.toFinset, previous := old.toFinset, dirty := false, pendingInserts := 0
            lastPersist := some now } := by
  have youngRoom := younger.small.trans (Server.replayGenMax_le_mostKeys large)
  have oldRoom := older.small.trans (Server.replayGenMax_le_mostKeys large)
  refine Server.load_cacheFile now younger.lt older.lt ?_ (Server.withCapacity_ok large youngRoom)
    (Server.withCapacity_ok large oldRoom)
  have wide := Nat.pow_le_pow_right (show 0 < 2 by decide) large
  have few := younger.small
  have fewer := older.small
  unfold Server.replayGenMax at few fewer
  omega

theorem small_cCall {c : CServer.ReplayCache} (small : (Cache.c c).Small) (memory : Bool) (id nonceC : Block UInt8 32) :
    (Cache.c (c.checkAndInsert memory id nonceC).2).Small := by
  obtain ⟨younger, older⟩ := small
  simp only [CServer.ReplayCache.checkAndInsert]
  split
  case isTrue => exact ⟨younger, older⟩
  case isFalse unseen =>
    have rotated : SmallGeneration c.rotate.current.keys ∧ SmallGeneration c.rotate.previous.keys ∧
        CServer.replayKey id nonceC ∉ c.rotate.current.keys ∧ c.rotate.current.keys.length < Server.replayGenMax := by
      simp only [CServer.ReplayCache.contains, Bool.or_eq_true, decide_eq_true_iff, not_or] at unseen
      unfold CServer.ReplayCache.rotate
      split
      case isTrue => exact ⟨smallGeneration_nil, younger, by simp [CServer.KeyArray.null], show 0 < Server.replayGenMax by decide⟩
      case isFalse room => exact ⟨younger, older, unseen.1, Nat.lt_of_not_le room⟩
    obtain ⟨younger, older, new, room⟩ := rotated
    split
    case h_1 => exact ⟨younger, older⟩
    case h_2 current reserved =>
      have keys := CServer.reserve_keys reserved
      refine ⟨⟨?_, ?_⟩, older⟩
      · rw [keys]
        show (c.rotate.current.keys ++ [CServer.replayKey id nonceC]).Nodup
        rw [← List.concat_eq_append]
        exact List.Nodup.concat new younger.nodup
      · rw [keys, List.length_append]
        exact room

theorem small_rustCall {rust : Server.ReplayCache UInt8} (small : (Cache.rust rust).Small) (id nonceC : Block UInt8 32) :
    (Cache.rust (rust.checkAndInsert id nonceC).2).Small := by
  by_cases seen : Server.replayKey id nonceC ∈ rust.keys
  · rw [Server.ReplayCache.checkAndInsert_seen seen]
    exact small
  · rw [Server.ReplayCache.checkAndInsert_fresh seen]
    have sized : rust.generations.Sized Server.replayGenMax Server.replayGenMax 0 :=
      ⟨small.1, small.2, .inl ⟨small.1, by rw [Nat.max_zero]; exact small.2⟩⟩
    have after := sized.remember (by decide) (Nat.le_refl _) (Server.replayKey id nonceC)
    rw [← Server.ReplayCache.generations_inserted] at after
    exact ⟨after.current, after.previous⟩

theorem Reached.small (large : 32 ≤ word) {cache : Cache} (reached : Reached word cache) : cache.Small := by
  induction reached with
  | cEmpty now => exact ⟨smallGeneration_nil, smallGeneration_nil⟩
  | rustEmpty => exact ⟨Nat.zero_le _, Nat.zero_le _⟩
  | cCall memory id nonceC _ ih => exact small_cCall ih memory id nonceC
  | rustCall id nonceC _ ih => exact small_rustCall ih id nonceC
  | cPersist now _ ih => exact ih
  | @rustPersist cache order now force _ ih =>
    obtain ⟨current, previous⟩ := cache.takePersistBlob_keys order now force
    simp only [Cache.Small, current, previous]
    exact ih
  | cLoad memory now mode _ saves loaded ih =>
    obtain ⟨young, old, rfl, younger, older⟩ := saves.cacheFile ih
    obtain ⟨_, _, current, previous⟩ := cLoad_cacheFile younger older loaded
    simp only [Cache.Small, current, previous]
    exact ⟨younger, older⟩
  | rustLoad now mode _ saves loaded ih =>
    obtain ⟨young, old, rfl, younger, older⟩ := saves.cacheFile ih
    rw [rustLoad_cacheFile large younger older] at loaded
    cases loaded
    exact ⟨(List.toFinset_card_le young).trans younger.small, (List.toFinset_card_le old).trans older.small⟩

end Files

/-- The two servers start with empty caches, or from one file that either of them saved. -/
inductive StartTogether (word : Nat) : CServer.ReplayCache → Server.ReplayCache UInt8 → Prop
  | empty (now : Nat) : StartTogether word { CServer.ReplayCache.zero with lastPersist := now } .empty
  | loaded {saved : Cache} {data : List UInt8} {c : CServer.ReplayCache} {rust : Server.ReplayCache UInt8}
    (now now' mode : Nat) (reached : Reached word saved) (saves : Saves saved data)
    (cLoads : CServer.replayCacheLoad (true, true) now (.present data mode) = some c)
    (rustLoads : Server.ReplayCache.load word now' (.present data mode) = .ok rust) : StartTogether word c rust

/-- What `replay_cache_check_and_insert` returns for some calls, while there is memory. -/
def cDecisions (c : CServer.ReplayCache) : List (Server.ReplayCall UInt8) → List Int
  | [] => []
  | call :: calls =>
    let answer := c.checkAndInsert true call.id call.nonceC
    answer.1 :: cDecisions answer.2 calls

def cAfter (c : CServer.ReplayCache) (calls : List (Server.ReplayCall UInt8)) : CServer.ReplayCache :=
  calls.foldl (fun c call => (c.checkAndInsert true call.id call.nonceC).2) c

def rustDecisions (rust : Server.ReplayCache UInt8) : List (Server.ReplayCall UInt8) → List Bool
  | [] => []
  | call :: calls =>
    let answer := rust.checkAndInsert call.id call.nonceC
    answer.1 :: rustDecisions answer.2 calls

def rustAfter (rust : Server.ReplayCache UInt8) (calls : List (Server.ReplayCall UInt8)) : Server.ReplayCache UInt8 :=
  calls.foldl (fun rust call => (rust.checkAndInsert call.id call.nonceC).2) rust

section Decisions

variable {word : Nat} {c : CServer.ReplayCache} {rust : Server.ReplayCache UInt8}

theorem StartTogether.same (large : 32 ≤ word) (start : StartTogether word c rust) : SameCaches c rust := by
  cases start with
  | empty now => exact ⟨represents_null, represents_null⟩
  | loaded now now' mode reached saves cLoads rustLoads =>
    obtain ⟨young, old, rfl, younger, older⟩ := saves.cacheFile (reached.small large)
    rw [rustLoad_cacheFile large younger older] at rustLoads
    cases rustLoads
    obtain ⟨current, previous, _, _⟩ := cLoad_cacheFile younger older cLoads
    exact ⟨current, previous⟩

theorem SameCaches.calls (same : SameCaches c rust) (calls : List (Server.ReplayCall UInt8)) :
    cDecisions c calls = (rustDecisions rust calls).map returned ∧ SameCaches (cAfter c calls) (rustAfter rust calls) := by
  induction calls generalizing c rust with
  | nil => exact ⟨rfl, same⟩
  | cons call calls ih =>
    obtain ⟨answer, after⟩ := same.checkAndInsert call.id call.nonceC
    obtain ⟨decisions, finally'⟩ := ih after
    rw [cDecisions, rustDecisions, List.map_cons, answer, decisions]
    exact ⟨rfl, finally'⟩

end Decisions

/-- Both servers load every file that one of them saved; and from a common start they take the same
    decisions, with arrays that hold the keys of the two sets once each and have room for them. -/
theorem same_decisions {word : Nat} (large : 32 ≤ word) :
    (∀ saved data, Reached word saved → Saves saved data → ∀ now now' mode,
      ∃ c rust, CServer.replayCacheLoad (true, true) now (.present data mode) = some c ∧
        Server.ReplayCache.load word now' (.present data mode) = .ok rust) ∧
    (∀ c rust, StartTogether word c rust → ∀ calls,
      cDecisions c calls = (rustDecisions rust calls).map returned ∧ SameCaches (cAfter c calls) (rustAfter rust calls)) := by
  constructor
  · intro saved data reached saves now now' mode
    obtain ⟨young, old, rfl, younger, older⟩ := saves.cacheFile (reached.small large)
    obtain ⟨c, loaded⟩ := cLoad_of_memory younger older now mode
    exact ⟨c, _, loaded, rustLoad_cacheFile large younger older now' mode⟩
  · intro c rust start calls
    exact (start.same large).calls calls

/-- The C server starts from the file of a Rust server that has accepted one call, repeats the call
    and gets another one. -/
theorem same_decisions_repeated :
    ∃ c rust, StartTogether 64 c rust ∧
      cDecisions c [Server.filledCall 1, Server.filledCall 2] =
        (rustDecisions rust [Server.filledCall 1, Server.filledCall 2]).map returned ∧
      rustDecisions rust [Server.filledCall 1, Server.filledCall 2] = [false, true] := by
  obtain ⟨loads, agree⟩ := same_decisions (show 32 ≤ 64 by decide)
  have reached : Reached 64 (.rust _) := .rustCall (Server.filledCall 1).id (Server.filledCall 1).nonceC .rustEmpty
  have saves := Saves.rust (Server.ReplayCache.empty.checkAndInsert (Server.filledCall 1).id (Server.filledCall 1).nonceC).2
    default
  obtain ⟨c, rust, cLoads, rustLoads⟩ := loads _ _ reached saves 0 0 0o600
  have start := StartTogether.loaded 0 0 0o600 reached saves cLoads rustLoads
  refine ⟨c, rust, start, (agree c rust start _).1, ?_⟩
  rw [Server.load_serialize 0 (by decide +kernel) (by decide +kernel) (by decide +kernel)
    (Server.withCapacity_ok (by decide) (by decide +kernel)) (Server.withCapacity_ok (by decide) (by decide +kernel))]
    at rustLoads
  cases rustLoads
  decide +kernel

end ZkArche.Protocol

import Mathlib.Data.Nat.Log
import ZkArche.Primitives.Environment

namespace ZkArche.Server

open Foundation

variable {β : Type} [Octet β] [DecidableEq β]

def replayGenMax : Nat := 25000
def replayPersistEveryInserts : Nat := 64
def replayPersistInterval : Nat := seconds 2

abbrev ReplayKey (β : Type) := Block β 64

def replayKey (id nonceC : Block β 32) : ReplayKey β := id.append nonceC

/-- Stores recently seen client nonces across two generations to block replayed authentication
    attempts. -/
structure ReplayCache (β : Type) where
  current : Finset (ReplayKey β)
  previous : Finset (ReplayKey β)
  dirty : Bool
  pendingInserts : Nat
  lastPersist : Option Nat

/-- `ReplayCache::default()`. -/
def ReplayCache.empty : ReplayCache β :=
  { current := ∅, previous := ∅, dirty := false, pendingInserts := 0, lastPersist := none }

def ReplayCache.keys (cache : ReplayCache β) : Finset (ReplayKey β) := cache.current ∪ cache.previous

/-- The buckets that a `HashSet` takes for this many keys: a power of two, with an eighth of them to spare. -/
def bucketsFor (capacity : Nat) : Nat :=
  if capacity < 4 then 4 else if capacity < 8 then 8 else 2 ^ Nat.clog 2 (capacity * 8 / 7)

/-- `HashSet::<[u8; 64]>::with_capacity`. The keys, and a control byte for each of them and for one group more, are one
    allocation, which is no larger than `isize::MAX`. -/
def withCapacity (word capacity : Nat) : Except Failure Unit :=
  let size := bucketsFor capacity * 64 + bucketsFor capacity + 16
  if capacity = 0 ∨ size + 15 < 2 ^ (word - 1) then .ok () else .error (.panic "Hash table capacity overflow")

/-- The entries of one generation, read from offset `off` on. -/
def loadEntries (data : List β) : Nat → Nat → Except Failure (Finset (ReplayKey β))
  | _, 0 => .ok ∅
  | off, count + 1 => do
    let entry ← sliceBlock 64 data off (off + 64)
    let rest ← loadEntries data (off + 64) count
    pure (insert entry rest)

/-- Loads the cache from its file, on a machine with `word`-bit sizes. -/
def ReplayCache.load (word : Nat) (now : Nat) (file : StateFile β) : Except Failure (ReplayCache β) := do
  if file.isPresent = false then pure .empty
  else
    let data ← file.read
    if data.length < 8 then .error (invalidData "replay cache truncated")
    else
      let currentCount := leNat (vals (data.take 4))
      let previousCount := leNat (vals ((data.drop 4).take 4))
      let expected := (8 + (currentCount + previousCount) * 64) % 2 ^ word
      if data.length ≠ expected then .error (invalidData "replay cache length mismatch")
      else
        withCapacity word currentCount
        withCapacity word previousCount
        let current ← loadEntries data 8 currentCount
        let previous ← loadEntries data (8 + currentCount * 64) previousCount
        pure { current, previous, dirty := false, pendingInserts := 0, lastPersist := some now }

def ReplayCache.serialize (order : SetOrder (ReplayKey β)) (cache : ReplayCache β) : List β :=
  lits (leBytes 4 cache.current.card) ++ lits (leBytes 4 cache.previous.card) ++
    ((order.list cache.current).map Block.bytes).flatten ++
    ((order.list cache.previous).map Block.bytes).flatten

def ReplayCache.checkAndInsert (cache : ReplayCache β) (id nonceC : Block β 32) : Bool × ReplayCache β :=
  let k := replayKey id nonceC
  if k ∈ cache.current ∨ k ∈ cache.previous then (false, cache)
  else
    let cache :=
      if cache.current.card ≥ replayGenMax then
        { cache with previous := cache.current, current := ∅, dirty := true }
      else cache
    (true, { cache with
      current := insert k cache.current, dirty := true, pendingInserts := cache.pendingInserts + 1 })

/-- Whether a snapshot should be written now: always when forced, else after enough inserts or
    enough time. -/
def ReplayCache.due (cache : ReplayCache β) (force : Bool) (now : Nat) : Bool :=
  force || decide (cache.pendingInserts ≥ replayPersistEveryInserts) ||
    match cache.lastPersist with
    | some t => decide (now - t ≥ replayPersistInterval)
    | none => true

def ReplayCache.takePersistBlob (order : SetOrder (ReplayKey β)) (now : Nat) (force : Bool)
    (cache : ReplayCache β) : Option (List β) × ReplayCache β :=
  if !cache.dirty || !cache.due force now then (none, cache)
  else
    (some (cache.serialize order),
      { cache with dirty := false, pendingInserts := 0, lastPersist := some now })

/-- The cache after it let a new key in, the older generation dropped when the younger is full. -/
def ReplayCache.inserted (cache : ReplayCache β) (k : ReplayKey β) : ReplayCache β :=
  if cache.current.card ≥ replayGenMax then
    { cache with
      previous := cache.current, current := {k}, dirty := true, pendingInserts := cache.pendingInserts + 1 }
  else
    { cache with
      current := insert k cache.current, dirty := true, pendingInserts := cache.pendingInserts + 1 }

omit [Octet β] in
theorem ReplayCache.mem_keys {cache : ReplayCache β} {k : ReplayKey β} :
    k ∈ cache.keys ↔ k ∈ cache.current ∨ k ∈ cache.previous := Finset.mem_union

omit [Octet β] in
theorem ReplayCache.checkAndInsert_seen {cache : ReplayCache β} {id nonceC : Block β 32}
    (seen : replayKey id nonceC ∈ cache.keys) : cache.checkAndInsert id nonceC = (false, cache) :=
  if_pos (mem_keys.mp seen)

omit [Octet β] in
theorem ReplayCache.checkAndInsert_fresh {cache : ReplayCache β} {id nonceC : Block β 32}
    (fresh : replayKey id nonceC ∉ cache.keys) :
    cache.checkAndInsert id nonceC = (true, cache.inserted (replayKey id nonceC)) := by
  rw [mem_keys] at fresh
  rw [checkAndInsert, if_neg fresh, inserted]
  split <;> simp_all

omit [Octet β] in
theorem ReplayCache.mem_inserted (cache : ReplayCache β) (k : ReplayKey β) : k ∈ (cache.inserted k).current := by
  unfold inserted
  split <;> simp

omit [DecidableEq β] in
theorem ReplayCache.takePersistBlob_keys (order : SetOrder (ReplayKey β)) (now : Nat) (force : Bool)
    (cache : ReplayCache β) :
    (cache.takePersistBlob order now force).2.current = cache.current ∧
      (cache.takePersistBlob order now force).2.previous = cache.previous := by
  unfold takePersistBlob
  split <;> exact ⟨rfl, rfl⟩

end ZkArche.Server

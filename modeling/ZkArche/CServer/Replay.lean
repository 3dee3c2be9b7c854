import ZkArche.CImpl.Wire
import ZkArche.Primitives.Environment

namespace ZkArche.CServer

open Foundation CImpl

def replayGenMax : Nat := 25000
def replayPersistEveryInserts : Nat := 64
def replayPersistIntervalSec : Nat := 2

/-- `pid || nonce_c`. -/
abbrev ReplayKey := Block UInt8 64

def replayKey (pid nonceC : Block UInt8 32) : ReplayKey := pid.append nonceC

structure KeyArray where
  keys : List ReplayKey
  cap : Nat
  deriving DecidableEq

def KeyArray.null : KeyArray := ⟨[], 0⟩

/-- The doubling loop of `replay_cache_reserve`; with `fuel` rounds it reaches any `need`. -/
def growTo (need : Nat) : (fuel newCap : Nat) → Nat
  | 0, newCap => newCap
  | fuel + 1, newCap => if newCap < need then growTo need fuel (newCap * 2) else newCap

def KeyArray.reserve (memory : Bool) (arr : KeyArray) (need : Nat) : Option KeyArray :=
  if arr.cap ≥ need then some arr
  else if memory then some { arr with cap := growTo need need (if arr.cap = 0 then 256 else arr.cap) }
  else none

/-- `replay_cache_t`. Times are seconds of `time(NULL)`. -/
structure ReplayCache where
  current : KeyArray
  previous : KeyArray
  dirty : Bool
  pendingInserts : Nat
  lastPersist : Nat
  deriving DecidableEq

/-- The cache after `memset`. -/
def ReplayCache.zero : ReplayCache := ⟨.null, .null, false, 0, 0⟩

namespace ReplayCache

def contains (cache : ReplayCache) (key : ReplayKey) : Bool :=
  decide (key ∈ cache.current.keys) || decide (key ∈ cache.previous.keys)

theorem contains_iff {cache : ReplayCache} {key : ReplayKey} :
    cache.contains key = true ↔ key ∈ cache.current.keys ∨ key ∈ cache.previous.keys := by
  rw [contains, Bool.or_eq_true, decide_eq_true_iff, decide_eq_true_iff]

def rotate (cache : ReplayCache) : ReplayCache :=
  if cache.current.keys.length ≥ replayGenMax then
    { cache with previous := cache.current, current := .null, dirty := true }
  else cache

/-- `replay_cache_check_and_insert`: 0 for a key seen before, 1 for a new one, -1 when there is no
    memory for it. -/
def checkAndInsert (memory : Bool) (cache : ReplayCache) (pid nonceC : Block UInt8 32) : Int × ReplayCache :=
  let key := replayKey pid nonceC
  if cache.contains key then (0, cache)
  else
    let cache := cache.rotate
    match cache.current.reserve memory (cache.current.keys.length + 1) with
    | none => (-1, cache)
    | some current =>
      (1, { cache with
        current := { current with keys := current.keys ++ [key] }
        dirty := true
        pendingInserts := cache.pendingInserts + 1 })

/-- The contents of `replay_cache.bin`. -/
def bytes (cache : ReplayCache) : List UInt8 :=
  leBytes 4 cache.current.keys.length ++ leBytes 4 cache.previous.keys.length ++
    cache.current.keys.flatMap Block.bytes ++ cache.previous.keys.flatMap Block.bytes

def save (fault : Option IoError) (cache : ReplayCache) : Effect Unit (StateFile UInt8) Unit := fun file =>
  match fault with
  | none => (.ok (), .present cache.bytes 0o600)
  | some _ => (.error (), file)

def due (cache : ReplayCache) (now : Nat) (force : Bool) : Bool :=
  force || decide (cache.pendingInserts ≥ replayPersistEveryInserts) || decide (cache.lastPersist = 0) ||
    decide (now - cache.lastPersist ≥ replayPersistIntervalSec)

def persisted (cache : ReplayCache) (now : Nat) : ReplayCache :=
  { cache with dirty := false, pendingInserts := 0, lastPersist := now }

end ReplayCache

def persistIfDue (fault : Option IoError) (now : Nat) (force : Bool) :
    Effect Unit (ReplayCache × StateFile UInt8) Unit := fun (cache, file) =>
  if !cache.dirty || !cache.due now force then (.ok (), (cache, file))
  else
    match cache.save fault file with
    | (.ok (), file) => (.ok (), (cache.persisted now, file))
    | (.error (), file) => (.error (), (cache, file))

def le32Load (data : List UInt8) : Nat := leNat (data.take 4)

/-- The keys that `fread` finds in 64 bytes each. -/
def readKeys (count : Nat) (data : List UInt8) : List ReplayKey :=
  match count with
  | 0 => []
  | count + 1 =>
    if fits : 64 ≤ data.length then
      ⟨data.take 64, length_take_of_fits fits⟩ :: readKeys count (data.drop 64)
    else []

/-- `replay_cache_load`. `memory` says for the two arrays whether `realloc` succeeds. -/
def replayCacheLoad (memory : Bool × Bool) (now : Nat) : StateFile UInt8 → Option ReplayCache
  | .absent => some { ReplayCache.zero with lastPersist := now }
  | .unreadable _ => none
  | .present data _ => do
    guard (data.length ≥ 8)
    let currentCount := le32Load data
    let previousCount := le32Load (data.drop 4)
    guard (data.length = 8 + (currentCount + previousCount) * 64)
    let current ← KeyArray.null.reserve memory.1 currentCount
    let previous ← KeyArray.null.reserve memory.2 previousCount
    pure {
      current := { current with keys := readKeys currentCount (data.drop 8) }
      previous := { previous with keys := readKeys previousCount (data.drop (8 + currentCount * 64)) }
      dirty := false
      pendingInserts := 0
      lastPersist := now }

end ZkArche.CServer

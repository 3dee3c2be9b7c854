import ZkArche.CServer.Failures

namespace ZkArche.CServer

open Foundation

inductive MemoryFault where
  | outside
  | nullPeer
  | uninitialised
  deriving DecidableEq

/-- A `char *` of an item: it points to nothing that may be read, it is null, or it points to a copy of a peer. -/
inductive PeerPointer where
  | unset
  | null
  | text (peer : String)
  deriving DecidableEq

structure Counters where
  firstFailure : Nat
  failures : Nat
  blockedUntil : Nat
  deriving DecidableEq

/-- The memory of a `failure_state_t`; without counters they were never written. -/
structure Slot where
  peer : PeerPointer
  counters : Option Counters
  deriving DecidableEq

/-- The memory of a `failure_tracker_t`: what was allocated for `items`, and `n`. -/
structure TrackerMemory where
  slots : List Slot
  n : Nat
  deriving DecidableEq

/-- What `realloc` adds to an allocation. -/
def Slot.fresh : Slot := ⟨.unset, none⟩

def Slot.readPeer (slot : Slot) : Except MemoryFault String :=
  match slot.peer with
  | .unset => .error .uninitialised
  | .null => .error .nullPeer
  | .text peer => .ok peer

def Slot.readCounters (slot : Slot) : Except MemoryFault Counters :=
  match slot.counters with
  | none => .error .uninitialised
  | some counters => .ok counters

/-- `free(st->peer)`: what was freed may not be read any more. -/
def Slot.freePeer (slot : Slot) : Except MemoryFault Slot :=
  match slot.peer with
  | .unset => .error .uninitialised
  | _ => .ok { slot with peer := .unset }

def FailureState.counters (st : FailureState) : Counters := ⟨st.firstFailure, st.failures, st.blockedUntil⟩

def Counters.item (counters : Counters) : FailureState :=
  ⟨none, counters.firstFailure, counters.failures, counters.blockedUntil⟩

def Counters.keeps (now : Nat) (counters : Counters) : Bool := counters.item.keeps now

def Counters.note (now : Nat) (counters : Counters) : Counters := (counters.item.note now).counters

/-- `items[i]`. -/
def load (slots : List Slot) (i : Nat) : Except MemoryFault Slot :=
  match slots[i]? with
  | none => .error .outside
  | some slot => .ok slot

/-- The loop of `failure_tracker_prune` with so many items left to read. -/
def pruneFrom (now : Nat) : (left r w : Nat) → List Slot → Except MemoryFault TrackerMemory
  | 0, _, w, slots => .ok ⟨slots, w⟩
  | left + 1, r, w, slots => do
    let st ← load slots r
    let counters ← st.readCounters
    if counters.keeps now then pruneFrom now left (r + 1) (w + 1) (if w ≠ r then slots.set w st else slots)
    else do
      let freed ← st.freePeer
      pruneFrom now left (r + 1) w (slots.set r freed)

/-- The loop of `failure_tracker_find`. -/
def findFrom (slots : List Slot) (peer : String) : (left i : Nat) → Except MemoryFault (Option Nat)
  | 0, _ => .ok none
  | left + 1, i => do
    let st ← load slots i
    let name ← st.readPeer
    if name = peer then pure (some i) else findFrom slots peer left (i + 1)

namespace TrackerMemory

/-- The tracker after `{0}`. -/
def zero : TrackerMemory := ⟨[], 0⟩

/-- The first `n` items. -/
def tracked (ft : TrackerMemory) : List Slot := ft.slots.take ft.n

def prune (ft : TrackerMemory) (now : Nat) : Except MemoryFault TrackerMemory := pruneFrom now ft.n 0 0 ft.slots

def find (ft : TrackerMemory) (peer : String) : Except MemoryFault (Option Nat) := findFrom ft.slots peer ft.n 0

def isBlocked (ft : TrackerMemory) (now late : Nat) (peer : String) : Except MemoryFault (Int × TrackerMemory) := do
  let ft ← ft.prune late
  match ← ft.find peer with
  | none => pure (0, ft)
  | some idx => do
    let st ← load ft.slots idx
    let counters ← st.readCounters
    pure (if counters.blockedUntil ≠ 0 ∧ counters.blockedUntil > now then 1 else 0, ft)

def noteSuccess (ft : TrackerMemory) (peer : String) : Except MemoryFault (Int × TrackerMemory) := do
  match ← ft.find peer with
  | none => pure (0, ft)
  | some idx => do
    let st ← load ft.slots idx
    let freed ← st.freePeer
    let slots := ft.slots.set idx freed
    let slots :=
      if idx + 1 < ft.n then slots.take idx ++ (slots.drop (idx + 1)).take (ft.n - idx - 1) ++ slots.drop (ft.n - 1)
      else slots
    pure (0, ⟨slots, ft.n - 1⟩)

/-- `failure_tracker_note_failure`. `memory` says whether the `realloc` of the array and the `malloc` of `xstrdup`
    succeed. -/
def noteFailure (memory : Bool × Bool) (ft : TrackerMemory) (now late : Nat) (peer : String) :
    Except MemoryFault (Int × TrackerMemory) := do
  let ft ← ft.prune late
  match ← ft.find peer with
  | some idx => do
    let st ← load ft.slots idx
    let counters ← st.readCounters
    pure (0, ⟨ft.slots.set idx { st with counters := some (counters.note now) }, ft.n⟩)
  | none =>
    let newCap := if ft.slots.length ≠ 0 then ft.slots.length * 2 else 64
    if ft.n = ft.slots.length ∧ memory.1 = false then pure (-1, ft)
    else do
      let slots :=
        if ft.n = ft.slots.length then ft.slots ++ List.replicate (newCap - ft.slots.length) Slot.fresh else ft.slots
      let st ← load slots ft.n
      if memory.2 then pure (0, ⟨slots.set ft.n ⟨.text peer, some (Counters.note now ⟨now, 0, 0⟩)⟩, ft.n + 1⟩)
      else pure (-1, ⟨slots.set ft.n { st with peer := .null }, ft.n + 1⟩)

end TrackerMemory

/-- A call of one of the functions of the tracker, with the clock at the call and in its pruning, and for a failure with
    what is known of its allocations. -/
inductive TrackerCall where
  | isBlocked (now late : Nat) (peer : String)
  | noteSuccess (peer : String)
  | noteFailure (memory : Bool × Bool) (now late : Nat) (peer : String)
  deriving DecidableEq

def TrackerMemory.call (ft : TrackerMemory) : TrackerCall → Except MemoryFault (Int × TrackerMemory)
  | .isBlocked now late peer => ft.isBlocked now late peer
  | .noteSuccess peer => ft.noteSuccess peer
  | .noteFailure memory now late peer => ft.noteFailure memory now late peer

/-- The same call of the tracker that is a list of items. -/
def FailureTracker.call (ft : FailureTracker) : TrackerCall → Int × FailureTracker
  | .isBlocked now late peer => (if (ft.isBlocked now late peer).1 then 1 else 0, (ft.isBlocked now late peer).2)
  | .noteSuccess peer => (0, ft.noteSuccess peer)
  | .noteFailure memory now late peer => ft.noteFailure memory now late peer

end ZkArche.CServer

import Mathlib.Data.List.Basic
import ZkArche.Foundation.Windows

namespace ZkArche.CServer

open Foundation

def failureWindowSec : Nat := 60
def failureBanSec : Nat := 120
def maxFailuresPerWindow : Nat := 8

def uint32Max : Nat := 0xffffffff

/-- `failure_state_t`. Times are seconds of `time(NULL)`; `blockedUntil` is zero without a ban. A
    peer is missing when there was no memory for it. -/
structure FailureState where
  peer : Option String
  firstFailure : Nat
  failures : Nat
  blockedUntil : Nat
  deriving DecidableEq

structure FailureTracker where
  items : List FailureState
  cap : Nat
  deriving DecidableEq

def FailureTracker.empty : FailureTracker := ⟨[], 0⟩

def FailureState.keeps (now : Nat) (st : FailureState) : Bool :=
  (decide (st.blockedUntil ≠ 0) && decide (st.blockedUntil > now)) ||
    decide (now - st.firstFailure ≤ failureWindowSec)

def FailureState.note (now : Nat) (st : FailureState) : FailureState :=
  let st :=
    if now - st.firstFailure > failureWindowSec then
      { st with firstFailure := now, failures := 0, blockedUntil := 0 }
    else st
  let st := if st.failures < uint32Max then { st with failures := st.failures + 1 } else st
  if st.failures ≥ maxFailuresPerWindow then { st with blockedUntil := now + failureBanSec } else st

def noteFirst (now : Nat) (peer : String) : List FailureState → List FailureState
  | [] => []
  | st :: items => if st.peer = some peer then st.note now :: items else st :: noteFirst now peer items

namespace FailureTracker

def makeRoom (memory : Bool) (ft : FailureTracker) : Option FailureTracker :=
  if ft.items.length = ft.cap then
    if memory then some { ft with cap := if ft.cap = 0 then 64 else ft.cap * 2 } else none
  else some ft

def prune (ft : FailureTracker) (now : Nat) : FailureTracker :=
  { ft with items := ft.items.filter (FailureState.keeps now) }

def find (ft : FailureTracker) (peer : String) : Option FailureState :=
  ft.items.find? fun st => st.peer = some peer

/-- `failure_tracker_is_blocked`, which reads the clock at `now` and its pruning at `late`. -/
def isBlocked (ft : FailureTracker) (now late : Nat) (peer : String) : Bool × FailureTracker :=
  let ft := ft.prune late
  match ft.find peer with
  | none => (false, ft)
  | some st => (decide (st.blockedUntil ≠ 0) && decide (st.blockedUntil > now), ft)

/-- `failure_tracker_note_success`: the items behind the found one move up. -/
def noteSuccess (ft : FailureTracker) (peer : String) : FailureTracker :=
  { ft with items := ft.items.eraseP fun st => st.peer = some peer }

/-- `failure_tracker_note_failure`, which reads the clock at `now` and its pruning at `late`.
    `memory` says whether the `realloc` of the array and the copy of the peer succeed. Without a
    copy the new item stays in the array with nothing but a null peer set. -/
def noteFailure (memory : Bool × Bool) (ft : FailureTracker) (now late : Nat) (peer : String) :
    Int × FailureTracker :=
  let ft := ft.prune late
  match ft.find peer with
  | some _ => (0, { ft with items := noteFirst now peer ft.items })
  | none =>
    match ft.makeRoom memory.1 with
    | none => (-1, ft)
    | some ft =>
      if memory.2 then
        (0, { ft with items := ft.items ++ [FailureState.note now ⟨some peer, now, 0, 0⟩] })
      else (-1, { ft with items := ft.items ++ [⟨none, 0, 0, 0⟩] })

end FailureTracker

end ZkArche.CServer

import ZkArche.Primitives.Environment

namespace ZkArche.Server

open Foundation

def failureWindow : Nat := seconds 60
def failureBan : Nat := seconds 120
def maxFailuresPerWindow : Nat := 8

/-- Defines whether zero-touch setup is currently allowed and which optional token/deadline
    policy applies. -/
structure PairingPolicy where
  enabled : Bool
  token : Option String
  deadline : Option Nat

def PairingPolicy.allowsZtpSetup (policy : PairingPolicy) (now : Nat) (providedToken : Option String) :
    Bool :=
  if !policy.enabled then false
  else if policy.deadline.any fun dl => now > dl then false
  else match policy.token, providedToken with
    | some expected, some got => decide (utf8Bytes expected = utf8Bytes got)
    | some _, none => false
    | none, _ => true

/-- Tracks recent failures for one peer so the server can rate-limit abusive sources. -/
structure FailureState where
  firstFailure : Nat
  failures : Nat
  blockedUntil : Option Nat

/-- Maintains rolling failure counters and temporary blocks for peers that exceed policy. -/
structure FailureTracker where
  peers : AList fun _ : String => FailureState

def FailureTracker.empty : FailureTracker := ⟨∅⟩

def FailureTracker.isBlocked (tracker : FailureTracker) (now : Nat) (peer : String) : Bool × FailureTracker :=
  let peers := AList.retain (fun _ state =>
    state.blockedUntil.any (fun t => t > now) || decide (now - state.firstFailure ≤ failureWindow)) tracker.peers
  let blocked := match (peers.lookup peer).bind (·.blockedUntil) with
    | some stop => decide (stop > now)
    | none => false
  (blocked, ⟨peers⟩)

/-- The counter saturates at `u32::MAX`. -/
def FailureTracker.noteFailure (tracker : FailureTracker) (now : Nat) (peer : String) : FailureTracker :=
  let state := (tracker.peers.lookup peer).getD { firstFailure := now, failures := 0, blockedUntil := none }
  let state :=
    if now - state.firstFailure > failureWindow then
      { state with firstFailure := now, failures := 0, blockedUntil := none }
    else state
  let state := { state with failures := min (state.failures + 1) (2 ^ 32 - 1) }
  let state :=
    if state.failures ≥ maxFailuresPerWindow then { state with blockedUntil := some (now + failureBan) }
    else state
  ⟨tracker.peers.insert peer state⟩

def FailureTracker.noteSuccess (tracker : FailureTracker) (peer : String) : FailureTracker :=
  ⟨tracker.peers.erase peer⟩

end ZkArche.Server

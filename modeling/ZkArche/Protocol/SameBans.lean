import ZkArche.CServer.RateLimit
import ZkArche.Server.RateLimit

namespace ZkArche.Protocol

open Foundation

/-- A call of either failure tracker at a whole second. -/
inductive TrackerOp where
  | isBlocked (time : Nat) (peer : String)
  | noteFailure (time : Nat) (peer : String)
  | noteSuccess (time : Nat) (peer : String)

namespace TrackerOp

def time : TrackerOp → Nat
  | .isBlocked time _ => time
  | .noteFailure time _ => time
  | .noteSuccess time _ => time

/-- The call of the Rust tracker, whose clock counts nanoseconds. -/
def rust : TrackerOp → Server.TrackerCall
  | .isBlocked time peer => .isBlocked (seconds time) peer
  | .noteFailure time peer => .noteFailure (seconds time) peer
  | .noteSuccess time peer => .noteSuccess (seconds time) peer

def onC (ft : CServer.FailureTracker) : TrackerOp → CServer.FailureTracker
  | .isBlocked time peer => (ft.isBlocked time time peer).2
  | .noteFailure time peer => (ft.noteFailure (true, true) time time peer).2
  | .noteSuccess _ peer => ft.noteSuccess peer

def event : TrackerOp → Event String
  | .isBlocked time peer => ⟨peer, .look, time, time⟩
  | .noteFailure time peer => ⟨peer, .hit, time, time⟩
  | .noteSuccess time peer => ⟨peer, .clear, time, time⟩

def TimeOrdered (ops : List TrackerOp) : Prop := ops.Pairwise fun earlier later => earlier.time ≤ later.time

end TrackerOp

def cTrackerAfter (ops : List TrackerOp) : CServer.FailureTracker := ops.foldl TrackerOp.onC .empty

def rustTrackerAfter (ops : List TrackerOp) : Server.FailureTracker := Server.trackerAfter (ops.map (·.rust))

section Trackers

variable {ops : List TrackerOp} {ft : CServer.FailureTracker} {clock time : Nat} {peer : String}
  {events : List (Event String)}

def Named (ft : CServer.FailureTracker) : Prop := ∀ st ∈ ft.items, st.peer.isSome = true

theorem makeRoom_of_memory (ft : CServer.FailureTracker) :
    ∃ roomy, ft.makeRoom true = some roomy ∧ roomy.items = ft.items := by
  unfold CServer.FailureTracker.makeRoom
  split
  · exact ⟨_, rfl, rfl⟩
  · exact ⟨_, rfl, rfl⟩

theorem noteFailure_of_memory (named : Named ft) (time : Nat) (peer : String) :
    (ft.noteFailure (true, true) time time peer).1 = 0 ∧ Named (ft.noteFailure (true, true) time time peer).2 := by
  have pruned : Named (ft.prune time) := fun st member => named st (List.mem_of_mem_filter member)
  unfold CServer.FailureTracker.noteFailure
  cases found : (ft.prune time).find peer with
  | some st =>
    refine ⟨by simp only [found], ?_⟩
    intro st member
    simp only [found] at member
    have among : st.peer ∈ (CServer.noteFirst time peer (ft.prune time).items).map (·.peer) :=
      List.mem_map_of_mem member
    rw [CServer.noteFirst_peers] at among
    obtain ⟨old, inside, same⟩ := List.mem_map.mp among
    rw [← same]
    exact pruned old inside
  | none =>
    obtain ⟨roomy, room, items⟩ := makeRoom_of_memory (ft.prune time)
    simp only [found, room, if_true, true_and]
    intro st member
    rcases List.mem_append.mp member with old | new
    · rw [items] at old
      exact pruned st old
    · rw [List.mem_singleton.mp new, CServer.FailureState.note_peer]
      rfl

theorem isBlocked_items (ft : CServer.FailureTracker) (time : Nat) (peer : String) :
    (ft.isBlocked time time peer).2 = ft.prune time := by
  simp only [CServer.FailureTracker.isBlocked]
  split <;> rfl

theorem Named.onC (named : Named ft) (op : TrackerOp) : Named (op.onC ft) := by
  cases op with
  | isBlocked time peer =>
    rw [TrackerOp.onC, isBlocked_items]
    exact fun st member => named st (List.mem_of_mem_filter member)
  | noteFailure time peer => exact (noteFailure_of_memory named time peer).2
  | noteSuccess time peer => exact fun st member => named st (List.mem_of_mem_eraseP member)

theorem onC_follows (follows : ft.Follows clock events) (named : Named ft) {op : TrackerOp} (after : clock ≤ op.time) :
    (op.onC ft).Follows op.time (events ++ [op.event]) := by
  have start := follows.later after
  cases op with
  | isBlocked time peer => exact start.isBlocked time peer
  | noteFailure time peer =>
    have noted : (ft.noteFailure (true, true) time time peer).2.Follows time (events ++
        [⟨peer, CServer.FailureTracker.noted (ft.noteFailure (true, true) time time peer).1, time, time⟩]) :=
      start.noteFailure (true, true) time peer
    rw [(noteFailure_of_memory named time peer).1] at noted
    exact noted
  | noteSuccess time peer => exact start.noteSuccess time peer

theorem cTrackerAfter_follows (ordered : TrackerOp.TimeOrdered ops) (past : ∀ op ∈ ops, op.time ≤ clock) :
    (cTrackerAfter ops).Follows clock (ops.map (·.event)) ∧ Named (cTrackerAfter ops) := by
  induction ops using List.reverseRecOn generalizing clock with
  | nil => exact ⟨CServer.FailureTracker.follows_empty, nofun⟩
  | append_singleton ops op ih =>
    obtain ⟨before, _, after⟩ := List.pairwise_append.mp ordered
    obtain ⟨start, named⟩ := ih before fun earlier member => after earlier member op (by simp)
    rw [cTrackerAfter, List.foldl_append, List.map_append]
    exact ⟨(onC_follows start named (Nat.le_refl _)).later (past op (by simp)), named.onC op⟩

theorem inOrder_events (ordered : TrackerOp.TimeOrdered ops) : Event.InOrder (ops.map (·.event)) := by
  constructor
  · intro event member
    obtain ⟨op, _, rfl⟩ := List.mem_map.mp member
    cases op <;> exact Nat.le_refl _
  · apply List.pairwise_map.mpr
    apply ordered.imp
    intro earlier later before
    cases earlier <;> cases later <;> exact before

theorem peers_nodup (unique : CServer.OnePerPeer ft.items) (named : Named ft) :
    (ft.items.map (·.peer)).Nodup := by
  apply List.pairwise_map.mpr
  apply unique.imp_of_mem
  intro earlier later member _ different same
  obtain ⟨peer, isSome⟩ := Option.isSome_iff_exists.mp (named earlier member)
  exact different peer isSome (same.symm.trans isSome)

theorem rust_event (op : TrackerOp) : op.rust.event = op.event.scale 1000000000 := by
  cases op <;> rfl

theorem rust_now (op : TrackerOp) : op.rust.now = seconds op.time := by
  cases op <;> rfl

theorem seconds_le {early late : Nat} (before : early ≤ late) : seconds early ≤ seconds late :=
  Nat.mul_le_mul_right _ before

theorem failureLimits_scale : CServer.failureLimits.scale 1000000000 = Server.failureLimits := rfl

theorem rustTrackerAfter_follows (ordered : TrackerOp.TimeOrdered ops) (past : ∀ op ∈ ops, op.time ≤ clock) :
    (rustTrackerAfter ops).Follows (seconds clock) ((ops.map (·.event)).map (Event.scale 1000000000)) := by
  have rustOrdered : Server.TimeOrdered (ops.map (·.rust)) := by
    apply List.pairwise_map.mpr
    apply ordered.imp
    intro earlier later before
    rw [rust_now, rust_now]
    exact seconds_le before
  have rustPast : ∀ call ∈ ops.map (·.rust), call.now ≤ seconds clock := by
    intro call member
    obtain ⟨op, inside, rfl⟩ := List.mem_map.mp member
    rw [rust_now]
    exact seconds_le (past op inside)
  have follows := Server.trackerAfter_follows rustOrdered rustPast
  have events : (ops.map (·.rust)).map (·.event) = (ops.map (·.event)).map (Event.scale 1000000000) := by
    rw [List.map_map, List.map_map]
    exact List.map_congr_left fun op _ => rust_event op
  rw [events] at follows
  exact follows

end Trackers

/-- After the same calls both trackers give the same answer about every peer, and the array of the
    C tracker holds no peer twice. -/
theorem same_bans {ops : List TrackerOp} (ordered : TrackerOp.TimeOrdered ops) {time : Nat}
    (past : ∀ op ∈ ops, op.time ≤ time) (peer : String) :
    ((cTrackerAfter ops).isBlocked time time peer).1 = ((rustTrackerAfter ops).isBlocked (seconds time) peer).1 ∧
      ((cTrackerAfter ops).items.map (·.peer)).Nodup := by
  obtain ⟨follows, named⟩ := cTrackerAfter_follows ordered past
  constructor
  · have inOrder := inOrder_events ordered
    have recorded : ∀ event ∈ ops.map (·.event), event.late ≤ time := by
      intro event member
      obtain ⟨op, inside, rfl⟩ := List.mem_map.mp member
      have before := past op inside
      cases op <;> exact before
    have ages : ∀ w ∈ Event.windowOf CServer.failureLimits peer (ops.map (·.event)), w.first ≤ w.last :=
      fun w member => (Event.windowOf_first_le inOrder recorded w member).1
    rw [Bool.eq_iff_iff, CServer.FailureTracker.isBlocked_iff follows (Nat.le_refl time) ages,
      Server.FailureTracker.isBlocked_iff (rustTrackerAfter_follows ordered past), ← failureLimits_scale,
      Event.windowOf_scale (by decide)]
    constructor
    · rintro ⟨w, isSome, banned⟩
      refine ⟨w.scale 1000000000, ?_, (Window.banned_scale (by decide)).mpr banned⟩
      rw [isSome, Option.map_some]
    · rintro ⟨scaled, isSome, banned⟩
      obtain ⟨w, found, rfl⟩ := Option.map_eq_some_iff.mp isSome
      exact ⟨w, found, (Window.banned_scale (by decide)).mp banned⟩
  · exact peers_nodup follows.unique named

theorem same_bans_after_eight :
    ((cTrackerAfter ((List.range 8).map (.noteFailure · "peer"))).isBlocked 9 9 "peer").1 = true ∧
      ((rustTrackerAfter ((List.range 8).map (.noteFailure · "peer"))).isBlocked (seconds 9) "peer").1 = true := by
  have ordered : TrackerOp.TimeOrdered ((List.range 8).map (.noteFailure · "peer")) := by
    unfold TrackerOp.TimeOrdered
    decide
  have past : ∀ op ∈ (List.range 8).map (TrackerOp.noteFailure · "peer"), op.time ≤ 9 := by decide
  have blocked : ((cTrackerAfter ((List.range 8).map (.noteFailure · "peer"))).isBlocked 9 9 "peer").1 = true := by
    decide +kernel
  exact ⟨blocked, (same_bans ordered past "peer").1.symm.trans blocked⟩

end ZkArche.Protocol

import ZkArche.CServer.TrackerMemory
import ZkArche.CServer.RateLimit
import ZkArche.CServer.Replay
import ZkArche.Foundation.Runs

namespace ZkArche.CServer

open Foundation

def FailureState.slot (st : FailureState) : Slot :=
  ⟨match st.peer with | none => .null | some peer => .text peer, some st.counters⟩

structure TrackerMemory.Holds (ft : TrackerMemory) (items : List FailureState) (behind : List Slot) : Prop where
  slots : ft.slots = items.map FailureState.slot ++ behind
  n : ft.n = items.length
  named : ∀ st ∈ items, ∃ peer, st.peer = some peer

variable {now late : Nat} {peer : String} {slots before behind : List Slot} {slot : Slot} {st : FailureState}
  {items kept rest : List FailureState} {ft : TrackerMemory}

section Slots

theorem load_at (parts : slots = before ++ slot :: behind) : load slots before.length = .ok slot := by
  rw [load, parts, List.getElem?_append_right (Nat.le_refl _), Nat.sub_self]
  rfl

theorem set_at (changed : Slot) (parts : slots = before ++ slot :: behind) :
    slots.set before.length changed = before ++ changed :: behind := by
  rw [parts, List.set_append_right _ _ (Nat.le_refl _), Nat.sub_self]
  rfl

theorem readPeer_slot (named : st.peer = some peer) : st.slot.readPeer = .ok peer := by
  rw [Slot.readPeer, FailureState.slot, named]

theorem freePeer_slot (st : FailureState) : st.slot.freePeer = .ok ⟨.unset, some st.counters⟩ := by
  rw [Slot.freePeer, FailureState.slot]
  cases st.peer <;> rfl

theorem keeps_counters (now : Nat) (st : FailureState) : st.counters.keeps now = st.keeps now := rfl

theorem note_counters (now : Nat) (st : FailureState) : (st.note now).counters = st.counters.note now := by
  unfold Counters.note FailureState.note
  by_cases lapsed : now - st.firstFailure > failureWindowSec
  · have room : 0 < uint32Max := by decide
    simp only [Counters.item, FailureState.counters, lapsed, room, if_true]
    split <;> rfl
  · simp only [Counters.item, FailureState.counters, lapsed, if_false]
    by_cases room : st.failures < uint32Max
    · simp only [room, if_true]
      split <;> rfl
    · simp only [room, if_false]
      split <;> rfl

theorem slot_note (now : Nat) (st : FailureState) :
    (st.note now).slot = { st.slot with counters := some (st.counters.note now) } := by
  rw [FailureState.slot, note_counters, FailureState.note_peer]
  rfl

end Slots

section Loops

theorem pruneFrom_eq (now : Nat) (kept : List FailureState) (middle : List Slot)
    (parts : slots = kept.map FailureState.slot ++ middle ++ (rest.map FailureState.slot ++ behind)) :
    ∃ after, pruneFrom now rest.length (kept.length + middle.length) kept.length slots =
        .ok ⟨(kept ++ rest.filter (FailureState.keeps now)).map FailureState.slot ++ after,
          (kept ++ rest.filter (FailureState.keeps now)).length⟩ ∧
      ((kept ++ rest.filter (FailureState.keeps now)).map FailureState.slot ++ after).length = slots.length := by
  induction rest generalizing kept middle slots with
  | nil =>
    rw [List.map_nil, List.nil_append, List.append_assoc] at parts
    refine ⟨middle ++ behind, ?_, ?_⟩
    · rw [List.filter_nil, List.append_nil, ← parts]
      rfl
    · rw [List.filter_nil, List.append_nil, parts]
  | cons st rest ih =>
    have split : slots = (kept.map FailureState.slot ++ middle) ++ st.slot :: (rest.map FailureState.slot ++ behind) :=
      parts
    have read := load_at split
    have position : (kept.map FailureState.slot ++ middle).length = kept.length + middle.length := by
      rw [List.length_append, List.length_map]
    rw [position] at read
    rw [List.length_cons, pruneFrom, read]
    cases keep : st.keeps now with
    | true =>
      have longer : (kept ++ [st]).length = kept.length + 1 := by rw [List.length_append, List.length_singleton]
      have stored : ∃ moved, (if kept.length ≠ kept.length + middle.length then slots.set kept.length st.slot else slots) =
          (kept ++ [st]).map FailureState.slot ++ moved ++ (rest.map FailureState.slot ++ behind) ∧
            moved.length = middle.length := by
        rw [List.map_append, List.map_singleton]
        cases middle with
        | nil =>
          have first : ¬ kept.length ≠ kept.length + ([] : List Slot).length := fun moved => moved rfl
          refine ⟨[], ?_, rfl⟩
          rw [if_neg first, parts]
          simp only [List.map_cons, List.append_nil, List.append_assoc, List.cons_append, List.nil_append]
        | cons stale middle =>
          have later : kept.length ≠ kept.length + (stale :: middle).length := by
            rw [List.length_cons]
            omega
          have target : slots = kept.map FailureState.slot ++ stale :: (middle ++ ((st :: rest).map FailureState.slot ++
              behind)) := by
            rw [parts, List.append_assoc, List.cons_append]
          refine ⟨middle ++ [st.slot], ?_, by rw [List.length_append, List.length_singleton, List.length_cons]⟩
          have written := set_at st.slot target
          rw [List.length_map] at written
          rw [if_pos later, written]
          simp only [List.map_cons, List.append_assoc, List.cons_append, List.nil_append]
      obtain ⟨moved, next, same⟩ := stored
      have onward := ih (kept ++ [st]) moved next
      have length : (if kept.length ≠ kept.length + middle.length then slots.set kept.length st.slot else slots).length =
          slots.length := by
        split
        · exact List.length_set
        · rfl
      rw [longer, same, Nat.add_right_comm, length] at onward
      rw [List.filter_cons_of_pos keep, List.append_cons]
      show ∃ after, (if st.counters.keeps now then _ else _) = Except.ok _ ∧ _
      rw [keeps_counters, if_pos keep]
      exact onward
    | false =>
      have freed : slots.set (kept.length + middle.length) ⟨.unset, some st.counters⟩ = kept.map FailureState.slot ++
          (middle ++ [⟨.unset, some st.counters⟩]) ++ (rest.map FailureState.slot ++ behind) := by
        rw [← position, set_at _ split]
        simp only [List.append_assoc, List.cons_append, List.nil_append]
      have onward := ih kept _ freed
      rw [List.length_append, List.length_singleton, List.length_set] at onward
      rw [List.filter_cons_of_neg (by simp [keep])]
      show ∃ after, (if st.counters.keeps now then _ else st.slot.freePeer >>= _) = Except.ok _ ∧ _
      rw [keeps_counters, keep, if_neg Bool.false_ne_true, freePeer_slot]
      exact onward

theorem findFrom_eq (peer : String) (before : List Slot) (named : ∀ st ∈ rest, ∃ peer, st.peer = some peer)
    (parts : slots = before ++ (rest.map FailureState.slot ++ behind)) :
    (findFrom slots peer rest.length before.length = .ok none ∧ ∀ st ∈ rest, st.peer ≠ some peer) ∨
    ∃ earlier st later, rest = earlier ++ st :: later ∧ (∀ other ∈ earlier, other.peer ≠ some peer) ∧
      st.peer = some peer ∧
      findFrom slots peer rest.length before.length = .ok (some (before.length + earlier.length)) := by
  induction rest generalizing before with
  | nil => exact .inl ⟨rfl, fun _ member => absurd member List.not_mem_nil⟩
  | cons st rest ih =>
    obtain ⟨name, own⟩ := named st List.mem_cons_self
    have next : slots = (before ++ [st.slot]) ++ (rest.map FailureState.slot ++ behind) := by
      rw [List.append_assoc]
      exact parts
    have read : load slots before.length = .ok st.slot := load_at parts
    have step : findFrom slots peer (rest.length + 1) before.length =
        if name = peer then .ok (some before.length) else findFrom slots peer rest.length (before.length + 1) := by
      rw [findFrom, read]
      show (st.slot.readPeer >>= _) = _
      rw [readPeer_slot own]
      rfl
    rw [List.length_cons, step]
    by_cases hit : name = peer
    · rw [hit] at own
      exact .inr ⟨[], st, rest, rfl, fun _ member => absurd member List.not_mem_nil, own, by rw [if_pos hit]; rfl⟩
    · have miss : st.peer ≠ some peer := by
        rw [own]
        exact fun same => hit (Option.some.inj same)
      have found := ih (before ++ [st.slot]) (fun other member => named other (List.mem_cons_of_mem _ member)) next
      rw [List.length_append, List.length_singleton] at found
      rw [if_neg hit]
      rcases found with ⟨run, others⟩ | ⟨earlier, found, later, rfl, others, its, run⟩
      · exact .inl ⟨run, List.forall_mem_cons.mpr ⟨miss, others⟩⟩
      · refine .inr ⟨st :: earlier, found, later, rfl, List.forall_mem_cons.mpr ⟨miss, others⟩, its, ?_⟩
        rw [run, List.length_cons, Nat.add_assoc, Nat.add_comm 1]

end Loops

section Splits

variable {earlier later : List FailureState}

theorem find_split (own : st.peer = some peer) (others : ∀ other ∈ earlier, other.peer ≠ some peer) :
    itemOf peer (earlier ++ st :: later) = some st := by
  induction earlier with
  | nil => exact itemOf_own own
  | cons other earlier ih =>
    rw [List.cons_append, itemOf_other (others other List.mem_cons_self)]
    exact ih fun item member => others item (List.mem_cons_of_mem _ member)

theorem noteFirst_split (own : st.peer = some peer) (others : ∀ other ∈ earlier, other.peer ≠ some peer) :
    noteFirst now peer (earlier ++ st :: later) = earlier ++ st.note now :: later := by
  induction earlier with
  | nil =>
    rw [List.nil_append, noteFirst, if_pos own]
    rfl
  | cons other earlier ih =>
    rw [List.cons_append, noteFirst, if_neg (others other List.mem_cons_self)]
    rw [ih fun item member => others item (List.mem_cons_of_mem _ member)]
    rfl

theorem erase_split (own : st.peer = some peer) (others : ∀ other ∈ earlier, other.peer ≠ some peer) :
    (earlier ++ st :: later).eraseP (fun st => st.peer = some peer) = earlier ++ later := by
  rw [List.eraseP_append_right _ (by simpa using others), List.eraseP_cons_of_pos (by simpa using own)]

end Splits

def roomFor (cap count : Nat) : Nat := if count = cap then (if cap = 0 then 64 else cap * 2) else cap

namespace TrackerMemory.Holds

theorem length_slots (holds : ft.Holds items behind) : ft.slots.length = items.length + behind.length := by
  rw [holds.slots, List.length_append, List.length_map]

theorem tracked (holds : ft.Holds items behind) : ft.tracked = items.map FailureState.slot := by
  have length : (items.map FailureState.slot).length = ft.n := by rw [List.length_map, holds.n]
  rw [TrackerMemory.tracked, holds.slots, ← length, List.take_left]

theorem prune (holds : ft.Holds items behind) (late : Nat) :
    ∃ after more, ft.prune late = .ok after ∧ after.Holds (items.filter (FailureState.keeps late)) more ∧
      after.slots.length = ft.slots.length := by
  obtain ⟨more, run, length⟩ := pruneFrom_eq late [] [] holds.slots
  rw [← holds.n] at run
  exact ⟨_, more, run, ⟨rfl, rfl, fun st member => holds.named st (List.mem_filter.mp member).1⟩, length⟩

theorem find (holds : ft.Holds items behind) (peer : String) :
    (ft.find peer = .ok none ∧ ∀ st ∈ items, st.peer ≠ some peer) ∨
    ∃ earlier st later, items = earlier ++ st :: later ∧ (∀ other ∈ earlier, other.peer ≠ some peer) ∧
      st.peer = some peer ∧ ft.find peer = .ok (some earlier.length) := by
  have found := findFrom_eq peer [] holds.named holds.slots
  rw [← holds.n, List.length_nil] at found
  simp only [Nat.zero_add] at found
  exact found

theorem isBlocked (holds : ft.Holds items behind) (now late : Nat) (peer : String) :
    ∃ after more, ft.isBlocked now late peer =
        .ok (if (FailureTracker.isBlocked ⟨items, ft.slots.length⟩ now late peer).1 then 1 else 0, after) ∧
      after.Holds (items.filter (FailureState.keeps late)) more ∧ after.slots.length = ft.slots.length := by
  obtain ⟨pruned, more, run, kept, length⟩ := holds.prune late
  refine ⟨pruned, more, ?_, kept, length⟩
  rw [TrackerMemory.isBlocked, run]
  show (pruned.find peer >>= _) = _
  rcases kept.find peer with ⟨absent, others⟩ | ⟨earlier, st, later, parts, others, own, found⟩
  · have nobody : itemOf peer (items.filter (FailureState.keeps late)) = none := itemOf_eq_none.mpr others
    have unknown : (FailureTracker.prune ⟨items, ft.slots.length⟩ late).find peer = none := nobody
    rw [absent, FailureTracker.isBlocked, unknown]
    rfl
  · have known : (FailureTracker.prune ⟨items, ft.slots.length⟩ late).find peer = some st := by
      show itemOf peer (items.filter (FailureState.keeps late)) = some st
      rw [parts, find_split own others]
    have slots : pruned.slots = earlier.map FailureState.slot ++ st.slot :: (later.map FailureState.slot ++ more) := by
      rw [kept.slots, parts, List.map_append, List.append_assoc]
      rfl
    have read := load_at slots
    rw [List.length_map] at read
    rw [found]
    show (load pruned.slots earlier.length >>= _) = _
    have same : (if st.blockedUntil ≠ 0 ∧ st.blockedUntil > now then (1 : Int) else 0) =
        if (decide (st.blockedUntil ≠ 0) && decide (st.blockedUntil > now)) = true then 1 else 0 := by
      simp only [Bool.and_eq_true, decide_eq_true_eq]
    rw [read, FailureTracker.isBlocked, known]
    show Except.ok ((if st.blockedUntil ≠ 0 ∧ st.blockedUntil > now then 1 else 0), pruned) = _
    rw [same]

/-- The items behind the erased one move up by one; the last of them stays where it was as well. -/
theorem noteSuccess (holds : ft.Holds items behind) (peer : String) :
    ∃ after more, ft.noteSuccess peer = .ok (0, after) ∧
      after.Holds (items.eraseP fun st => st.peer = some peer) more ∧ after.slots.length = ft.slots.length := by
  rcases holds.find peer with ⟨absent, others⟩ | ⟨earlier, st, later, parts, others, own, found⟩
  · have untouched : items.eraseP (fun st => st.peer = some peer) = items :=
      List.eraseP_of_forall_not (by simpa using others)
    refine ⟨ft, behind, ?_, by rwa [untouched], rfl⟩
    rw [TrackerMemory.noteSuccess, absent]
    rfl
  · have slots : ft.slots = earlier.map FailureState.slot ++ st.slot :: (later.map FailureState.slot ++ behind) := by
      rw [holds.slots, parts, List.map_append, List.append_assoc]
      rfl
    have size : ft.n = earlier.length + (later.length + 1) := by
      rw [holds.n, parts, List.length_append, List.length_cons]
    have length : (earlier.map FailureState.slot).length = earlier.length := List.length_map _
    have read := load_at slots
    have freed := set_at ⟨.unset, some st.counters⟩ slots
    rw [length] at read freed
    generalize rest : (⟨.unset, some st.counters⟩ : Slot) :: (later.map FailureState.slot ++ behind) = tail at freed
    have moved : (if earlier.length + 1 < ft.n then (earlier.map FailureState.slot ++ tail).take earlier.length ++
          ((earlier.map FailureState.slot ++ tail).drop (earlier.length + 1)).take (ft.n - earlier.length - 1) ++
            (earlier.map FailureState.slot ++ tail).drop (ft.n - 1)
        else earlier.map FailureState.slot ++ tail) =
          (earlier ++ later).map FailureState.slot ++ tail.drop later.length := by
      have front : (earlier.map FailureState.slot ++ tail).take earlier.length = earlier.map FailureState.slot :=
        List.take_left' length
      have middle : ((earlier.map FailureState.slot ++ tail).drop (earlier.length + 1)).take (ft.n - earlier.length - 1) =
          later.map FailureState.slot := by
        have count : ft.n - earlier.length - 1 = (later.map FailureState.slot).length := by
          rw [size, List.length_map]
          omega
        rw [← List.drop_drop, List.drop_left' length, ← rest, List.drop_succ_cons, List.drop_zero, count, List.take_left]
      have back : (earlier.map FailureState.slot ++ tail).drop (ft.n - 1) = tail.drop later.length := by
        have count : ft.n - 1 = earlier.length + later.length := by omega
        rw [count, ← List.drop_drop, List.drop_left' length]
      rw [front, middle, back, List.map_append]
      split
      case isTrue => rfl
      case isFalse last =>
        have none_later : later = [] := List.length_eq_zero_iff.mp (by omega)
        rw [none_later, List.map_nil, List.append_nil, List.length_nil, List.drop_zero]
    have erased : items.eraseP (fun st => st.peer = some peer) = earlier ++ later := by
      rw [parts, erase_split own others]
    refine ⟨⟨(earlier ++ later).map FailureState.slot ++ tail.drop later.length, ft.n - 1⟩, tail.drop later.length,
      ?_, ⟨?_, ?_, ?_⟩, ?_⟩
    · rw [TrackerMemory.noteSuccess, found]
      show (load ft.slots earlier.length >>= _) = _
      rw [read]
      show (st.slot.freePeer >>= _) = _
      rw [freePeer_slot]
      show Except.ok ((0 : Int), (⟨if earlier.length + 1 < ft.n then _ else _, ft.n - 1⟩ : TrackerMemory)) = _
      rw [freed, moved]
    · rw [erased]
    · show ft.n - 1 = _
      rw [erased, size, List.length_append]
      omega
    · intro st member
      exact holds.named st (List.eraseP_subset member)
    · show ((earlier ++ later).map FailureState.slot ++ tail.drop later.length).length = _
      rw [slots, ← rest]
      simp only [List.length_append, List.length_map, List.length_drop, List.length_cons]
      omega

theorem noteFailure_known (holds : ft.Holds items behind) (memory : Bool × Bool) (now : Nat)
    (known : ∃ st ∈ items.filter (FailureState.keeps late), st.peer = some peer) :
    ∃ after more, ft.noteFailure memory now late peer = .ok (0, after) ∧
      after.Holds (noteFirst now peer (items.filter (FailureState.keeps late))) more ∧
      after.slots.length = ft.slots.length := by
  obtain ⟨pruned, more, run, kept, length⟩ := holds.prune late
  rcases kept.find peer with ⟨_, others⟩ | ⟨earlier, st, later, parts, others, own, found⟩
  · obtain ⟨st, member, its⟩ := known
    exact absurd its (others st member)
  · have slots : pruned.slots = earlier.map FailureState.slot ++ st.slot :: (later.map FailureState.slot ++ more) := by
      rw [kept.slots, parts, List.map_append, List.append_assoc]
      rfl
    have read := load_at slots
    have written := set_at (st.note now).slot slots
    rw [List.length_map] at read written
    refine ⟨⟨pruned.slots.set earlier.length (st.note now).slot, pruned.n⟩, more, ?_, ⟨?_, ?_, ?_⟩, ?_⟩
    · rw [TrackerMemory.noteFailure, run]
      show (pruned.find peer >>= _) = _
      rw [found]
      show (load pruned.slots earlier.length >>= _) = _
      rw [read, slot_note]
      rfl
    · show pruned.slots.set earlier.length (st.note now).slot = _
      rw [written, parts, noteFirst_split own others, List.map_append, List.append_assoc]
      rfl
    · show pruned.n = _
      rw [kept.n, parts, noteFirst_split own others]
      simp only [List.length_append, List.length_cons]
    · intro changed member
      rw [parts, noteFirst_split own others] at member
      rcases List.mem_append.mp member with member | member
      · exact kept.named changed (by rw [parts]; exact List.mem_append_left _ member)
      · rcases List.mem_cons.mp member with rfl | member
        · exact ⟨peer, by rw [FailureState.note_peer, own]⟩
        · exact kept.named changed (by rw [parts]; exact List.mem_append_right _ (List.mem_cons_of_mem _ member))
    · rw [← length]
      exact List.length_set

theorem noteFailure_full (holds : ft.Holds items behind) {memory : Bool × Bool} (now : Nat)
    (unknown : ∀ st ∈ items.filter (FailureState.keeps late), st.peer ≠ some peer)
    (full : (items.filter (FailureState.keeps late)).length = ft.slots.length) (failed : memory.1 = false) :
    ∃ after more, ft.noteFailure memory now late peer = .ok (-1, after) ∧
      after.Holds (items.filter (FailureState.keeps late)) more ∧ after.slots.length = ft.slots.length := by
  obtain ⟨pruned, more, run, kept, length⟩ := holds.prune late
  refine ⟨pruned, more, ?_, kept, length⟩
  rcases kept.find peer with ⟨absent, _⟩ | ⟨earlier, st, later, parts, _, own, _⟩
  · have stop : pruned.n = pruned.slots.length ∧ memory.1 = false := ⟨by rw [kept.n, full, length], failed⟩
    rw [TrackerMemory.noteFailure, run]
    show (pruned.find peer >>= _) = _
    rw [absent]
    show (if pruned.n = pruned.slots.length ∧ memory.1 = false then _ else _) = _
    rw [if_pos stop]
    rfl
  · exact absurd own (unknown st (by rw [parts]; exact List.mem_append_right _ List.mem_cons_self))

/-- A new peer for which there is room: the slot behind the last item is taken before its name is copied. -/
theorem noteFailure_room (holds : ft.Holds items behind) {memory : Bool × Bool} (now : Nat)
    (unknown : ∀ st ∈ items.filter (FailureState.keeps late), st.peer ≠ some peer)
    (room : ¬ ((items.filter (FailureState.keeps late)).length = ft.slots.length ∧ memory.1 = false)) :
    ∃ counters more, ft.noteFailure memory now late peer = .ok (if memory.2 then 0 else -1,
        ⟨(items.filter (FailureState.keeps late)).map FailureState.slot ++
          (if memory.2 then (FailureState.note now ⟨some peer, now, 0, 0⟩).slot else ⟨.null, counters⟩) :: more,
          (items.filter (FailureState.keeps late)).length + 1⟩) ∧
      (items.filter (FailureState.keeps late)).length + 1 + more.length =
        roomFor ft.slots.length (items.filter (FailureState.keeps late)).length := by
  obtain ⟨pruned, more, run, kept, length⟩ := holds.prune late
  generalize items.filter (FailureState.keeps late) = alive at unknown room kept ⊢
  rcases kept.find peer with ⟨absent, _⟩ | ⟨earlier, st, later, parts, _, own, _⟩
  · have size : alive.length + more.length = ft.slots.length := by rw [← kept.length_slots, length]
    have go : ¬ (pruned.n = pruned.slots.length ∧ memory.1 = false) := by rwa [kept.n, length]
    have grown : ∃ slot after, (if pruned.n = pruned.slots.length then pruned.slots ++ List.replicate
          ((if pruned.slots.length ≠ 0 then pruned.slots.length * 2 else 64) - pruned.slots.length) Slot.fresh
        else pruned.slots) = alive.map FailureState.slot ++ slot :: after ∧
          alive.length + 1 + after.length = roomFor ft.slots.length alive.length := by
      rw [kept.n, length, kept.slots]
      by_cases full : alive.length = ft.slots.length
      · have none_more : more = [] := List.length_eq_zero_iff.mp (by omega)
        obtain ⟨extra, count⟩ : ∃ extra, (if ft.slots.length ≠ 0 then ft.slots.length * 2 else 64) - ft.slots.length =
            extra + 1 := Nat.exists_eq_succ_of_ne_zero (by split <;> omega)
        refine ⟨Slot.fresh, List.replicate extra Slot.fresh, ?_, ?_⟩
        · rw [if_pos full, count, none_more, List.append_nil]
          rfl
        · rw [roomFor, if_pos full, List.length_replicate]
          split at count <;> split <;> omega
      · obtain ⟨slot, after, rfl⟩ := List.exists_cons_of_ne_nil (l := more) fun empty => full (by
          rw [empty, List.length_nil] at size
          omega)
        rw [List.length_cons] at size
        refine ⟨slot, after, by rw [if_neg full], ?_⟩
        rw [roomFor, if_neg full]
        omega
    obtain ⟨slot, after, slots, capacity⟩ := grown
    have read := load_at slots
    rw [List.length_map, ← kept.n] at read
    refine ⟨slot.counters, after, ?_, capacity⟩
    rw [TrackerMemory.noteFailure, run]
    show (pruned.find peer >>= _) = _
    rw [absent]
    show (if pruned.n = pruned.slots.length ∧ memory.1 = false then _ else _) = _
    rw [if_neg go]
    show (load _ pruned.n >>= _) = _
    rw [read]
    have written (changed : Slot) := set_at changed slots
    rw [List.length_map, ← kept.n] at written
    show (if memory.2 = true then Except.ok ((0 : Int), (⟨List.set _ pruned.n _, pruned.n + 1⟩ : TrackerMemory))
      else Except.ok (-1, ⟨List.set _ pruned.n { slot with peer := .null }, pruned.n + 1⟩)) = _
    rw [written, written, kept.n, slot_note]
    cases memory.2 <;> rfl
  · exact absurd own (unknown st (by rw [parts]; exact List.mem_append_right _ List.mem_cons_self))

end TrackerMemory.Holds

section Calls

def Slot.keeps (now : Nat) (slot : Slot) : Bool :=
  match slot.counters with
  | none => false
  | some counters => counters.keeps now

namespace TrackerMemory

def knows (ft : TrackerMemory) (late : Nat) (peer : String) : Bool :=
  ft.tracked.any fun slot => slot.keeps late && decide (slot.peer = .text peer)

def full (ft : TrackerMemory) (late : Nat) : Bool :=
  decide ((ft.tracked.filter (Slot.keeps late)).length = ft.slots.length)

/-- The call does not come to copy a peer, or there is memory for the copy. -/
def Spared (ft : TrackerMemory) : TrackerCall → Prop
  | .noteFailure memory _ late peer =>
    memory.2 = true ∨ ft.knows late peer = true ∨ (ft.full late = true ∧ memory.1 = false)
  | _ => True

/-- Each of the first `n` items has been written, with a peer that is not null. -/
def Sound (ft : TrackerMemory) : Prop :=
  ft.n ≤ ft.slots.length ∧ ∀ slot ∈ ft.tracked, ∃ peer counters, slot = ⟨.text peer, some counters⟩

/-- The items after the call are sound, and a failure that was not noted changed nothing but what pruning does. -/
def Kept (ft : TrackerMemory) (call : TrackerCall) (code : Int) (after : TrackerMemory) : Prop :=
  after.Sound ∧ ∀ memory now late peer, call = .noteFailure memory now late peer → code = -1 →
    after.tracked = ft.tracked.filter (Slot.keeps late)

theorem exists_items (written : ∀ slot ∈ slots, ∃ peer counters, slot = ⟨.text peer, some counters⟩) :
    ∃ items : List FailureState, slots = items.map FailureState.slot ∧ ∀ st ∈ items, ∃ peer, st.peer = some peer := by
  induction slots with
  | nil => exact ⟨[], rfl, fun _ member => absurd member List.not_mem_nil⟩
  | cons slot slots ih =>
    obtain ⟨peer, counters, rfl⟩ := written slot List.mem_cons_self
    obtain ⟨items, rfl, named⟩ := ih fun other member => written other (List.mem_cons_of_mem _ member)
    exact ⟨⟨some peer, counters.firstFailure, counters.failures, counters.blockedUntil⟩ :: items, rfl,
      List.forall_mem_cons.mpr ⟨⟨peer, rfl⟩, named⟩⟩

theorem Holds.sound (holds : ft.Holds items behind) : ft.Sound := by
  constructor
  · rw [holds.n, holds.length_slots]
    omega
  · intro slot member
    rw [holds.tracked] at member
    obtain ⟨st, inside, rfl⟩ := List.mem_map.mp member
    obtain ⟨peer, own⟩ := holds.named st inside
    exact ⟨peer, st.counters, by rw [FailureState.slot, own]⟩

theorem Sound.holds (sound : ft.Sound) : ∃ items behind, ft.Holds items behind := by
  obtain ⟨items, tracked, named⟩ := exists_items sound.2
  refine ⟨items, ft.slots.drop ft.n, ?_, ?_, named⟩
  · rw [← tracked]
    exact (List.take_append_drop ft.n ft.slots).symm
  · have length := congrArg List.length tracked
    rw [TrackerMemory.tracked, List.length_take, List.length_map, Nat.min_eq_left sound.1] at length
    exact length

theorem Holds.filter (holds : ft.Holds items behind) (late : Nat) :
    ft.tracked.filter (Slot.keeps late) = (items.filter (FailureState.keeps late)).map FailureState.slot := by
  rw [holds.tracked, List.filter_map]
  rfl

theorem Holds.knows (holds : ft.Holds items behind) :
    ft.knows late peer = true ↔ ∃ st ∈ items.filter (FailureState.keeps late), st.peer = some peer := by
  have named (st : FailureState) (member : st ∈ items) : st.slot.peer = .text peer ↔ st.peer = some peer := by
    obtain ⟨name, own⟩ := holds.named st member
    rw [FailureState.slot, own]
    exact ⟨fun same => congrArg some (PeerPointer.text.inj same), fun same => congrArg PeerPointer.text (Option.some.inj same)⟩
  rw [TrackerMemory.knows, holds.tracked, List.any_map, List.any_eq_true]
  constructor
  · intro ⟨st, member, found⟩
    obtain ⟨alive, its⟩ := Bool.and_eq_true_iff.mp found
    exact ⟨st, List.mem_filter.mpr ⟨member, alive⟩, (named st member).mp (of_decide_eq_true its)⟩
  · intro ⟨st, kept, its⟩
    obtain ⟨member, alive⟩ := List.mem_filter.mp kept
    exact ⟨st, member, Bool.and_eq_true_iff.mpr ⟨alive, decide_eq_true ((named st member).mpr its)⟩⟩

theorem Holds.full (holds : ft.Holds items behind) :
    ft.full late = true ↔ (items.filter (FailureState.keeps late)).length = ft.slots.length := by
  rw [TrackerMemory.full, holds.filter, List.length_map, decide_eq_true_iff]

end TrackerMemory

section Tracker

variable {memory : Bool × Bool} {cap : Nat}

theorem FailureTracker.noteFailure_known (known : ∃ st ∈ items.filter (FailureState.keeps late), st.peer = some peer) :
    FailureTracker.noteFailure memory ⟨items, cap⟩ now late peer =
      (0, ⟨noteFirst now peer (items.filter (FailureState.keeps late)), cap⟩) := by
  rw [FailureTracker.noteFailure]
  cases found : (FailureTracker.prune ⟨items, cap⟩ late).find peer with
  | none =>
    obtain ⟨st, member, own⟩ := known
    exact absurd own (itemOf_eq_none.mp found st member)
  | some st => rfl

theorem FailureTracker.find_unknown (unknown : ∀ st ∈ items.filter (FailureState.keeps late), st.peer ≠ some peer) :
    (FailureTracker.prune ⟨items, cap⟩ late).find peer = none := itemOf_eq_none.mpr unknown

theorem FailureTracker.noteFailure_full (unknown : ∀ st ∈ items.filter (FailureState.keeps late), st.peer ≠ some peer)
    (full : (items.filter (FailureState.keeps late)).length = cap) (failed : memory.1 = false) :
    FailureTracker.noteFailure memory ⟨items, cap⟩ now late peer =
      (-1, ⟨items.filter (FailureState.keeps late), cap⟩) := by
  have stuck : (FailureTracker.prune ⟨items, cap⟩ late).makeRoom memory.1 = none := by
    rw [FailureTracker.makeRoom, failed]
    exact if_pos full
  rw [FailureTracker.noteFailure, FailureTracker.find_unknown unknown]
  simp only [stuck]
  rfl

theorem FailureTracker.noteFailure_room (unknown : ∀ st ∈ items.filter (FailureState.keeps late), st.peer ≠ some peer)
    (room : ¬ ((items.filter (FailureState.keeps late)).length = cap ∧ memory.1 = false)) (copied : memory.2 = true) :
    FailureTracker.noteFailure memory ⟨items, cap⟩ now late peer =
      (0, ⟨items.filter (FailureState.keeps late) ++ [FailureState.note now ⟨some peer, now, 0, 0⟩],
        roomFor cap (items.filter (FailureState.keeps late)).length⟩) := by
  have grown : (FailureTracker.prune ⟨items, cap⟩ late).makeRoom memory.1 =
      some ⟨items.filter (FailureState.keeps late), roomFor cap (items.filter (FailureState.keeps late)).length⟩ := by
    rw [FailureTracker.makeRoom, roomFor]
    by_cases full : (items.filter (FailureState.keeps late)).length = cap
    · have memory_left : memory.1 = true := by
        rw [← Bool.not_eq_false]
        exact fun failed => room ⟨full, failed⟩
      rw [if_pos full, memory_left]
      exact if_pos full
    · rw [if_neg full]
      exact if_neg full
  rw [FailureTracker.noteFailure, FailureTracker.find_unknown unknown]
  simp only [grown, copied, if_true]

end Tracker

namespace TrackerMemory

theorem Holds.call {call : TrackerCall} (holds : ft.Holds items behind) (spared : ft.Spared call) :
    ∃ after more, ft.call call = .ok ((FailureTracker.call ⟨items, ft.slots.length⟩ call).1, after) ∧
      after.Holds (FailureTracker.call ⟨items, ft.slots.length⟩ call).2.items more ∧
      after.slots.length = (FailureTracker.call ⟨items, ft.slots.length⟩ call).2.cap := by
  cases call with
  | isBlocked now late peer =>
    obtain ⟨after, more, run, kept, length⟩ := holds.isBlocked now late peer
    have items_after : (FailureTracker.isBlocked ⟨items, ft.slots.length⟩ now late peer).2 =
        ⟨items.filter (FailureState.keeps late), ft.slots.length⟩ := by
      rw [FailureTracker.isBlocked]
      cases (FailureTracker.prune ⟨items, ft.slots.length⟩ late).find peer <;> rfl
    refine ⟨after, more, run, ?_, ?_⟩
    · rw [FailureTracker.call, items_after]
      exact kept
    · rw [FailureTracker.call, items_after]
      exact length
  | noteSuccess peer => exact holds.noteSuccess peer
  | noteFailure memory now late peer =>
    by_cases known : ∃ st ∈ items.filter (FailureState.keeps late), st.peer = some peer
    · rw [FailureTracker.call, FailureTracker.noteFailure_known known]
      exact holds.noteFailure_known memory now known
    · have unknown : ∀ st ∈ items.filter (FailureState.keeps late), st.peer ≠ some peer :=
        fun st member own => known ⟨st, member, own⟩
      by_cases room : (items.filter (FailureState.keeps late)).length = ft.slots.length ∧ memory.1 = false
      · rw [FailureTracker.call, FailureTracker.noteFailure_full unknown room.1 room.2]
        exact holds.noteFailure_full now unknown room.1 room.2
      · have copied : memory.2 = true := by
          rcases spared with copied | seen | stuck
          · exact copied
          · exact absurd (holds.knows.mp seen) known
          · exact absurd ⟨holds.full.mp stuck.1, stuck.2⟩ room
        obtain ⟨counters, more, run, size⟩ := holds.noteFailure_room now unknown room
        rw [FailureTracker.call, FailureTracker.noteFailure_room unknown room copied]
        rw [copied, if_pos rfl, if_pos rfl] at run
        refine ⟨_, more, run, ⟨?_, ?_, ?_⟩, ?_⟩
        · simp only [List.map_append, List.map_cons, List.map_nil, List.append_assoc, List.cons_append, List.nil_append]
        · simp only [List.length_append, List.length_cons, List.length_nil]
        · intro st member
          rcases List.mem_append.mp member with member | member
          · exact holds.named st (List.mem_filter.mp member).1
          · rw [List.mem_singleton.mp member]
            exact ⟨peer, FailureState.note_peer _ _⟩
        · rw [← size]
          simp only [List.length_append, List.length_cons, List.length_map]
          omega

/-- Of the failures that are not noted only the one whose peer was not copied changes the items. -/
theorem Holds.kept_iff (holds : ft.Holds items behind) (call : TrackerCall) :
    ∃ code after, ft.call call = .ok (code, after) ∧ (ft.Kept call code after ↔ ft.Spared call) := by
  by_cases spared : ft.Spared call
  · obtain ⟨after, more, run, kept, _⟩ := holds.call spared
    refine ⟨_, after, run, iff_of_true ⟨kept.sound, ?_⟩ spared⟩
    rintro memory now late peer rfl failed
    rw [kept.tracked, holds.filter]
    by_cases known : ∃ st ∈ items.filter (FailureState.keeps late), st.peer = some peer
    · rw [FailureTracker.call, FailureTracker.noteFailure_known known] at failed
      exact absurd failed (show (0 : Int) ≠ -1 by decide)
    · have unknown : ∀ st ∈ items.filter (FailureState.keeps late), st.peer ≠ some peer :=
        fun st member own => known ⟨st, member, own⟩
      by_cases room : (items.filter (FailureState.keeps late)).length = ft.slots.length ∧ memory.1 = false
      · rw [FailureTracker.call, FailureTracker.noteFailure_full unknown room.1 room.2]
      · have copied : memory.2 = true := by
          rcases spared with copied | seen | stuck
          · exact copied
          · exact absurd (holds.knows.mp seen) known
          · exact absurd ⟨holds.full.mp stuck.1, stuck.2⟩ room
        rw [FailureTracker.call, FailureTracker.noteFailure_room unknown room copied] at failed
        exact absurd failed (show (0 : Int) ≠ -1 by decide)
  · cases call with
    | isBlocked => exact absurd trivial spared
    | noteSuccess => exact absurd trivial spared
    | noteFailure memory now late peer =>
      have lost : memory.2 = false := by
        rw [← Bool.not_eq_true]
        exact fun copied => spared (.inl copied)
      have unknown : ∀ st ∈ items.filter (FailureState.keeps late), st.peer ≠ some peer :=
        fun st member own => spared (.inr (.inl (holds.knows.mpr ⟨st, member, own⟩)))
      have room : ¬ ((items.filter (FailureState.keeps late)).length = ft.slots.length ∧ memory.1 = false) :=
        fun stuck => spared (.inr (.inr ⟨holds.full.mpr stuck.1, stuck.2⟩))
      obtain ⟨counters, more, run, _⟩ := holds.noteFailure_room now unknown room
      refine ⟨_, _, run, iff_of_false (fun kept => ?_) spared⟩
      rw [lost] at kept
      have length : ((items.filter (FailureState.keeps late)).map FailureState.slot).length =
          (items.filter (FailureState.keeps late)).length := List.length_map _
      have inside : (⟨.null, counters⟩ : Slot) ∈ TrackerMemory.tracked ⟨(items.filter (FailureState.keeps late)).map
          FailureState.slot ++ ⟨.null, counters⟩ :: more, (items.filter (FailureState.keeps late)).length + 1⟩ := by
        rw [TrackerMemory.tracked, ← length, List.take_length_add_append]
        exact List.mem_append_right _ List.mem_cons_self
      obtain ⟨name, written, same⟩ := kept.1.2 _ inside
      exact PeerPointer.noConfusion (congrArg Slot.peer same)

def step (ft : TrackerMemory) (call : TrackerCall) : Option TrackerMemory :=
  match ft.call call with
  | .error _ => none
  | .ok (_, after) => some after

theorem sound_zero : zero.Sound := ⟨Nat.le_refl 0, fun _ member => absurd member List.not_mem_nil⟩

theorem sound_of_run (reached : Run step Spared zero ft) : ft.Sound := by
  apply reached.invariant Sound sound_zero
  intro state call next sound spared taken
  obtain ⟨items, behind, holds⟩ := sound.holds
  obtain ⟨code, after, run, kept⟩ := holds.kept_iff call
  rw [step, run] at taken
  cases taken
  exact (kept.mpr spared).1

end TrackerMemory

end Calls

section Keys

variable {cache : ReplayCache} {memory : Bool} {pid nonceC : Block UInt8 32}

namespace ReplayCache

/-- A failed insertion leaves the remembered keys as they are. -/
def KeepsKeys (cache : ReplayCache) (memory : Bool) (pid nonceC : Block UInt8 32) : Prop :=
  (cache.checkAndInsert memory pid nonceC).1 = -1 →
    ∀ key, (cache.checkAndInsert memory pid nonceC).2.contains key = cache.contains key

/-- There is no memory for a new key after a full generation has taken the place of one with other keys. -/
def Forgets (cache : ReplayCache) (memory : Bool) (pid nonceC : Block UInt8 32) : Prop :=
  cache.contains (replayKey pid nonceC) = false ∧ replayGenMax ≤ cache.current.keys.length ∧ memory = false ∧
    ∃ key ∈ cache.previous.keys, key ∉ cache.current.keys

/-- Room that fails to be made after a rotation is room for the first key of the new generation. -/
theorem checkAndInsert_rotated (new : cache.contains (replayKey pid nonceC) = false)
    (old : replayGenMax ≤ cache.current.keys.length) :
    cache.checkAndInsert false pid nonceC = (-1, { cache with previous := cache.current, current := .null, dirty := true }) := by
  have rotated : cache.rotate = { cache with previous := cache.current, current := .null, dirty := true } := if_pos old
  have reserved : KeyArray.null.reserve false (KeyArray.null.keys.length + 1) = none := by decide
  simp only [checkAndInsert, new, rotated, reserved]
  rfl

theorem keepsKeys_iff : cache.KeepsKeys memory pid nonceC ↔ ¬ cache.Forgets memory pid nonceC := by
  rw [KeepsKeys, Forgets]
  cases new : cache.contains (replayKey pid nonceC) with
  | true =>
    have seen : cache.checkAndInsert memory pid nonceC = (0, cache) := by
      rw [checkAndInsert]
      exact if_pos new
    rw [seen]
    exact iff_of_true (fun failed => absurd failed (show (0 : Int) ≠ -1 by decide)) (fun forgets => Bool.noConfusion forgets.1)
  | false =>
    by_cases old : replayGenMax ≤ cache.current.keys.length
    · cases memory with
      | true =>
        have room : KeyArray.null.reserve true (KeyArray.null.keys.length + 1) = some ⟨[], 256⟩ := by decide
        have rotated : cache.rotate = { cache with previous := cache.current, current := .null, dirty := true } := if_pos old
        have inserted : (cache.checkAndInsert true pid nonceC).1 = 1 := by
          simp only [checkAndInsert, new, rotated, room]
          rfl
        rw [inserted]
        exact iff_of_true (fun failed => absurd failed (show (1 : Int) ≠ -1 by decide)) (fun forgets => Bool.noConfusion forgets.2.2.1)
      | false =>
        rw [checkAndInsert_rotated new old]
        constructor
        · rintro keeps ⟨_, _, _, key, before, other⟩
          have known : cache.contains key = true := contains_iff.mpr (.inr before)
          rw [← keeps rfl key] at known
          rcases contains_iff.mp known with member | member
          · exact List.not_mem_nil member
          · exact other member
        · intro remembers _ key
          rw [Bool.eq_iff_iff, contains_iff, contains_iff]
          constructor
          · rintro (member | member)
            · exact absurd member List.not_mem_nil
            · exact .inl member
          · rintro (member | member)
            · exact .inr member
            · by_contra gone
              exact remembers ⟨rfl, old, rfl, key, member, fun inside => gone (.inr inside)⟩
    · have young : cache.rotate = cache := if_neg old
      have unchanged : (cache.checkAndInsert memory pid nonceC).1 = -1 →
          (cache.checkAndInsert memory pid nonceC).2 = cache := by
        simp only [checkAndInsert, new, young]
        cases cache.current.reserve memory (cache.current.keys.length + 1) with
        | none => exact fun _ => rfl
        | some current => exact fun failed => absurd failed (show (1 : Int) ≠ -1 by decide)
      exact iff_of_true (fun failed key => by rw [unchanged failed]) (fun forgets => old forgets.2.1)

end ReplayCache

end Keys

/-- After calls in which every copy of a peer succeeded, a further call changes nothing when it fails, and leaves the items
    sound, if and only if its own copy does not fail; an insertion that fails keeps the remembered keys if and only if it
    has not just given up a generation. -/
theorem failed_calls_change_nothing_iff (cache : ReplayCache) (memory : Bool) (pid nonceC : Block UInt8 32)
    (ft : TrackerMemory) (reached : Run TrackerMemory.step TrackerMemory.Spared .zero ft) (call : TrackerCall) :
    (cache.KeepsKeys memory pid nonceC ↔ ¬ cache.Forgets memory pid nonceC) ∧
    ft.Sound ∧ ∃ code after, ft.call call = .ok (code, after) ∧ (ft.Kept call code after ↔ ft.Spared call) := by
  have sound := TrackerMemory.sound_of_run reached
  obtain ⟨items, behind, holds⟩ := sound.holds
  exact ⟨ReplayCache.keepsKeys_iff, sound, holds.kept_iff call⟩

def fillingCalls : List TrackerCall := (List.range 64).map fun i => .noteFailure (true, true) 5 5 ("10.0.0." ++ i.repr)

def refusedCall : TrackerCall := .noteFailure (false, true) 6 6 "10.0.1.0"

theorem fillingCalls_fill : (fillingCalls.foldlM TrackerMemory.step .zero).map (fun ft =>
    (ft.tracked.length, match ft.call refusedCall with
      | .ok (code, _) => some code
      | .error _ => none)) = some (64, some (-1)) := by
  decide +kernel

theorem length_zeroField : (List.replicate 32 (0 : UInt8)).length = 32 := List.length_replicate

/-- A cache without memory for its first key, and a tracker of sixty-four peers without memory for another one. -/
theorem failed_calls_change_nothing_iff_full :
    ReplayCache.zero.KeepsKeys false ⟨_, length_zeroField⟩ ⟨_, length_zeroField⟩ ∧
    ∃ ft after, Run TrackerMemory.step TrackerMemory.Spared .zero ft ∧ ft.tracked.length = 64 ∧
      ft.call refusedCall = .ok (-1, after) ∧ ft.Kept refusedCall (-1) after := by
  obtain ⟨ft, filled, seen⟩ := Option.map_eq_some_iff.mp fillingCalls_fill
  obtain ⟨tracked, refused⟩ := Prod.mk.inj seen
  have run : Run TrackerMemory.step TrackerMemory.Spared .zero ft := by
    apply Run.of_foldlM _ filled
    intro state call member
    obtain ⟨i, _, rfl⟩ := List.mem_map.mp member
    exact .inl rfl
  obtain ⟨keeps, _, code, after, ended, kept⟩ := failed_calls_change_nothing_iff .zero false ⟨_, length_zeroField⟩
    ⟨_, length_zeroField⟩ ft run refusedCall
  rw [ended] at refused
  cases refused
  exact ⟨keeps.mpr fun forgets => absurd forgets.2.1 (by decide), ft, after, run, tracked, ended, kept.mpr (.inl rfl)⟩

/-- The name is not copied: the item stays, and the next look at the tracker reads what was never written. -/
theorem peer_not_copied :
    ∃ after, TrackerMemory.zero.call (.noteFailure (true, false) 5 5 "10.0.0.2") = .ok (-1, after) ∧ ¬ after.Sound ∧
      after.call (.isBlocked 6 6 "10.0.0.2") = .error .uninitialised := by
  refine ⟨⟨⟨.null, none⟩ :: List.replicate 63 Slot.fresh, 1⟩, rfl, ?_, rfl⟩
  intro sound
  obtain ⟨peer, counters, same⟩ := sound.2 ⟨.null, none⟩ List.mem_cons_self
  exact PeerPointer.noConfusion (congrArg Slot.peer same)

end ZkArche.CServer

import ZkArche.CServer.Failures

namespace ZkArche.CServer

open Foundation

def failureLimits : Limits := ⟨failureWindowSec, failureBanSec, maxFailuresPerWindow⟩

section Items

variable {items : List FailureState} {peer other : String} {keep : FailureState → Bool} {now : Nat}

def OnePerPeer (items : List FailureState) : Prop :=
  items.Pairwise fun earlier later => ∀ peer, earlier.peer = some peer → later.peer ≠ some peer

def itemOf (peer : String) (items : List FailureState) : Option FailureState :=
  items.find? fun st => st.peer = some peer

theorem itemOf_own {st : FailureState} (own : st.peer = some peer) : itemOf peer (st :: items) = some st :=
  List.find?_cons_of_pos (decide_eq_true own)

theorem itemOf_other {st : FailureState} (other : st.peer ≠ some peer) : itemOf peer (st :: items) = itemOf peer items :=
  List.find?_cons_of_neg (by simpa using other)

theorem itemOf_eq_none : itemOf peer items = none ↔ ∀ st ∈ items, st.peer ≠ some peer := by
  simp [itemOf]

theorem itemOf_tail {st : FailureState} (unique : OnePerPeer (st :: items)) (own : st.peer = some peer) :
    itemOf peer items = none :=
  itemOf_eq_none.mpr fun later member => (List.pairwise_cons.mp unique).1 later member peer own

theorem itemOf_filter (unique : OnePerPeer items) (peer : String) :
    itemOf peer (items.filter keep) = (itemOf peer items).filter keep := by
  induction items with
  | nil => rfl
  | cons st items ih =>
    have rest := ih (List.pairwise_cons.mp unique).2
    by_cases own : st.peer = some peer
    · rw [itemOf_own own]
      cases kept : keep st with
      | true => rw [List.filter_cons_of_pos kept, itemOf_own own, Option.filter_some_pos kept]
      | false =>
        rw [List.filter_cons_of_neg (by simp [kept]), rest, itemOf_tail unique own]
        simp [Option.filter, kept]
    · rw [itemOf_other own]
      cases kept : keep st with
      | true => rw [List.filter_cons_of_pos kept, itemOf_other own, rest]
      | false => rw [List.filter_cons_of_neg (by simp [kept]), rest]

theorem itemOf_erase (unique : OnePerPeer items) :
    itemOf other (items.eraseP fun st => st.peer = some peer) = if other = peer then none else itemOf other items := by
  induction items with
  | nil => simp [itemOf]
  | cons st items ih =>
    by_cases own : st.peer = some peer
    · rw [List.eraseP_cons_of_pos (by simpa using own)]
      by_cases same : other = peer
      · rw [if_pos same, same]
        exact itemOf_tail unique own
      · have apart : st.peer ≠ some other := by
          rw [own]
          exact fun equal => same (Option.some.inj equal).symm
        rw [if_neg same, itemOf_other apart]
    · rw [List.eraseP_cons_of_neg (by simpa using own)]
      have rest := ih (List.pairwise_cons.mp unique).2
      by_cases its : st.peer = some other
      · have apart : other ≠ peer := fun same => own (by rw [its, same])
        rw [itemOf_own its, if_neg apart, itemOf_own its]
      · rw [itemOf_other its, rest, itemOf_other its]

theorem FailureState.note_peer (now : Nat) (st : FailureState) : (st.note now).peer = st.peer := by
  simp only [FailureState.note]
  split <;> split <;> split <;> rfl

theorem itemOf_noteFirst : itemOf other (noteFirst now peer items) =
    if other = peer then (itemOf other items).map (FailureState.note now) else itemOf other items := by
  induction items with
  | nil => simp [noteFirst, itemOf]
  | cons st items ih =>
    rw [noteFirst]
    by_cases own : st.peer = some peer
    · rw [if_pos own]
      have owns : (st.note now).peer = some peer := by rw [FailureState.note_peer, own]
      by_cases same : other = peer
      · rw [if_pos same, same, itemOf_own owns, itemOf_own own, Option.map_some]
      · have apart : some peer ≠ some other := fun equal => same (Option.some.inj equal).symm
        rw [if_neg same, itemOf_other (by rw [owns]; exact apart), itemOf_other (by rw [own]; exact apart)]
    · rw [if_neg own]
      by_cases its : st.peer = some other
      · have apart : other ≠ peer := fun same => own (by rw [its, same])
        rw [itemOf_own its, if_neg apart, itemOf_own its]
      · rw [itemOf_other its, ih, itemOf_other its]

theorem itemOf_concat (st : FailureState) : itemOf peer (items ++ [st]) =
    (itemOf peer items).or (if st.peer = some peer then some st else none) := by
  rw [itemOf, List.find?_append]
  by_cases own : st.peer = some peer
  · simp [own, itemOf]
  · simp [own, itemOf]

theorem noteFirst_peers : (noteFirst now peer items).map (·.peer) = items.map (·.peer) := by
  induction items with
  | nil => rfl
  | cons st items ih =>
    rw [noteFirst]
    split
    · rw [List.map_cons, FailureState.note_peer, List.map_cons]
    · rw [List.map_cons, ih, List.map_cons]

theorem OnePerPeer.of_peers {changed : List FailureState} (unique : OnePerPeer items)
    (same : changed.map (·.peer) = items.map (·.peer)) : OnePerPeer changed := by
  have names : ∀ items : List FailureState, OnePerPeer items ↔ (items.map (·.peer)).Pairwise fun earlier later =>
      ∀ peer, earlier = some peer → later ≠ some peer := by
    intro items
    rw [List.pairwise_map]
    rfl
  rw [names, same, ← names]
  exact unique

theorem OnePerPeer.concat {st : FailureState} (unique : OnePerPeer items)
    (new : ∀ peer, st.peer = some peer → itemOf peer items = none) : OnePerPeer (items ++ [st]) := by
  apply List.pairwise_append.mpr
  refine ⟨unique, List.pairwise_singleton _ _, ?_⟩
  intro earlier member later last peer own itsOwn
  rw [List.mem_singleton.mp last] at itsOwn
  exact itemOf_eq_none.mp (new peer itsOwn) earlier member own

end Items

def failureItem (peer : String) (w : Window) : FailureState where
  peer := some peer
  firstFailure := w.first
  failures := min w.count (uint32Max)
  blockedUntil := if maxFailuresPerWindow ≤ w.count then w.last + failureBanSec else 0

section Items

variable {peer : String} {w : Window} {now late : Nat}

theorem blocked_failureItem : (decide ((failureItem peer w).blockedUntil ≠ 0) &&
    decide ((failureItem peer w).blockedUntil > now)) = decide (w.Banned failureLimits now) := by
  have limits : w.Banned failureLimits now ↔ maxFailuresPerWindow ≤ w.count ∧ now < w.last + failureBanSec := .rfl
  have later : 0 < w.last + failureBanSec := Nat.add_pos_right _ (by decide)
  rw [Bool.eq_iff_iff, Bool.and_eq_true, decide_eq_true_iff, decide_eq_true_iff, decide_eq_true_iff, limits,
    failureItem]
  by_cases full : maxFailuresPerWindow ≤ w.count
  · simp only [if_pos full]
    exact ⟨fun blocked => ⟨full, blocked.2⟩, fun banned => ⟨Nat.ne_of_gt later, banned.2⟩⟩
  · simp only [if_neg full]
    exact ⟨fun blocked => absurd rfl blocked.1, fun banned => absurd banned.1 full⟩

theorem keeps_failureItem : (failureItem peer w).keeps now = decide ¬ w.Over failureLimits now := by
  have lapsed : w.Over failureLimits now ↔ failureWindowSec < now - w.first ∧ ¬ w.Banned failureLimits now := .rfl
  have start : (failureItem peer w).firstFailure = w.first := rfl
  rw [FailureState.keeps, blocked_failureItem, start, Bool.eq_iff_iff, Bool.or_eq_true, decide_eq_true_iff,
    decide_eq_true_iff, decide_eq_true_iff, lapsed, not_and_or, not_not, Nat.not_lt]
  exact or_comm

theorem note_failureItem (alive : ¬ w.Over failureLimits late) :
    (failureItem peer w).note now = failureItem peer (Window.note failureLimits now late (some w)) := by
  have large : maxFailuresPerWindow ≤ uint32Max := by decide
  by_cases ended : failureWindowSec < now - w.first
  · rw [Window.note_of_ended (.inl ended)]
    unfold failureItem FailureState.note
    generalize uint32Max = limit at large ⊢
    have positive : 0 < limit := by
      unfold maxFailuresPerWindow at large
      omega
    have one : min 1 limit = 1 := by omega
    simp [ended, one, positive, maxFailuresPerWindow]
  · have unended : ¬ w.Ended failureLimits now late := fun ends => ends.elim ended alive
    rw [Window.note_of_open unended]
    unfold failureItem FailureState.note
    generalize uint32Max = limit at large ⊢
    have threshold : maxFailuresPerWindow ≤ min (w.count + 1) limit ↔ maxFailuresPerWindow ≤ w.count + 1 := by
      omega
    by_cases more : min w.count limit < limit
    · have counted : min w.count limit + 1 = min (w.count + 1) limit := by omega
      simp only [gt_iff_lt, ended, if_false, more, if_true]
      simp only [counted, ge_iff_le, threshold]
      by_cases full : maxFailuresPerWindow ≤ w.count + 1
      · rw [if_pos full, if_pos full]
      · have few : ¬ maxFailuresPerWindow ≤ w.count := by omega
        rw [if_neg full, if_neg full, if_neg few]
    · have counted : min w.count limit = min (w.count + 1) limit := by omega
      simp only [gt_iff_lt, ended, if_false, more]
      simp only [counted, ge_iff_le, threshold]
      have full : maxFailuresPerWindow ≤ w.count + 1 := by omega
      rw [if_pos full, if_pos full]

theorem note_first_failure : (⟨some peer, now, 0, 0⟩ : FailureState).note now = failureItem peer ⟨now, now, 1⟩ := by
  have large : maxFailuresPerWindow ≤ uint32Max := by decide
  unfold failureItem FailureState.note
  generalize uint32Max = limit at large ⊢
  have positive : 0 < limit := by
    unfold maxFailuresPerWindow at large
    omega
  have one : min 1 limit = 1 := by omega
  simp [one, positive, maxFailuresPerWindow]

end Items

namespace FailureTracker

structure Follows (ft : FailureTracker) (clock : Nat) (events : List (Event String)) : Prop where
  unique : OnePerPeer ft.items
  tracks : ∀ peer, Tracks failureLimits (failureItem peer) clock (itemOf peer ft.items)
    (Event.windowOf failureLimits peer events)

variable {ft : FailureTracker} {clock now late : Nat} {peer : String} {events : List (Event String)}

theorem follows_empty : empty.Follows clock [] := ⟨List.Pairwise.nil, fun _ => .inl rfl⟩

theorem Follows.later (follows : ft.Follows clock events) (after : clock ≤ now) : ft.Follows now events :=
  ⟨follows.unique, fun peer => (follows.tracks peer).later after⟩

theorem Follows.prune (follows : ft.Follows late events) : (ft.prune late).Follows late events := by
  constructor
  · exact follows.unique.filter _
  · intro peer
    have pruned : itemOf peer (ft.prune late).items = (itemOf peer ft.items).filter (FailureState.keeps late) :=
      itemOf_filter follows.unique peer
    rw [pruned]
    exact (follows.tracks peer).prune fun w _ => keeps_failureItem

theorem Follows.alive (follows : ft.Follows late events) {st : FailureState}
    (found : (ft.prune late).find peer = some st) :
    ∃ w, Event.windowOf failureLimits peer events = some w ∧ st = failureItem peer w ∧ ¬ w.Over failureLimits late := by
  have pruned : (ft.prune late).find peer = (itemOf peer ft.items).filter (FailureState.keeps late) :=
    itemOf_filter follows.unique peer
  rw [pruned, Option.filter_eq_some_iff] at found
  obtain ⟨stored, kept⟩ := found
  have tracks := follows.tracks peer
  rw [stored] at tracks
  obtain ⟨w, isSome, rendered⟩ := tracks.eq_render
  rw [rendered, keeps_failureItem] at kept
  exact ⟨w, isSome, rendered, of_decide_eq_true kept⟩

theorem Follows.dropped (follows : ft.Follows late events) (found : (ft.prune late).find peer = none) :
    Tracks failureLimits (failureItem peer) late none (Event.windowOf failureLimits peer events) := by
  have tracks := follows.prune.tracks peer
  rw [show itemOf peer (ft.prune late).items = none from found] at tracks
  exact tracks

theorem isBlocked_iff (follows : ft.Follows late events) (forward : now ≤ late)
    (ordered : ∀ w ∈ Event.windowOf failureLimits peer events, w.first ≤ w.last) :
    (ft.isBlocked now late peer).1 = true ↔
      ∃ w, Event.windowOf failureLimits peer events = some w ∧ w.Banned failureLimits late := by
  unfold isBlocked
  cases found : (ft.prune late).find peer with
  | none =>
    simp only [found, Bool.false_eq_true, false_iff]
    rintro ⟨w, isSome, banned⟩
    rcases follows.dropped found with same | ⟨_, w', isSome', lapsed⟩
    · rw [isSome] at same
      cases same
    · rw [isSome] at isSome'
      cases isSome'
      exact lapsed.2 banned
  | some st =>
    obtain ⟨w, isSome, rendered, alive⟩ := follows.alive found
    have age := ordered w isSome
    simp only [found, rendered, blocked_failureItem, decide_eq_true_iff]
    constructor
    · rintro ⟨full, early⟩
      refine ⟨w, isSome, full, ?_⟩
      by_contra freed
      apply alive
      have shorter : failureLimits.span < failureLimits.ban := by decide
      exact ⟨by omega, fun banned => freed banned.2⟩
    · rintro ⟨w', same, banned⟩
      rw [isSome] at same
      cases same
      exact banned.earlier forward

theorem Follows.isBlocked (follows : ft.Follows late events) (now : Nat) (peer : String) :
    (ft.isBlocked now late peer).2.Follows late (events ++ [⟨peer, .look, now, late⟩]) := by
  have same : (ft.isBlocked now late peer).2 = ft.prune late := by
    simp only [FailureTracker.isBlocked]
    split <;> rfl
  rw [same]
  constructor
  · exact follows.prune.unique
  · intro other
    rw [Event.windowOf_concat, Event.update_look rfl]
    exact follows.prune.tracks other

theorem Follows.noteSuccess (follows : ft.Follows late events) (now : Nat) (peer : String) :
    (ft.noteSuccess peer).Follows late (events ++ [⟨peer, .clear, now, late⟩]) := by
  constructor
  · exact follows.unique.sublist List.eraseP_sublist
  · intro other
    rw [Event.windowOf_concat, FailureTracker.noteSuccess, itemOf_erase follows.unique]
    by_cases same : other = peer
    · rw [if_pos same, Event.update_clear same.symm rfl]
      exact .inl rfl
    · rw [if_neg same, Event.update_other (Ne.symm same)]
      exact follows.tracks other

def noted (answer : Int) : EventKind := if answer = 0 then .hit else .look

theorem Follows.noteFailure (follows : ft.Follows late events) (memory : Bool × Bool) (now : Nat) (peer : String) :
    (ft.noteFailure memory now late peer).2.Follows late
      (events ++ [⟨peer, noted (ft.noteFailure memory now late peer).1, now, late⟩]) := by
  have pruned := follows.prune
  unfold FailureTracker.noteFailure
  cases found : (ft.prune late).find peer with
  | some st =>
    obtain ⟨w, isSome, rendered, alive⟩ := follows.alive found
    simp only [found]
    constructor
    · exact pruned.unique.of_peers noteFirst_peers
    · intro other
      rw [Event.windowOf_concat, itemOf_noteFirst]
      by_cases same : other = peer
      · left
        rw [if_pos same, Event.update_hit same.symm rfl, same, isSome,
          show itemOf peer (ft.prune late).items = some st from found, rendered, Option.map_some, Option.map_some,
          note_failureItem alive]
      · rw [if_neg same, Event.update_other (Ne.symm same)]
        exact pruned.tracks other
  | none =>
    simp only [found]
    have unnoted : (ft.prune late).Follows late (events ++ [⟨peer, noted (-1), now, late⟩]) := by
      constructor
      · exact pruned.unique
      · intro other
        rw [Event.windowOf_concat, Event.update_look rfl]
        exact pruned.tracks other
    cases room : (ft.prune late).makeRoom memory.1 with
    | none => exact unnoted
    | some roomy =>
      have items : roomy.items = (ft.prune late).items := by
        unfold makeRoom at room
        split at room
        · split at room
          · cases room
            rfl
          · cases room
        · cases room
          rfl
      have new : itemOf peer roomy.items = none := by
        rw [items]
        exact found
      cases copied : memory.2 with
      | true =>
        simp only [if_true]
        have own : (FailureState.note now ⟨some peer, now, 0, 0⟩).peer = some peer := FailureState.note_peer _ _
        constructor
        · rw [items] at new ⊢
          apply pruned.unique.concat
          intro other its
          rw [own] at its
          cases its
          exact new
        · intro other
          rw [Event.windowOf_concat, itemOf_concat, own]
          by_cases same : other = peer
          · left
            rw [Event.update_hit same.symm rfl, same, new, if_pos rfl, Option.none_or,
              (follows.dropped found).note_of_none, note_first_failure, Option.map_some]
          · have apart : some peer ≠ some other := fun equal => same (Option.some.inj equal).symm
            rw [Event.update_other (Ne.symm same), if_neg apart, Option.or_none, items]
            exact pruned.tracks other
      | false =>
        simp only [Bool.false_eq_true, if_false]
        constructor
        · rw [items]
          apply pruned.unique.concat
          intro other its
          cases its
        · intro other
          rw [itemOf_concat, if_neg (by simp), Option.or_none, items]
          exact unnoted.tracks other

end FailureTracker

end ZkArche.CServer

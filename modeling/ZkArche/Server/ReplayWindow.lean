import ZkArche.Foundation.Runs
import ZkArche.Server.ReplayFile

namespace ZkArche.Server

open Foundation

variable {β : Type} [DecidableEq β]

/-- The arguments of one call of `check_and_insert`. -/
structure ReplayCall (β : Type) where
  id : Block β 32
  nonceC : Block β 32

def ReplayCall.key (call : ReplayCall β) : ReplayKey β := replayKey call.id call.nonceC

namespace ReplayCache

def rotate (genMax : Nat) (cache : ReplayCache β) : ReplayCache β :=
  if cache.current.card ≥ genMax then { cache with previous := cache.current, current := ∅, dirty := true }
  else cache

def push (cache : ReplayCache β) (k : ReplayKey β) : ReplayCache β :=
  { cache with current := insert k cache.current, dirty := true, pendingInserts := cache.pendingInserts + 1 }

/-- `check_and_insert` for generations of `genMax` keys. -/
def checkAndInsertUpTo (genMax : Nat) (cache : ReplayCache β) (call : ReplayCall β) : Bool × ReplayCache β :=
  if call.key ∈ cache.current ∨ call.key ∈ cache.previous then (false, cache)
  else (true, (cache.rotate genMax).push call.key)

theorem checkAndInsert_eq (cache : ReplayCache β) (id nonceC : Block β 32) :
    cache.checkAndInsert id nonceC = cache.checkAndInsertUpTo replayGenMax ⟨id, nonceC⟩ := rfl

theorem generations_push (genMax : Nat) (cache : ReplayCache β) (k : ReplayKey β) :
    ((cache.rotate genMax).push k).generations = cache.generations.remember genMax k := by
  unfold push rotate Generations.remember generations
  split <;> rfl

end ReplayCache

def cacheAfter (genMax : Nat) (calls : List (ReplayCall β)) : ReplayCache β :=
  calls.foldl (fun cache call => (cache.checkAndInsertUpTo genMax call).2) .empty

/-- The keys of some calls, with the answers that they get one after the other. -/
def history (genMax : Nat) (cache : ReplayCache β) : List (ReplayCall β) → List (ReplayKey β × Bool)
  | [] => []
  | call :: calls =>
    let answer := cache.checkAndInsertUpTo genMax call
    (call.key, answer.1) :: history genMax answer.2 calls

def accepted (log : List (ReplayKey β × Bool)) : List (ReplayKey β) :=
  (log.filter (·.2)).map (·.1)

/-- The accepted keys other than `k`, in order. -/
def othersAccepted (k : ReplayKey β) (log : List (ReplayKey β × Bool)) : List (ReplayKey β) :=
  (accepted log).filter (· ≠ k)

section Calls

variable {genMax : Nat} {calls : List (ReplayCall β)} {call : ReplayCall β} {log : List (ReplayKey β × Bool)}
  {k : ReplayKey β}

theorem cacheAfter_concat (calls : List (ReplayCall β)) (call : ReplayCall β) :
    cacheAfter genMax (calls ++ [call]) = ((cacheAfter genMax calls).checkAndInsertUpTo genMax call).2 :=
  List.foldl_append

theorem history_append (cache : ReplayCache β) (calls later : List (ReplayCall β)) :
    history genMax cache (calls ++ later) = history genMax cache calls ++
      history genMax (calls.foldl (fun cache call => (cache.checkAndInsertUpTo genMax call).2) cache) later := by
  induction calls generalizing cache with
  | nil => rfl
  | cons call calls ih =>
    simp only [List.cons_append, history, ih, List.foldl_cons]

theorem history_concat (calls : List (ReplayCall β)) (call : ReplayCall β) :
    history genMax .empty (calls ++ [call]) = history genMax .empty calls ++
      [(call.key, ((cacheAfter genMax calls).checkAndInsertUpTo genMax call).1)] :=
  history_append _ _ _

omit [DecidableEq β] in
theorem accepted_append (log later : List (ReplayKey β × Bool)) :
    accepted (log ++ later) = accepted log ++ accepted later := by
  simp [accepted]

omit [DecidableEq β] in
theorem accepted_cons (k : ReplayKey β) (log : List (ReplayKey β × Bool)) :
    accepted ((k, true) :: log) = k :: accepted log := by
  simp [accepted]

theorem checkAndInsertUpTo_refused {cache : ReplayCache β} :
    (cache.checkAndInsertUpTo genMax call).1 = false ↔ call.key ∈ cache.generations.keys := by
  rw [ReplayCache.checkAndInsertUpTo, Generations.keys, Finset.mem_union]
  split
  case isTrue seen => exact iff_of_true rfl seen
  case isFalse unseen => exact iff_of_false Bool.noConfusion unseen

theorem checkAndInsertUpTo_seen {cache : ReplayCache β} (seen : call.key ∈ cache.generations.keys) :
    cache.checkAndInsertUpTo genMax call = (false, cache) := by
  rw [Generations.keys, Finset.mem_union] at seen
  exact if_pos seen

theorem checkAndInsertUpTo_new {cache : ReplayCache β} (new : call.key ∉ cache.generations.keys) :
    cache.checkAndInsertUpTo genMax call = (true, (cache.rotate genMax).push call.key) := by
  rw [Generations.keys, Finset.mem_union] at new
  exact if_neg new

theorem history_concat_seen (seen : call.key ∈ (cacheAfter genMax calls).generations.keys) :
    history genMax .empty (calls ++ [call]) = history genMax .empty calls ++ [(call.key, false)] ∧
      (cacheAfter genMax (calls ++ [call])).generations = (cacheAfter genMax calls).generations := by
  rw [history_concat, cacheAfter_concat, checkAndInsertUpTo_seen seen]
  exact ⟨rfl, rfl⟩

theorem history_concat_new (new : call.key ∉ (cacheAfter genMax calls).generations.keys) :
    history genMax .empty (calls ++ [call]) = history genMax .empty calls ++ [(call.key, true)] ∧
      (cacheAfter genMax (calls ++ [call])).generations =
        (cacheAfter genMax calls).generations.remember genMax call.key := by
  rw [history_concat, cacheAfter_concat, checkAndInsertUpTo_new new]
  exact ⟨rfl, ReplayCache.generations_push genMax _ _⟩

theorem cacheAfter_generations (genMax : Nat) (calls : List (ReplayCall β)) :
    (cacheAfter genMax calls).generations = Generations.rememberAll genMax .empty (accepted (history genMax .empty calls)) ∧
      Generations.AllNew genMax (accepted (history genMax .empty calls)) := by
  induction calls using List.reverseRecOn with
  | nil => exact ⟨rfl, Generations.allNew_nil⟩
  | append_singleton calls call ih =>
    obtain ⟨remembered, allNew⟩ := ih
    by_cases seen : call.key ∈ (cacheAfter genMax calls).generations.keys
    · obtain ⟨answers, kept⟩ := history_concat_seen seen
      have nothing : accepted [(call.key, false)] = [] := rfl
      rw [answers, kept, accepted_append, nothing, List.append_nil]
      exact ⟨remembered, allNew⟩
    · obtain ⟨answers, grown⟩ := history_concat_new seen
      have one : accepted [(call.key, true)] = [call.key] := rfl
      rw [answers, grown, accepted_append, one, Generations.rememberAll_append, remembered]
      rw [remembered] at seen
      exact ⟨rfl, allNew.concat seen⟩

theorem othersAccepted_toFinset (k : ReplayKey β) (log : List (ReplayKey β × Bool)) :
    (othersAccepted k log).toFinset = (accepted log).toFinset.erase k := by
  ext other
  simp [othersAccepted, and_comm]

theorem othersAccepted_of_notMem (away : k ∉ accepted log) : othersAccepted k log = accepted log := by
  apply List.filter_eq_self.mpr
  intro other member
  exact decide_eq_true (ne_of_mem_of_not_mem member away)

theorem twice_of_count {keys : List (ReplayKey β)} (twice : 1 < keys.count k) :
    ∃ front between back, keys = front ++ k :: between ++ k :: back := by
  have first : k ∈ keys := List.count_pos_iff.mp (by omega)
  obtain ⟨front, rest, rfl, away⟩ := List.eq_append_cons_of_mem first
  rw [List.count_append, List.count_cons_self, List.count_eq_zero.mpr away] at twice
  have second : k ∈ rest := List.count_pos_iff.mp (by omega)
  obtain ⟨between, back, rfl⟩ := List.append_of_mem second
  exact ⟨front, between, back, by simp⟩

end Calls

/-- Where a handler stands in its use of the shared cache. From `checking` to `persisting` it holds
    the mutex. -/
inductive HandlerPc (β : Type) where
  | waiting (call : ReplayCall β)
  | checking (call : ReplayCall β)
  | rotating (call : ReplayCall β)
  | pushing (call : ReplayCall β)
  | persisting (call : ReplayCall β)
  | finished (call : ReplayCall β) (accepted : Bool)

def HandlerPc.isLocked : HandlerPc β → Bool
  | .checking _ | .rotating _ | .pushing _ | .persisting _ => true
  | .waiting _ | .finished _ _ => false

/-- The cache behind its mutex, the handlers that use it, and the answers in the order in which
    they were given. -/
structure SharedCache (β : Type) where
  cache : ReplayCache β
  holder : Option Nat
  handlers : Nat → Option (HandlerPc β)
  log : List (ReplayKey β × Bool)

def SharedCache.start : SharedCache β := ⟨.empty, none, fun _ => none, []⟩

def SharedCache.put (shared : SharedCache β) (i : Nat) (pc : HandlerPc β) : SharedCache β :=
  { shared with handlers := Function.update shared.handlers i (some pc) }

/-- A handler gets to its call, takes its next step at a time of the clock, or takes the snapshot
    at the end of its session. -/
inductive HandlerAction (β : Type) where
  | arrive (i : Nat) (call : ReplayCall β)
  | advance (i now : Nat)
  | persist (now : Nat)

/-- The next step of a handler; who waits for the mutex takes none while another one holds it. -/
def SharedCache.advance [Octet β] (genMax : Nat) (bench : Bool) (order : SetOrder (ReplayKey β))
    (shared : SharedCache β)
    (i now : Nat) : HandlerPc β → Option (SharedCache β)
  | .waiting call =>
    if shared.holder.isNone then some ({ shared with holder := some i }.put i (.checking call)) else none
  | .checking call =>
    if call.key ∈ shared.cache.current ∨ call.key ∈ shared.cache.previous then
      some ({ shared with holder := none, log := shared.log ++ [(call.key, false)] }.put i (.finished call false))
    else some (shared.put i (.rotating call))
  | .rotating call => some ({ shared with cache := shared.cache.rotate genMax }.put i (.pushing call))
  | .pushing call =>
    some ({ shared with cache := shared.cache.push call.key, log := shared.log ++ [(call.key, true)] }.put i
      (.persisting call))
  | .persisting call =>
    let cache := if bench then shared.cache else (shared.cache.takePersistBlob order now false).2
    some ({ shared with cache, holder := none }.put i (.finished call true))
  | .finished _ _ => none

def SharedCache.step [Octet β] (genMax : Nat) (bench : Bool) (order : SetOrder (ReplayKey β))
    (shared : SharedCache β) :
    HandlerAction β → Option (SharedCache β)
  | .arrive i call =>
    match shared.handlers i with
    | none => some (shared.put i (.waiting call))
    | some _ => none
  | .advance i now => (shared.handlers i).bind fun pc => shared.advance genMax bench order i now pc
  | .persist now =>
    if shared.holder.isNone then some { shared with cache := (shared.cache.takePersistBlob order now true).2 }
    else none

def HandlerPc.Holds (genMax : Nat) (gens : Generations (ReplayKey β)) (cache : ReplayCache β) : HandlerPc β → Prop
  | .rotating call => cache.generations = gens ∧ call.key ∉ gens.keys
  | .pushing call => (cache.push call.key).generations = gens.remember genMax call.key ∧ call.key ∉ gens.keys
  | _ => cache.generations = gens

/-- The answers are those of calls that come one after the other, and only the holder of the mutex
    is between two of them. -/
structure Serial (genMax : Nat) (calls : List (ReplayCall β)) (shared : SharedCache β) : Prop where
  log : shared.log = history genMax .empty calls
  alone : ∀ i pc, shared.handlers i = some pc → pc.isLocked = true → shared.holder = some i
  free : shared.holder = none → shared.cache.generations = (cacheAfter genMax calls).generations
  held : ∀ i, shared.holder = some i → ∃ pc, shared.handlers i = some pc ∧ pc.isLocked = true ∧
    pc.Holds genMax (cacheAfter genMax calls).generations shared.cache

section Handlers

variable {genMax : Nat} {bench : Bool} {order : SetOrder (ReplayKey β)} {shared after : SharedCache β}
  {calls : List (ReplayCall β)} {i now : Nat} {pc : HandlerPc β} {action : HandlerAction β}

omit [DecidableEq β] in
theorem SharedCache.put_handlers {j : Nat} {found : HandlerPc β} (present : (shared.put i pc).handlers j = some found) :
    (j = i ∧ found = pc) ∨ (j ≠ i ∧ shared.handlers j = some found) := by
  simp only [SharedCache.put, Function.update_apply] at present
  split at present
  case isTrue same =>
    cases present
    exact .inl ⟨same, rfl⟩
  case isFalse different => exact .inr ⟨different, present⟩

omit [DecidableEq β] in
theorem SharedCache.put_self : (shared.put i pc).handlers i = some pc := Function.update_self ..

theorem Serial.stays {cache : ReplayCache β} {log : List (ReplayKey β × Bool)} {before : HandlerPc β}
    {calls' : List (ReplayCall β)} (serial : Serial genMax calls shared) (present : shared.handlers i = some before)
    (locked : before.isLocked = true) (answers : log = history genMax .empty calls') (stillLocked : pc.isLocked = true)
    (holds : pc.Holds genMax (cacheAfter genMax calls').generations cache) :
    Serial genMax calls' ({ shared with cache, log }.put i pc) := by
  have holder := serial.alone i before present locked
  constructor
  · exact answers
  · intro j other found isLocked
    rcases SharedCache.put_handlers found with ⟨rfl, _⟩ | ⟨_, found⟩
    · exact holder
    · exact serial.alone j other found isLocked
  · intro free
    cases holder.symm.trans free
  · intro j held
    cases holder.symm.trans held
    exact ⟨pc, SharedCache.put_self, stillLocked, holds⟩

theorem Serial.releases {cache : ReplayCache β} {log : List (ReplayKey β × Bool)} {before : HandlerPc β}
    {calls' : List (ReplayCall β)} (serial : Serial genMax calls shared) (present : shared.handlers i = some before)
    (locked : before.isLocked = true) (answers : log = history genMax .empty calls') (unlocked : pc.isLocked = false)
    (agrees : cache.generations = (cacheAfter genMax calls').generations) :
    Serial genMax calls' ({ shared with cache, holder := none, log }.put i pc) := by
  have holder := serial.alone i before present locked
  constructor
  · exact answers
  · intro j other found isLocked
    rcases SharedCache.put_handlers found with ⟨_, rfl⟩ | ⟨different, found⟩
    · rw [unlocked] at isLocked
      cases isLocked
    · have alsoHolder := serial.alone j other found isLocked
      rw [holder, Option.some.injEq] at alsoHolder
      exact absurd alsoHolder.symm different
  · intro _
    exact agrees
  · intro j held
    cases held

variable [Octet β]

theorem Serial.advance (serial : Serial genMax calls shared) (present : shared.handlers i = some pc)
    (taken : shared.advance genMax bench order i now pc = some after) :
    ∃ calls', Serial genMax calls' after := by
  have found : pc.isLocked = true → pc.Holds genMax (cacheAfter genMax calls).generations shared.cache := by
    intro locked
    obtain ⟨pc', present', _, holds⟩ := serial.held i (serial.alone i pc present locked)
    cases present.symm.trans present'
    exact holds
  cases pc with
  | waiting call =>
    simp only [SharedCache.advance] at taken
    split at taken
    case isFalse => cases taken
    case isTrue vacant =>
      cases taken
      have free := Option.isNone_iff_eq_none.mp vacant
      refine ⟨calls, serial.log, ?_, nofun, ?_⟩
      · intro j other there locked
        rcases SharedCache.put_handlers there with ⟨rfl, _⟩ | ⟨_, there⟩
        · rfl
        · cases free.symm.trans (serial.alone j other there locked)
      · intro j held
        cases held
        exact ⟨_, SharedCache.put_self, rfl, serial.free free⟩
  | checking call =>
    have same : shared.cache.generations = (cacheAfter genMax calls).generations := found rfl
    simp only [SharedCache.advance] at taken
    split at taken
    case isTrue seen =>
      cases taken
      have member : call.key ∈ (cacheAfter genMax calls).generations.keys := by
        rw [← same]
        exact Finset.mem_union.mpr seen
      obtain ⟨answers, kept⟩ := history_concat_seen member
      refine ⟨calls ++ [call], serial.releases present rfl ?_ rfl ?_⟩
      · rw [serial.log, answers]
      · rw [same, kept]
    case isFalse unseen =>
      cases taken
      have new : call.key ∉ (cacheAfter genMax calls).generations.keys := by
        rw [← same]
        exact fun member => unseen (Finset.mem_union.mp member)
      exact ⟨calls, serial.stays present rfl serial.log rfl ⟨same, new⟩⟩
  | rotating call =>
    cases taken
    obtain ⟨same, new⟩ := found rfl
    have pushed : ((shared.cache.rotate genMax).push call.key).generations =
        (cacheAfter genMax calls).generations.remember genMax call.key := by
      rw [ReplayCache.generations_push, same]
    exact ⟨calls, serial.stays present rfl serial.log rfl ⟨pushed, new⟩⟩
  | pushing call =>
    cases taken
    obtain ⟨pushed, new⟩ := found rfl
    obtain ⟨answers, grown⟩ := history_concat_new new
    refine ⟨calls ++ [call], serial.stays present rfl ?_ rfl ?_⟩
    · rw [serial.log, answers]
    · show (shared.cache.push call.key).generations = _
      rw [pushed, grown]
  | persisting call =>
    cases taken
    have same : shared.cache.generations = (cacheAfter genMax calls).generations := found rfl
    refine ⟨calls, serial.releases present rfl serial.log rfl ?_⟩
    split
    · exact same
    · rw [ReplayCache.generations_takePersistBlob, same]
  | finished call accepted => cases taken

theorem Serial.step (serial : Serial genMax calls shared)
    (taken : shared.step genMax bench order action = some after) : ∃ calls', Serial genMax calls' after := by
  cases action with
  | arrive i call =>
    simp only [SharedCache.step] at taken
    split at taken
    case h_2 => cases taken
    case h_1 vacant =>
      cases taken
      refine ⟨calls, serial.log, ?_, serial.free, ?_⟩
      · intro j other found locked
        rcases SharedCache.put_handlers found with ⟨_, rfl⟩ | ⟨_, found⟩
        · cases locked
        · exact serial.alone j other found locked
      · intro j held
        obtain ⟨pc, present, locked, holds⟩ := serial.held j held
        have different : j ≠ i := by
          rintro rfl
          cases vacant.symm.trans present
        exact ⟨pc, (Function.update_of_ne different ..).trans present, locked, holds⟩
  | advance i now =>
    obtain ⟨pc, present, taken⟩ := Option.bind_eq_some_iff.mp taken
    exact serial.advance present taken
  | persist now =>
    simp only [SharedCache.step] at taken
    split at taken
    case isFalse => cases taken
    case isTrue vacant =>
      cases taken
      have free := Option.isNone_iff_eq_none.mp vacant
      refine ⟨calls, serial.log, serial.alone, ?_, ?_⟩
      · intro _
        rw [ReplayCache.generations_takePersistBlob, serial.free free]
      · intro j held
        cases free.symm.trans held

theorem run_serial (run : Run (SharedCache.step genMax bench order) (fun _ _ => True) .start shared) :
    ∃ calls, Serial genMax calls shared := by
  apply run.invariant (fun shared => ∃ calls, Serial genMax calls shared)
  · exact ⟨[], rfl, nofun, fun _ => rfl, nofun⟩
  · rintro state action next ⟨calls, serial⟩ _ taken
    exact serial.step taken

end Handlers

/-- The window of the cache. While no more than `genMax` other keys have been accepted since a key
    was, the key is refused; after twice as many other accepted calls it is new again. Under the
    mutex the handlers get the answers of some order of their calls, so that no two calls of a key
    are accepted with at most `genMax` other keys between them. -/
theorem replay_window [Octet β] {genMax : Nat} (positive : 1 ≤ genMax) :
    (∀ calls : List (ReplayCall β),
      (cacheAfter genMax calls).current.card ≤ genMax ∧ (cacheAfter genMax calls).previous.card ≤ genMax ∧
        Disjoint (cacheAfter genMax calls).current (cacheAfter genMax calls).previous) ∧
    (∀ (calls : List (ReplayCall β)) (call : ReplayCall β) (earlier later : List (ReplayKey β × Bool)),
      history genMax .empty calls = earlier ++ (call.key, true) :: later →
        ((othersAccepted call.key later).toFinset.card ≤ genMax →
          ((cacheAfter genMax calls).checkAndInsertUpTo genMax call).1 = false) ∧
        (call.key ∉ accepted later → 2 * genMax ≤ (othersAccepted call.key later).length →
          ((cacheAfter genMax calls).checkAndInsertUpTo genMax call).1 = true)) ∧
    (∀ (bench : Bool) (order : SetOrder (ReplayKey β)) (shared : SharedCache β),
      Run (SharedCache.step genMax bench order) (fun _ _ => True) .start shared →
        ∀ (k : ReplayKey β) (earlier stretch later : List (ReplayKey β × Bool)),
          shared.log = earlier ++ stretch ++ later → (othersAccepted k stretch).toFinset.card ≤ genMax →
            (accepted stretch).count k ≤ 1) := by
  refine ⟨?_, ?_, ?_⟩
  · intro calls
    obtain ⟨remembered, allNew⟩ := cacheAfter_generations genMax calls
    have tidy := allNew.tidy positive
    rw [← remembered] at tidy
    exact ⟨tidy.current, tidy.previous, tidy.disjoint⟩
  · intro calls call earlier later split
    obtain ⟨remembered, allNew⟩ := cacheAfter_generations genMax calls
    rw [split, accepted_append, accepted_cons] at remembered allNew
    constructor
    · intro few
      rw [othersAccepted_toFinset] at few
      rw [← List.append_nil (accepted earlier ++ call.key :: accepted later)] at allNew
      have recent := allNew.length_le few
      rw [checkAndInsertUpTo_refused, remembered]
      exact Generations.mem_rememberAll _ _ _ _ recent
    · intro away many
      rw [othersAccepted_of_notMem away] at many
      have forgotten := allNew.notMem_keys positive away many
      rw [← remembered] at forgotten
      rw [checkAndInsertUpTo_new forgotten]
  · intro bench order shared run k earlier stretch later split few
    obtain ⟨calls, serial⟩ := run_serial run
    obtain ⟨_, allNew⟩ := cacheAfter_generations genMax calls
    rw [← serial.log, split, accepted_append, accepted_append] at allNew
    by_contra twice
    obtain ⟨front, between, back, stretched⟩ := twice_of_count (Nat.lt_of_not_le twice)
    have whole : accepted earlier ++ accepted stretch ++ accepted later =
        (accepted earlier ++ front) ++ k :: between ++ k :: (back ++ accepted later) := by
      rw [stretched]
      simp
    rw [whole] at allNew
    have fewer : (between.toFinset.erase k).card ≤ genMax := by
      apply Nat.le_trans (Finset.card_le_card _) few
      rw [othersAccepted_toFinset, stretched]
      apply Finset.erase_subset_erase
      intro other member
      rw [List.mem_toFinset] at member ⊢
      simp [member]
    exact allNew.ne (allNew.length_le fewer) rfl

theorem length_filled (fill : UInt8) : (List.replicate 32 fill).length = 32 := List.length_replicate

def filledCall (fill : UInt8) : ReplayCall UInt8 :=
  ⟨⟨List.replicate 32 fill, length_filled fill⟩, ⟨List.replicate 32 fill, length_filled fill⟩⟩

theorem replay_window_of_one :
    ((cacheAfter 1 [filledCall 0, filledCall 1]).checkAndInsertUpTo 1 (filledCall 0)).1 = false ∧
      ((cacheAfter 1 [filledCall 0, filledCall 1, filledCall 2]).checkAndInsertUpTo 1 (filledCall 0)).1 = true ∧
      ∃ shared, Run (SharedCache.step 1 true default) (fun _ _ => True) .start shared ∧
        (shared.log.map (·.1)) = [(filledCall 0).key, (filledCall 0).key] ∧
        (accepted shared.log).count (filledCall 0).key ≤ 1 := by
  obtain ⟨_, sequences, runs⟩ := @replay_window UInt8 _ _ 1 (Nat.le_refl 1)
  refine ⟨?_, ?_, ?_⟩
  · exact (sequences [filledCall 0, filledCall 1] (filledCall 0) [] [((filledCall 1).key, true)] (by decide +kernel)).1
      (by decide +kernel)
  · exact (sequences [filledCall 0, filledCall 1, filledCall 2] (filledCall 0) []
      [((filledCall 1).key, true), ((filledCall 2).key, true)] (by decide +kernel)).2 (by decide +kernel)
      (by decide +kernel)
  · have first : Run (SharedCache.step 1 true default) (fun _ _ => True) .start _ :=
      .step (.arrive 0 (filledCall 0)) .refl trivial rfl
    have second := Run.step (.arrive 1 (filledCall 0)) first trivial rfl
    have entered := Run.step (.advance 0 0) second trivial rfl
    have checked := Run.step (.advance 0 0) entered trivial rfl
    have rotated := Run.step (.advance 0 0) checked trivial rfl
    have pushed := Run.step (.advance 0 0) rotated trivial rfl
    have left := Run.step (.advance 0 0) pushed trivial rfl
    have waited := Run.step (.advance 1 0) left trivial rfl
    have refused := Run.step (.advance 1 0) waited trivial rfl
    refine ⟨_, refused, rfl, ?_⟩
    exact runs true default _ refused _ [] _ [] (List.append_nil _).symm (by decide +kernel)

end ZkArche.Server

import ZkArche.Foundation.SecondaryIndex
import ZkArche.Server.Rebinding

namespace ZkArche.Server

open Foundation

variable {β S P : Type} [Octet β] [Field S] [AddCommGroup P] [Module S P]
variable [DecidableEq β] [DecidableEq P]

def recordHandle (G : Suite β S P) (record : DeviceRecord P) : Block β 16 :=
  computeDeviceHandle G record.pubkey

def ServerState.Indexed (G : Suite β S P) (state : ServerState β P) : Prop :=
  Indexes (recordHandle G) state.reg state.handleIndex

theorem boot_indexed (G : Suite β S P) (word : Nat) (moment : Moment β P) (registryFile replayFile : StateFile β) :
    (boot (S := S) G word moment registryFile replayFile).server.Indexed G :=
  indexes_buildIndex moment.regOrder _

/-- Enrollments without an intruding key, and restarts. -/
def UndisturbedEvent (world : World β S P) : Event β S P → Prop
  | .act action => Undisturbed world action
  | .restart _ => True

theorem step_indexed [DecidableEq S] {G : Suite β S P} {ctx : ServerContext S} {word : Nat}
    {world after : World β S P}
    {event : Event β S P} (undisturbed : UndisturbedEvent world event)
    (taken : world.occur G ctx word event = some after) (indexed : world.server.Indexed G) :
    after.server.Indexed G := by
  cases event with
  | restart moment =>
    cases taken
    exact boot_indexed G word moment _ _
  | act action =>
    rcases perform_changes taken with same | ⟨i, moment, thread, rfl, present, changes⟩
    · rwa [same]
    · cases position : thread.pc with
      | setupVerified checked proof =>
        rw [position] at changes
        obtain ⟨registryFile, same⟩ := changes
        rw [same]
        refine Indexes.insert indexed fun old stored => ?_
        have bound : registeredKey world.server.reg checked.deviceId = some old.pubkey := by
          rw [registeredKey, stored, Option.map_some]
        have own := (undisturbed thread checked proof present position).same_key bound
        rw [recordHandle, recordHandle, own]
        rfl
      | _ =>
        rw [position] at changes
        have same : after.server.reg = world.server.reg ∧ after.server.handleIndex = world.server.handleIndex := by
          first
            | rw [show after.server = world.server from changes]
              exact ⟨rfl, rfl⟩
            | obtain ⟨_, changed⟩ := changes
              rw [changed]
              exact ⟨rfl, rfl⟩
        rwa [ServerState.Indexed, same.1, same.2]

theorem run_indexed [DecidableEq S] {G : Suite β S P} {ctx : ServerContext S} {word : Nat} {start world : World β S P}
    (run : Run (World.occur G ctx word) UndisturbedEvent start world) (indexed : start.server.Indexed G) :
    world.server.Indexed G :=
  run.invariant _ indexed fun _ _ _ indexed undisturbed taken => step_indexed undisturbed taken indexed

section Selection

variable {G : Suite β S P} {state : ServerState β P}

omit [DecidableEq P] in
theorem lookupRecordByPid_of_mem {reg : List (RegistryEntry β P)} {pid nonceC : Block β 32} {ephC serverPub : P}
    {entry : RegistryEntry β P} (member : entry ∈ reg)
    (same : computePid G entry.2.pubkey nonceC ephC serverPub = pid) :
    ∃ found, lookupRecordByPid G reg pid nonceC ephC serverPub = some found := by
  induction reg with
  | nil => cases member
  | cons head rest ih =>
    rw [lookupRecordByPid]
    split
    · exact ⟨_, rfl⟩
    case isFalse different =>
      rcases List.mem_cons.mp member with rfl | later
      · exact absurd same different
      · exact ih later

omit [DecidableEq P] in
theorem lookupRecordByPid_eq_find? (reg : List (RegistryEntry β P)) (pid nonceC : Block β 32) (ephC serverPub : P) :
    lookupRecordByPid G reg pid nonceC ephC serverPub =
      (reg.find? fun entry => computePid G entry.2.pubkey nonceC ephC serverPub = pid).map fun entry => (entry.1, entry.2) := by
  induction reg with
  | nil => rfl
  | cons entry rest ih =>
    rw [lookupRecordByPid, List.find?_cons]
    split
    case isTrue same => simp only [same, decide_true, Option.map_some]
    case isFalse different => simp only [different, decide_false, ih]

variable (pub : P) (nonceC : Block β 32) (ephC serverPub : P)
variable (handles : Function.Injective (computeDeviceHandle G))
  (pids : ∀ nonceC ephC serverPub, Function.Injective fun pub => computePid G pub nonceC ephC serverPub)

include handles in
omit [DecidableEq P] in
/-- The handle of a key selects a record exactly when the key is enrolled, and then one with
    this key that the registry holds. -/
theorem select_by_handle (indexed : state.Indexed G) (moment : Moment β P) :
    (∀ selected, findRecord G moment serverPub state (some (computeDeviceHandle G pub))
        (computePid G pub nonceC ephC serverPub) nonceC ephC = .ok selected →
      selected.2.pubkey = pub ∧ state.reg.lookup selected.1 = some selected.2) ∧
    ((∃ id record, state.reg.lookup id = some record ∧ record.pubkey = pub) →
      ∃ selected, findRecord G moment serverPub state (some (computeDeviceHandle G pub))
        (computePid G pub nonceC ephC serverPub) nonceC ephC = .ok selected) := by
  constructor
  · rintro ⟨id, record⟩ run
    obtain ⟨found, _⟩ := findRecord_ok run
    obtain ⟨derived, stored⟩ := indexed.sound found
    exact ⟨handles derived, stored⟩
  · rintro ⟨id, record, stored, rfl⟩
    obtain ⟨⟨id', record'⟩, found⟩ := indexed.complete stored
    obtain ⟨derived, _⟩ := indexed.sound found
    refine ⟨(id', record'), ?_⟩
    have sameKey : record'.pubkey = record.pubkey := handles derived
    rw [recordHandle] at found
    simp only [findRecord, found, sameKey, ne_eq, not_true_eq_false, ↓reduceIte]

include pids in
omit [DecidableEq P] in
theorem select_by_scan (state : ServerState β P) (moment : Moment β P) :
    (∀ selected, findRecord G moment serverPub state none
        (computePid G pub nonceC ephC serverPub) nonceC ephC = .ok selected →
      selected.2.pubkey = pub ∧ state.reg.lookup selected.1 = some selected.2) ∧
    ((∃ id record, state.reg.lookup id = some record ∧ record.pubkey = pub) →
      ∃ selected, findRecord G moment serverPub state none
        (computePid G pub nonceC ephC serverPub) nonceC ephC = .ok selected) := by
  constructor
  · rintro ⟨id, record⟩ run
    obtain ⟨stored, same⟩ := findRecord_ok run
    exact ⟨pids nonceC ephC serverPub same, stored⟩
  · rintro ⟨id, record, stored, rfl⟩
    have member := (moment.regOrder.mem_list _ _ _).mpr stored
    obtain ⟨found, scan⟩ := lookupRecordByPid_of_mem member
      (show computePid G record.pubkey nonceC ephC serverPub = _ from rfl)
    exact ⟨found, by simp only [findRecord, scan]⟩

end Selection

/-- In every state of a run without intruding insertions, the handle of a key selects a record
    exactly when the scan for its pid does. Both select a record that the registry holds now,
    with this key; when the key is enrolled once, they select the same one. -/
theorem handle_and_scan_agree [DecidableEq S] {G : Suite β S P} {ctx : ServerContext S} {word : Nat}
    {start : Moment β P}
    {registryFile replayFile : StateFile β} {world : World β S P}
    (handles : Function.Injective (computeDeviceHandle G))
    (pids : ∀ nonceC ephC serverPub, Function.Injective fun pub => computePid G pub nonceC ephC serverPub)
    (run : Run (World.occur G ctx word) UndisturbedEvent (boot G word start registryFile replayFile) world)
    (byHandle byScan : Moment β P) (pub : P) (nonceC : Block β 32) (ephC : P) :
    let pid := computePid G pub nonceC ephC (ctx.staticPub G)
    let handleSelects := findRecord G byHandle (ctx.staticPub G) world.server (some (computeDeviceHandle G pub))
      pid nonceC ephC
    let scanSelects := findRecord G byScan (ctx.staticPub G) world.server none pid nonceC ephC
    ((∃ selected, handleSelects = .ok selected) ↔ ∃ selected, scanSelects = .ok selected) ∧
    (∀ selected, handleSelects = .ok selected ∨ scanSelects = .ok selected →
      selected.2.pubkey = pub ∧ world.server.reg.lookup selected.1 = some selected.2) ∧
    ((∀ id id' record record', world.server.reg.lookup id = some record → record.pubkey = pub →
        world.server.reg.lookup id' = some record' → record'.pubkey = pub → id = id') →
      ∀ selected selected', handleSelects = .ok selected → scanSelects = .ok selected' →
        selected = selected') := by
  intro pid handleSelects scanSelects
  have indexed := run_indexed run (boot_indexed G word start registryFile replayFile)
  obtain ⟨handleSound, handleComplete⟩ := select_by_handle pub nonceC ephC (ctx.staticPub G) handles
    indexed byHandle
  obtain ⟨scanSound, scanComplete⟩ := select_by_scan pub nonceC ephC (ctx.staticPub G) pids
    world.server byScan
  refine ⟨⟨?_, ?_⟩, ?_, ?_⟩
  · rintro ⟨selected, run⟩
    obtain ⟨own, stored⟩ := handleSound selected run
    exact scanComplete ⟨_, _, stored, own⟩
  · rintro ⟨selected, run⟩
    obtain ⟨own, stored⟩ := scanSound selected run
    exact handleComplete ⟨_, _, stored, own⟩
  · rintro selected (run | run)
    · exact handleSound selected run
    · exact scanSound selected run
  · rintro once ⟨id, record⟩ ⟨id', record'⟩ run run'
    obtain ⟨own, stored⟩ := handleSound _ run
    obtain ⟨own', stored'⟩ := scanSound _ run'
    obtain rfl := once id id' record record' stored own stored' own'
    obtain rfl := Option.some.inj (stored.symm.trans stored')
    rfl

theorem samplingSuite_handles : Function.Injective (computeDeviceHandle samplingSuite) := by
  decide

theorem samplingSuite_pids (nonceC : Block UInt8 32) (ephC serverPub : ZMod 5) :
    Function.Injective fun pub => computePid samplingSuite pub nonceC ephC serverPub := by
  intro left right same
  have sample : ∀ pub, (computePid samplingSuite pub nonceC ephC serverPub).bytes.getD 1 0 = UInt8.ofNat pub.val :=
    fun pub => rfl
  have bytes := (sample left).symm.trans ((congrArg (fun pid => pid.bytes.getD 1 0) same).trans (sample right))
  have distinct : ∀ a b : ZMod 5, UInt8.ofNat a.val = UInt8.ofNat b.val → a = b := by decide
  exact distinct left right bytes

def oneDeviceFile : StateFile UInt8 := .present (registryBytes samplingSuite [⟨zeros, ⟨1, 1⟩⟩]) 0o600

noncomputable def selectedAfterStart : Except Failure (Block UInt8 32 × DeviceRecord (ZMod 5)) :=
  findRecord samplingSuite .quiet (benchContext.staticPub samplingSuite)
    (boot (S := ZMod 5) samplingSuite 64 .quiet oneDeviceFile .absent).server (some (computeDeviceHandle samplingSuite 1))
    (computePid samplingSuite 1 zeros 1 (benchContext.staticPub samplingSuite)) zeros 1

set_option maxRecDepth 100000 in
theorem handle_and_scan_agree_restarted :
    ∃ selected, selectedAfterStart = .ok selected ∧ selected.2.pubkey = 1 := by
  have run : Run (World.occur samplingSuite benchContext 64) UndisturbedEvent
      (boot samplingSuite 64 .quiet oneDeviceFile .absent) (boot samplingSuite 64 .quiet oneDeviceFile .absent) :=
    .step (.restart .quiet) .refl trivial rfl
  have agree := handle_and_scan_agree samplingSuite_handles samplingSuite_pids run .quiet .quiet 1 zeros 1
  have succeeds : selectedAfterStart.isOk = true := by decide
  cases found : selectedAfterStart with
  | error failure =>
    rw [found] at succeeds
    cases succeeds
  | ok selected => exact ⟨selected, rfl, (agree.2.1 selected (.inl found)).1⟩

noncomputable def doubleEnrollment : List (Event UInt8 (ZMod 5) (ZMod 5)) :=
  (enrollmentUpToInsertion 0 zeros 1 ++ [Action.advance 0 .quiet] ++
    enrollmentUpToInsertion 1 ones 1 ++ [Action.advance 1 .quiet]).map .act

noncomputable def Moment.oldestFirst : Moment UInt8 (ZMod 5) :=
  { (Moment.quiet : Moment UInt8 (ZMod 5)) with
    regOrder := ⟨fun map => map.entries.reverse, fun map => map.entries.reverse_perm⟩ }

def selectedId : Except Failure (Block UInt8 32 × DeviceRecord (ZMod 5)) → Option (Block UInt8 32)
  | .ok selected => some selected.1
  | .error _ => none

noncomputable def selections : Option (Option (Block UInt8 32) × Option (Block UInt8 32)) :=
  (doubleEnrollment.foldlM (World.occur samplingSuite benchContext 64)
    (boot samplingSuite 64 .quiet .absent .absent)).map fun world =>
      let pid := computePid samplingSuite (1 : ZMod 5) zeros (1 : ZMod 5) (benchContext.staticPub samplingSuite)
      (selectedId (findRecord samplingSuite .quiet (benchContext.staticPub samplingSuite) world.server
          (some (computeDeviceHandle samplingSuite 1)) pid zeros 1),
        selectedId (findRecord samplingSuite .oldestFirst (benchContext.staticPub samplingSuite) world.server
          none pid zeros 1))

set_option maxRecDepth 100000 in
/-- With one key under two device_ids the handle selects the newer record, the scan the older. -/
theorem handle_and_scan_differ :
    Function.Injective (computeDeviceHandle samplingSuite) ∧
    (∀ nonceC ephC serverPub, Function.Injective fun pub =>
      computePid samplingSuite pub nonceC ephC serverPub) ∧
    ∃ world, Run (World.occur samplingSuite benchContext 64) (fun _ _ => True)
        (boot samplingSuite 64 .quiet .absent .absent) world ∧
      let pid := computePid samplingSuite (1 : ZMod 5) zeros (1 : ZMod 5) (benchContext.staticPub samplingSuite)
      selectedId (findRecord samplingSuite .quiet (benchContext.staticPub samplingSuite) world.server
        (some (computeDeviceHandle samplingSuite 1)) pid zeros 1) = some ones ∧
      selectedId (findRecord samplingSuite .oldestFirst (benchContext.staticPub samplingSuite) world.server
        none pid zeros 1) = some zeros := by
  refine ⟨samplingSuite_handles, samplingSuite_pids, ?_⟩
  have selected : selections = some (some ones, some zeros) := by decide
  obtain ⟨world, reached, pair⟩ := Option.map_eq_some_iff.mp selected
  obtain ⟨byHandle, byScan⟩ := Prod.mk.inj pair
  exact ⟨world, .of_foldlM (fun _ _ _ => trivial) reached, byHandle, byScan⟩

end ZkArche.Server

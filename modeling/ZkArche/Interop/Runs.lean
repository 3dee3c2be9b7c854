import ZkArche.Interop.Devices
import ZkArche.Interop.Servers

namespace ZkArche.Interop

open Foundation Client Protocol

variable {ι S P : Type} [Field S] [AddCommGroup P] [Module S P] [DecidableEq P]
variable {setting : Setting ι S P} {meeting : Meeting ι S P} {before : List (Meeting ι S P)} {start : ι → Files UInt8}
  {world : World ι P}

theorem succeeds_of_plays [DecidableEq S] {program : Program} {files : Files UInt8} {server : AnyServer P}
    {after : World ι P}
    (device : DevicePlays setting program meeting (world.files meeting.device) files)
    (serves : ServerPlays setting meeting world.server server) (own : after.files meeting.device = files)
    (isServer : after.server = server) (others : ∀ other, other ≠ meeting.device → after.files other = world.files other) :
    Succeeds setting world program meeting after (transcriptOf setting meeting) := by
  subst own isServer
  refine ⟨?_, device.ends, serves.ends, others⟩
  refine settles_of_turns device.opens serves.listens serves.answers device.continues ?_ ?_
  · rw [serves.ends]
    rfl
  · rw [device.ends]
    rfl

structure Stands (setting : Setting ι S P) (start : ι → Files UInt8) (before : List (Meeting ι S P)) (world : World ι P) :
    Prop where
  server : world.server.Stands setting before
  setUp : ∀ i, SetUpIn before i → world.files i = filesSetUp setting (setting.device i) (start i)
  others : ∀ i, ¬ SetUpIn before i → world.files i = start i

omit [DecidableEq P] in
theorem filesSetUp_setUp (setting : Setting ι S P) (own : Device UInt8 S) (files : Files UInt8) :
    FilesSetUp setting own (filesSetUp setting own files) := ⟨rfl, ⟨.inr rfl, rfl⟩, rfl⟩

omit [DecidableEq P] in
theorem filesSetUp_draws (setting : Setting ι S P) (own : Device UInt8 S) (files : Files UInt8) (root : Block UInt8 32)
    (blind : S) : Draws own (filesSetUp setting own files) root blind := by
  constructor
  · intro absent
    cases absent
  · intro absent
    cases absent

section Step

variable (stands : Stands setting start before world)
include stands

omit [DecidableEq P] in
theorem Stands.pinning (honest : HonestFiles setting start) {allowTofu : Bool}
    (tofu : allowTofu = true ∨ (start meeting.device).serverPub.isPresent = true) :
    ∃ pinned, Pinning setting.G (setting.rust.staticPub setting.G) allowTofu (world.files meeting.device).serverPub
      pinned := by
  by_cases setUp : SetUpIn before meeting.device
  · rw [stands.setUp _ setUp]
    exact ⟨_, .known⟩
  · rw [stands.others _ setUp]
    rcases honest.serverPub meeting.device with absent | present
    · rw [absent] at tofu ⊢
      rcases tofu with allowed | found
      · exact ⟨_, .firstUse allowed⟩
      · cases found
    · rw [present]
      exact ⟨_, .known⟩

omit [DecidableEq P] in
theorem Stands.ownFiles (honest : HonestFiles setting start) (i : ι) :
    OwnFiles setting.G (setting.device i) (world.files i) := by
  by_cases setUp : SetUpIn before i
  · rw [stands.setUp i setUp]
    exact ⟨.inr rfl, .inr rfl, .inr rfl⟩
  · rw [stands.others i setUp]
    exact honest.own i

omit [DecidableEq P] in
theorem Stands.setup_draws {root : Block UInt8 32} {blind : S}
    (first : ¬ SetUpIn before meeting.device → Draws (meeting.own setting) (start meeting.device) root blind) :
    Draws (meeting.own setting) (world.files meeting.device) root blind := by
  by_cases setUp : SetUpIn before meeting.device
  · rw [stands.setUp _ setUp]
    exact filesSetUp_draws setting _ _ root blind
  · rw [stands.others _ setUp]
    exact first setUp

variable [DecidableEq S]

theorem Stands.step {program : Program} {files : Files UInt8} {server : AnyServer P}
    (device : DevicePlays setting program meeting (world.files meeting.device) files)
    (serves : ServerPlays setting meeting world.server server) (standsAfter : server.Stands setting (before ++ [meeting]))
    (setUp : files = filesSetUp setting (meeting.own setting) (start meeting.device))
    (known : SetUpIn (before ++ [meeting]) meeting.device) :
    ∃ after, Succeeds setting world program meeting after (transcriptOf setting meeting) ∧
      Stands setting start (before ++ [meeting]) after := by
  classical
  have own : Function.update world.files meeting.device files meeting.device = files := Function.update_self _ _ _
  have others : ∀ other, other ≠ meeting.device → Function.update world.files meeting.device files other =
      world.files other := fun other different => Function.update_of_ne different _ _
  refine ⟨⟨Function.update world.files meeting.device files, server⟩, ?_, standsAfter, ?_, ?_⟩
  · exact succeeds_of_plays device serves own rfl others
  · intro i isSetUp
    by_cases same : i = meeting.device
    · rw [same]
      dsimp only
      rw [own]
      exact setUp
    · dsimp only
      rw [others i same]
      apply stands.setUp i
      rcases setUpIn_append.mp isSetUp with past | ⟨_, now⟩
      · exact past
      · exact absurd now.symm same
  · intro i notSetUp
    have different : i ≠ meeting.device := by
      rintro rfl
      exact notSetUp known
    dsimp only
    rw [others i different]
    apply stands.others i
    intro past
    exact notSetUp (setUpIn_append.mpr (.inl past))

variable (agrees : setting.Agrees) (starts : HonestFiles setting start)
include agrees starts

theorem Stands.setup {token : Option String} {allowTofu : Bool} {random : Client.SetupRandom UInt8 S}
    (call : meeting.call = .setup token allowTofu random)
    (honest : HonestSetup setting.G setting.rust (start meeting.device).serverPub.isPresent meeting.toSession token
      allowTofu random)
    (plain : PlainSetup setting meeting token random) (writes : meeting.moment.diskFault = none)
    (first : ¬ SetUpIn before meeting.device → Draws (meeting.own setting) (start meeting.device) meeting.root random.blind)
    (program : Program) : ∃ after, Succeeds setting world program meeting after (transcriptOf setting meeting) ∧
      Stands setting start (before ++ [meeting]) after := by
  obtain ⟨pinned, pinning⟩ := stands.pinning starts honest.tofu
  have own : OwnFiles setting.G (meeting.own setting) (world.files meeting.device) := stands.ownFiles starts meeting.device
  have draws := stands.setup_draws first
  have device : DevicePlays setting program meeting (world.files meeting.device)
      (filesSetUp setting (meeting.own setting) (world.files meeting.device)) := by
    cases program with
    | rust => exact rustSetup_plays agrees call honest own draws pinning
    | c => exact cSetup_plays agrees call honest own draws pinning plain
  have setUp : filesSetUp setting (meeting.own setting) (world.files meeting.device) =
      filesSetUp setting (meeting.own setting) (start meeting.device) := rfl
  have known : SetUpIn (before ++ [meeting]) meeting.device := setUpIn_append.mpr (.inr ⟨enrolls_of_setup call, rfl⟩)
  have standing := stands.server
  cases isServer : world.server with
  | rust state =>
    rw [isServer] at standing
    have serves := rustSetup_served agrees call honest standing
    rw [← isServer] at serves
    exact stands.step device serves (rustSetup_stands agrees call honest standing) setUp known
  | c state =>
    rw [isServer] at standing
    have serves := cSetup_served agrees call honest standing plain writes
    rw [← isServer] at serves
    exact stands.step device serves (cSetup_stands agrees call honest standing plain writes) setUp known

omit starts in
theorem Stands.auth {vars : Vars} {random : Client.AuthRandom UInt8 S} (call : meeting.call = .auth vars random)
    (honest : HonestAuth setting.G setting.rust setting.device meeting.toSession vars random)
    (plain : PlainAuth setting meeting (authMode vars) random) (writes : meeting.moment.diskFault = none)
    (setUp : SetUpIn before meeting.device) (fresh : random.nonceC ∉ before.filterMap fun meeting => meeting.nonce)
    (program : Program) : ∃ after, Succeeds setting world program meeting after (transcriptOf setting meeting) ∧
      Stands setting start (before ++ [meeting]) after := by
  have sameFiles : world.files meeting.device = filesSetUp setting (meeting.own setting) (start meeting.device) :=
    stands.setUp _ setUp
  have files : FilesSetUp setting (meeting.own setting) (world.files meeting.device) := by
    rw [sameFiles]
    exact filesSetUp_setUp setting _ _
  have cached : (world.files meeting.device).cached setting.G (meeting.own setting) =
      filesSetUp setting (meeting.own setting) (start meeting.device) := by
    rw [sameFiles]
    rfl
  have device : DevicePlays setting program meeting (world.files meeting.device)
      ((world.files meeting.device).cached setting.G (meeting.own setting)) := by
    cases program with
    | rust => exact rustAuth_plays agrees call honest files
    | c => exact cAuth_plays agrees call honest files plain
  have known : SetUpIn (before ++ [meeting]) meeting.device := setUpIn_append.mpr (.inl setUp)
  have standing := stands.server
  cases isServer : world.server with
  | rust state =>
    rw [isServer] at standing
    obtain ⟨after, standsAfter, serves⟩ := rustAuth_serves agrees call honest fresh setUp standing
    rw [← isServer] at serves
    exact stands.step device serves standsAfter cached known
  | c state =>
    rw [isServer] at standing
    obtain ⟨after, standsAfter, serves⟩ := cAuth_serves agrees call honest fresh setUp standing plain writes
    rw [← isServer] at serves
    exact stands.step device serves standsAfter cached known

end Step

section Runs

variable {meetings : List (Meeting ι S P)} {event : Event ι S P} {events : List (Event ι S P)}

theorem Stands.restart (stands : Stands setting start before world) (agrees : setting.Agrees) (program : Program)
    (moment : Server.Moment UInt8 P) : ∃ server,
      AnyServer.start setting program moment world.server.registryFile world.server.replayFile = some server ∧
        Stands setting start before ⟨world.files, server⟩ := by
  have files := stands.server.files
  obtain ⟨server, starts, standing⟩ := start_stands agrees program moment files.1 files.2
  exact ⟨server, starts, standing, stands.setUp, stands.others⟩

theorem Stands.session [DecidableEq S] (stands : Stands setting start before world) (agrees : setting.Agrees)
    (starts : HonestFiles setting start) (honest : HonestMeetings setting start meetings) {later : List (Meeting ι S P)}
    (split : meetings = before ++ meeting :: later) (program : Program) :
    ∃ after, Succeeds setting world program meeting after (transcriptOf setting meeting) ∧
      Stands setting start (before ++ [meeting]) after := by
  have member : meeting ∈ meetings := by
    rw [split]
    exact List.mem_append_right _ List.mem_cons_self
  have call := honest.calls meeting member
  have plain := honest.plain meeting member
  have writes := honest.writes meeting member
  generalize isCall : meeting.call = made at call plain
  cases call with
  | setup setup =>
    cases plain with
    | setup plain =>
      exact stands.setup agrees starts isCall setup plain writes (honest.draws _ _ _ _ _ _ split isCall) program
  | auth auth =>
    cases plain with
    | auth plain =>
      have setUp := honest.setUpFirst _ _ _ split (not_enrolls_of_auth isCall)
      refine stands.auth agrees isCall auth plain writes setUp ?_ program
      have fresh := honest.fresh
      rw [split, List.filterMap_append, List.nodup_append] at fresh
      intro past
      refine fresh.2.2 _ past _ ?_ rfl
      rw [List.mem_filterMap]
      exact ⟨meeting, List.mem_cons_self, by rw [Session.nonce, isCall]⟩

theorem Stands.run [DecidableEq S] (agrees : setting.Agrees) (starts : HonestFiles setting start)
    (honest : HonestMeetings setting start meetings) (stands : Stands setting start before world)
    (split : meetings = before ++ events.filterMap Event.meeting?) : ∃ last,
      Completes setting world events ((events.filterMap Event.meeting?).map (transcriptOf setting)) last ∧
        Stands setting start meetings last := by
  induction events generalizing before world with
  | nil =>
    rw [List.filterMap_nil, List.append_nil] at split
    rw [split]
    exact ⟨world, .nil world, stands⟩
  | cons event events ih =>
    cases event with
    | restart program moment =>
      obtain ⟨server, restarts, standing⟩ := stands.restart agrees program moment
      obtain ⟨last, completes, ends⟩ := ih standing split
      exact ⟨last, .restart restarts completes, ends⟩
    | meeting program meeting =>
      have next : (Event.meeting program meeting :: events).filterMap Event.meeting? =
          meeting :: events.filterMap Event.meeting? := rfl
      rw [next] at split ⊢
      obtain ⟨middle, succeeds, standing⟩ := stands.session agrees starts honest split program
      rw [List.append_cons] at split
      obtain ⟨last, completes, ends⟩ := ih standing split
      exact ⟨last, .meeting succeeds completes, ends⟩

omit [DecidableEq P] in
theorem AnyServer.Stands.bound {server : AnyServer P}
    (stands : server.Stands setting meetings) (id : Block UInt8 32) (value : Block UInt8 32 × Block UInt8 32) :
    server.bound setting.G id = some value ↔ ∃ i, SetUpIn meetings i ∧ id = (setting.device i).id setting.G ∧
      value = (setting.G.compress ((setting.device i).pub setting.G),
        setting.G.compress ((setting.device i).cred setting.G).commitment) := by
  have records : server.bound setting.G id = some value ↔ ∃ record, Registered setting meetings ⟨id, record⟩ ∧
      value = (setting.G.compress record.pubkey, setting.G.compress record.roleCommitment) := by
    cases server with
    | rust state =>
      rw [AnyServer.bound, rustBound, Option.map_eq_some_iff]
      simp only [stands.registry, eq_comm]
    | c state =>
      obtain ⟨records, lists, isReg⟩ := stands.registry
      have names : (state.reg.map CServer.RegEntry.id).Nodup := by
        rw [isReg, List.map_map]
        exact lists.names
      obtain ⟨pub, roleCommitment⟩ := value
      rw [AnyServer.bound, cBound_eq_some names, isReg, List.mem_map]
      constructor
      · rintro ⟨⟨id, record⟩, listed, same⟩
        cases same
        exact ⟨record, (lists.complete _).mp listed, rfl⟩
      · rintro ⟨record, registered, same⟩
        cases same
        exact ⟨_, (lists.complete _).mpr registered, rfl⟩
  rw [records]
  constructor
  · rintro ⟨record, ⟨i, setUp, same⟩, rfl⟩
    cases same
    exact ⟨i, setUp, rfl, rfl⟩
  · rintro ⟨i, setUp, rfl, rfl⟩
    exact ⟨_, ⟨i, setUp, rfl⟩, rfl⟩

end Runs

/-- What honest sessions leave: a map of the devices that have been set up, and their files. -/
structure Settled (setting : Setting ι S P) (files : ι → Files UInt8) (meetings : List (Meeting ι S P)) (last : World ι P) :
    Prop where
  bound : ∀ id value, last.server.bound setting.G id = some value ↔ ∃ i, SetUpIn meetings i ∧
    id = (setting.device i).id setting.G ∧ value = (setting.G.compress ((setting.device i).pub setting.G),
      setting.G.compress ((setting.device i).cred setting.G).commitment)
  setUp : ∀ i, SetUpIn meetings i → last.files i = filesSetUp setting (setting.device i) (files i)
  others : ∀ i, ¬ SetUpIn meetings i → last.files i = files i

/-- Honest sessions succeed with the same bytes and the same keys whichever program runs the device in each of them,
    whichever program serves them, and however often the server is started again as the one or the other. -/
theorem either_program_at_either_end [DecidableEq S] {files : ι → Files UInt8} {meetings : List (Meeting ι S P)}
    (agrees : setting.Agrees)
    (starts : HonestFiles setting files) (honest : HonestMeetings setting files meetings) :
    ∃ transcripts, ∀ program moment events, events.filterMap Event.meeting? = meetings →
      ∃ server, AnyServer.start setting program moment .absent .absent = some server ∧
        ∃ last, Completes setting ⟨files, server⟩ events transcripts last ∧ Settled setting files meetings last := by
  refine ⟨meetings.map (transcriptOf setting), ?_⟩
  rintro program moment events rfl
  have nobody : ∀ i, ¬ SetUpIn ([] : List (Meeting ι S P)) i := by
    intro i ⟨earlier, member, _⟩
    cases member
  obtain ⟨server, restarts, standing⟩ := start_stands agrees program moment (.absent nobody) .absent
  have first : Stands setting files [] ⟨files, server⟩ :=
    ⟨standing, fun i setUp => absurd setUp (nobody i), fun _ _ => rfl⟩
  obtain ⟨last, completes, ends⟩ := first.run agrees starts honest (List.nil_append _).symm
  exact ⟨server, restarts, last, completes, fun id value => ends.server.bound id value, ends.setUp, ends.others⟩

section Example

open Server (zeros)

def crossSetting : Setting Bool (ZMod 5) (ZMod 5) where
  G := crossSuite
  so := crossSodium
  word := 64
  rust := Server.deviceOnlyContext
  c := ⟨Server.deviceOnlyContext.vars, ⟨true, none, 0⟩, crossSuite.toBytes 1⟩
  device := twoDevices

def crossStart (second : Bool) : Files UInt8 where
  deviceRoot := .absent
  serverPub := .absent
  devicePub := .absent
  roleCred := if second then .present (roleCredBytes crossSuite ((twoDevices true).cred crossSuite)) 0o600 else .absent

noncomputable def crossMeeting (second : Bool) (call : Call UInt8 (ZMod 5)) : Meeting Bool (ZMod 5) (ZMod 5) :=
  ⟨quietSession second call, (twoDevices second).root, ⟨0, none⟩⟩

def crossSetup : Call UInt8 (ZMod 5) := .setup none true ⟨1, zeros, 1⟩

def crossTurn (turn : UInt8) (delta rerandR : ZMod 5) : Client.AuthRandom UInt8 (ZMod 5) :=
  ⟨startingWith turn, 1, 1, 0, delta, rerandR, ⟨1, fun _ => (1, 1 + 1)⟩⟩

def crossVars (set : String) : Vars := fun name => if name = set then some "1" else none

noncomputable def sixMeetings : List (Meeting Bool (ZMod 5) (ZMod 5)) :=
  [crossMeeting false crossSetup, crossMeeting false (.auth (fun _ => none) (crossTurn 0 (-1 - 1) 1)),
    crossMeeting true crossSetup, crossMeeting true (.auth (crossVars "ZKARCHE_FAST_LOOKUP") (crossTurn 1 (1 + 1) (1 + 1))),
    crossMeeting false crossSetup, crossMeeting false (.auth (crossVars "ZKARCHE_DEVICE_ONLY") (crossTurn 2 1 1))]

theorem crossSetting_agrees : crossSetting.Agrees where
  library := crossSodium_matches
  reduces := crossSuite_reduces
  large := by decide
  contexts := ⟨rfl, rfl, by decide⟩
  devices :=
    { distinctRoles := by decide
      allowed := by decide
      distinctRoots := by decide
      ids := by decide
      handles := by decide
      proper := fun second => ⟨by revert second; decide, by revert second; decide⟩
      serverProper := by decide }

theorem crossStart_honest : HonestFiles crossSetting crossStart where
  own := by
    intro second
    cases second with
    | false => exact ⟨.inl rfl, .inl rfl, .inl rfl⟩
    | true => exact ⟨.inl rfl, .inl rfl, .inr rfl⟩
  serverPub := fun _ => .inl rfl

set_option maxRecDepth 100000 in
theorem crossSetup_honest (second : Bool) : HonestCall crossSuite Server.deviceOnlyContext twoDevices ⟨crossStart, .fresh⟩
    (crossMeeting second crossSetup).toSession crossSetup ∧
      PlainCall crossSetting (crossMeeting second crossSetup) crossSetup := by
  have unit : (1 : ZMod 5) • crossSuite.basepoint ≠ 0 := by decide
  constructor
  · refine .setup ⟨?_, rfl, .inl rfl, unit, unit, rfl⟩
    intro text member
    cases member
  · refine .setup ⟨?_, rfl, ?_, ?_, ?_⟩
    · intro text member
      cases member
    · revert second
      decide
    · revert second
      unfold ChallengesSetupKey
      decide
    · revert second
      unfold ChallengesDeviceKey
      decide

theorem crossTurn_multiplies (second : Bool) (turn : UInt8) (delta rerandR : ZMod 5)
    (blinds : delta • attrH crossSuite ≠ 0 ∧ rerandR • attrH crossSuite ≠ 0)
    (statements : ∀ y ∈ (CServer.allowedRoles.map (Server.roleStatement crossSuite
      (((twoDevices second).cred crossSuite).commitment + delta • attrH crossSuite))).zipIdx, (1 : ZMod 5) • y.1 ≠ 0) :
    RoleMultiplies crossSuite (twoDevices second) (crossTurn turn delta rerandR) where
  blind := by
    clear statements
    revert second
    decide
  delta := blinds.1
  rerandR := blinds.2
  branches := by
    intro index _ y member
    have own : (1 : ZMod 5) • attrH crossSuite ≠ 0 := by decide
    have response : (1 + 1 : ZMod 5) • attrH crossSuite ≠ 0 := by decide
    exact ⟨fun _ => own, fun _ => response, fun _ => statements y member⟩

theorem crossAuth_honest {second : Bool} {vars : Vars} {turn : UInt8} {delta rerandR : ZMod 5}
    (proper : (authMode vars).deviceOnly = true ∨ isProper (proveRole crossSuite [1, 2] ((twoDevices second).cred crossSuite)
      ((twoDevices second).hello crossSuite 1 (crossTurn turn delta rerandR)) (crossTurn turn delta rerandR)) = true)
    (pids : ∀ other, ((twoDevices other).hello crossSuite 1 (crossTurn turn delta rerandR)).pid =
      ((twoDevices second).hello crossSuite 1 (crossTurn turn delta rerandR)).pid →
        (twoDevices other).root = (twoDevices second).root)
    (plain : PlainAuth crossSetting (crossMeeting second (.auth vars (crossTurn turn delta rerandR))) (authMode vars)
      (crossTurn turn delta rerandR)) :
    HonestCall crossSuite Server.deviceOnlyContext twoDevices ⟨crossStart, .fresh⟩
      (crossMeeting second (.auth vars (crossTurn turn delta rerandR))).toSession
      (.auth vars (crossTurn turn delta rerandR)) ∧
        PlainCall crossSetting (crossMeeting second (.auth vars (crossTurn turn delta rerandR)))
          (.auth vars (crossTurn turn delta rerandR)) := by
  have unit : (1 : ZMod 5) • crossSuite.basepoint ≠ 0 := by decide
  have allowed : Server.allowsDeviceOnly Server.deviceOnlyContext.vars = true := by decide
  refine ⟨.auth ⟨fun _ => allowed, unit, unit, ?_, unit, unit, pids, rfl, rfl⟩, .auth plain⟩
  intro full proof proves
  rcases proper with only | proper
  · cases only.symm.trans full
  · have own : isProper (.ok proof) = true := by
      rw [← proves]
      exact proper
    rw [isProper, decide_eq_true_iff] at own
    exact ⟨own.1, own.2.1, own.2.2⟩

set_option maxRecDepth 100000 in
theorem crossAuth_full : PlainAuth crossSetting (crossMeeting false (.auth (fun _ => none) (crossTurn 0 (-1 - 1) 1)))
    (authMode fun _ => none) (crossTurn 0 (-1 - 1) 1) where
  roles := fun _ => crossTurn_multiplies false 0 (-1 - 1) 1 (by decide) (by decide)
  serverKey := by
    unfold ChallengesKey
    decide
  request := ⟨by decide, by decide, by decide⟩

set_option maxRecDepth 100000 in
theorem crossAuth_fast : PlainAuth crossSetting (crossMeeting true (.auth (crossVars "ZKARCHE_FAST_LOOKUP")
    (crossTurn 1 (1 + 1) (1 + 1)))) (authMode (crossVars "ZKARCHE_FAST_LOOKUP")) (crossTurn 1 (1 + 1) (1 + 1)) where
  roles := fun _ => crossTurn_multiplies true 1 (1 + 1) (1 + 1) (by decide) (by decide)
  serverKey := by
    unfold ChallengesKey
    decide
  request := ⟨by decide, by decide, by decide⟩

set_option maxRecDepth 100000 in
theorem crossAuth_deviceOnly : PlainAuth crossSetting (crossMeeting false (.auth (crossVars "ZKARCHE_DEVICE_ONLY")
    (crossTurn 2 1 1))) (authMode (crossVars "ZKARCHE_DEVICE_ONLY")) (crossTurn 2 1 1) where
  roles := by
    intro full
    cases full
  serverKey := by
    unfold ChallengesKey
    decide
  request := ⟨by decide, by decide, by decide⟩

theorem crossSetup_draws (second : Bool) {token : Option String} {allowTofu : Bool}
    {random : Client.SetupRandom UInt8 (ZMod 5)} (call : crossSetup = .setup token allowTofu random) :
    Draws (twoDevices second) (crossStart second) (twoDevices second).root random.blind := by
  cases call
  refine ⟨fun _ => rfl, ?_⟩
  intro absent
  cases second with
  | false => exact ⟨rfl, rfl⟩
  | true => cases absent

set_option maxRecDepth 100000 in
theorem sixMeetings_honest : HonestMeetings crossSetting crossStart sixMeetings where
  calls := by
    simp only [sixMeetings, List.forall_mem_cons]
    refine ⟨(crossSetup_honest _).1, (crossAuth_honest (.inr (by decide)) (by decide) crossAuth_full).1,
      (crossSetup_honest _).1, (crossAuth_honest (.inr (by decide)) (by decide) crossAuth_fast).1, (crossSetup_honest _).1,
      (crossAuth_honest (.inl rfl) (by decide) crossAuth_deviceOnly).1, ?_⟩
    intro meeting member
    cases member
  plain := by
    simp only [sixMeetings, List.forall_mem_cons]
    refine ⟨(crossSetup_honest _).2, .auth crossAuth_full, (crossSetup_honest _).2, .auth crossAuth_fast,
      (crossSetup_honest _).2, .auth crossAuth_deviceOnly, ?_⟩
    intro meeting member
    cases member
  writes := by
    simp only [sixMeetings, List.forall_mem_cons]
    refine ⟨rfl, rfl, rfl, rfl, rfl, rfl, ?_⟩
    intro meeting member
    cases member
  setUpFirst := by
    intro before meeting after split authenticates
    have positions : ∀ n (inside : n < sixMeetings.length), sixMeetings[n].enrolls = false →
        ∃ earlier ∈ sixMeetings.take n, earlier.enrolls = true ∧ earlier.device = sixMeetings[n].device := by decide
    rw [split] at positions
    have here := positions before.length (by simp)
    rw [List.getElem_append_right (Nat.le_refl _), List.take_left] at here
    simp only [Nat.sub_self, List.getElem_cons_zero] at here
    exact here authenticates
  draws := by
    intro before meeting after token allowTofu random split call _
    have own : ∀ meeting ∈ sixMeetings, ∀ token allowTofu random, meeting.call = .setup token allowTofu random →
        Draws (twoDevices meeting.device) (crossStart meeting.device) meeting.root random.blind := by
      simp only [sixMeetings, List.forall_mem_cons]
      refine ⟨fun _ _ _ => crossSetup_draws false, ?_, fun _ _ _ => crossSetup_draws true, ?_,
        fun _ _ _ => crossSetup_draws false, ?_, ?_⟩
      · intro token allowTofu random same
        cases same
      · intro token allowTofu random same
        cases same
      · intro token allowTofu random same
        cases same
      · intro meeting member
        cases member
    exact own meeting (by rw [split]; exact List.mem_append_right _ List.mem_cons_self) token allowTofu random call
  fresh := by decide

theorem either_program_at_either_end_six : ∃ transcripts, ∀ program moment events,
    events.filterMap Event.meeting? = sixMeetings →
      ∃ server, AnyServer.start crossSetting program moment .absent .absent = some server ∧
        ∃ last, Completes crossSetting ⟨crossStart, server⟩ events transcripts last ∧
          Settled crossSetting crossStart sixMeetings last :=
  either_program_at_either_end crossSetting_agrees crossStart_honest sixMeetings_honest

end Example

end ZkArche.Interop

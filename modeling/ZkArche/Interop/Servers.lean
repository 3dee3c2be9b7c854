import ZkArche.Interop.Records

namespace ZkArche.Interop

open Foundation Client Protocol

variable {ι S P : Type} [Field S] [AddCommGroup P] [Module S P]
variable {setting : Setting ι S P} {meeting : Meeting ι S P} {before : List (Meeting ι S P)}

structure ServerPlays [DecidableEq P] [DecidableEq S] (setting : Setting ι S P) (meeting : Meeting ι S P)
    (server after : AnyServer P) : Prop where
  listens : (serverEnd setting meeting server (.opened [])).conn.output = []
  answers : (serverEnd setting meeting server (.opened (transcriptOf setting meeting).opening)).conn.output =
    (transcriptOf setting meeting).answer
  ends : serverEnd setting meeting server (.opened (transcriptOf setting meeting).fromDevice) =
    ⟨some (transcriptOf setting meeting).outcome, after,
      .talked (transcriptOf setting meeting).fromDevice (transcriptOf setting meeting).fromServer⟩

theorem rust_listens [DecidableEq P] [DecidableEq S] (state : Server.ServerState UInt8 P) :
    (serverEnd setting meeting (.rust state) (.opened [])).conn.output = [] := by
  change (Server.handleClient setting.G setting.rust meeting.moments meeting.peerKey meeting.drawn
    ⟨state, .opened []⟩).2.conn.output = []
  exact Server.output_of_nothing

theorem c_listens [DecidableEq P] [DecidableEq S] (state : CServer.ServerState) :
    (serverEnd setting meeting (.c state) (.opened [])).conn.output = [] := by
  have waits : Waits CServer.Connected.mk (CServer.handleClient setting.so.toSodium setting.c (meeting.cCall setting.G))
      state [] [] := CServer.waits_handleClient_nothing
  obtain ⟨failure, after, later, run, output⟩ := waits.opened
  simp only [serverEnd, run]
  exact output

omit [Field S] [AddCommGroup P] [Module S P] in
theorem noted_append {key : CServer.ReplayKey} (noted : Noted before key) : Noted (before ++ [meeting]) key := by
  obtain ⟨pid, nonce, past, same⟩ := noted
  refine ⟨pid, nonce, ?_, same⟩
  rw [List.filterMap_append]
  exact List.mem_append_left _ past

section Grown

variable {entry : Server.RegistryEntry UInt8 P} {records : List (Server.RegistryEntry UInt8 P)}
  {file : StateFile UInt8}

theorem registered_own (meeting : Meeting ι S P) (devices : HonestDevices setting.G setting.rust setting.device)
    (registered : Registered setting before entry) (named : entry.1 = (meeting.own setting).id setting.G) :
    entry = deviceEntry setting.G (meeting.own setting) := by
  obtain ⟨i, _, rfl⟩ := registered
  rw [devices.distinctRoots (devices.ids _ _ named)]
  rfl

theorem registered_setup (enrolls : meeting.enrolls = true) : Registered setting (before ++ [meeting]) entry ↔
    Registered setting before entry ∨ entry = deviceEntry setting.G (meeting.own setting) := by
  unfold Registered
  simp only [setUpIn_append, enrolls, true_and]
  constructor
  · rintro ⟨i, past | rfl, same⟩
    · exact .inl ⟨i, past, same⟩
    · exact .inr same
  · rintro (⟨i, past, same⟩ | same)
    · exact ⟨i, .inl past, same⟩
    · exact ⟨meeting.device, .inr rfl, same⟩

theorem setUpIn_again (devices : HonestDevices setting.G setting.rust setting.device)
    (registered : Registered setting before (deviceEntry setting.G (meeting.own setting))) (i : ι) :
    SetUpIn before i ↔ SetUpIn (before ++ [meeting]) i := by
  obtain ⟨own, past, same⟩ := registered
  have isOwn : own = meeting.device := (devices.distinctRoots (devices.ids _ _ (congrArg Sigma.fst same))).symm
  rw [isOwn] at past
  rw [setUpIn_append]
  constructor
  · exact .inl
  · rintro (earlier | ⟨_, rfl⟩)
    · exact earlier
    · exact past

omit [Field S] [AddCommGroup P] [Module S P] in
theorem setUpIn_auth (auth : meeting.enrolls = false) (i : ι) : SetUpIn before i ↔ SetUpIn (before ++ [meeting]) i := by
  rw [setUpIn_append, auth]
  simp

theorem Lists.same {later : List (Meeting ι S P)} (lists : Lists setting before records)
    (same : ∀ i, SetUpIn before i ↔ SetUpIn later i) : Lists setting later records := by
  refine ⟨lists.names, fun entry => (lists.complete entry).trans ?_⟩
  unfold Registered
  simp only [same]

theorem RegistersIn.same {later : List (Meeting ι S P)} (registers : RegistersIn setting before file)
    (same : ∀ i, SetUpIn before i ↔ SetUpIn later i) : RegistersIn setting later file := by
  cases registers with
  | absent nobody => exact .absent fun i setUp => nobody i ((same i).mpr setUp)
  | present lists => exact .present (lists.same same)

theorem lists_of_registry {reg : Server.Registry UInt8 P}
    (registry : ∀ id record, reg.lookup id = some record ↔ Registered setting before ⟨id, record⟩)
    (order : MapOrder (Block UInt8 32) (Server.DeviceRecord P)) : Lists setting before (order.list reg) := by
  constructor
  · rw [((order.perm reg).map Sigma.fst).nodup_iff]
    exact reg.keys_nodup
  · intro ⟨id, record⟩
    rw [order.mem_list, registry]

end Grown

section Setup

variable {token : Option String} {allowTofu : Bool} {random : Client.SetupRandom UInt8 S} {known : Bool}

variable [DecidableEq P]

theorem proof_verifies (setting : Setting ι S P) (meeting : Meeting ι S P) (random : Client.SetupRandom UInt8 S) :
    Server.schnorrVerifySetup setting.G ((meeting.own setting).pub setting.G) ((meeting.own setting).id setting.G)
      (setting.rust.staticPub setting.G) random.clientNonce meeting.drawn.setup.serverNonce
      meeting.drawn.setup.setupChallenge
      (setupProof setting.G (meeting.own setting) (setting.rust.staticPub setting.G) random
        (meeting.challenge setting random)).1
      (setupProof setting.G (meeting.own setting) (setting.rust.staticPub setting.G) random
        (meeting.challenge setting random)).2 = true := setupProof_verifies

variable (agrees : setting.Agrees) (call : meeting.call = .setup token allowTofu random)
  (honest : HonestSetup setting.G setting.rust known meeting.toSession token allowTofu random)

section Rust

variable {state : Server.ServerState UInt8 P} (stands : RustStands setting before state)
include agrees honest stands

theorem rustWelcome : Server.Welcome setting.G setting.rust meeting.moments.setup meeting.drawn.setup state token
    (setupRequestOf setting.G (meeting.own setting) random.clientNonce)
    (setupProof setting.G (meeting.own setting) (setting.rust.staticPub setting.G) random
      (meeting.challenge setting random)) where
  unknown := stands.calm
  short := honest.short
  allowed := honest.allowed
  pub := (agrees.devices.proper meeting.device).pub
  roleCommitment := (agrees.devices.proper meeting.device).commitment
  free := by
    intro pub registered
    obtain ⟨record, found, rfl⟩ := Option.map_eq_some_iff.mp registered
    cases registered_own meeting agrees.devices ((stands.registry _ _).mp found) rfl
    rfl
  proofProper := honest.deviceProof
  verifies := proof_verifies setting meeting random
  writes := honest.writes

omit honest in
include call in
omit [DecidableEq P] in
theorem rustSetup_registry (id : Block UInt8 32) (record : Server.DeviceRecord P) :
    (state.reg.insert ((meeting.own setting).id setting.G) (deviceRecord setting.G (meeting.own setting))).lookup id =
      some record ↔ Registered setting (before ++ [meeting]) ⟨id, record⟩ := by
  rw [registered_setup (enrolls_of_setup call)]
  by_cases own : id = (meeting.own setting).id setting.G
  · rw [own, AList.lookup_insert, Option.some.injEq]
    constructor
    · intro same
      right
      rw [← same]
      rfl
    · rintro (registered | same)
      · cases registered_own meeting agrees.devices registered rfl
        rfl
      · cases same
        rfl
  · rw [AList.lookup_insert_ne own, stands.registry]
    constructor
    · intro registered
      left
      exact registered
    · rintro (registered | same)
      · exact registered
      · exact absurd (congrArg Sigma.fst same) own

include call in
omit [DecidableEq P] in
theorem rustSetup_stands : RustStands setting (before ++ [meeting])
    (Server.enrolledIn setting.G meeting.moments.setup.insertion
      (setupRequestOf setting.G (meeting.own setting) random.clientNonce) state) where
  calm := stands.calm
  indexed := by
    refine Indexes.insert stands.indexed ?_
    intro old stored
    cases registered_own meeting agrees.devices ((stands.registry _ _).mp stored) rfl
    rfl
  registry := rustSetup_registry agrees call stands
  registryFile := by
    have saved : (Server.enrolledIn setting.G meeting.moments.setup.insertion
        (setupRequestOf setting.G (meeting.own setting) random.clientNonce) state).registryFile =
        .present (Server.registryBytes setting.G (meeting.moments.setup.insertion.regOrder.list
          (state.reg.insert ((meeting.own setting).id setting.G) (deviceRecord setting.G (meeting.own setting))))) 0o600 := by
      unfold Server.enrolledIn Server.enrollDevice Server.saveRegistryAtomic
      rw [honest.writes]
      rfl
    rw [saved]
    exact .present (lists_of_registry (rustSetup_registry agrees call stands) _)
  replay := stands.replay.mono fun _ => noted_append
  replayFile := stands.replayFile.mono fun _ => noted_append

include call in
theorem rustSetup_served
    [DecidableEq S] : ServerPlays setting meeting (.rust state) (.rust (Server.enrolledIn setting.G
    meeting.moments.setup.insertion (setupRequestOf setting.G (meeting.own setting) random.clientNonce) state)) := by
  have welcome := rustWelcome agrees honest stands
  have answer : challengeBytes setting.G (meeting.challenge setting random) = Server.setupChallengeBytes setting.G
      setting.rust (setupRequestOf setting.G (meeting.own setting) random.clientNonce) meeting.drawn.setup := rfl
  have calm := (rustSetup_stands agrees call honest stands).calm
  have turn : Turn Server.Connected.mk (Server.handleClient setting.G setting.rust meeting.moments meeting.peerKey
      meeting.drawn) state (setupSent setting.G (meeting.own setting) token (setting.rust.staticPub setting.G) random
        (meeting.challenge setting random)) (challengeBytes setting.G (meeting.challenge setting random) ++ lits [0x01])
      (Server.enrolledIn setting.G meeting.moments.setup.insertion
        (setupRequestOf setting.G (meeting.own setting) random.clientNonce) state)
      (.ok (.enrolled (setupRequestOf setting.G (meeting.own setting) random.clientNonce))) := by
    rw [answer, setupSent, setupBytes, List.append_assoc]
    exact Server.turn_handleClient calm (Server.turn_setup welcome)
  constructor
  · exact rust_listens state
  · simp only [transcriptOf, call, answer]
    exact Server.output_of_waits (Server.waits_setup welcome)
  · simp only [transcriptOf, call, serverEnd, turn.opened]
    rfl

end Rust

section C

variable {state : CServer.ServerState} (stands : CStands setting before state)
include agrees stands

omit [DecidableEq P] in
theorem cRegistered_own {entry : CServer.RegEntry} (member : entry ∈ state.reg)
    (named : entry.id = (meeting.own setting).id setting.G) :
    Registered setting before (deviceEntry setting.G (meeting.own setting)) ∧
      entry = entryOf setting.G (deviceEntry setting.G (meeting.own setting)) := by
  obtain ⟨records, lists, isReg⟩ := stands.registry
  rw [isReg] at member
  obtain ⟨own, listed, rfl⟩ := List.mem_map.mp member
  have registered := (lists.complete own).mp listed
  rw [← registered_own meeting agrees.devices registered named]
  exact ⟨registered, rfl⟩

variable (plain : PlainSetup setting meeting token random) (writes : meeting.moment.diskFault = none)
include honest plain writes

theorem cWelcome : CServer.Welcome setting.so.toSodium setting.c meeting.moment
    (rawSetupDrawn setting.G meeting.drawn.setup) state (rawToken token)
    (rawSetupRequest setting.G (setupRequestOf setting.G (meeting.own setting) random.clientNonce))
    (signature setting.G (setupChallengeProof setting.G setting.rust
      (setupRequestOf setting.G (meeting.own setting) random.clientNonce) meeting.drawn.setup))
    (signature setting.G (setupProof setting.G (meeting.own setting) (setting.rust.staticPub setting.G) random
      (meeting.challenge setting random))) := by
  have free : ∀ entry ∈ state.reg, entry.id = (meeting.own setting).id setting.G →
      entry = entryOf setting.G (deviceEntry setting.G (meeting.own setting)) :=
    fun entry member named => (cRegistered_own agrees stands member named).2
  exact cWelcome_of_rust agrees.library.library agrees.contexts honest.short (proof_verifies setting meeting random)
    plain.allowed free plain.deviceKey writes

include call in
theorem cSetup_stands : CStands setting (before ++ [meeting]) (CServer.enrolledIn
    (rawSetupRequest setting.G (setupRequestOf setting.G (meeting.own setting) random.clientNonce)).entry state) := by
  have welcome := cWelcome agrees honest stands plain writes
  have isEntry : (rawSetupRequest setting.G (setupRequestOf setting.G (meeting.own setting) random.clientNonce)).entry =
      entryOf setting.G (deviceEntry setting.G (meeting.own setting)) := rfl
  have free := welcome.free
  rw [isEntry] at free ⊢
  have grown : ∀ entry, Registered setting (before ++ [meeting]) entry ↔ Registered setting before entry ∨
      entry = deviceEntry setting.G (meeting.own setting) := fun entry => registered_setup (enrolls_of_setup call)
  obtain ⟨records, lists, isReg⟩ := stands.registry
  unfold CServer.enrolledIn CServer.upsert
  cases found : state.reg.find? fun entry => entry.id = (entryOf setting.G (deviceEntry setting.G (meeting.own setting))).id with
  | some entry =>
    have same := free entry found
    have named : entry.id = (meeting.own setting).id setting.G := by rw [same]; rfl
    have registered := (cRegistered_own agrees stands (List.mem_of_find?_eq_some found) named).1
    subst same
    simp only [ne_eq, not_true_eq_false, if_false]
    have still := setUpIn_again agrees.devices registered
    exact ⟨⟨records, lists.same still, isReg⟩, stands.registryFile.same still, stands.replay.mono fun _ => noted_append,
      stands.replayFile.mono fun _ => noted_append⟩
  | none =>
    have new : (meeting.own setting).id setting.G ∉ records.map Sigma.fst := by
      intro member
      obtain ⟨own, listed, named⟩ := List.mem_map.mp member
      rw [isReg] at found
      refine List.find?_eq_none.mp found _ (List.mem_map_of_mem listed) ?_
      rw [decide_eq_true_iff]
      exact named
    have appended : Lists setting (before ++ [meeting]) (records ++ [deviceEntry setting.G (meeting.own setting)]) := by
      constructor
      · rw [List.map_append, List.map_cons, List.map_nil, ← List.concat_eq_append]
        exact lists.names.concat new
      · intro entry
        rw [List.mem_append, List.mem_singleton, lists.complete, grown]
    have reg : state.reg ++ [entryOf setting.G (deviceEntry setting.G (meeting.own setting))] =
        (records ++ [deviceEntry setting.G (meeting.own setting)]).map (entryOf setting.G) := by
      rw [isReg, List.map_append]
      rfl
    refine ⟨⟨_, appended, reg⟩, ?_, stands.replay.mono fun _ => noted_append,
      stands.replayFile.mono fun _ => noted_append⟩
    simp only [reg]
    rw [← CServer.registryBytes, registryBytes_entryOf]
    exact .present appended

include call in
theorem cSetup_served [DecidableEq S] : ServerPlays setting meeting (.c state) (.c (CServer.enrolledIn
    (rawSetupRequest setting.G (setupRequestOf setting.G (meeting.own setting) random.clientNonce)).entry state)) := by
  have welcome := cWelcome agrees honest stands plain writes
  have opening : setupBytes setting.G (meeting.own setting) token random.clientNonce =
      CServer.msgSetup :: CServer.setupRequestBytes (rawToken token)
        (rawSetupRequest setting.G (setupRequestOf setting.G (meeting.own setting) random.clientNonce)) := by
    rw [setupBytes, setupRequestBytes_eq]
    rfl
  have answer : challengeBytes setting.G (meeting.challenge setting random) =
      CServer.setupChallengeBytes setting.so.toSodium setting.c (rawSetupDrawn setting.G meeting.drawn.setup)
        (signature setting.G (setupChallengeProof setting.G setting.rust
          (setupRequestOf setting.G (meeting.own setting) random.clientNonce) meeting.drawn.setup)) := by
    rw [← setupChallengeBytes_eq agrees.library.library agrees.contexts]
    rfl
  have turn : Turn CServer.Connected.mk (CServer.handleClient setting.so.toSodium setting.c (meeting.cCall setting.G)) state
      (setupSent setting.G (meeting.own setting) token (setting.rust.staticPub setting.G) random
        (meeting.challenge setting random)) (challengeBytes setting.G (meeting.challenge setting random) ++ lits [0x01])
      (CServer.enrolledIn (rawSetupRequest setting.G (setupRequestOf setting.G (meeting.own setting)
        random.clientNonce)).entry state) none := by
    rw [setupSent, opening, answer]
    exact CServer.turn_handleClient_setup (CServer.turn_handleSetup welcome)
  have waits : Waits CServer.Connected.mk (CServer.handleClient setting.so.toSodium setting.c (meeting.cCall setting.G)) state
      (setupBytes setting.G (meeting.own setting) token random.clientNonce)
      (challengeBytes setting.G (meeting.challenge setting random)) := by
    rw [opening, answer]
    exact CServer.waits_handleClient_setup (CServer.waits_handleSetup welcome)
  constructor
  · exact c_listens state
  · obtain ⟨failure, after, later, run, output⟩ := waits.opened
    simp only [transcriptOf, call, serverEnd, run]
    exact output
  · simp only [transcriptOf, call, serverEnd, turn.opened]
    rfl

end C

end Setup

section Replay

variable {noted : CServer.ReplayKey → Prop} {key : CServer.ReplayKey} {file : StateFile UInt8}

theorem Remembers.inserted {cache : Server.ReplayCache UInt8} (remembers : Remembers noted (.rust cache))
    {pid nonceC : Block UInt8 32} (fresh : Server.replayKey pid nonceC ∉ cache.keys)
    (own : noted (Server.replayKey pid nonceC)) :
    Remembers noted (.rust (cache.inserted (Server.replayKey pid nonceC))) := by
  constructor
  · have small := small_rustCall remembers.small pid nonceC
    rw [Server.ReplayCache.checkAndInsert_fresh fresh] at small
    exact small
  · intro key member
    have grown := Server.inserted_keys cache (Server.replayKey pid nonceC) (Server.ReplayCache.mem_keys.mpr member)
    rcases Finset.mem_insert.mp grown with same | past
    · rw [same]
      exact own
    · exact remembers.keys key (Server.ReplayCache.mem_keys.mp past)

theorem Remembers.takePersistBlob {cache : Server.ReplayCache UInt8} (remembers : Remembers noted (.rust cache))
    (order : SetOrder (Server.ReplayKey UInt8)) (now : Nat) (force : Bool) :
    Remembers noted (.rust (cache.takePersistBlob order now force).2) ∧
      ∀ data ∈ (cache.takePersistBlob order now force).1, SavedOf noted data := by
  obtain ⟨current, previous⟩ := cache.takePersistBlob_keys order now force
  constructor
  · obtain ⟨small, keys⟩ := remembers
    constructor
    · simp only [Cache.Small, current, previous]
      exact small
    · simp only [Cache.current, Cache.previous, current, previous]
      exact keys
  · intro data taken
    unfold Server.ReplayCache.takePersistBlob at taken
    split at taken
    · cases taken
    · cases taken
      exact ⟨_, .rust cache order, remembers⟩

omit [AddCommGroup P] in
theorem remembersIn_persistReplay (moment : Server.Moment UInt8 P) {blob : Option (List UInt8)}
    (state : Server.ServerState UInt8 P) (remembers : RemembersIn noted state.replayFile)
    (saved : ∀ data ∈ blob, SavedOf noted data) :
    RemembersIn noted (Server.persistReplay moment blob state).2.replayFile := by
  cases blob with
  | none => exact remembers
  | some data =>
    change RemembersIn noted (replaceFile moment.diskFault data state.replayFile).2
    unfold replaceFile
    split
    · exact .present (saved data rfl)
    · exact remembers

omit [AddCommGroup P] in
theorem remembers_admission {cache : Server.ReplayCache UInt8} (remembers : Remembers noted (.rust cache))
    {pid nonceC : Block UInt8 32} (fresh : Server.replayKey pid nonceC ∉ cache.keys)
    (own : noted (Server.replayKey pid nonceC)) (vars : Vars) (moment : Server.Moment UInt8 P) :
    Remembers noted (.rust (Server.admission vars moment cache (Server.replayKey pid nonceC)).2) ∧
      ∀ data ∈ (Server.admission vars moment cache (Server.replayKey pid nonceC)).1, SavedOf noted data := by
  have inserted := remembers.inserted fresh own
  unfold Server.admission
  split
  · refine ⟨inserted, ?_⟩
    intro data taken
    cases taken
  · exact inserted.takePersistBlob _ _ _

omit [AddCommGroup P] in
theorem remembers_takeFinalBlob {vars : Vars} {moment : Server.Moment UInt8 P} {state after : Server.ServerState UInt8 P}
    {blob : Option (List UInt8)} (remembers : Remembers noted (.rust state.replay))
    (run : Server.takeFinalBlob vars moment state = (.ok blob, after)) :
    (∃ replay, after = { state with replay }) ∧ Remembers noted (.rust after.replay) ∧ ∀ data ∈ blob, SavedOf noted data := by
  unfold Server.takeFinalBlob at run
  split at run
  · cases run
    refine ⟨⟨_, rfl⟩, remembers, ?_⟩
    intro data taken
    cases taken
  · cases run
    exact ⟨⟨_, rfl⟩, remembers.takePersistBlob _ _ _⟩

theorem rust_remembers [DecidableEq P] [DecidableEq S] {G : Suite UInt8 S P} {ctx : Server.ServerContext S}
    {moments : Server.AuthMoments UInt8 P}
    {random : Server.AuthRandom UInt8 S} {v3 : Bool} {start after : Server.Connected UInt8 P}
    {record : Server.DeviceRecord P} {session : Server.AuthSession UInt8 S P}
    (run : Server.handleAuthCommon G ctx moments random v3 start = (.ok (record, session), after))
    (own : noted (Server.replayKey session.pid session.nonceC)) (replay : Remembers noted (.rust start.server.replay))
    (replayFile : RemembersIn noted start.server.replayFile) :
    after.server.registryFile = start.server.registryFile ∧ Remembers noted (.rust after.server.replay) ∧
      RemembersIn noted after.server.replayFile := by
  simp only [Server.handleAuthCommon, Effect.bind_ok, Server.readShared_ok, Server.onConn_ok, Server.onServer_ok,
    Effect.lift_apply, Prod.mk.injEq] at run
  obtain ⟨request, opened, ⟨_, openedServer⟩, blob, admitted, ⟨admitRun, _⟩, _, written, ⟨writeRun, _⟩, state, _,
    ⟨rfl, rfl⟩, ⟨id, found⟩, _, ⟨_, rfl⟩, _, _, ⟨_, rfl⟩, _, replied, ⟨_, repliedServer⟩, _, confirmed,
    ⟨_, confirmedServer⟩, last, taken, ⟨takeRun, _⟩, _, final, ⟨finalRun, _⟩, done⟩ := run
  cases done
  obtain ⟨fresh, isBlob, admittedServer⟩ := Server.admitSession_ok admitRun
  rw [openedServer] at fresh isBlob admittedServer
  obtain ⟨admittedReplay, blobSaved⟩ := remembers_admission replay fresh own ctx.vars moments.admission
  rw [← isBlob] at blobSaved
  have writtenFile : RemembersIn noted written.server.replayFile := by
    have kept := remembersIn_persistReplay moments.admission admitted.server
      (by rw [admittedServer]; exact replayFile) blobSaved
    rw [writeRun] at kept
    exact kept
  have writtenServer := Server.persistReplay_ok writeRun
  rw [admittedServer] at writtenServer
  have writtenReplay : Remembers noted (.rust confirmed.server.replay) := by
    rw [confirmedServer, repliedServer, writtenServer]
    exact admittedReplay
  obtain ⟨⟨latest, takenServer⟩, takenReplay, lastSaved⟩ := remembers_takeFinalBlob writtenReplay takeRun
  have finalFile : RemembersIn noted after.server.replayFile := by
    have kept := remembersIn_persistReplay moments.completion taken.server
      (by rw [takenServer, confirmedServer, repliedServer]; exact writtenFile) lastSaved
    rw [finalRun] at kept
    exact kept
  have finalServer := Server.persistReplay_ok finalRun
  refine ⟨?_, ?_, finalFile⟩
  · rw [finalServer, takenServer, confirmedServer, repliedServer, writtenServer]
  · rw [finalServer]
    exact takenReplay

theorem Remembers.cRotated {cache : CServer.ReplayCache} (remembers : Remembers noted (.c cache)) (key : CServer.ReplayKey)
    (member : key ∈ cache.rotate.current.keys ∨ key ∈ cache.rotate.previous.keys) : noted key := by
  apply remembers.keys key
  simp only [Cache.current, Cache.previous, List.mem_toFinset]
  unfold CServer.ReplayCache.rotate at member
  split at member
  · rcases member with young | old
    · cases young
    · exact .inl old
  · exact member

theorem Remembers.cChecked {cache : CServer.ReplayCache} (remembers : Remembers noted (.c cache)) {pid nonceC : Block UInt8 32}
    (own : noted (CServer.replayKey pid nonceC)) : Remembers noted (.c (cache.checkAndInsert true pid nonceC).2) := by
  have small := small_cCall remembers.small true pid nonceC
  have checked := CServer.ReplayCache.checkAndInsert_checked true cache pid nonceC
  generalize cache.checkAndInsert true pid nonceC = outcome at checked small ⊢
  refine ⟨small, ?_⟩
  intro key member
  cases checked with
  | replayed _ => exact remembers.keys key member
  | starved _ refused => cases refused
  | accepted _ grown keys =>
    simp only [Cache.current, Cache.previous, List.mem_toFinset, keys] at member
    rcases member with young | old
    · rcases List.mem_append.mp young with past | new
      · exact remembers.cRotated key (.inl past)
      · rw [List.mem_singleton.mp new]
        exact own
    · exact remembers.cRotated key (.inr old)

theorem remembers_written {cache : CServer.ReplayCache} (remembers : Remembers noted (.c cache))
    (remembersIn : RemembersIn noted file) (now : Nat) :
    Remembers noted (.c (CServer.written cache file now).1) ∧ RemembersIn noted (CServer.written cache file now).2 := by
  unfold CServer.written
  split
  · exact ⟨⟨remembers.small, remembers.keys⟩, .present ⟨_, .c cache, remembers⟩⟩
  · exact ⟨remembers, remembersIn⟩

end Replay

section Auth

variable {vars : Vars} {random : Client.AuthRandom UInt8 S}

abbrev Meeting.request (setting : Setting ι S P) (meeting : Meeting ι S P) (mode : AuthMode)
    (random : Client.AuthRandom UInt8 S) : Server.AuthRequest UInt8 S P :=
  honestRequest setting.G setting.rust (meeting.own setting) mode random (meeting.roles setting mode random)

variable (agrees : setting.Agrees) (call : meeting.call = .auth vars random)
  (honest : HonestAuth setting.G setting.rust setting.device meeting.toSession vars random)
  (fresh : random.nonceC ∉ before.filterMap fun meeting => meeting.nonce) (setUp : SetUpIn before meeting.device)

theorem selected_own (setting : Setting ι S P) (meeting : Meeting ι S P) (mode : AuthMode)
    (random : Client.AuthRandom UInt8 S) :
    Selected setting.G setting.rust (meeting.request setting mode random) (deviceRecord setting.G (meeting.own setting)) := by
  obtain ⟨fast, only⟩ := mode
  cases fast with
  | false =>
    change Server.computePid setting.G ((meeting.own setting).pub setting.G) _ _ _ = _
    rfl
  | true =>
    change Server.computeDeviceHandle setting.G ((meeting.own setting).pub setting.G) = _
    rfl

theorem sessionSent_eq (setting : Setting ι S P) (meeting : Meeting ι S P) (mode : AuthMode)
    (random : Client.AuthRandom UInt8 S) : sessionSent setting.G (meeting.own setting) mode
      (setting.rust.staticPub setting.G) random (rolesBytes setting.G (meeting.roles setting mode random))
      (replyOf setting.G (meeting.served setting mode random)) =
    lits [Server.msgAuth (usesV3 mode)] ++ ((headerBytes mode (Client.computeDeviceHandle setting.G
      ((meeting.own setting).pub setting.G)) ++ (meeting.request setting mode random).toAuthPayload.encode setting.G) ++
        ((meeting.served setting mode random).tagC setting.G).bytes) := by
  have agrees : Agrees ((meeting.own setting).session setting.G (setting.rust.staticPub setting.G) random
      (replyOf setting.G (meeting.served setting mode random))) (meeting.served setting mode random) := sessions_agree
  rw [sessionSent, requestSent_eq, agrees.tagC, List.append_assoc]

include agrees honest in
theorem registered_selected {entry : Server.RegistryEntry UInt8 P} (registered : Registered setting before entry)
    (selected : Selected setting.G setting.rust (meeting.request setting (authMode vars) random) entry.2) :
    entry = deviceEntry setting.G (meeting.own setting) := by
  obtain ⟨i, _, rfl⟩ := registered
  have same : (setting.device i).root = (setting.device meeting.device).root := by
    generalize authMode vars = mode at selected
    obtain ⟨fast, only⟩ := mode
    cases fast with
    | false => exact honest.pid i selected
    | true => exact agrees.devices.handles _ _ selected
  rw [agrees.devices.distinctRoots same]
  rfl

include fresh in
omit [Field S] [AddCommGroup P] [Module S P] in
theorem not_noted (pid : Block UInt8 32) : ¬ Noted before (CServer.replayKey pid random.nonceC) := by
  intro ⟨pid', nonce, past, same⟩
  have bytes := congrArg Block.bytes same
  rw [CServer.replayKey, CServer.replayKey, Block.append_bytes, Block.append_bytes] at bytes
  have nonces := Block.bytes_inj.mp (List.append_inj_right bytes (by simp))
  rw [nonces] at fresh
  exact fresh past

omit [Field S] [AddCommGroup P] [Module S P] in
theorem noted_own (before : List (Meeting ι S P)) (call : meeting.call = .auth vars random) (pid : Block UInt8 32) :
    Noted (before ++ [meeting]) (CServer.replayKey pid random.nonceC) := by
  have own : meeting.nonce = some random.nonceC := by rw [Session.nonce, call]
  have last : meeting ∈ before ++ [meeting] := List.mem_append_right _ (List.mem_singleton_self _)
  exact ⟨pid, random.nonceC, List.mem_filterMap.mpr ⟨meeting, last, own⟩, rfl⟩

section Rust

variable {state : Server.ServerState UInt8 P} (stands : RustStands setting before state)
include agrees honest fresh setUp stands

variable [DecidableEq P] [DecidableEq S]

theorem rustAdmissible : ∃ id, Server.Admissible setting.G setting.rust meeting.moments.auth (usesV3 (authMode vars)) state
    (headerBytes (authMode vars) (Client.computeDeviceHandle setting.G ((meeting.own setting).pub setting.G)) ++
      (meeting.request setting (authMode vars) random).toAuthPayload.encode setting.G)
    (meeting.request setting (authMode vars) random) id (deviceRecord setting.G (meeting.own setting)) := by
  have sent := roles_sent agrees.devices honest
  have alone : Alone setting.G setting.rust state (meeting.request setting (authMode vars) random) := by
    intro id id' record record' stored stored' selected selected'
    have own := registered_selected agrees honest ((stands.registry _ _).mp stored) selected
    have own' := registered_selected agrees honest ((stands.registry _ _).mp stored') selected'
    exact congrArg Sigma.fst (own.trans own'.symm)
  have selects : Selects setting.G setting.rust state (meeting.request setting (authMode vars) random)
      (deviceRecord setting.G (meeting.own setting)) :=
    ⟨_, (stands.registry _ _).mpr ⟨meeting.device, setUp, rfl⟩, selected_own setting meeting (authMode vars) random, rfl⟩
  have finds : RustFinds setting.G setting.rust meeting.moments.auth.lookup state
      (meeting.request setting (authMode vars) random) (deviceRecord setting.G (meeting.own setting)) :=
    (rustFinds_iff (indexAgrees_of_indexed stands.indexed _) alone).mpr selects
  obtain ⟨id, found⟩ := finds
  refine ⟨id, sentRequest_accepted sent honest.gate honest.deviceProof honest.deviceEph, ?_, found,
    sentRequest_verified sent honest.deviceProof honest.deviceEph, honest.writes.1, honest.writes.2⟩
  intro member
  exact not_noted fresh _ (stands.replay.keys _ (Server.ReplayCache.mem_keys.mp member))

include call in
theorem rustAuth_serves : ∃ after, RustStands setting (before ++ [meeting]) after ∧
    ServerPlays setting meeting (.rust state) (.rust after) := by
  obtain ⟨id, admissible⟩ := rustAdmissible agrees honest fresh setUp stands
  have serves : ∃ after, Server.AfterSession _ state after ∧ Turn Server.Connected.mk (Server.handleAuthCommon setting.G
      setting.rust meeting.moments.auth meeting.drawn.auth (usesV3 (authMode vars))) state _ _ after _ :=
    Server.turn_handleAuthCommon admissible
  obtain ⟨after, changed, served⟩ := serves
  obtain ⟨registryFile, replay, replayFile⟩ := rust_remembers served.opened (noted_own before call _)
    (stands.replay.mono fun _ => noted_append) (stands.replayFile.mono fun _ => noted_append)
  have same : ∀ i, SetUpIn before i ↔ SetUpIn (before ++ [meeting]) i := setUpIn_auth (not_enrolls_of_auth call)
  have calm : after.failures = .empty := changed.failures.trans stands.calm
  have standsAfter : RustStands setting (before ++ [meeting]) after := by
    refine ⟨calm, ?_, ?_, ?_, replay, replayFile⟩
    · rw [Server.ServerState.Indexed, changed.reg, changed.handleIndex]
      exact stands.indexed
    · intro id record
      rw [changed.reg, stands.registry]
      unfold Registered
      simp only [same]
    · dsimp only at registryFile
      rw [registryFile]
      exact stands.registryFile.same same
  have turn : Turn Server.Connected.mk (Server.handleClient setting.G setting.rust meeting.moments meeting.peerKey
      meeting.drawn) state (sessionSent setting.G (meeting.own setting) (authMode vars) (setting.rust.staticPub setting.G)
        random (rolesBytes setting.G (meeting.roles setting (authMode vars) random))
        (replyOf setting.G (meeting.served setting (authMode vars) random)))
      (replyBytes setting.G (replyOf setting.G (meeting.served setting (authMode vars) random))) after
      (.ok (.established (deviceRecord setting.G (meeting.own setting))
        (meeting.served setting (authMode vars) random))) := by
    rw [sessionSent_eq, replyBytes_replyOf]
    refine Server.turn_handleClient calm ?_
    rw [Server.dispatch_auth]
    exact served.last fun _ => rfl
  refine ⟨after, standsAfter, ?_⟩
  constructor
  · exact rust_listens state
  · simp only [transcriptOf, call]
    rw [requestSent_eq, replyBytes_replyOf]
    exact Server.output_of_waits (Server.waits_auth admissible)
  · simp only [transcriptOf, call, serverEnd, turn.opened]
    rfl

end Rust

section C

variable {state : CServer.ServerState} (stands : CStands setting before state)
include agrees honest setUp stands

theorem find?_own {p : CServer.RegEntry → Bool} (decides : ∀ entry : Server.RegistryEntry UInt8 P,
      p (entryOf setting.G entry) = true ↔
        Selected setting.G setting.rust (meeting.request setting (authMode vars) random) entry.2) :
    state.reg.find? p = some (entryOf setting.G (deviceEntry setting.G (meeting.own setting))) := by
  obtain ⟨records, lists, isReg⟩ := stands.registry
  have only : ∀ entry ∈ state.reg, p entry = true →
      entry = entryOf setting.G (deviceEntry setting.G (meeting.own setting)) := by
    intro entry member holds
    rw [isReg] at member
    obtain ⟨own, listed, rfl⟩ := List.mem_map.mp member
    rw [registered_selected agrees honest ((lists.complete own).mp listed) ((decides own).mp holds)]
  rw [find?_eq_some_iff_of_alone fun a inA b inB holdsA holdsB => (only a inA holdsA).trans (only b inB holdsB).symm]
  constructor
  · rw [isReg]
    exact List.mem_map_of_mem ((lists.complete _).mpr ⟨meeting.device, setUp, rfl⟩)
  · exact (decides _).mpr (selected_own setting meeting (authMode vars) random)

theorem cFindRecord_own : CServer.findRecord setting.so.toSodium (setting.c.serverPub setting.so.toSodium) state.reg
    (rawRequest setting.G (meeting.request setting (authMode vars) random)) =
      some (rawRecord setting.G ((meeting.own setting).id setting.G) (deviceRecord setting.G (meeting.own setting))) := by
  have finds := fun p => find?_own agrees honest setUp stands (p := p)
  have m := agrees.library.library
  have pid : ∀ entry : Server.RegistryEntry UInt8 P, CImpl.computePid setting.so.toSodium (entryOf setting.G entry).pub
      random.nonceC (setting.G.compress (random.ephSecret • setting.G.basepoint))
      (setting.G.compress (setting.rust.staticPub setting.G)) =
        Server.computePid setting.G entry.2.pubkey random.nonceC (random.ephSecret • setting.G.basepoint)
          (setting.rust.staticPub setting.G) := fun entry => computePid_eq m _ _ _ _
  rw [agrees.contexts.serverPub m]
  generalize isMode : authMode vars = mode at finds ⊢
  obtain ⟨fast, only⟩ := mode
  cases fast with
  | false =>
    refine finds _ ?_
    intro entry
    rw [decide_eq_true_iff]
    change CImpl.computePid _ _ random.nonceC (setting.G.compress (random.ephSecret • setting.G.basepoint)) _ = _ ↔
      Server.computePid setting.G entry.2.pubkey _ _ _ = _
    rw [pid]
    rfl
  | true =>
    have found : CServer.lookupRecordByHandle setting.so.toSodium state.reg
        (Client.computeDeviceHandle setting.G ((meeting.own setting).pub setting.G)) =
          some (entryOf setting.G (deviceEntry setting.G (meeting.own setting))) := by
      refine finds _ ?_
      intro entry
      rw [decide_eq_true_iff]
      change CImpl.computeDeviceHandle _ (setting.G.compress entry.2.pubkey) = _ ↔
        Server.computeDeviceHandle setting.G entry.2.pubkey = _
      rw [computeDeviceHandle_eq m]
    have own : CImpl.computePid setting.so.toSodium (entryOf setting.G (deviceEntry setting.G (meeting.own setting))).pub
        random.nonceC (setting.G.compress (random.ephSecret • setting.G.basepoint))
        (setting.G.compress (setting.rust.staticPub setting.G)) =
          (rawRequest setting.G (meeting.request setting ⟨true, only⟩ random)).pid := pid _
    change (do
      let record ← CServer.lookupRecordByHandle setting.so.toSodium state.reg
        (Client.computeDeviceHandle setting.G ((meeting.own setting).pub setting.G))
      guard (CImpl.computePid setting.so.toSodium record.pub random.nonceC
        (setting.G.compress (random.ephSecret • setting.G.basepoint))
        (setting.G.compress (setting.rust.staticPub setting.G)) =
          (rawRequest setting.G (meeting.request setting ⟨true, only⟩ random)).pid)
      pure record) = _
    rw [found, Option.bind_eq_bind, Option.bind_some, own]
    simp only [guard_true, Option.bind_eq_bind]
    rfl

theorem cAdmissible [DecidableEq P] [DecidableEq S] (plain : PlainAuth setting meeting (authMode vars) random)
    (writes : meeting.moment.diskFault = none)
    (fresh : random.nonceC ∉ before.filterMap fun meeting => meeting.nonce) :
    CServer.Admissible setting.so.toSodium setting.c meeting.moment (rawAuthDrawn setting.G meeting.drawn.auth)
      (usesV3 (authMode vars)) state
      (headerBytes (authMode vars) (Client.computeDeviceHandle setting.G ((meeting.own setting).pub setting.G)) ++
        (meeting.request setting (authMode vars) random).toAuthPayload.encode setting.G)
      (rawRequest setting.G (meeting.request setting (authMode vars) random))
      (rawServed setting.G (meeting.served setting (authMode vars) random)) := by
  have sent := roles_sent agrees.devices honest
  refine cAdmissible_of_rust agrees.library.library agrees.contexts
    (sentRequest_accepted sent honest.gate honest.deviceProof honest.deviceEph)
    (cFindRecord_own agrees honest setUp stands) (sentRequest_verified sent honest.deviceProof honest.deviceEph)
    plain.request ?_ ?_ writes
  · have secret : meeting.drawn.auth.ephSecret ≠ 0 := by
      intro zero
      apply honest.serverEph
      rw [zero, zero_smul]
    intro zero
    apply honest.deviceEph
    rw [← inv_smul_smul₀ secret (random.ephSecret • setting.G.basepoint)]
    exact (congrArg _ zero).trans (smul_zero _)
  · apply Bool.eq_false_of_not_eq_true
    intro member
    have kept := stands.replay.keys
    simp only [Cache.current, Cache.previous, List.mem_toFinset] at kept
    exact not_noted fresh _ (kept _ (CServer.ReplayCache.contains_iff.mp member))

variable (plain : PlainAuth setting meeting (authMode vars) random) (writes : meeting.moment.diskFault = none)
include call

omit agrees honest setUp in
theorem cAuth_stands (pid : Block UInt8 32) : CStands setting (before ++ [meeting])
    (CServer.admitted setting.c.vars meeting.moment pid random.nonceC state) := by
  have same : ∀ i, SetUpIn before i ↔ SetUpIn (before ++ [meeting]) i := setUpIn_auth (not_enrolls_of_auth call)
  obtain ⟨records, lists, isReg⟩ := stands.registry
  have replay : Remembers (Noted (before ++ [meeting])) (.c state.replay) := stands.replay.mono fun _ => noted_append
  have replayFile : RemembersIn (Noted (before ++ [meeting])) state.replayFile :=
    stands.replayFile.mono fun _ => noted_append
  have both : Remembers (Noted (before ++ [meeting]))
      (.c (CServer.admitted setting.c.vars meeting.moment pid random.nonceC state).replay) ∧
      RemembersIn (Noted (before ++ [meeting]))
        (CServer.admitted setting.c.vars meeting.moment pid random.nonceC state).replayFile := by
    unfold CServer.admitted
    split
    · exact ⟨replay, replayFile⟩
    · exact remembers_written (replay.cChecked (noted_own before call pid)) replayFile _
  refine ⟨⟨records, lists.same same, ?_⟩, ?_, both.1, both.2⟩
  · rw [CServer.admitted_reg, isReg]
  · rw [CServer.admitted_registryFile]
    exact stands.registryFile.same same

include plain writes fresh

theorem cAuth_serves [DecidableEq P] [DecidableEq S] : ∃ after, CStands setting (before ++ [meeting]) after ∧
    ServerPlays setting meeting (.c state) (.c after) := by
  have m := agrees.library.library
  have admissible := cAdmissible agrees honest setUp stands plain writes fresh
  have standsAfter : CStands setting (before ++ [meeting]) (CServer.admitted setting.c.vars meeting.moment
      (rawRequest setting.G (meeting.request setting (authMode vars) random)).pid random.nonceC state) :=
    cAuth_stands call stands _
  have first : CServer.authMessage (usesV3 (authMode vars)) = Server.msgAuth (usesV3 (authMode vars)) := by
    cases usesV3 (authMode vars) <;> rfl
  have opening : requestSent setting.G (meeting.own setting) (authMode vars) (setting.rust.staticPub setting.G) random
      (rolesBytes setting.G (meeting.roles setting (authMode vars) random)) =
        CServer.authMessage (usesV3 (authMode vars)) ::
          (headerBytes (authMode vars) (Client.computeDeviceHandle setting.G ((meeting.own setting).pub setting.G)) ++
            (meeting.request setting (authMode vars) random).toAuthPayload.encode setting.G) := by
    rw [requestSent_eq, first]
    rfl
  have whole : sessionSent setting.G (meeting.own setting) (authMode vars) (setting.rust.staticPub setting.G) random
      (rolesBytes setting.G (meeting.roles setting (authMode vars) random))
      (replyOf setting.G (meeting.served setting (authMode vars) random)) =
        CServer.authMessage (usesV3 (authMode vars)) ::
          (headerBytes (authMode vars) (Client.computeDeviceHandle setting.G ((meeting.own setting).pub setting.G)) ++
            (meeting.request setting (authMode vars) random).toAuthPayload.encode setting.G ++
              ((rawServed setting.G (meeting.served setting (authMode vars) random)).tagC setting.so.toSodium).bytes) := by
    rw [sessionSent_eq, first, tagC_rawServed m]
    rfl
  have answer : replyBytes setting.G (replyOf setting.G (meeting.served setting (authMode vars) random)) =
      (rawServed setting.G (meeting.served setting (authMode vars) random)).payload2 setting.so.toSodium := by
    rw [replyBytes_replyOf, payload2_rawServed m]
  have waits : Waits CServer.Connected.mk (CServer.handleClient setting.so.toSodium setting.c (meeting.cCall setting.G)) state
      _ _ := CServer.waits_handleClient_auth (CServer.waits_handleAuth admissible)
  have turn : Turn CServer.Connected.mk (CServer.handleClient setting.so.toSodium setting.c (meeting.cCall setting.G)) state
      _ _ _ _ := CServer.turn_handleClient_auth (CServer.turn_handleAuth admissible)
  rw [← opening, ← answer] at waits
  rw [← whole, ← answer] at turn
  refine ⟨_, standsAfter, ?_⟩
  constructor
  · exact c_listens state
  · obtain ⟨failure, after, later, run, output⟩ := waits.opened
    simp only [transcriptOf, call, serverEnd, run]
    exact output
  · simp only [transcriptOf, call, serverEnd, turn.opened]
    rfl

end C

end Auth

end ZkArche.Interop

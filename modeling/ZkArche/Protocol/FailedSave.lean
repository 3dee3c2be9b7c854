import ZkArche.CServer.Enrollment
import ZkArche.Protocol.SameRegistry

namespace ZkArche.Server

open Foundation

variable {β S P : Type} [Octet β] [Field S] [AddCommGroup P] [Module S P]
variable [DecidableEq β] [DecidableEq P]

/-- `handle_setup` up to the insertion into the registry. -/
def verifiedSetup (G : Suite β S P) (ctx : ServerContext S) (moments : SetupMoments β P) (peerKey : String)
    (random : SetupRandom β S) : Effect Failure (Connected β P) (SetupRequest β P) := do
  checkRateLimit ctx.vars moments.admission peerKey
  let request ← onConn (readSetupRequest G ctx.policy moments.pairing.now)
  let state ← readShared
  let checked ← Effect.lift (checkCollision G state.reg request)
  onConn (challengeSetup G ctx checked.toSetupRequest random)
  let _ ← onConn (verifySetup G ctx checked.toSetupRequest random)
  pure checked.toSetupRequest

/-- The registry and the handle index hold the same entries. -/
def SameMaps (before after : ServerState β P) : Prop :=
  (∀ id, after.reg.lookup id = before.reg.lookup id) ∧
    ∀ handle, after.handleIndex.lookup handle = before.handleIndex.lookup handle

/-- The registry and the handle index hold exactly what the request asks for. -/
def AlreadyEnrolled (G : Suite β S P) (state : ServerState β P) (request : SetupRequest β P) : Prop :=
  state.reg.lookup request.deviceId = some request.record ∧
    state.handleIndex.lookup (computeDeviceHandle G request.deviceStaticPub) = some (request.deviceId, request.record)

section Rust

variable {G : Suite β S P} {ctx : ServerContext S} {moments : SetupMoments β P} {peerKey : String}
  {random : SetupRandom β S} {before middle : Connected β P} {request : SetupRequest β P} {error : IoError}

theorem handleSetup_eq : handleSetup G ctx moments peerKey random = (do
    let request ← verifiedSetup G ctx moments peerKey random
    onServer (enrollDevice G moments.insertion request)
    onConn acknowledge
    pure request) := by
  simp only [handleSetup, verifiedSetup, bind_assoc, pure_bind]

def HasMaps (server : ServerState β P) (state : ServerState β P) : Prop :=
  state.reg = server.reg ∧ state.handleIndex = server.handleIndex

omit [Octet β] [AddCommGroup P] [DecidableEq β] [DecidableEq P] in
theorem isRateLimited_hasMaps (vars : Vars) (moment : Moment β P) (peerKey : String) (server : ServerState β P) :
    Effect.Keeps (HasMaps server) (isRateLimited vars moment peerKey) := by
  intro state same
  obtain ⟨failures, changed⟩ := isRateLimited_state vars moment peerKey state
  rw [changed]
  exact same

theorem keeps_maps_verifiedSetup (server : ServerState β P) :
    Effect.Keeps (fun state => HasMaps server state.server) (verifiedSetup G ctx moments peerKey random) := by
  have onlyConn : ∀ {α : Type} (part : Effect Failure (Conn β) α),
      Effect.Keeps (fun state => HasMaps server state.server) (onConn part) :=
    fun part => keeps_onConn part (HasMaps server)
  unfold verifiedSetup checkRateLimit
  apply Effect.Keeps.bind
  · apply Effect.Keeps.bind (keeps_onServer (isRateLimited_hasMaps _ _ _ _))
    intro _
    exact Effect.keeps_failIf _ _
  · intro _
    apply Effect.Keeps.bind (onlyConn _)
    intro _
    apply Effect.Keeps.bind (keeps_readShared _)
    intro _
    refine Effect.Keeps.bind (Effect.keeps_lift _) ?_
    intro _
    apply Effect.Keeps.bind (onlyConn _)
    intro _
    apply Effect.Keeps.bind (onlyConn _)
    intro _
    exact Effect.keeps_pure _

theorem verifiedSetup_maps (valid : verifiedSetup G ctx moments peerKey random before = (.ok request, middle)) :
    HasMaps before.server middle.server := by
  have keeps : Effect.Keeps (fun state => HasMaps before.server state.server)
      (verifiedSetup G ctx moments peerKey random) := keeps_maps_verifiedSetup before.server
  have same := keeps before ⟨rfl, rfl⟩
  rw [valid] at same
  exact same

theorem lookup_insert_same {κ ν : Type} [DecidableEq κ] {map : AList fun _ : κ => ν} {key : κ} {value : ν} :
    (∀ other, (map.insert key value).lookup other = map.lookup other) ↔ map.lookup key = some value := by
  constructor
  · intro same
    rw [← same key, AList.lookup_insert]
  · intro present other
    by_cases own : other = key
    · rw [own, AList.lookup_insert, present]
    · exact AList.lookup_insert_ne own

/-- When the file cannot be written the device is told so, and the two maps keep its record. -/
theorem handleSetup_fault (valid : verifiedSetup G ctx moments peerKey random before = (.ok request, middle))
    (fault : moments.insertion.diskFault = some error) :
    (handleSetup G ctx moments peerKey random before).1 = .error (.io error) ∧
    (handleSetup G ctx moments peerKey random before).2.server.registryFile = middle.server.registryFile ∧
    (handleSetup G ctx moments peerKey random before).2.server.reg =
      before.server.reg.insert request.deviceId request.record ∧
    (handleSetup G ctx moments peerKey random before).2.server.handleIndex =
      before.server.handleIndex.insert (computeDeviceHandle G request.deviceStaticPub) (request.deviceId, request.record) := by
  obtain ⟨reg, handleIndex⟩ := verifiedSetup_maps valid
  have failed : onServer (enrollDevice G moments.insertion request) middle =
      (.error (.io error), { middle with server := { middle.server with
        reg := middle.server.reg.insert request.deviceId request.record
        handleIndex := middle.server.handleIndex.insert (computeDeviceHandle G request.deviceStaticPub)
          (request.deviceId, request.record) } }) := by
    unfold enrollDevice saveRegistryAtomic
    rw [fault]
    rfl
  rw [handleSetup_eq, Effect.bind_of_ok valid, Effect.bind_of_error failed, ← reg, ← handleIndex]
  exact ⟨rfl, rfl, rfl, rfl⟩

theorem sameMaps_iff_alreadyEnrolled (valid : verifiedSetup G ctx moments peerKey random before = (.ok request, middle))
    (fault : moments.insertion.diskFault = some error) :
    SameMaps before.server (handleSetup G ctx moments peerKey random before).2.server ↔
      AlreadyEnrolled G before.server request := by
  obtain ⟨_, _, reg, handleIndex⟩ := handleSetup_fault valid fault
  rw [SameMaps, reg, handleIndex, lookup_insert_same, lookup_insert_same]
  rfl

end Rust

end ZkArche.Server

namespace ZkArche.CServer

open Foundation CImpl

section C

variable {so : Sodium} {ctx : ServerContext} {moment : Moment} {random : SetupRandom} {before middle : Connected}
  {request : SetupRequest} {error : IoError}

theorem handleSetup_fault (valid : verifiedSetup so ctx moment random before = (.ok request, middle))
    (fault : moment.diskFault = some error) (new : regLookupRecord before.server.reg request.entry.id = none) :
    (handleSetup so ctx moment random before).1 = .error () ∧
      (handleSetup so ctx moment random before).2.server.reg = before.server.reg ++ [request.entry] := by
  have server := verifiedSetup_server valid
  have appended : upsert middle.server.reg request.entry = .appended (before.server.reg ++ [request.entry]) := by
    rw [server, upsert, show before.server.reg.find? (fun entry => entry.id = request.entry.id) = none from new]
  have failed : regUpsert moment.diskFault request.entry middle = (.error (), { middle with server := { middle.server with
      reg := before.server.reg ++ [request.entry], registryFile := .absent } }) := by
    rw [regUpsert, appended, fault]
    rfl
  rw [handleSetup_eq, Effect.bind_of_ok valid, Effect.bind_of_error failed]
  exact ⟨rfl, rfl⟩

theorem upsert_enrolled {arr : List RegEntry} {entry found : RegEntry}
    (enrolled : regLookupRecord arr entry.id = some found) : upsert arr entry = .refused ∨ upsert arr entry = .present := by
  rw [upsert, show arr.find? (fun other => other.id = entry.id) = some found from enrolled]
  simp only
  split
  · exact .inl rfl
  · split
    · exact .inl rfl
    · exact .inr rfl

theorem handleSetup_enrolled (valid : verifiedSetup so ctx moment random before = (.ok request, middle))
    {entry : RegEntry} (enrolled : regLookupRecord before.server.reg request.entry.id = some entry) :
    (handleSetup so ctx moment random before).2.server = before.server := by
  have server := verifiedSetup_server valid
  rw [← server] at enrolled ⊢
  rw [handleSetup_eq, Effect.bind_of_ok valid]
  rcases upsert_enrolled enrolled with refused | present
  · have failed : regUpsert moment.diskFault request.entry middle = (.error (), middle) := by
      rw [regUpsert, refused]
    rw [Effect.bind_of_error failed]
  · have kept : regUpsert moment.diskFault request.entry middle = (.ok (), middle) := by
      rw [regUpsert, present]
    rw [Effect.bind_of_ok kept]
    exact keeps_onConn _ (· = middle.server) middle rfl

theorem reg_kept_iff_enrolled (valid : verifiedSetup so ctx moment random before = (.ok request, middle))
    (fault : moment.diskFault = some error) :
    (handleSetup so ctx moment random before).2.server.reg = before.server.reg ↔
      (regLookupRecord before.server.reg request.entry.id).isSome = true := by
  cases known : regLookupRecord before.server.reg request.entry.id with
  | none =>
    rw [(handleSetup_fault valid fault known).2]
    simp
  | some entry =>
    rw [handleSetup_enrolled valid known]
    simp

end C

end ZkArche.CServer

namespace ZkArche.Protocol

open Foundation

variable {S P : Type} [Field S] [AddCommGroup P] [Module S P] [DecidableEq P]
variable {G : Suite UInt8 S P} {rustCtx : Server.ServerContext S} {so : CImpl.Sodium} {cCtx : CServer.ServerContext}

theorem RustExchange.verifiedSetup {server : Server.ServerState UInt8 P} {moments : Server.SetupMoments UInt8 P}
    {random : Server.SetupRandom UInt8 S} {request : Server.SetupRequest UInt8 P} {conn asked challenged verified
    answered : Conn UInt8} {proof : P × S}
    (exchange : RustExchange G rustCtx moments random request conn asked challenged verified answered proof)
    (peerKey : String) (unknown : server.failures = .empty)
    (free : ∀ pub ∈ Server.registeredKey server.reg request.deviceId, pub = request.deviceStaticPub) :
    Server.verifiedSetup G rustCtx moments peerKey random ⟨server, conn⟩ = (.ok request, ⟨server, verified⟩) := by
  rw [Server.verifiedSetup, Effect.bind_of_ok (checkRateLimit_unknown _ _ _ unknown),
    Effect.bind_of_ok (Server.onConn_of_eq exchange.reads), Effect.bind_of_ok (Server.readShared_apply _),
    Effect.bind_of_ok (Effect.lift_of_ok (Server.checkCollision_apply G free)),
    Effect.bind_of_ok (Server.onConn_of_eq exchange.challenges),
    Effect.bind_of_ok (Server.onConn_of_eq exchange.verifies)]
  rfl

theorem CExchange.verifiedSetup {server : CServer.ServerState} {moment : CServer.Moment} {random : CServer.SetupRandom}
    {request : CServer.SetupRequest} {conn asked challenged verified answered : Conn UInt8}
    (exchange : CExchange so cCtx moment random request conn asked challenged verified answered) :
    CServer.verifiedSetup so cCtx moment random ⟨server, conn⟩ = (.ok request, ⟨server, verified⟩) := by
  have front : ∀ {α : Type} {part : Effect Unit (Conn UInt8) α} {value : α} {before after : Conn UInt8},
      part before = (.ok value, after) → CServer.onConn part ⟨server, before⟩ = (.ok value, ⟨server, after⟩) := by
    intro α part value before after run
    rw [CServer.onConn, Effect.zoom_apply, run]
  rw [CServer.verifiedSetup, Effect.bind_of_ok (front exchange.reads), Effect.bind_of_ok (front exchange.challenges),
    Effect.bind_of_ok (front exchange.verifies)]
  rfl

/-- A setup that passes every check and then cannot be saved is refused, but it leaves the maps of
    the Rust server as they were exactly when they held its record already, and the array of the C
    server exactly when it held the device_id. -/
theorem failed_save_keeps_maps_iff_enrolled :
    (∀ (moments : Server.SetupMoments UInt8 P) (peerKey : String) (random : Server.SetupRandom UInt8 S)
      (before middle : Server.Connected UInt8 P) (request : Server.SetupRequest UInt8 P) (error : IoError),
      Server.verifiedSetup G rustCtx moments peerKey random before = (.ok request, middle) →
      moments.insertion.diskFault = some error →
        (Server.handleSetup G rustCtx moments peerKey random before).1 = .error (.io error) ∧
        (Server.SameMaps before.server (Server.handleSetup G rustCtx moments peerKey random before).2.server ↔
          Server.AlreadyEnrolled G before.server request)) ∧
    (∀ (moment : CServer.Moment) (random : CServer.SetupRandom) (before middle : CServer.Connected)
      (request : CServer.SetupRequest) (error : IoError),
      CServer.verifiedSetup so cCtx moment random before = (.ok request, middle) → moment.diskFault = some error →
        (CServer.regLookupRecord before.server.reg request.entry.id = none →
          (CServer.handleSetup so cCtx moment random before).1 = .error ()) ∧
        ((CServer.handleSetup so cCtx moment random before).2.server.reg = before.server.reg ↔
          (CServer.regLookupRecord before.server.reg request.entry.id).isSome = true)) := by
  constructor
  · intro moments peerKey random before middle request error valid fault
    exact ⟨(Server.handleSetup_fault valid fault).1, Server.sameMaps_iff_alreadyEnrolled valid fault⟩
  · intro moment random before middle request error valid fault
    exact ⟨fun new => (CServer.handleSetup_fault valid fault new).1, CServer.reg_kept_iff_enrolled valid fault⟩

def diskFull : IoError := ⟨.other, "No space left on device (os error 28)"⟩

noncomputable def fullDisk : Server.SetupMoments UInt8 (ZMod 5) :=
  ⟨.quiet, .quiet, { Server.Moment.quiet with diskFault := some diskFull }⟩

theorem one_ne_zero_five : (1 : ZMod 5) ≠ 0 := by decide

noncomputable def newcomer : Presented oneSuite oneSuite.sodium openContext openCContext :=
  presentedTo one_ne_zero_five

theorem newcomer_verified :
    (∀ server : Server.ServerState UInt8 (ZMod 5), server.failures = .empty →
      (∀ pub ∈ Server.registeredKey server.reg newcomer.rustRequest.deviceId, pub = newcomer.rustRequest.deviceStaticPub) →
      ∃ verified, Server.verifiedSetup oneSuite openContext fullDisk "peer" newcomer.rustRandom
        ⟨server, newcomer.rust.conn⟩ = (.ok newcomer.rustRequest, ⟨server, verified⟩)) ∧
    ∀ server : CServer.ServerState, ∃ verified, CServer.verifiedSetup oneSuite.sodium openCContext ⟨0, some diskFull⟩
      newcomer.cRandom ⟨server, newcomer.c.conn⟩ = (.ok newcomer.cRequest, ⟨server, verified⟩) := by
  constructor
  · intro server calm free
    obtain ⟨_, _, verified, _, exchange⟩ := newcomer.rust.exchange
    have same : RustExchange oneSuite openContext fullDisk newcomer.rustRandom newcomer.rustRequest newcomer.rust.conn
        _ _ verified _ _ := ⟨exchange.reads, exchange.challenges, exchange.verifies, exchange.answers⟩
    exact ⟨verified, same.verifiedSetup "peer" calm free⟩
  · intro server
    obtain ⟨_, _, verified, _, exchange⟩ := newcomer.c.exchange
    have same : CExchange oneSuite.sodium openCContext ⟨0, some diskFull⟩ newcomer.cRandom newcomer.cRequest
        newcomer.c.conn _ _ verified _ := ⟨exchange.reads, exchange.challenges, exchange.verifies, exchange.answers⟩
    exact ⟨verified, same.verifiedSetup⟩

/-- The refused device is in the registry of either server afterwards. -/
theorem failed_save_enrolls_newcomer :
    (∃ middle, Server.verifiedSetup oneSuite openContext fullDisk "peer" newcomer.rustRandom
        ⟨.fresh, newcomer.rust.conn⟩ = (.ok newcomer.rustRequest, middle)) ∧
    (∃ middle, CServer.verifiedSetup oneSuite.sodium openCContext ⟨0, some diskFull⟩ newcomer.cRandom
        ⟨cFresh 0, newcomer.c.conn⟩ = (.ok newcomer.cRequest, middle)) ∧
    (Server.handleSetup oneSuite openContext fullDisk "peer" newcomer.rustRandom
        ⟨.fresh, newcomer.rust.conn⟩).1 = .error (.io diskFull) ∧
    ¬ Server.SameMaps .fresh (Server.handleSetup oneSuite openContext fullDisk "peer" newcomer.rustRandom
        ⟨.fresh, newcomer.rust.conn⟩).2.server ∧
    (CServer.handleSetup oneSuite.sodium openCContext ⟨0, some diskFull⟩ newcomer.cRandom
        ⟨cFresh 0, newcomer.c.conn⟩).1 = .error () ∧
    (CServer.handleSetup oneSuite.sodium openCContext ⟨0, some diskFull⟩ newcomer.cRandom
        ⟨cFresh 0, newcomer.c.conn⟩).2.server.reg = [newcomer.cRequest.entry] := by
  obtain ⟨verified, rust⟩ := newcomer_verified.1 .fresh rfl fun pub bound => by cases bound
  obtain ⟨cVerified, c⟩ := newcomer_verified.2 (cFresh 0)
  have fault : fullDisk.insertion.diskFault = some diskFull := rfl
  obtain ⟨refused, appended⟩ := CServer.handleSetup_fault c rfl rfl
  refine ⟨⟨_, rust⟩, ⟨_, c⟩, (Server.handleSetup_fault rust fault).1, ?_, refused, appended⟩
  intro same
  have enrolled := ((Server.sameMaps_iff_alreadyEnrolled rust fault).mp same).1
  cases enrolled

noncomputable def knowingRust : Server.ServerState UInt8 (ZMod 5) :=
  { (Server.ServerState.fresh : Server.ServerState UInt8 (ZMod 5)) with
    reg := AList.insert newcomer.rustRequest.deviceId newcomer.rustRequest.record ∅
    handleIndex := AList.insert (Server.computeDeviceHandle oneSuite newcomer.rustRequest.deviceStaticPub)
      (newcomer.rustRequest.deviceId, newcomer.rustRequest.record) ∅ }

noncomputable def knowingC : CServer.ServerState := { cFresh 0 with reg := [newcomer.cRequest.entry] }

theorem failed_save_keeps_maps_iff_enrolled_again :
    (Server.handleSetup oneSuite openContext fullDisk "peer" newcomer.rustRandom
        ⟨knowingRust, newcomer.rust.conn⟩).1 = .error (.io diskFull) ∧
    Server.SameMaps knowingRust (Server.handleSetup oneSuite openContext fullDisk "peer" newcomer.rustRandom
        ⟨knowingRust, newcomer.rust.conn⟩).2.server ∧
    (CServer.handleSetup oneSuite.sodium openCContext ⟨0, some diskFull⟩ newcomer.cRandom
        ⟨knowingC, newcomer.c.conn⟩).2.server.reg = [newcomer.cRequest.entry] := by
  have enrolled : knowingRust.reg.lookup newcomer.rustRequest.deviceId = some newcomer.rustRequest.record :=
    AList.lookup_insert _
  have free : ∀ pub ∈ Server.registeredKey knowingRust.reg newcomer.rustRequest.deviceId,
      pub = newcomer.rustRequest.deviceStaticPub := by
    intro pub bound
    rw [Server.registeredKey, enrolled] at bound
    cases bound
    rfl
  obtain ⟨verified, rust⟩ := newcomer_verified.1 knowingRust rfl free
  obtain ⟨cVerified, c⟩ := newcomer_verified.2 knowingC
  obtain ⟨ofRust, ofC⟩ := @failed_save_keeps_maps_iff_enrolled _ _ _ _ _ _ oneSuite openContext oneSuite.sodium openCContext
  obtain ⟨refused, kept⟩ := ofRust fullDisk "peer" _ _ _ _ diskFull rust rfl
  refine ⟨refused, kept.mpr ⟨enrolled, AList.lookup_insert _⟩, (ofC ⟨0, some diskFull⟩ _ _ _ _ diskFull c rfl).2.mpr ?_⟩
  have found : CServer.regLookupRecord knowingC.reg newcomer.cRequest.entry.id = some newcomer.cRequest.entry :=
    List.find?_cons_of_pos (decide_eq_true rfl)
  rw [found]
  rfl

end ZkArche.Protocol

import ZkArche.Client.Commands
import ZkArche.Protocol.CDeviceTurns

namespace ZkArche.Protocol

open Foundation Client

variable {S P : Type} [Field S] [AddCommGroup P] [Module S P]
variable {G : Suite UInt8 S P} {so : CClient.ClientSodium} {device : Device UInt8 S} {files : Files UInt8}
  {serverPub : P} {token : Option String} {allowTofu : Bool} {pinned : Option P}

structure OwnFiles (G : Suite UInt8 S P) (device : Device UInt8 S) (files : Files UInt8) : Prop where
  deviceRoot : files.deviceRoot = .absent ∨ files.deviceRoot = .present device.root.bytes 0o600
  devicePub : files.devicePub = .absent ∨ files.devicePub = .present (G.compress (device.pub G)).bytes 0o600
  roleCred : files.roleCred = .absent ∨ files.roleCred = .present (roleCredBytes G (device.cred G)) 0o600

def Files.rooted (device : Device UInt8 S) (files : Files UInt8) : Files UInt8 :=
  { files with deviceRoot := .present device.root.bytes 0o600 }

def Files.provisioned (G : Suite UInt8 S P) (device : Device UInt8 S) (files : Files UInt8) : Files UInt8 :=
  { Files.rooted device files with roleCred := .present (roleCredBytes G (device.cred G)) 0o600 }

structure Draws (device : Device UInt8 S) (files : Files UInt8) (root : Block UInt8 32) (blind : S) : Prop where
  root : files.deviceRoot = .absent → root = device.root
  blind : files.roleCred = .absent → blind = device.blind ∧ device.roleCode = 1

theorem OwnFiles.of (own : OwnFiles G device files) : (Files.provisioned G device files).Of G device :=
  ⟨own.devicePub, rfl⟩

def rawSetupRandom (G : Suite UInt8 S P) (root : Block UInt8 32) (random : SetupRandom UInt8 S) : CClient.SetupRandom :=
  ⟨root, G.toBytes random.blind, random.clientNonce, G.toBytes random.r⟩

def rawAuthRandom (G : Suite UInt8 S P) (root : Block UInt8 32) (random : AuthRandom UInt8 S) : CClient.AuthRandom where
  root := root
  blind := G.toBytes random.blind
  nonceC := random.nonceC
  ephSecret := G.toBytes random.ephSecret
  r := G.toBytes random.r
  delta := G.toBytes random.delta
  rerandR := G.toBytes random.rerandR
  orProof := ⟨G.toBytes random.orProof.w,
    fun i => (G.toBytes (random.orProof.simulated i).1, G.toBytes (random.orProof.simulated i).2)⟩

theorem sameSetupDraws (G : Suite UInt8 S P) (root : Block UInt8 32) (random : SetupRandom UInt8 S) :
    SameSetupDraws G random (rawSetupRandom G root random) := ⟨rfl, rfl⟩

theorem sameDraws (G : Suite UInt8 S P) (root : Block UInt8 32) (random : AuthRandom UInt8 S) :
    SameDraws G random (rawAuthRandom G root random) := ⟨rfl, rfl, rfl, rfl, rfl, rfl, fun _ => rfl⟩

variable [DecidableEq P]

section Rust

variable {root : Block UInt8 32} {random : SetupRandom UInt8 S}

theorem verifyIfPresent_own {path : String} {file : StateFile UInt8} {data : List UInt8}
    (own : file = .absent ∨ file = .present data 0o600) : verifyIfPresent path file = .ok () := by
  rcases own with absent | present
  · rw [absent]
    rfl
  · rw [present]
    rfl

omit [DecidableEq P] in
theorem loadDeviceCredsFromRoot_own
    (own : files.deviceRoot = .absent ∨ files.deviceRoot = .present device.root.bytes 0o600)
    (draws : files.deviceRoot = .absent → root = device.root) (conn : Conn UInt8) : onDeviceRoot (loadDeviceCredsFromRoot G none root) ⟨files, conn⟩ =
      (.ok (device.id G, device.x G), ⟨Files.rooted device files, conn⟩) := by
  have loads : loadOrCreateDeviceRoot none root files.deviceRoot =
      (.ok device.root, .present device.root.bytes 0o600) := by
    rcases own with absent | present
    · rw [absent, draws absent]
      rfl
    · have permitted : verifyPrivateFilePermissions deviceRootFile (.present device.root.bytes 0o600) = .ok () := rfl
      have reads : StateFile.read (.present device.root.bytes 0o600) = .ok device.root.bytes := rfl
      rw [present, loadOrCreateDeviceRoot, Effect.bind_of_ok (Effect.get_apply _), if_pos (by rfl),
        Effect.bind_of_ok (Effect.lift_of_ok permitted), Effect.bind_of_ok (Effect.lift_of_ok reads),
        Effect.lift_of_ok (exactly_bytes _ _)]
  have creds : loadDeviceCredsFromRoot G none root files.deviceRoot =
      (.ok (device.id G, device.x G), .present device.root.bytes 0o600) := by
    rw [loadDeviceCredsFromRoot, Effect.bind_of_ok loads]
    rfl
  exact Effect.zoom_eq_iff.mpr ⟨_, creds, rfl⟩

theorem loadOrCreateRoleCredential_own (proper : device.Proper G) (own : OwnFiles G device files) {blind : S}
    (draws : files.roleCred = .absent → blind = device.blind ∧ device.roleCode = 1) (conn : Conn UInt8) :
    onRoleCred (loadOrCreateRoleCredential G none blind) ⟨(Files.rooted device files).cached G device, conn⟩ =
      (.ok (device.cred G), ⟨(Files.provisioned G device files).cached G device, conn⟩) := by
  have loads : loadOrCreateRoleCredential G none blind files.roleCred =
      (.ok (device.cred G), .present (roleCredBytes G (device.cred G)) 0o600) := by
    rcases own.roleCred with absent | present
    · obtain ⟨same, first⟩ := draws absent
      rw [absent, same, Device.cred, first]
      rfl
    · rw [present, loadOrCreateRoleCredential, Effect.bind_of_ok (Effect.get_apply _), if_pos (by rfl),
        Effect.lift_of_ok (loadRoleCredential_cred proper)]
  exact Effect.zoom_eq_iff.mpr ⟨_, loads, rfl⟩

theorem turn_prepareSetup_own (proper : device.Proper G) (serverProper : serverPub ≠ 0) (own : OwnFiles G device files)
    (draws : Draws device files root random.blind) (pinning : Pinning G serverPub allowTofu files.serverPub pinned) :
    Turn Connected.mk (prepareSetup G (device.setupCall G token allowTofu) .none random) (Files.rooted device files) [] []
      ((Files.provisioned G device files).cached G device) (device.enrollee G pinned) := by
  have checked : rejectIdentity (device.pub G) "client device_static_pub" = .ok () := rejectIdentity_ok.mpr proper.pub
  have caches : ∀ conn, onDevicePub (loadOrComputeDevicePub G none (device.x G)) ⟨Files.rooted device files, conn⟩ =
      (.ok (device.pub G), ⟨(Files.rooted device files).cached G device, conn⟩) := by
    intro conn
    have run := loadOrComputeDevicePub_apply proper own.of
    exact Effect.zoom_eq_iff.mpr ⟨_, run, rfl⟩
  have loads : loadServerPub G ((Files.provisioned G device files).cached G device).serverPub = .ok pinned :=
    pinning.loads serverProper
  refine Turn.skip caches ?_
  refine Turn.skip (fun _ => Effect.lift_of_ok checked) ?_
  refine Turn.skip (loadOrCreateRoleCredential_own proper own draws.blind) ?_
  refine Turn.skip (fun _ => rfl) ?_
  refine Turn.skip (fun _ => Effect.lift_of_ok loads) ?_
  exact Turn.skip (fun _ => Effect.failIf_of_false pinning.allowed) (Turn.pure _)

theorem runSetup_own (proper : device.Proper G) (serverProper : serverPub ≠ 0) (own : OwnFiles G device files)
    (draws : Draws device files root random.blind) (pinning : Pinning G serverPub allowTofu files.serverPub pinned)
    {conn : Conn UInt8} (quiet : conn.Quiet) : runSetup G root token allowTofu random ⟨files, conn⟩ =
      doSetup G (device.setupCall G token allowTofu) .none random ⟨Files.provisioned G device files, conn⟩ := by
  have known : files.serverPub = .absent ∨ files.serverPub = .present (G.compress serverPub).bytes 0o600 := by
    generalize files.serverPub = file at pinning
    cases pinning with
    | firstUse => exact .inl rfl
    | known => exact .inr rfl
  have creds : onDeviceRoot (loadDeviceCredsFromRoot G none root) (⟨files, conn⟩ : Connected UInt8) =
      (.ok (device.id G, device.x G), ⟨Files.rooted device files, conn⟩) :=
    loadDeviceCredsFromRoot_own own.deviceRoot draws.root conn
  have prepares : Turn Connected.mk (prepareSetup G (device.setupCall G token allowTofu) .none random)
      (Files.rooted device files) [] [] ((Files.provisioned G device files).cached G device) (device.enrollee G pinned) :=
    turn_prepareSetup_own proper serverProper own draws pinning
  have prepared : Turn Connected.mk (prepareSetup G (device.setupCall G token allowTofu) .none random)
      (Files.provisioned G device files) [] [] ((Files.provisioned G device files).cached G device)
      (device.enrollee G pinned) := Client.turn_prepareSetup proper serverProper own.of pinning
  have reads : readFiles (⟨files, conn⟩ : Connected UInt8) = (.ok files, ⟨files, conn⟩) := rfl
  rw [runSetup, setupCommand, Effect.bind_of_ok reads, Effect.bind_of_ok (Effect.lift_of_ok (verifyIfPresent_own own.deviceRoot)),
    Effect.bind_of_ok (Effect.lift_of_ok (verifyIfPresent_own known)), Effect.bind_of_ok creds]
  change doSetup G (device.setupCall G token allowTofu) .none random ⟨Files.rooted device files, conn⟩ = _
  rw [doSetup, Effect.bind_of_ok (prepares conn conn.input quiet rfl),
    Effect.bind_of_ok (prepared conn conn.input quiet rfl)]

theorem runAuth_own {allowedRoles : List UInt64} {vars : Vars} {random : AuthRandom UInt8 S}
    (own : files.deviceRoot = .present device.root.bytes 0o600)
    (known : files.serverPub = .present (G.compress serverPub).bytes 0o600) (conn : Conn UInt8) :
    runAuth G allowedRoles vars root random ⟨files, conn⟩ =
      (do
        let session ← doAuthV2Session G allowedRoles vars (device.x G) .none random
        pure (some session) : Effect Failure (Connected UInt8) _) ⟨files, conn⟩ := by
  have reads : readFiles (⟨files, conn⟩ : Connected UInt8) = (.ok files, ⟨files, conn⟩) := rfl
  have still : Files.rooted device files = files := by rw [Files.rooted, ← own]
  have creds : onDeviceRoot (loadDeviceCredsFromRoot G none root) (⟨files, conn⟩ : Connected UInt8) =
      (.ok (device.id G, device.x G), ⟨Files.rooted device files, conn⟩) :=
    loadDeviceCredsFromRoot_own (.inr own) (fun absent => by rw [own] at absent; cases absent) conn
  rw [runAuth, Effect.bind_of_ok reads, Effect.bind_of_ok (Effect.lift_of_ok (verifyIfPresent_own (.inr own))),
    Effect.bind_of_ok (Effect.lift_of_ok (verifyIfPresent_own (.inr known))), own, if_pos (by rfl),
    Effect.bind_of_ok creds, still]

end Rust

section C

variable {root : Block UInt8 32} {random : SetupRandom UInt8 S} (m : so.Matches G)

include m

omit [DecidableEq P] in
theorem loadDeviceCreds_own (own : OwnFiles G device files) (draws : files.deviceRoot = .absent → root = device.root)
    (conn : Conn UInt8) : CClient.onDeviceRoot (CClient.loadDeviceCreds so none root) ⟨files, conn⟩ =
      (.ok (device.id G, G.toBytes (device.x G)), ⟨Files.rooted device files, conn⟩) := by
  have loads : CClient.loadOrCreateDeviceRoot none root files.deviceRoot =
      (.ok device.root, .present device.root.bytes 0o600) := by
    rcases own.deviceRoot with absent | present
    · rw [absent, draws absent]
      rfl
    · rw [present]
      exact CClient.loadOrCreateDeviceRoot_present none root
  have creds : CClient.loadDeviceCreds so none root files.deviceRoot =
      (.ok (device.id G, G.toBytes (device.x G)), .present device.root.bytes 0o600) := by
    rw [CClient.loadDeviceCreds, Effect.bind_of_ok loads, deriveDeviceId_eq m, deriveDeviceScalar_eq m]
    rfl
  exact Effect.zoom_eq_iff.mpr ⟨_, creds, rfl⟩

theorem cLoadOrCreateRoleCredential_own (reduces : ∀ wide, G.fromBytesModOrderWide wide = (leNat wide.bytes : S))
    (own : OwnFiles G device files) (multiplies : device.blind • attrH G ≠ 0) {blind : S}
    (draws : files.roleCred = .absent → blind = device.blind ∧ device.roleCode = 1) (conn : Conn UInt8) :
    CClient.onRoleCred (CClient.loadOrCreateRoleCredential so.toSodium none (G.toBytes blind))
        ⟨(Files.rooted device files).cached G device, conn⟩ =
      (.ok (rawCred G device), ⟨(Files.provisioned G device files).cached G device, conn⟩) := by
  rcases own.roleCred with absent | present
  · obtain ⟨same, first⟩ := draws absent
    have code : CClient.encodeRole so.toSodium 1 = G.toBytes (encodeRole 1) := encodeRole_eq m.library reduces 1
    have made : CClient.makeRoleCommitment so.toSodium (CClient.encodeRole so.toSodium 1) (G.toBytes device.blind) =
        some (G.compress (makeRoleCommitment G (encodeRole 1) device.blind)) := by
      rw [code]
      exact (makeRoleCommitment_eq_some m.library).mpr ⟨multiplies, rfl⟩
    have agree : SameCredential G (device.cred G) (rawCred G device) := ⟨rfl, rfl, rfl⟩
    have loads : CClient.loadOrCreateRoleCredential so.toSodium none (G.toBytes blind) files.roleCred =
        (.ok (rawCred G device), .present (roleCredBytes G (device.cred G)) 0o600) := by
      rw [absent, same, CClient.loadOrCreateRoleCredential_made made, code, roleCredBytes_eq agree,
        rawCred, Device.cred, first]
    exact Effect.zoom_eq_iff.mpr ⟨_, loads, rfl⟩
  · have known : (Files.rooted device files).Of G device := ⟨own.devicePub, present⟩
    have same : (Files.provisioned G device files).cached G device = (Files.rooted device files).cached G device := by
      rw [Files.provisioned, ← present]
      rfl
    rw [same]
    exact onCRoleCred_apply m reduces known multiplies _ conn

theorem cDoSetup_own (reduces : ∀ wide, G.fromBytesModOrderWide wide = (leNat wide.bytes : S))
    (own : OwnFiles G device files) (multiplies : device.blind • attrH G ≠ 0)
    (draws : Draws device files root random.blind) (pinning : Pinning G serverPub allowTofu files.serverPub pinned)
    {conn : Conn UInt8} (quiet : conn.Quiet) (call : CClient.SetupCall) :
    CClient.doSetup so call .none (rawSetupRandom G root random) ⟨files, conn⟩ =
      CClient.doSetup so call .none (rawSetupRandom G root random) ⟨Files.provisioned G device files, conn⟩ := by
  have prepares : Turn Connected.mk (CClient.prepareSetup so .none (rawSetupRandom G root random)) files [] []
      ((Files.provisioned G device files).cached G device) (rawEnrollee G device pinned) := by
    refine Turn.skip (fun _ => rfl) ?_
    refine Turn.skip (loadDeviceCreds_own m own draws.root) ?_
    dsimp only
    rw [makePub_device m]
    refine Turn.skip (onCDevicePub_apply device) ?_
    refine Turn.skip (cLoadOrCreateRoleCredential_own m reduces own multiplies draws.blind) ?_
    rw [pinning_isPresent pinning]
    exact Turn.pure _
  have provided : ReadyForSetup G device (Files.provisioned G device files) none :=
    ⟨⟨_, rfl⟩, own.of, multiplies, fun _ missing => (by cases missing), fun _ missing => (by cases missing)⟩
  have prepared : Turn Connected.mk (CClient.prepareSetup so .none (rawSetupRandom G root random))
      (Files.provisioned G device files) [] [] ((Files.provisioned G device files).cached G device)
      (rawEnrollee G device pinned) := turn_prepareSetup m reduces provided pinning
  rw [CClient.doSetup, Effect.bind_of_ok (prepares conn conn.input quiet rfl),
    Effect.bind_of_ok (prepared conn conn.input quiet rfl)]

end C

end ZkArche.Protocol

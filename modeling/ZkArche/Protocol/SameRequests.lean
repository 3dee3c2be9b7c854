import ZkArche.CClient.Auth
import ZkArche.Protocol.CServerTurns
import ZkArche.Protocol.DeviceTurns
import ZkArche.Protocol.SameProofs

namespace ZkArche.Protocol

open Foundation Client
open CServer (allowedRoles)

variable {S P : Type} [Field S] [AddCommGroup P] [Module S P]
variable {G : Suite UInt8 S P}

section Parts

variable {α : Type} {part : Effect Unit (Conn UInt8) α} {consumed written : List UInt8} {value : α}

theorem turn_cOnConn (turn : Turn onlyConn part () consumed written () value) (files : Files UInt8) :
    Turn Connected.mk (CClient.onConn part) files consumed written files value :=
  turn.zoom files (fun _ => rfl) fun _ _ => rfl

theorem waits_cOnConn (waits : Waits onlyConn part () consumed written) (files : Files UInt8) :
    Waits Connected.mk (CClient.onConn part) files consumed written :=
  waits.zoom files (fun _ => rfl) fun _ _ => rfl

end Parts

structure SameDraws (G : Suite UInt8 S P) (rust : AuthRandom UInt8 S) (c : CClient.AuthRandom) : Prop where
  nonceC : c.nonceC = rust.nonceC
  ephSecret : c.ephSecret = G.toBytes rust.ephSecret
  r : c.r = G.toBytes rust.r
  delta : c.delta = G.toBytes rust.delta
  rerandR : c.rerandR = G.toBytes rust.rerandR
  orProof : SameOrDraws G rust.orProof c.orProof

structure RoleMultiplies (G : Suite UInt8 S P) (device : Device UInt8 S) (random : AuthRandom UInt8 S) : Prop where
  blind : device.blind • attrH G ≠ 0
  delta : random.delta • attrH G ≠ 0
  rerandR : random.rerandR • attrH G ≠ 0
  branches : ∀ index, allowedRoles.findIdx? (· == device.roleCode) = some index →
    ∀ y ∈ (allowedRoles.map (Server.roleStatement G ((device.cred G).commitment + random.delta • attrH G))).zipIdx,
      BranchMultiplies G random.orProof index y

structure EnrolledFiles (G : Suite UInt8 S P) (device : Device UInt8 S) (serverPub : P) (files : Files UInt8) : Prop where
  root : ∃ mode, files.deviceRoot = .present device.root.bytes mode
  own : files.Of G device
  pinned : files.serverPub = .present (G.compress serverPub).bytes 0o600

def rawCred (G : Suite UInt8 S P) (device : Device UInt8 S) : CClient.RoleCred :=
  ⟨device.roleCode, G.toBytes (encodeRole device.roleCode), G.toBytes device.blind,
    G.compress (device.cred G).commitment⟩

def rawHello (G : Suite UInt8 S P) (hello : AuthHello UInt8 S P) : CClient.AuthHello :=
  ⟨hello.pid, G.compress hello.aC, G.toBytes hello.sC, hello.nonceC, G.compress hello.ephC⟩

def rawProof (G : Suite UInt8 S P) (proof : RoleProof S P) : CClient.RoleProof :=
  ⟨G.compress proof.cPrime, G.compress proof.rerandA, G.toBytes proof.rerandS, proof.orProof.map (rawBranch G)⟩

def preparedOf (G : Suite UInt8 S P) (device : Device UInt8 S) (serverPub : P) (deviceOnly : Bool) : CClient.Prepared :=
  ⟨G.toBytes (device.x G), G.compress serverPub, G.compress (device.pub G),
    if deviceOnly then none else some (rawCred G device)⟩

theorem rawHello_bytes (hello : AuthHello UInt8 S P) : (rawHello G hello).bytes = helloBytes G hello := rfl

theorem rawProof_bytes (proof : RoleProof S P) : (rawProof G proof).bytes = roleProofBytes G proof := by
  simp only [CClient.RoleProof.bytes, rawProof, roleProofBytes, List.flatMap_map]
  rfl

variable {so : CClient.ClientSodium} {device : Device UInt8 S} {files : Files UInt8} {serverPub : P}
  {rust : AuthRandom UInt8 S} {c : CClient.AuthRandom}

section Requests

variable (m : so.Matches G)

include m

theorem deriveDeviceScalar_eq (device : Device UInt8 S) :
    CClient.deriveDeviceScalar so device.root = G.toBytes (device.x G) := by
  rw [CClient.deriveDeviceScalar, m.generichash64, m.library.scalarReduce, Device.x, deriveDeviceScalar, CImpl.lits_bytes]

theorem deriveDeviceId_eq (device : Device UInt8 S) : CClient.deriveDeviceId so device.root = device.id G := by
  rw [CClient.deriveDeviceId, m.generichash32, Device.id, deriveDeviceId, CImpl.lits_bytes]

theorem makePub_device (device : Device UInt8 S) :
    so.scalarmultBase (G.toBytes (device.x G)) = G.compress (device.pub G) := makePub_eq m.library _

theorem makeHello_eq (draws : SameDraws G rust c) (deviceOnly : Bool) :
    CClient.makeHello so.toSodium (preparedOf G device serverPub deviceOnly) c =
      some (rawHello G (device.hello G serverPub rust)) := by
  rw [CClient.makeHello]
  simp only [preparedOf, draws.ephSecret, draws.nonceC, draws.r, makePub_eq m.library, computePid_eq m.library]
  have proves := schnorrProveAuth_eq m.library (device.x G) rust.r (Server.computePid G (device.pub G) rust.nonceC
    (rust.ephSecret • G.basepoint) serverPub) rust.nonceC (rust.ephSecret • G.basepoint)
  simp only [proves, Option.bind_eq_bind, Option.bind_some, signature]
  rfl

theorem proveRole_eq (draws : SameDraws G rust c) (multiplies : RoleMultiplies G device rust)
    {hello : AuthHello UInt8 S P} {proof : RoleProof S P}
    (proves : proveRole G allowedRoles (device.cred G) hello rust = .ok proof) :
    CClient.proveRole so.toSodium (rawCred G device) (rawHello G hello) c = some (rawProof G proof) := by
  simp only [proveRole, rerandomizeRoleCommitment, Except.bind_ok_iff] at proves
  obtain ⟨orProof, membership, same⟩ := proves
  cases same
  have rerandomizes : CClient.rerandomizeRoleCommitment so.toSodium (rawCred G device) c.delta =
      some (G.compress ((device.cred G).commitment + rust.delta • attrH G), G.toBytes (device.blind + rust.delta)) := by
    rw [CClient.rerandomizeRoleCommitment]
    simp only [CServer.attrH_eq m.library, draws.delta, scalarmult_some m.library multiplies.delta, Option.bind_eq_bind,
      Option.bind_some, rawCred, m.library.add, m.library.scalarAdd]
    rfl
  have found : ∃ index, allowedRoles.findIdx? (· == device.roleCode) = some index := by
    cases found : allowedRoles.findIdx? (· == device.roleCode) with
    | some index => exact ⟨index, rfl⟩
    | none =>
      rw [proveRoleSetMembership, show (device.cred G).roleCode = device.roleCode from rfl, found] at membership
      cases membership
  obtain ⟨index, isIndex⟩ := found
  have second := cProveRoleSetMembership_eq m.library draws.orProof isIndex (multiplies.branches index isIndex) membership
  have first := proveRoleRerandomization_eq m.library (device.cred G).commitment
    ((device.cred G).commitment + rust.delta • attrH G) hello.ephC rust.delta hello.pid hello.nonceC multiplies.rerandR
  rw [CClient.proveRole, rerandomizes]
  simp only [Option.bind_eq_bind, Option.bind_some, rawHello, draws.delta, draws.rerandR]
  rw [show (rawCred G device).commitment = G.compress (device.cred G).commitment from rfl, first]
  simp only [Option.bind_some]
  rw [show (rawCred G device).roleCode = device.roleCode from rfl]
  change (CClient.proveRoleSetMembership so.toSodium _ _ (G.toBytes ((device.cred G).blind + rust.delta)) _ _ _ _).bind _ = _
  rw [second]
  rfl

theorem onDeviceRoot_apply (root : ∃ mode, files.deviceRoot = .present device.root.bytes mode) (drawn : Block UInt8 32)
    (conn : Conn UInt8) : CClient.onDeviceRoot (CClient.loadDeviceCreds so none drawn) ⟨files, conn⟩ =
      (.ok (device.id G, G.toBytes (device.x G)), ⟨files, conn⟩) := by
  obtain ⟨mode, root⟩ := root
  rw [CClient.onDeviceRoot, Effect.zoom_apply]
  simp only [root, CClient.loadDeviceCreds_present, deriveDeviceScalar_eq m, deriveDeviceId_eq m]
  rw [← root]

omit m in
theorem onCDevicePub_apply (device : Device UInt8 S) (conn : Conn UInt8) :
    CClient.onDevicePub (CClient.saveDevicePub none (G.compress (device.pub G))) ⟨files, conn⟩ =
      (.ok (), ⟨files.cached G device, conn⟩) := rfl

theorem onCRoleCred_apply [DecidableEq P] (reduces : ∀ wide, G.fromBytesModOrderWide wide = (leNat wide.bytes : S))
    (own : files.Of G device) (blind : device.blind • attrH G ≠ 0) (drawn : Block UInt8 32) (conn : Conn UInt8) :
    CClient.onRoleCred (CClient.loadOrCreateRoleCredential so.toSodium none drawn) ⟨files.cached G device, conn⟩ =
      (.ok (rawCred G device), ⟨files.cached G device, conn⟩) := by
  have agree : SameCredential G (device.cred G) (rawCred G device) := ⟨rfl, rfl, rfl⟩
  have code : CClient.encodeRole so.toSodium (rawCred G device).roleCode = G.toBytes (encodeRole device.roleCode) :=
    encodeRole_eq m.library reduces device.roleCode
  have loads : CClient.loadRoleCredential so.toSodium files.roleCred = some (rawCred G device) := by
    rw [own.roleCred, roleCredBytes_eq agree, CClient.loadRoleCredential_bytes, code]
    exact ⟨(makeRoleCommitment_eq_some m.library).mpr ⟨blind, rfl⟩, rfl⟩
  have present : files.roleCred.isPresent = true := by
    rw [own.roleCred]
    rfl
  rw [CClient.onRoleCred, Effect.zoom_apply, CClient.loadOrCreateRoleCredential, Effect.bind_of_ok (Effect.get_apply _),
    if_pos (by exact present)]
  simp only [Files.cached, loads, CImpl.orFail_some]

theorem turn_prepareAuth [DecidableEq P] (reduces : ∀ wide, G.fromBytesModOrderWide wide = (leNat wide.bytes : S))
    (setUp : EnrolledFiles G device serverPub files) {mode : AuthMode}
    (multiplies : mode.deviceOnly = false → device.blind • attrH G ≠ 0) :
    Turn Connected.mk (CClient.prepareAuth so mode .none c) files [] [] (files.cached G device)
      (preparedOf G device serverPub mode.deviceOnly) := by
  have pins : CClient.loadServerPub files.serverPub = some (G.compress serverPub) := by
    rw [setUp.pinned]
    exact CClient.readExactFile_bytes _ _
  have valid : (!so.isValidPoint (G.compress (device.pub G))) = false := by
    rw [(m.library.isValidPoint _).mpr ⟨_, rfl⟩]
    rfl
  refine Turn.skip (onDeviceRoot_apply m setUp.root c.root) ?_
  refine Turn.skip (fun _ => rfl) ?_
  refine Turn.skip (fun _ => by rw [pins, CImpl.orFail_some]) ?_
  rw [makePub_device m]
  refine Turn.skip (onCDevicePub_apply device) ?_
  refine Turn.skip (fun _ => Effect.failIf_of_false valid) ?_
  split
  case isTrue only =>
    rw [preparedOf, if_pos only]
    exact Turn.pure _
  case isFalse full =>
    have blind := multiplies (Bool.eq_false_of_not_eq_true full)
    refine Turn.skip (onCRoleCred_apply m reduces setUp.own blind c.blind) ?_
    rw [preparedOf, if_neg full]
    exact Turn.pure _

theorem writes_cSendMode (mode : AuthMode) :
    Writes (CClient.sendMode so.toSodium mode (G.compress (device.pub G))) (modeBytes mode ++ handleBytes G mode device)
      () := by
  unfold CClient.sendMode modeBytes handleBytes
  rw [computeDeviceHandle_eq m.library]
  by_cases fast : mode.fastLookup = true
  · have long : (mode.fastLookup || mode.deviceOnly) = true := by rw [fast, Bool.true_or]
    simp only [if_pos long, if_pos fast, List.append_assoc]
    exact (CImpl.writes_sendAll _).bind ((CImpl.writes_sendAll _).bind (CImpl.writes_sendAll _))
  · simp only [if_neg fast, List.append_nil]
    split
    · exact (CImpl.writes_sendAll _).bind ((CImpl.writes_sendAll _).last (Writes.pure ()))
    · exact CImpl.writes_sendAll _

theorem writes_sendRequest (draws : SameDraws G rust c) {mode : AuthMode} {roles : List UInt8}
    (multiplies : mode.deviceOnly = false → RoleMultiplies G device rust)
    (carries : device.Roles G allowedRoles serverPub rust mode.deviceOnly roles) :
    Writes (CClient.sendRequest so.toSodium mode (preparedOf G device serverPub mode.deviceOnly) c)
      (requestSent G device mode serverPub rust roles) (rawHello G (device.hello G serverPub rust)) := by
  have opening : CClient.makeHello so.toSodium (preparedOf G device serverPub mode.deviceOnly) c =
      some (rawHello G (device.hello G serverPub rust)) := makeHello_eq m draws _
  have proofs : CClient.roleBytes so.toSodium (preparedOf G device serverPub mode.deviceOnly)
      (rawHello G (device.hello G serverPub rust)) c = some roles := by
    generalize deviceOnly : mode.deviceOnly = only at carries multiplies
    unfold CClient.roleBytes preparedOf
    cases carries with
    | deviceOnly => rfl
    | full proves =>
      simp only [Bool.false_eq_true, if_false, proveRole_eq m draws (multiplies rfl) proves, Option.bind_eq_bind,
        Option.bind_some, rawProof_bytes]
      rfl
  rw [requestSent, ← List.append_assoc]
  refine (writes_cSendMode m mode).bind ?_
  refine Writes.after (CImpl.silent_orFail opening) ?_
  refine Writes.after (CImpl.silent_orFail proofs) ?_
  rw [rawHello_bytes]
  exact (CImpl.writes_sendAll _).last (Writes.pure _)

end Requests

end ZkArche.Protocol

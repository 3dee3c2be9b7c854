import ZkArche.Client.Auth
import ZkArche.Client.Setup
import ZkArche.Primitives.Turns
import ZkArche.Protocol.RoleCredentials
import ZkArche.Server.SetupDialogue

namespace ZkArche.Client

open Foundation

variable {β S P : Type} [Octet β] [Field S] [AddCommGroup P] [Module S P]
variable [DecidableEq P]

/-- A device, as its root secret and its role credential determine it. -/
structure Device (β S : Type) where
  root : Block β 32
  roleCode : UInt64
  blind : S

namespace Device

variable (G : Suite β S P) (device : Device β S)

def id : Block β 32 := deriveDeviceId G device.root
def x : S := deriveDeviceScalar G device.root
def pub : P := device.x G • G.basepoint

def cred : RoleCredential S P :=
  ⟨device.roleCode, encodeRole device.roleCode, device.blind,
    makeRoleCommitment G (encodeRole device.roleCode) device.blind⟩

/-- The public values of the device are not the identity. -/
structure Proper : Prop where
  pub : device.pub G ≠ 0
  commitment : (device.cred G).commitment ≠ 0

end Device

/-- The files of a device with its role credential, before or after it has cached its key. -/
structure Files.Of (G : Suite β S P) (device : Device β S) (files : Files β) : Prop where
  devicePub : files.devicePub = .absent ∨ files.devicePub = .present (G.compress (device.pub G)).bytes 0o600
  roleCred : files.roleCred = .present (roleCredBytes G (device.cred G)) 0o600

def Files.cached (G : Suite β S P) (device : Device β S) (files : Files β) : Files β :=
  { files with devicePub := .present (G.compress (device.pub G)).bytes 0o600 }

def Files.pinned (G : Suite β S P) (serverPub : P) (files : Files β) : Files β :=
  { files with serverPub := .present (G.compress serverPub).bytes 0o600 }

section Parts

variable {α : Type} {part : Effect Failure (Conn β) α} {consumed written : List β} {value : α}

omit [Octet β] in
theorem turn_onConn (turn : Turn onlyConn part () consumed written () value) (files : Files β) :
    Turn Connected.mk (onConn part) files consumed written files value := by
  intro conn rest quiet input
  have run := turn conn rest quiet input
  change part conn = _ at run
  rw [onConn, Effect.zoom_apply, run]
  rfl

omit [Octet β] in
theorem waits_onConn (waits : Waits onlyConn part () consumed written) (files : Files β) :
    Waits Connected.mk (onConn part) files consumed written := by
  intro conn quiet input
  obtain ⟨failure, _, later, run, output⟩ := waits conn quiet input
  refine ⟨failure, files, later, ?_, output⟩
  change part conn = _ at run
  rw [onConn, Effect.zoom_apply, run]
  rfl

end Parts

variable {G : Suite β S P} {device : Device β S} {files : Files β} {serverPub : P}

omit [Octet β] in
theorem exactly_bytes {size : Nat} (message : String) (block : Block β size) : exactly size message block.bytes = .ok block := by
  rw [exactly, if_neg (not_not_intro block.bytes_length), copyFromSlice, dif_pos block.bytes_length]

omit [Octet β] in
theorem loadCachedDevicePub_saved {p : P} (nonzero : p ≠ 0) :
    loadCachedDevicePub G (.present (G.compress p).bytes 0o600) = .ok (some p) := by
  have permitted : verifyPrivateFilePermissions devicePubFile (.present (G.compress p).bytes 0o600) = .ok () := rfl
  have proper : rejectIdentity p "cached device_pub" = .ok () := rejectIdentity_ok.mpr nonzero
  rw [loadCachedDevicePub, if_neg (by exact Bool.noConfusion), permitted]
  simp only [StateFile.read, exactly_bytes, decompressOr_ok.mpr rfl, proper, bind, Except.bind, pure, Except.pure]

omit [Octet β] in
theorem loadServerPub_saved {p : P} (nonzero : p ≠ 0) :
    loadServerPub G (.present (G.compress p).bytes 0o600) = .ok (some p) := by
  have proper : rejectIdentity p "pinned server_pub" = .ok () := rejectIdentity_ok.mpr nonzero
  rw [loadServerPub, if_neg (by exact Bool.noConfusion)]
  simp only [StateFile.read, exactly_bytes, decompressOr_ok.mpr rfl, proper, bind, Except.bind, pure, Except.pure]

theorem loadRoleCredential_cred [DecidableEq β] (proper : device.Proper G) :
    loadRoleCredential G (.present (roleCredBytes G (device.cred G)) 0o600) = .ok (device.cred G) :=
  loadRoleCredential_bytes.mpr ⟨proper.commitment, rfl, rfl⟩

theorem loadOrComputeDevicePub_apply (proper : device.Proper G) (own : files.Of G device) :
    loadOrComputeDevicePub G none (device.x G) files.devicePub =
      (.ok (device.pub G), .present (G.compress (device.pub G)).bytes 0o600) := by
  have computed : rejectIdentity (device.x G • G.basepoint) "device_static_pub" = .ok () :=
    rejectIdentity_ok.mpr proper.pub
  have computes : (do
      Effect.lift (rejectIdentity (device.x G • G.basepoint) "device_static_pub")
      saveDevicePub G none (device.x G • G.basepoint)
      pure (device.x G • G.basepoint)) (.absent : StateFile β) =
        (.ok (device.pub G), .present (G.compress (device.pub G)).bytes 0o600) := by
    rw [Effect.bind_of_ok (Effect.lift_of_ok computed)]
    rfl
  rw [loadOrComputeDevicePub, Effect.bind_of_ok (Effect.get_apply _)]
  rcases own.devicePub with absent | cached
  · rw [absent, Effect.bind_of_ok (Effect.lift_of_ok (show loadCachedDevicePub G .absent = .ok none from rfl))]
    exact computes
  · rw [cached, Effect.bind_of_ok (Effect.lift_of_ok (loadCachedDevicePub_saved proper.pub))]
    rfl

theorem onDevicePub_apply (proper : device.Proper G) (own : files.Of G device) (conn : Conn β) :
    onDevicePub (loadOrComputeDevicePub G none (device.x G)) ⟨files, conn⟩ =
      (.ok (device.pub G), ⟨files.cached G device, conn⟩) := by
  have run := loadOrComputeDevicePub_apply proper own
  rw [onDevicePub, Effect.zoom_apply, run]
  rfl

theorem onRoleCred_apply [DecidableEq β] (proper : device.Proper G) (own : files.Of G device) (blind : S)
    (conn : Conn β) :
    onRoleCred (loadOrCreateRoleCredential G none blind) ⟨files, conn⟩ = (.ok (device.cred G), ⟨files, conn⟩) := by
  have present : files.roleCred.isPresent = true := by rw [own.roleCred]; rfl
  rw [onRoleCred, Effect.zoom_apply, loadOrCreateRoleCredential, Effect.bind_of_ok (Effect.get_apply _), if_pos present,
    Effect.lift_of_ok (own.roleCred ▸ loadRoleCredential_cred proper)]

section Setup

/-- What `server_pub.bin` holds before a setup, as it is read: nothing yet, or the key of this server. -/
inductive Pinning (G : Suite β S P) (serverPub : P) (allowTofu : Bool) : StateFile β → Option P → Prop where
  | firstUse (allowed : allowTofu = true) : Pinning G serverPub allowTofu .absent none
  | known : Pinning G serverPub allowTofu (.present (G.compress serverPub).bytes 0o600) (some serverPub)

def Device.setupCall (G : Suite β S P) (device : Device β S) (token : Option String) (allowTofu : Bool) : SetupCall β S :=
  ⟨device.id G, device.x G, token, allowTofu⟩

def Device.enrollee (G : Suite β S P) (device : Device β S) (pinned : Option P) : Enrollee S P :=
  ⟨device.pub G, device.cred G, pinned⟩

variable {token : Option String} {allowTofu : Bool} {pinned : Option P} {random : SetupRandom β S}
  {challenge : SetupChallenge β S P}

omit [Octet β] in
theorem Pinning.loads (serverProper : serverPub ≠ 0) {file : StateFile β}
    (pinning : Pinning G serverPub allowTofu file pinned) : loadServerPub G file = .ok pinned := by
  cases pinning with
  | firstUse => rfl
  | known => exact loadServerPub_saved serverProper

omit [Octet β] [DecidableEq P] in
theorem Pinning.allowed {file : StateFile β} (pinning : Pinning G serverPub allowTofu file pinned) :
    (pinned.isNone && !allowTofu) = false := by
  cases pinning with
  | firstUse allowed => rw [allowed]; rfl
  | known => rfl

theorem turn_prepareSetup [DecidableEq β] (proper : device.Proper G) (serverProper : serverPub ≠ 0)
    (own : files.Of G device)
    (pinning : Pinning G serverPub allowTofu files.serverPub pinned) :
    Turn Connected.mk (prepareSetup G (device.setupCall G token allowTofu) .none random) files [] []
      (files.cached G device) (device.enrollee G pinned) := by
  have checked : rejectIdentity (device.pub G) "client device_static_pub" = .ok () := rejectIdentity_ok.mpr proper.pub
  have still : (files.cached G device).Of G device := ⟨.inr rfl, own.roleCred⟩
  have loads : loadServerPub G (files.cached G device).serverPub = .ok pinned := pinning.loads serverProper
  refine Turn.skip (onDevicePub_apply proper own) ?_
  refine Turn.skip (fun _ => Effect.lift_of_ok checked) ?_
  refine Turn.skip (onRoleCred_apply proper still random.blind) ?_
  refine Turn.skip (fun _ => rfl) ?_
  refine Turn.skip (fun _ => Effect.lift_of_ok loads) ?_
  exact Turn.skip (fun _ => Effect.failIf_of_false pinning.allowed) (Turn.pure _)

theorem writes_sendPairingToken (short : ∀ text ∈ token, (utf8Bytes text).length ≤ 128) :
    Writes (sendPairingToken token : Effect Failure (Conn β) Unit) (Server.tokenBytes token) () := by
  cases token with
  | none => exact Writes.sendAll _
  | some text =>
    have fits : decide ((utf8Bytes text).length > 128) = false := by simpa using short text rfl
    have bytes : (Server.tokenBytes (some text) : List β) =
        lits [UInt8.ofNat (utf8Bytes text).length] ++ lits (utf8Bytes text) := rfl
    rw [bytes]
    refine Writes.after (silent_failIf fits _) ?_
    exact (Writes.sendAll _).bind (Writes.sendAll _)

def setupRequestOf (G : Suite β S P) (device : Device β S) (clientNonce : Block β 32) : Server.SetupRequest β P :=
  ⟨device.id G, device.pub G, clientNonce, (device.cred G).commitment⟩

def setupBytes (G : Suite β S P) (device : Device β S) (token : Option String) (clientNonce : Block β 32) : List β :=
  lits [msgSetup] ++ Server.setupRequestBytes G token (setupRequestOf G device clientNonce)

omit [DecidableEq P] in
theorem writes_requestSetup (short : ∀ text ∈ token, (utf8Bytes text).length ≤ 128) (clientNonce : Block β 32) :
    Writes (requestSetup G (device.setupCall G token allowTofu) (device.enrollee G pinned) clientNonce)
      (setupBytes G device token clientNonce) () := by
  refine (Writes.sendAll _).bind ?_
  refine (writes_sendPairingToken short).bind ?_
  refine (Writes.sendAll _).bind ?_
  refine (Writes.sendAll _).bind ?_
  exact (Writes.sendAll _).bind (Writes.sendAll _)

def challengeBytes (G : Suite β S P) (challenge : SetupChallenge β S P) : List β :=
  challenge.serverNonce.bytes ++ (challenge.setupChallenge.bytes ++ (challenge.serverPubBytes.bytes ++
    ((G.compress challenge.aS).bytes ++ (G.toBytes challenge.sS).bytes)))

structure Convincing (G : Suite β S P) (device : Device β S) (serverPub : P) (clientNonce : Block β 32)
    (challenge : SetupChallenge β S P) : Prop where
  key : challenge.serverStaticPub = serverPub
  encoded : challenge.serverPubBytes = G.compress serverPub
  serverProper : serverPub ≠ 0
  proofProper : challenge.aS ≠ 0
  verifies : schnorrVerifySetupServer G serverPub (device.id G) (device.pub G) clientNonce challenge.serverNonce
    challenge.setupChallenge challenge.aS challenge.sS = true

theorem reads_recvSetupChallenge {clientNonce : Block β 32} (convincing : Convincing G device serverPub clientNonce challenge) :
    Reads (recvSetupChallenge G) (challengeBytes G challenge) challenge := by
  have decoded : decompressOr G "server static public key is not a valid Ristretto pubkey" challenge.serverPubBytes =
      .ok serverPub := decompressOr_ok.mpr convincing.encoded
  have checked : rejectIdentity serverPub "server_pub(setup)" = .ok () := rejectIdentity_ok.mpr convincing.serverProper
  refine (Reads.recvExact challenge.serverNonce).bind ?_
  refine (Reads.recvExact challenge.setupChallenge).bind ?_
  refine (Reads.recvExact challenge.serverPubBytes).bind ?_
  refine Reads.after (silent_lift decoded) ?_
  refine Reads.after (silent_lift checked) ?_
  refine (Reads.recvPoint convincing.proofProper).bind ?_
  refine Reads.recvScalar.last ?_
  rw [← convincing.key]
  exact Reads.pure _

omit [Octet β] in
theorem waits_recvSetupChallenge : Waits onlyConn (recvSetupChallenge G) () [] [] := (Waits.recvExact (by decide)).bind

def setupProof (G : Suite β S P) (device : Device β S) (serverPub : P) (random : SetupRandom β S)
    (challenge : SetupChallenge β S P) : P × S :=
  schnorrProveSetup G (device.x G) (device.id G) (device.pub G) serverPub random.clientNonce challenge.serverNonce
    challenge.setupChallenge random.r

def setupProofBytes (G : Suite β S P) (device : Device β S) (serverPub : P) (random : SetupRandom β S)
    (challenge : SetupChallenge β S P) : List β :=
  (G.compress (setupProof G device serverPub random challenge).1).bytes ++
    (G.toBytes (setupProof G device serverPub random challenge).2).bytes

theorem writes_answerSetup (convincing : Convincing G device serverPub random.clientNonce challenge) :
    Writes (answerSetup G (device.setupCall G token allowTofu) (device.enrollee G pinned) random challenge)
      (setupProofBytes G device serverPub random challenge) () := by
  have verifies := convincing.verifies
  rw [← convincing.key] at verifies ⊢
  refine Writes.after (silent_failIf ((congrArg not verifies).trans rfl) _) ?_
  exact (Writes.sendAll _).bind (Writes.sendAll _)

variable [DecidableEq β]

theorem checkPin_apply {clientNonce : Block β 32} (convincing : Convincing G device serverPub clientNonce challenge)
    (pinning : Pinning G serverPub allowTofu files.serverPub pinned) (conn : Conn β) :
    onServerPub (checkPin G none pinned challenge) ⟨files, conn⟩ = (.ok (), ⟨files.pinned G serverPub, conn⟩) := by
  generalize before : files.serverPub = file at pinning
  cases pinning with
  | firstUse =>
    rw [onServerPub, Effect.zoom_apply]
    simp only [checkPin, saveServerPub, replaceFile, convincing.key, Files.pinned]
  | known =>
    have same : decide (G.compress serverPub ≠ challenge.serverPubBytes) = false := by
      rw [convincing.encoded]
      exact decide_eq_false (not_not_intro rfl)
    have passes : (Effect.failIf (decide (G.compress serverPub ≠ challenge.serverPubBytes)) (permissionDenied
        "server raw public key mismatches pinned server_pub.bin") : Effect Failure (StateFile β) Unit) files.serverPub =
          (.ok (), files.serverPub) := Effect.failIf_of_false same
    rw [onServerPub, Effect.zoom_apply, checkPin, passes, before]
    simp only [Files.pinned, ← before]

theorem reads_recvAck : Reads (recvAck : Effect Failure (Conn β) Unit) (lits [0x01]) () := by
  refine (Reads.recvExact (⟨lits [0x01], rfl⟩ : Block β 1)).last ?_
  exact Reads.silent (silent_failIf (decide_eq_false (not_not_intro rfl)) _)

def setupSent (G : Suite β S P) (device : Device β S) (token : Option String) (serverPub : P)
    (random : SetupRandom β S) (challenge : SetupChallenge β S P) : List β :=
  setupBytes G device token random.clientNonce ++ setupProofBytes G device serverPub random challenge

section Whole

variable (proper : device.Proper G) (convincing : Convincing G device serverPub random.clientNonce challenge)
  (own : files.Of G device) (short : ∀ text ∈ token, (utf8Bytes text).length ≤ 128)
  (pinning : Pinning G serverPub allowTofu files.serverPub pinned)
include proper convincing own short pinning

theorem turn_doSetup :
    Turn Connected.mk (doSetup G (device.setupCall G token allowTofu) .none random) files
      (challengeBytes G challenge ++ lits [0x01]) (setupSent G device token serverPub random challenge)
      ((files.cached G device).pinned G serverPub) (device.enrollee G pinned, challenge) := by
  refine (turn_prepareSetup proper convincing.serverProper own pinning).pass ?_
  refine (turn_onConn (writes_requestSetup short _).turn _).write ?_
  refine (turn_onConn (reads_recvSetupChallenge convincing).turn _).read ?_
  refine Turn.skip (checkPin_apply convincing pinning) ?_
  refine (turn_onConn (writes_answerSetup convincing).turn _).ask ?_
  refine (turn_onConn reads_recvAck.turn _).last ?_
  intro conn
  rw [convincing.key]
  rfl

theorem waits_doSetup_opening :
    Waits Connected.mk (doSetup G (device.setupCall G token allowTofu) .none random) files []
      (setupBytes G device token random.clientNonce) := by
  refine Waits.pass (turn_prepareSetup proper convincing.serverProper own pinning) ?_
  refine Waits.ask (turn_onConn (writes_requestSetup short random.clientNonce).turn _) ?_
  exact (waits_onConn waits_recvSetupChallenge _).bind

theorem waits_doSetup_answer :
    Waits Connected.mk (doSetup G (device.setupCall G token allowTofu) .none random) files (challengeBytes G challenge)
      (setupSent G device token serverPub random challenge) := by
  refine Waits.pass (turn_prepareSetup proper convincing.serverProper own pinning) ?_
  refine Waits.write (turn_onConn (writes_requestSetup short random.clientNonce).turn _) ?_
  refine Waits.hear (turn_onConn (reads_recvSetupChallenge convincing).turn _) ?_
  refine Waits.skip (checkPin_apply convincing pinning) ?_
  refine Waits.ask (turn_onConn (writes_answerSetup convincing).turn _) ?_
  exact (waits_onConn (Waits.recvExact (by decide)).bind _).bind

end Whole

end Setup

section Session

def modeBytes (mode : AuthMode) : List β :=
  if mode.fastLookup || mode.deviceOnly then lits [msgAuthV3] ++ lits [mode.flags] else lits [msgAuthV2]

def handleBytes (G : Suite β S P) (mode : AuthMode) (device : Device β S) : List β :=
  if mode.fastLookup then (computeDeviceHandle G (device.pub G)).bytes else []

theorem writes_sendMode (mode : AuthMode) :
    Writes (sendMode mode : Effect Failure (Conn β) Unit) (modeBytes mode) () := by
  unfold sendMode modeBytes
  split
  · exact (Writes.sendAll _).bind (Writes.sendAll _)
  · exact Writes.sendAll _

omit [DecidableEq P] in
theorem writes_sendHandle (mode : AuthMode) : Writes (sendHandle G mode (device.pub G)) (handleBytes G mode device) () := by
  unfold sendHandle handleBytes
  split
  · exact Writes.sendAll _
  · exact Writes.pure ()

variable {allowedRoles : List UInt64} {vars : Vars} {random : AuthRandom β S} {reply : AuthReply β S P}
  {roles : List β}

variable [DecidableEq β]

def Device.hello (G : Suite β S P) (device : Device β S) (serverPub : P) (random : AuthRandom β S) : AuthHello β S P :=
  makeHello G (device.x G) (device.pub G) serverPub random

inductive Device.Roles (G : Suite β S P) (device : Device β S) (allowedRoles : List UInt64) (serverPub : P)
    (random : AuthRandom β S) : Bool → List β → Prop where
  | deviceOnly : Roles G device allowedRoles serverPub random true []
  | full {proof : RoleProof S P}
      (proves : proveRole G allowedRoles (device.cred G) (device.hello G serverPub random) random = .ok proof) :
      Roles G device allowedRoles serverPub random false (roleProofBytes G proof)

def requestSent (G : Suite β S P) (device : Device β S) (mode : AuthMode) (serverPub : P) (random : AuthRandom β S)
    (roles : List β) : List β :=
  modeBytes mode ++ (handleBytes G mode device ++ (helloBytes G (device.hello G serverPub random) ++ roles))

theorem turn_roleBytes (proper : device.Proper G) (own : files.Of G device) {mode : AuthMode}
    (carries : device.Roles G allowedRoles serverPub random mode.deviceOnly roles) :
    Turn Connected.mk (roleBytes G allowedRoles mode none (device.hello G serverPub random) random) files [] [] files
      roles := by
  generalize deviceOnly : mode.deviceOnly = only at carries
  unfold roleBytes
  rw [deviceOnly]
  cases carries with
  | deviceOnly => exact Turn.pure []
  | full proves =>
    refine Turn.skip (onRoleCred_apply proper own random.blind) ?_
    exact Turn.skip (fun _ => Effect.lift_of_ok proves) (Turn.pure _)

theorem turn_requestAuth (proper : device.Proper G) (serverProper : serverPub ≠ 0) (own : files.Of G device)
    (pinned : files.serverPub = .present (G.compress serverPub).bytes 0o600) {mode : AuthMode}
    (carries : device.Roles G allowedRoles serverPub random mode.deviceOnly roles) :
    Turn Connected.mk (requestAuth G allowedRoles mode (device.x G) .none random) files []
      (requestSent G device mode serverPub random roles) (files.cached G device) (device.hello G serverPub random) := by
  have loads : Turn Connected.mk (loadPinnedServerPub G) files [] [] files serverPub := by
    refine Turn.skip (fun _ => rfl) ?_
    refine Turn.skip (fun _ => Effect.lift_of_ok (pinned ▸ loadServerPub_saved serverProper)) ?_
    exact Turn.pure serverPub
  have checked : rejectIdentity (device.pub G) "device_static_pub" = .ok () := rejectIdentity_ok.mpr proper.pub
  have still : (files.cached G device).Of G device := ⟨.inr rfl, own.roleCred⟩
  refine loads.pass ?_
  refine (turn_onConn (writes_sendMode mode).turn _).write ?_
  refine Turn.skip (onDevicePub_apply proper own) ?_
  refine Turn.skip (fun _ => Effect.lift_of_ok checked) ?_
  refine (turn_onConn (writes_sendHandle mode).turn _).write ?_
  refine (turn_roleBytes proper still carries).pass ?_
  exact (turn_onConn (Writes.sendAll _).turn _).last fun _ => rfl

def replyBytes (G : Suite β S P) (reply : AuthReply β S P) : List β :=
  (G.compress reply.serverStaticPub).bytes ++ (G.compress reply.aS).bytes ++ (G.toBytes reply.sS).bytes ++
    reply.nonceS.bytes ++ (G.compress reply.ephS).bytes ++ reply.tagS.bytes

structure Satisfying (G : Suite β S P) (ephSecret : S) (hello : AuthHello β S P) (reply : AuthReply β S P) : Prop where
  key : reply.serverStaticPub = hello.pinnedServerPub
  keyProper : reply.serverStaticPub ≠ 0
  proofProper : reply.aS ≠ 0
  ephProper : reply.ephS ≠ 0
  verifies : schnorrVerifyServer G reply.serverStaticPub reply.aS reply.sS reply.nonceS reply.ephS = true
  tag : (conclude G ephSecret hello reply).tagS G = reply.tagS

omit [DecidableEq β] in
theorem parseAuthReply_replyBytes {ephSecret : S} {hello : AuthHello β S P}
    (satisfying : Satisfying G ephSecret hello reply) : parseAuthReply G (replyBytes G reply) = .ok reply := by
  have front : (replyBytes G reply).drop 0 = (G.compress reply.serverStaticPub).bytes ++
      ((G.compress reply.aS).bytes ++ ((G.toBytes reply.sS).bytes ++ (reply.nonceS.bytes ++
        ((G.compress reply.ephS).bytes ++ (reply.tagS.bytes ++ []))))) := by
    simp [replyBytes]
  obtain ⟨first, tail⟩ := sliceBlock_of_drop 32 front rfl (by decide)
  obtain ⟨second, tail⟩ := sliceBlock_of_drop 64 tail rfl (by decide)
  obtain ⟨third, tail⟩ := sliceBlock_of_drop 96 tail rfl (by decide)
  obtain ⟨fourth, tail⟩ := sliceBlock_of_drop 128 tail rfl (by decide)
  obtain ⟨fifth, tail⟩ := sliceBlock_of_drop 160 tail rfl (by decide)
  obtain ⟨sixth, _⟩ := sliceBlock_of_drop 192 tail rfl (by decide)
  simp only [parseAuthReply, Except.bind_ok_iff, decompressOr_ok, canonicalOr_ok, rejectIdentity_ok]
  exact ⟨_, first, _, second, _, third, _, fourth, _, fifth, _, sixth, _, rfl, (), satisfying.keyProper, _, rfl, (),
    satisfying.proofProper, _, rfl, _, rfl, (), satisfying.ephProper, rfl⟩

omit [Octet β] [DecidableEq β] [DecidableEq P] in
theorem length_replyBytes (G : Suite β S P) (reply : AuthReply β S P) : (replyBytes G reply).length = 192 := by
  simp [replyBytes]

theorem turn_finishAuth {ephSecret : S} {hello : AuthHello β S P} (satisfying : Satisfying G ephSecret hello reply) :
    Turn onlyConn (finishAuth G ephSecret hello) () (replyBytes G reply)
      ((conclude G ephSecret hello reply).tagC G).bytes () (conclude G ephSecret hello reply) := by
  have key : decide (G.compress hello.pinnedServerPub ≠ G.compress reply.serverStaticPub) = false := by
    rw [satisfying.key]
    exact decide_eq_false (not_not_intro rfl)
  have tag : decide ((conclude G ephSecret hello reply).tagS G ≠ reply.tagS) = false :=
    decide_eq_false (not_not_intro satisfying.tag)
  have verifies := congrArg not satisfying.verifies
  have answer : Turn onlyConn (do
      sendAll ((conclude G ephSecret hello reply).tagC G).bytes
      pure (conclude G ephSecret hello reply)) () [] ((conclude G ephSecret hello reply).tagC G).bytes ()
        (conclude G ephSecret hello reply) := (Writes.sendAll _).turn.last fun _ => rfl
  refine (Reads.recvVec (length_replyBytes G reply)).turn.hear ?_
  refine Turn.skip (fun _ => Effect.lift_of_ok (parseAuthReply_replyBytes satisfying)) ?_
  refine Turn.skip (fun _ => Effect.failIf_of_false key) ?_
  refine Turn.skip (fun _ => Effect.failIf_of_false verifies) ?_
  exact Turn.skip (fun _ => Effect.failIf_of_false tag) answer

omit [Octet β] [DecidableEq β] in
theorem parseAuthReply_ok {pt2 : List β} (length : pt2.length = 192) (parsed : parseAuthReply G pt2 = .ok reply) :
    pt2 = replyBytes G reply ∧ reply.serverStaticPub ≠ 0 ∧ reply.aS ≠ 0 ∧ reply.ephS ≠ 0 := by
  simp only [parseAuthReply, Except.bind_ok_iff, decompressOr_ok, canonicalOr_ok, rejectIdentity_ok] at parsed
  obtain ⟨_, first, _, second, _, third, nonceS, fourth, _, fifth, tagS, sixth, serverPub, rfl, _, properPub, aS, rfl, _,
    properA, sS, rfl, ephS, rfl, _, properEph, done⟩ := parsed
  cases done
  have front := drop_of_sliceBlock first
  rw [List.drop_zero, drop_of_sliceBlock second, drop_of_sliceBlock third, drop_of_sliceBlock fourth,
    drop_of_sliceBlock fifth, drop_of_sliceBlock sixth, List.drop_eq_nil_of_le (Nat.le_of_eq length)] at front
  refine ⟨?_, properPub, properA, properEph⟩
  rw [front]
  simp [replyBytes]

theorem finishAuth_ok {ephSecret : S} {hello : AuthHello β S P} {conn after : Conn β} {session : AuthSession β S P}
    (run : finishAuth G ephSecret hello conn = (.ok session, after)) :
    ∃ reply rest, conn.input = replyBytes G reply ++ rest ∧ Satisfying G ephSecret hello reply ∧
      session = conclude G ephSecret hello reply ∧ after.output = conn.output ++ (session.tagC G).bytes := by
  simp only [finishAuth, Effect.bind_ok] at run
  obtain ⟨pt2, middle, read, reply, _, parse, _, _, sameKey, _, _, verified, _, _, sameTag, _, _, sent, done⟩ := run
  obtain ⟨length, input, moved⟩ := recvVec_ok read
  rw [Effect.lift_apply, Prod.mk.injEq] at parse
  obtain ⟨bytes, properPub, properA, properEph⟩ := parseAuthReply_ok length parse.1
  obtain ⟨key, keyState⟩ := Effect.failIf_ok.mp sameKey
  obtain ⟨verifies, verifiedState⟩ := Effect.failIf_ok.mp verified
  obtain ⟨tag, tagState⟩ := Effect.failIf_ok.mp sameTag
  rw [decide_eq_false_iff_not, not_not] at key tag
  cases done
  rw [bytes] at input
  refine ⟨reply, middle.input, input, ⟨(G.compress_injective key).symm, properPub, properA, properEph,
    by simpa using verifies, tag⟩, rfl, ?_⟩
  rw [sendAll_ok sent, tagState, verifiedState, keyState, ← parse.2, moved]

theorem finishAuth_refused {ephSecret : S} {hello : AuthHello β S P} {conn after : Conn β} {failure : Failure}
    (failed : finishAuth G ephSecret hello conn = (.error failure, after)) : after.output = conn.output := by
  have unread := (Listens.recvVec 192 conn).1
  rcases Effect.bind_error.mp failed with tooShort | ⟨pt2, middle, read, failed⟩
  · rwa [tooShort] at unread
  · rw [read] at unread
    rw [← unread]
    rcases Effect.bind_error.mp failed with unparsed | ⟨reply, _, parsed, failed⟩
    · rw [(Prod.mk.inj unparsed).2]
    · obtain rfl := (Prod.mk.inj parsed).2
      rcases Effect.bind_error.mp failed with otherKey | ⟨_, _, key, failed⟩
      · rw [Effect.failIf_error otherKey]
      · rw [(Effect.failIf_ok.mp key).2] at failed
        rcases Effect.bind_error.mp failed with unverified | ⟨_, _, verified, failed⟩
        · rw [Effect.failIf_error unverified]
        · rw [(Effect.failIf_ok.mp verified).2] at failed
          rcases Effect.bind_error.mp failed with otherTag | ⟨_, _, tag, failed⟩
          · rw [Effect.failIf_error otherTag]
          · rw [(Effect.failIf_ok.mp tag).2] at failed
            rcases Effect.bind_error.mp failed with unsent | ⟨_, _, _, done⟩
            · exact sendAll_error unsent
            · cases done

def Device.session (G : Suite β S P) (device : Device β S) (serverPub : P) (random : AuthRandom β S)
    (reply : AuthReply β S P) : AuthSession β S P :=
  conclude G random.ephSecret (device.hello G serverPub random) reply

def sessionSent (G : Suite β S P) (device : Device β S) (mode : AuthMode) (serverPub : P) (random : AuthRandom β S)
    (roles : List β) (reply : AuthReply β S P) : List β :=
  requestSent G device mode serverPub random roles ++ ((device.session G serverPub random reply).tagC G).bytes

section Whole

variable (proper : device.Proper G) (serverProper : serverPub ≠ 0) (own : files.Of G device)
  (pinned : files.serverPub = .present (G.compress serverPub).bytes 0o600)
  (carries : device.Roles G allowedRoles serverPub random (authMode vars).deviceOnly roles)
include proper serverProper own pinned carries

theorem turn_doAuthV2Session (satisfying : Satisfying G random.ephSecret (device.hello G serverPub random) reply) :
    Turn Connected.mk (doAuthV2Session G allowedRoles vars (device.x G) .none random) files (replyBytes G reply)
      (sessionSent G device (authMode vars) serverPub random roles reply) (files.cached G device)
      (device.session G serverPub random reply) :=
  (turn_requestAuth proper serverProper own pinned carries).write (turn_onConn (turn_finishAuth satisfying) _)

theorem waits_doAuthV2Session :
    Waits Connected.mk (doAuthV2Session G allowedRoles vars (device.x G) .none random) files []
      (requestSent G device (authMode vars) serverPub random roles) :=
  Waits.ask (turn_requestAuth proper serverProper own pinned carries)
    (waits_onConn (Waits.recvVec (by decide)).bind _)

end Whole

end Session

end ZkArche.Client

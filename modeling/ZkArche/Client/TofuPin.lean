import ZkArche.Client.Setup
import ZkArche.Primitives.Exchange
import ZkArche.Primitives.SmallSuite

namespace ZkArche

open Foundation

section Succeeds

variable {β S P γ : Type} [Field S] [AddCommGroup P] [Module S P] {G : Suite β S P} {conn : Conn β}

theorem succeeds_recvPoint_bind [DecidableEq P] {label : String} {next : P → Effect Failure (Conn β) γ} :
    Effect.Succeeds (recvPoint G label >>= next) conn ↔ ∃ (p : P) (rest : List β),
      p ≠ 0 ∧ conn.input = (G.compress p).bytes ++ rest ∧
        Effect.Succeeds (next p) { conn with input := rest, recv := conn.recv + 32 } := by
  rw [Effect.succeeds_bind]
  constructor
  · rintro ⟨p, middle, run, tail⟩
    obtain ⟨nonzero, input, same⟩ := recvPoint_ok run
    rw [same] at tail
    exact ⟨p, middle.input, nonzero, input, tail⟩
  · rintro ⟨p, rest, nonzero, input, tail⟩
    exact ⟨p, _, recvPoint_apply input nonzero, tail⟩

theorem succeeds_recvScalar_bind {next : S → Effect Failure (Conn β) γ} :
    Effect.Succeeds (recvScalar G >>= next) conn ↔ ∃ (s : S) (rest : List β),
      conn.input = (G.toBytes s).bytes ++ rest ∧
        Effect.Succeeds (next s) { conn with input := rest, recv := conn.recv + 32 } := by
  rw [Effect.succeeds_bind]
  constructor
  · rintro ⟨s, middle, run, tail⟩
    obtain ⟨input, same⟩ := recvScalar_ok run
    rw [same] at tail
    exact ⟨s, middle.input, input, tail⟩
  · rintro ⟨s, rest, input, tail⟩
    exact ⟨s, _, recvScalar_apply input, tail⟩

end Succeeds

end ZkArche

namespace ZkArche.Client

open Foundation

variable {β S P : Type} [Octet β] [Field S] [AddCommGroup P] [Module S P]
variable [DecidableEq β] [DecidableEq P]

def DevicePubReady (G : Suite β S P) (fault : Option IoError) (x : S) (file : StateFile β) : Prop :=
  (∃ p, loadCachedDevicePub G file = .ok (some p)) ∨
    loadCachedDevicePub G file = .ok none ∧ x • G.basepoint ≠ 0 ∧ fault = none

def RoleCredReady (G : Suite β S P) (fault : Option IoError) (file : StateFile β) : Prop :=
  if file.isPresent then ∃ cred, loadRoleCredential G file = .ok cred else fault = none

def requestWrites : Option String → List Nat
  | some token => [1, 1, (utf8Bytes token).length, 32, 32, 32, 32]
  | none => [1, 1, 32, 32, 32, 32]

structure Asks (G : Suite β S P) (call : SetupCall β S) (faults : SetupFaults) (before : Connected β) : Prop where
  devicePub : DevicePubReady G faults.devicePub call.x before.files.devicePub
  roleCred : RoleCredReady G faults.roleCred before.files.roleCred
  token : ∀ token ∈ call.pairingToken, (utf8Bytes token).length ≤ 128
  written : Delivers before.conn.writeFault before.conn.sent (requestWrites call.pairingToken)

/-- The peer's bytes begin with a well-formed setup answer. Nothing is said about its proof. -/
def Offers (G : Suite β S P) (input : List β) : Prop :=
  ∃ (serverNonce : Block β 32) (setupChallenge : Block β 16) (serverPub a : P) (s : S) (rest : List β),
    serverPub ≠ 0 ∧ a ≠ 0 ∧
    input = serverNonce.bytes ++ (setupChallenge.bytes ++ ((G.compress serverPub).bytes ++
      ((G.compress a).bytes ++ ((G.toBytes s).bytes ++ rest))))

variable {G : Suite β S P} {call : SetupCall β S} {faults : SetupFaults} {random : SetupRandom β S}
  {before after : Connected β} {failure : Failure}

omit [Octet β] [DecidableEq β] in
theorem loadCachedDevicePub_nonzero {file : StateFile β} {p : P} (cached : loadCachedDevicePub G file = .ok (some p)) :
    p ≠ 0 := by
  unfold loadCachedDevicePub at cached
  split at cached
  · cases cached
  · obtain ⟨_, _, cached⟩ := Except.bind_ok_iff.mp cached
    obtain ⟨_, _, cached⟩ := Except.bind_ok_iff.mp cached
    obtain ⟨_, _, cached⟩ := Except.bind_ok_iff.mp cached
    obtain ⟨point, _, cached⟩ := Except.bind_ok_iff.mp cached
    obtain ⟨_, checked, cached⟩ := Except.bind_ok_iff.mp cached
    cases cached
    exact rejectIdentity_ok.mp checked

omit [Octet β] [DecidableEq β] in
theorem devicePubReady_iff {fault : Option IoError} {x : S} {file : StateFile β} :
    DevicePubReady G fault x file ↔
      ∃ p final, loadOrComputeDevicePub G fault x file = (.ok p, final) ∧ p ≠ 0 := by
  unfold loadOrComputeDevicePub DevicePubReady
  rw [Effect.bind_of_ok (Effect.get_apply file)]
  rcases cached : loadCachedDevicePub G file with failure | (_ | p)
  · rw [Effect.bind_of_error (Effect.lift_apply _ _)]
    simp
  · rw [Effect.bind_of_ok (Effect.lift_apply _ _)]
    constructor
    · rintro (⟨p, impossible⟩ | ⟨-, nonzero, works⟩)
      · cases impossible
      · have checked : rejectIdentity (x • G.basepoint) "device_static_pub" = .ok () := rejectIdentity_ok.mpr nonzero
        have run : (do
            Effect.lift (rejectIdentity (x • G.basepoint) "device_static_pub")
            saveDevicePub G fault (x • G.basepoint)
            pure (x • G.basepoint)) file =
              (.ok (x • G.basepoint), .present (G.compress (x • G.basepoint)).bytes 0o600) := by
          rw [Effect.bind_of_ok (Effect.lift_of_ok checked), works]
          rfl
        exact ⟨_, _, run, nonzero⟩
    · rintro ⟨p, final, run, nonzero⟩
      obtain ⟨_, middle, checked, run⟩ := Effect.bind_ok.mp run
      obtain ⟨_, stored, saved, done⟩ := Effect.bind_ok.mp run
      cases done
      refine .inr ⟨rfl, nonzero, ?_⟩
      cases fault with
      | none => rfl
      | some error => cases saved
  · rw [Effect.bind_of_ok (Effect.lift_apply _ _)]
    have nonzero := loadCachedDevicePub_nonzero cached
    exact ⟨fun _ => ⟨p, file, rfl, nonzero⟩, fun _ => .inl ⟨p, rfl⟩⟩

theorem roleCredReady_iff {fault : Option IoError} {file : StateFile β} (blind : S) :
    RoleCredReady G fault file ↔ ∃ cred final, loadOrCreateRoleCredential G fault blind file = (.ok cred, final) := by
  unfold loadOrCreateRoleCredential RoleCredReady
  rw [Effect.bind_of_ok (Effect.get_apply file)]
  split
  case isTrue there =>
    constructor
    · rintro ⟨cred, loads⟩
      exact ⟨cred, file, Effect.lift_of_ok loads⟩
    · rintro ⟨cred, final, run⟩
      rw [Effect.lift_apply, Prod.mk.injEq] at run
      exact ⟨cred, run.1⟩
  case isFalse =>
    constructor
    · intro works
      rw [works]
      exact ⟨_, _, rfl⟩
    · rintro ⟨cred, final, run⟩
      obtain ⟨_, stored, saved, done⟩ := Effect.bind_ok.mp run
      cases fault with
      | none => rfl
      | some error => cases saved

theorem prepareSetup_succeeds (unpinned : before.files.serverPub = .absent) (tofu : call.allowTofuSetup = true) :
    Effect.Succeeds (prepareSetup G call faults random) before ↔
      DevicePubReady G faults.devicePub call.x before.files.devicePub ∧
        RoleCredReady G faults.roleCred before.files.roleCred := by
  rw [devicePubReady_iff, roleCredReady_iff random.blind]
  unfold prepareSetup onDevicePub onRoleCred
  rw [Effect.succeeds_zoom_bind]
  constructor
  · rintro ⟨p, devicePub, key, rest⟩
    obtain ⟨_, checked, rest⟩ := Effect.succeeds_lift_bind.mp rest
    obtain ⟨cred, roleCred, credential, _⟩ := Effect.succeeds_zoom_bind.mp rest
    exact ⟨⟨p, devicePub, key, rejectIdentity_ok.mp checked⟩, cred, roleCred, credential⟩
  · rintro ⟨⟨p, devicePub, key, nonzero⟩, cred, roleCred, credential⟩
    refine ⟨p, devicePub, key, Effect.succeeds_lift_bind.mpr ⟨(), rejectIdentity_ok.mpr nonzero, ?_⟩⟩
    refine Effect.succeeds_zoom_bind.mpr ⟨cred, roleCred, credential, ?_⟩
    refine Effect.succeeds_bind.mpr ⟨_, _, rfl, Effect.succeeds_lift_bind.mpr ⟨none, ?_, ?_⟩⟩
    · show loadServerPub G before.files.serverPub = .ok none
      rw [unpinned]
      rfl
    · refine Effect.succeeds_failIf_bind.mpr ⟨?_, Effect.succeeds_pure _ _⟩
      rw [tofu]
      rfl

omit [Octet β] [DecidableEq β] in
theorem keeps_serverPub_onConn {α : Type} (file : StateFile β) (part : Effect Failure (Conn β) α) :
    Effect.Keeps (fun state : Connected β => state.files.serverPub = file) (onConn part) :=
  Effect.keeps_zoom fun _ _ same => same

theorem prepareSetup_keeps (G : Suite β S P) (call : SetupCall β S) (faults : SetupFaults) (random : SetupRandom β S)
    (file : StateFile β) (conn : Conn β) :
    Effect.Keeps (fun state => state.files.serverPub = file ∧ state.conn = conn) (prepareSetup G call faults random) := by
  unfold prepareSetup
  refine Effect.Keeps.bind (Effect.keeps_zoom fun _ _ same => same) ?_
  intro _
  refine Effect.Keeps.bind (Effect.keeps_lift _) ?_
  intro _
  refine Effect.Keeps.bind (Effect.keeps_zoom fun _ _ same => same) ?_
  intro _
  refine Effect.Keeps.bind (fun _ same => same) ?_
  intro _
  refine Effect.Keeps.bind (Effect.keeps_lift _) ?_
  intro _
  refine Effect.Keeps.bind (Effect.keeps_failIf _ _) ?_
  intro _
  exact Effect.keeps_pure _

theorem prepareSetup_unpinned {enrollee : Enrollee S P} (unpinned : before.files.serverPub = .absent)
    (run : prepareSetup G call faults random before = (.ok enrollee, after)) : enrollee.pinnedServerPub = none := by
  unfold prepareSetup at run
  obtain ⟨_, first, ofFirst, run⟩ := Effect.bind_ok.mp run
  obtain ⟨_, second, ofSecond, run⟩ := Effect.bind_ok.mp run
  obtain ⟨_, third, ofThird, run⟩ := Effect.bind_ok.mp run
  obtain ⟨files, _, reads, run⟩ := Effect.bind_ok.mp run
  cases reads
  obtain ⟨pinned, _, loads, run⟩ := Effect.bind_ok.mp run
  obtain ⟨_, _, _, done⟩ := Effect.bind_ok.mp run
  cases done
  have atFirst : first.files.serverPub = .absent := (congrArg (·.2.files.serverPub) ofFirst).symm.trans unpinned
  have atSecond : second.files.serverPub = .absent := (congrArg (·.2.files.serverPub) ofSecond).symm.trans atFirst
  have atThird : third.files.serverPub = .absent := (congrArg (·.2.files.serverPub) ofThird).symm.trans atSecond
  rw [Effect.lift_apply, atThird, Prod.mk.injEq] at loads
  cases loads.1
  rfl

omit [DecidableEq β] [DecidableEq P] in
theorem requestSetup_succeeds {enrollee : Enrollee S P} {clientNonce : Block β 32} {conn : Conn β} :
    Effect.Succeeds (requestSetup G call enrollee clientNonce) conn ↔
      (∀ token ∈ call.pairingToken, (utf8Bytes token).length ≤ 128) ∧
        Delivers conn.writeFault conn.sent (requestWrites call.pairingToken) := by
  unfold requestSetup
  cases call.pairingToken with
  | none =>
    simp only [sendPairingToken, succeeds_sendAll_bind, succeeds_sendAll, requestWrites, Delivers, lits_length,
      Block.bytes_length, List.length_singleton]
    simp
  | some token =>
    simp only [sendPairingToken, bind_assoc, succeeds_sendAll_bind, Effect.succeeds_failIf_bind, succeeds_sendAll,
      requestWrites, Delivers, lits_length, Block.bytes_length, List.length_singleton]
    simp
    tauto

omit [Octet β] [DecidableEq β] in
theorem recvSetupChallenge_succeeds {conn : Conn β} :
    Effect.Succeeds (recvSetupChallenge G) conn ↔ Offers G conn.input := by
  unfold recvSetupChallenge Offers
  constructor
  · intro run
    obtain ⟨serverNonce, rest₁, input, run⟩ := succeeds_recvExact_bind.mp run
    obtain ⟨setupChallenge, rest₂, input₂, run⟩ := succeeds_recvExact_bind.mp run
    obtain ⟨serverPubBytes, rest₃, input₃, run⟩ := succeeds_recvExact_bind.mp run
    obtain ⟨serverPub, decoded, run⟩ := Effect.succeeds_lift_bind.mp run
    obtain ⟨_, checked, run⟩ := Effect.succeeds_lift_bind.mp run
    obtain ⟨a, rest₄, nonzero, input₄, run⟩ := succeeds_recvPoint_bind.mp run
    obtain ⟨s, rest, input₅, _⟩ := succeeds_recvScalar_bind.mp run
    dsimp only at input₂ input₃ input₄ input₅
    rw [decompressOr_ok] at decoded
    refine ⟨serverNonce, setupChallenge, serverPub, a, s, rest, rejectIdentity_ok.mp checked, nonzero, ?_⟩
    rw [input, input₂, input₃, input₄, input₅, decoded]
  · rintro ⟨serverNonce, setupChallenge, serverPub, a, s, rest, pubNonzero, nonzero, input⟩
    refine succeeds_recvExact_bind.mpr ⟨serverNonce, _, input, ?_⟩
    refine succeeds_recvExact_bind.mpr ⟨setupChallenge, _, rfl, ?_⟩
    refine succeeds_recvExact_bind.mpr ⟨G.compress serverPub, _, rfl, ?_⟩
    refine Effect.succeeds_lift_bind.mpr ⟨serverPub, decompressOr_ok.mpr rfl, ?_⟩
    refine Effect.succeeds_lift_bind.mpr ⟨(), rejectIdentity_ok.mpr pubNonzero, ?_⟩
    refine succeeds_recvPoint_bind.mpr ⟨a, _, nonzero, rfl, ?_⟩
    exact succeeds_recvScalar_bind.mpr ⟨s, rest, rfl, Effect.succeeds_pure _ _⟩

omit [DecidableEq β] [DecidableEq P] in
theorem requestSetup_input (G : Suite β S P) (call : SetupCall β S) (enrollee : Enrollee S P)
    (clientNonce : Block β 32) (input : List β) :
    Effect.Keeps (fun conn => conn.input = input) (requestSetup G call enrollee clientNonce) := by
  have sends : ∀ buf : List β, Effect.Keeps (fun conn => conn.input = input) (sendAll buf) := by
    intro buf conn same
    unfold sendAll
    split <;> exact same
  unfold requestSetup sendPairingToken
  refine (sends _).bind fun _ => ?_
  refine Effect.Keeps.bind ?_ fun _ => ?_
  · cases call.pairingToken with
    | none => exact sends _
    | some token => exact (Effect.keeps_failIf _ _).bind fun _ => (sends _).bind fun _ => sends _
  · exact (sends _).bind fun _ => (sends _).bind fun _ => (sends _).bind fun _ => sends _

def offered (G : Suite β S P) (call : SetupCall β S) (faults : SetupFaults) (random : SetupRandom β S) :
    Effect Failure (Connected β) (Enrollee S P × SetupChallenge β S P) := do
  let enrollee ← prepareSetup G call faults random
  onConn (requestSetup G call enrollee random.clientNonce)
  let challenge ← onConn (recvSetupChallenge G)
  pure (enrollee, challenge)

theorem offered_succeeds (unpinned : before.files.serverPub = .absent) (tofu : call.allowTofuSetup = true) :
    Effect.Succeeds (offered G call faults random) before ↔ Asks G call faults before ∧ Offers G before.conn.input := by
  unfold offered
  constructor
  · intro run
    obtain ⟨enrollee, prepared, ready, run⟩ := Effect.succeeds_bind.mp run
    obtain ⟨_, asked, request, run⟩ := Effect.succeeds_zoom_bind.mp run
    obtain ⟨challenge, answered, reads, _⟩ := Effect.succeeds_zoom_bind.mp run
    have kept := prepareSetup_keeps G call faults random .absent before.conn before ⟨unpinned, rfl⟩
    rw [ready] at kept
    have input := requestSetup_input G call enrollee random.clientNonce before.conn.input prepared.conn (by rw [kept.2])
    rw [request] at input
    obtain ⟨devicePub, roleCred⟩ := (prepareSetup_succeeds unpinned tofu).mp (Effect.succeeds_of_ok ready)
    obtain ⟨token, written⟩ := requestSetup_succeeds.mp (Effect.succeeds_of_ok request)
    rw [kept.2] at written
    have offers := recvSetupChallenge_succeeds.mp (Effect.succeeds_of_ok reads)
    exact ⟨⟨devicePub, roleCred, token, written⟩, input ▸ offers⟩
  · rintro ⟨asks, offers⟩
    obtain ⟨enrollee, prepared, ready⟩ := (prepareSetup_succeeds unpinned tofu).mpr ⟨asks.devicePub, asks.roleCred⟩
    have kept := prepareSetup_keeps G call faults random .absent before.conn before ⟨unpinned, rfl⟩
    rw [ready] at kept
    have requests : Effect.Succeeds (requestSetup G call enrollee random.clientNonce) before.conn :=
      requestSetup_succeeds.mpr ⟨asks.token, asks.written⟩
    obtain ⟨_, asked, request⟩ := requests
    have input := requestSetup_input G call enrollee random.clientNonce before.conn.input before.conn rfl
    rw [request] at input
    obtain ⟨challenge, answered, reads⟩ := recvSetupChallenge_succeeds.mpr (input ▸ offers : Offers G asked.input)
    refine Effect.succeeds_bind.mpr ⟨enrollee, prepared, ready, ?_⟩
    refine Effect.succeeds_zoom_bind.mpr ⟨(), asked, by rw [kept.2]; exact request, ?_⟩
    exact Effect.succeeds_zoom_bind.mpr ⟨challenge, answered, reads, Effect.succeeds_pure _ _⟩

theorem offered_unpinned {offer : Enrollee S P × SetupChallenge β S P} (unpinned : before.files.serverPub = .absent)
    (run : offered G call faults random before = (.ok offer, after)) : offer.1.pinnedServerPub = none := by
  obtain ⟨enrollee, prepared, ready, run⟩ := Effect.bind_ok.mp run
  obtain ⟨_, _, _, run⟩ := Effect.bind_ok.mp run
  obtain ⟨_, _, _, done⟩ := Effect.bind_ok.mp run
  cases done
  exact prepareSetup_unpinned unpinned ready

theorem offered_keeps (G : Suite β S P) (call : SetupCall β S) (faults : SetupFaults) (random : SetupRandom β S)
    (file : StateFile β) :
    Effect.Keeps (fun state => state.files.serverPub = file) (offered G call faults random) := by
  unfold offered
  have prepares : Effect.Keeps (fun state => state.files.serverPub = file) (prepareSetup G call faults random) :=
    fun state same => (prepareSetup_keeps G call faults random file state.conn state ⟨same, rfl⟩).1
  refine prepares.bind fun _ => ?_
  refine (keeps_serverPub_onConn file _).bind fun _ => ?_
  exact (keeps_serverPub_onConn file _).bind fun _ => Effect.keeps_pure _

def decideOn (G : Suite β S P) (call : SetupCall β S) (faults : SetupFaults) (random : SetupRandom β S)
    (enrollee : Enrollee S P) (challenge : SetupChallenge β S P) : Effect Failure (Connected β) Unit := do
  onServerPub (checkPin G faults.tofuPin enrollee.pinnedServerPub challenge)
  onConn (answerSetup G call enrollee random challenge)
  onConn recvAck
  onServerPub (saveServerPub G faults.finalPin challenge.serverStaticPub)

theorem doSetup_eq : doSetup G call faults random = (do
    let offer ← offered G call faults random
    decideOn G call faults random offer.1 offer.2
    pure offer) := by
  simp only [doSetup, offered, decideOn, bind_assoc, pure_bind]

omit [Octet β] [DecidableEq β] [DecidableEq P] in
theorem isPresent_saveServerPub {fault : Option IoError} {pubkey : P} :
    Effect.Keeps (fun file => file.isPresent = true) (saveServerPub G fault pubkey : Effect Failure (StateFile β) Unit) := by
  intro file there
  cases fault with
  | none => rfl
  | some error => exact there

theorem decideOn_pins (G : Suite β S P) (call : SetupCall β S) (random : SetupRandom β S)
    {enrollee : Enrollee S P} (challenge : SetupChallenge β S P) (unpinned : enrollee.pinnedServerPub = none)
    (stored : faults.tofuPin = none) (state : Connected β) :
    (decideOn G call faults random enrollee challenge state).2.files.serverPub.isPresent = true := by
  have rest : Effect.Keeps (fun state : Connected β => state.files.serverPub.isPresent = true) (do
      onConn (answerSetup G call enrollee random challenge)
      onConn recvAck
      onServerPub (saveServerPub G faults.finalPin challenge.serverStaticPub)) := by
    refine Effect.Keeps.bind (Effect.keeps_zoom fun _ _ there => there) fun _ => ?_
    refine Effect.Keeps.bind (Effect.keeps_zoom fun _ _ there => there) fun _ => ?_
    exact fun state there => isPresent_saveServerPub state.files.serverPub there
  have pin : onServerPub (checkPin G faults.tofuPin enrollee.pinnedServerPub challenge) state =
      (.ok (), { state with files := { state.files with
        serverPub := .present (G.compress challenge.serverStaticPub).bytes 0o600 } }) := by
    rw [unpinned, stored]
    rfl
  unfold decideOn
  rw [Effect.bind_of_ok pin]
  exact rest _ rfl

theorem decideOn_fault {enrollee : Enrollee S P} {challenge : SetupChallenge β S P} {error : IoError}
    (unpinned : enrollee.pinnedServerPub = none) (fault : faults.tofuPin = some error) (state : Connected β) :
    decideOn G call faults random enrollee challenge state = (.error (.io error), state) := by
  have pin : onServerPub (checkPin G faults.tofuPin enrollee.pinnedServerPub challenge) state =
      (.error (.io error), state) := by
    rw [unpinned, fault]
    rfl
  unfold decideOn
  exact Effect.bind_of_error pin

/-- A setup that fails leaves the server's key unpinned exactly when the key was never offered in
    a well-formed answer, or could not be stored. The proof that comes with it plays no part. -/
theorem failed_setup_pins_nothing_iff (unpinned : before.files.serverPub = .absent) (tofu : call.allowTofuSetup = true)
    (failed : doSetup G call faults random before = (.error failure, after)) :
    after.files.serverPub = .absent ↔
      ¬ (Asks G call faults before ∧ Offers G before.conn.input ∧ faults.tofuPin = none) := by
  have kept := offered_keeps G call faults random .absent before unpinned
  rw [doSetup_eq] at failed
  rcases outcome : offered G call faults random before with ⟨early | offer, middle⟩
  · rw [Effect.bind_of_error outcome] at failed
    cases failed
    rw [outcome] at kept
    refine iff_of_true kept ?_
    rintro ⟨asks, offers, -⟩
    obtain ⟨value, final, run⟩ := (offered_succeeds unpinned tofu).mpr ⟨asks, offers⟩
    rw [outcome] at run
    cases run
  · have nothing := offered_unpinned unpinned outcome
    have reached := (offered_succeeds unpinned tofu).mp (Effect.succeeds_of_ok outcome)
    have final := Effect.bind_pure_state (decideOn G call faults random offer.1 offer.2) (fun _ => offer) middle
    rw [Effect.bind_of_ok outcome] at failed
    rw [failed] at final
    change after = _ at final
    rw [final]
    cases fault : faults.tofuPin with
    | none =>
      have pinned := decideOn_pins G call random offer.2 nothing fault middle
      refine iff_of_false ?_ (not_not_intro ⟨reached.1, reached.2, rfl⟩)
      intro absent
      rw [absent] at pinned
      cases pinned
    | some error =>
      rw [decideOn_fault nothing fault]
      rw [outcome] at kept
      exact iff_of_true kept fun impossible => nomatch impossible.2.2

def firstSetup : SetupCall UInt8 (ZMod 5) := ⟨toySuite.sha256 [], 1, none, true⟩

def firstRandom : SetupRandom UInt8 (ZMod 5) := ⟨1, toySuite.sha256 [], 1⟩

def impostorAnswer : List UInt8 :=
  (toySuite.sha256 []).bytes ++ (List.replicate 16 0 ++ ((toySuite.compress 1).bytes ++
    ((toySuite.compress 1).bytes ++ ((toySuite.toBytes 0).bytes ++ []))))

def beforeImpostor : Connected UInt8 := ⟨⟨.absent, .absent, .absent, .absent⟩, .opened impostorAnswer⟩

def refusalOf {α : Type} : Except Failure α → Option Failure
  | .ok _ => none
  | .error failure => some failure

theorem refusalOf_eq_some {α : Type} {result : Except Failure α} :
    refusalOf result = some failure ↔ result = .error failure := by
  cases result <;> simp [refusalOf]

def afterImpostor : Connected UInt8 := (doSetup toySuite firstSetup .none firstRandom beforeImpostor).2

theorem impostor_refused : doSetup toySuite firstSetup .none firstRandom beforeImpostor =
    (.error (permissionDenied "server setup proof invalid"), afterImpostor) := by
  have refused : refusalOf (doSetup toySuite firstSetup .none firstRandom beforeImpostor).1 =
      some (permissionDenied "server setup proof invalid") := by decide +kernel
  unfold afterImpostor
  rw [← refusalOf_eq_some.mp refused]

def beforeHangUp : Connected UInt8 := ⟨⟨.absent, .absent, .absent, .absent⟩, .opened (impostorAnswer.take 80)⟩

def afterHangUp : Connected UInt8 := (doSetup toySuite firstSetup .none firstRandom beforeHangUp).2

theorem hangUp_fails : ∃ failure, doSetup toySuite firstSetup .none firstRandom beforeHangUp = (.error failure, afterHangUp) := by
  have refused : (refusalOf (doSetup toySuite firstSetup .none firstRandom beforeHangUp).1).isSome = true := by decide +kernel
  obtain ⟨failure, same⟩ := Option.isSome_iff_exists.mp refused
  refine ⟨failure, ?_⟩
  unfold afterHangUp
  rw [← refusalOf_eq_some.mp same]

theorem hangUp_offers_nothing : ¬ Offers toySuite beforeHangUp.conn.input := by
  intro offers
  obtain ⟨serverNonce, setupChallenge, serverPub, a, s, rest, _, _, input⟩ := offers
  have lengths := congrArg List.length input
  simp only [List.length_append, Block.bytes_length] at lengths
  have short : beforeHangUp.conn.input.length = 80 := by decide
  omega

/-- No key is pinned that the peer has not finished to offer. -/
theorem failed_setup_pins_nothing_iff_hangUp :
    (∃ failure, doSetup toySuite firstSetup .none firstRandom beforeHangUp = (.error failure, afterHangUp)) ∧
    ¬ (Asks toySuite firstSetup .none beforeHangUp ∧ Offers toySuite beforeHangUp.conn.input ∧
      SetupFaults.none.tofuPin = none) ∧
    afterHangUp.files.serverPub = .absent := by
  obtain ⟨failure, failed⟩ := hangUp_fails
  have incomplete : ¬ (Asks toySuite firstSetup .none beforeHangUp ∧ Offers toySuite beforeHangUp.conn.input ∧
      SetupFaults.none.tofuPin = none) := fun complete => hangUp_offers_nothing complete.2.1
  exact ⟨⟨failure, failed⟩, incomplete, (failed_setup_pins_nothing_iff rfl rfl failed).mpr incomplete⟩

/-- The proof is refused, and the key stays. -/
theorem impostor_key_is_pinned :
    beforeImpostor.files.serverPub = .absent ∧ firstSetup.allowTofuSetup = true ∧
    doSetup toySuite firstSetup .none firstRandom beforeImpostor =
      (.error (permissionDenied "server setup proof invalid"), afterImpostor) ∧
    afterImpostor.files.serverPub ≠ .absent := by
  have pinned : afterImpostor.files.serverPub.isPresent = true := by decide +kernel
  refine ⟨rfl, rfl, impostor_refused, ?_⟩
  intro absent
  rw [absent] at pinned
  cases pinned

end ZkArche.Client

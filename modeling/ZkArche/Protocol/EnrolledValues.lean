import ZkArche.Client.Auth
import ZkArche.Client.TofuPin
import ZkArche.Protocol.FailedSave

namespace ZkArche.Client

open Foundation

variable {β S P : Type} [Octet β] [Field S] [AddCommGroup P] [Module S P]
variable [DecidableEq P]

/-- One run of `do_setup` by a device, on whatever its connection brings. -/
structure SetupRun (β S : Type) where
  call : SetupCall β S
  faults : SetupFaults
  random : SetupRandom β S
  before : Connected β

/-- In this run the device reads a challenge, finds the server's key and proof good, and answers
    with its own proof. -/
structure SetupRun.Signs [DecidableEq β] (G : Suite β S P) (run : SetupRun β S) (enrollee : Enrollee S P)
    (challenge : SetupChallenge β S P) : Prop where
  offered : ∃ middle, offered G run.call run.faults run.random run.before = (.ok (enrollee, challenge), middle)
  pinned : ∀ pinned ∈ enrollee.pinnedServerPub, G.compress pinned = challenge.serverPubBytes
  convinced : schnorrVerifySetupServer G challenge.serverStaticPub run.call.deviceId enrollee.deviceStaticPub
    run.random.clientNonce challenge.serverNonce challenge.setupChallenge challenge.aS challenge.sS = true

def SetupRun.transcript (G : Suite β S P) (run : SetupRun β S) (enrollee : Enrollee S P)
    (challenge : SetupChallenge β S P) : CompatTranscript β :=
  setupTranscript G enrollee.deviceStaticPub run.call.deviceId challenge.serverStaticPub run.random.clientNonce
    challenge.serverNonce challenge.setupChallenge (run.random.r • G.basepoint)

def SetupRun.request (run : SetupRun β S) (enrollee : Enrollee S P) : Server.SetupRequest β P where
  deviceId := run.call.deviceId
  deviceStaticPub := enrollee.deviceStaticPub
  clientNonce := run.random.clientNonce
  roleCommitment := enrollee.roleCred.commitment

section Sending

variable {G : Suite β S P} {α γ : Type}

def Appends (part : Effect Failure (Conn β) α) (bytes : List β) : Prop :=
  ∀ conn value after, part conn = (.ok value, after) → after.output = conn.output ++ bytes

omit [Octet β] in
theorem Appends.bind {first : Effect Failure (Conn β) α} {next : α → Effect Failure (Conn β) γ} {front back : List β}
    (head : Appends first front) (tail : ∀ value, Appends (next value) back) : Appends (first >>= next) (front ++ back) := by
  intro conn result after run
  obtain ⟨value, middle, here, there⟩ := Effect.bind_ok.mp run
  rw [tail value middle result after there, head conn value middle here, List.append_assoc]

omit [Octet β] in
theorem appends_sendAll (buf : List β) : Appends (sendAll buf) buf := by
  intro conn value after run
  rw [sendAll_ok run]

omit [Octet β] in
theorem appends_failIf (condition : Bool) (failure : Failure) :
    Appends (Effect.failIf condition failure : Effect Failure (Conn β) Unit) [] := by
  intro conn value after run
  rw [(Effect.failIf_ok.mp run).2, List.append_nil]

omit [Octet β] in
theorem appends_of_listens {part : Effect Failure (Conn β) α} (listens : Listens part) : Appends part [] := by
  intro conn value after run
  have same := (listens conn).1
  rw [run] at same
  rw [same, List.append_nil]

theorem appends_sendPairingToken (token : Option String) :
    Appends (sendPairingToken token : Effect Failure (Conn β) Unit) (Server.tokenBytes token) := by
  cases token with
  | none => exact appends_sendAll _
  | some token =>
    have bytes : (Server.tokenBytes (some token) : List β) =
        [] ++ (lits [UInt8.ofNat (utf8Bytes token).length] ++ lits (utf8Bytes token)) := rfl
    rw [bytes]
    apply (appends_failIf _ _).bind
    intro _
    exact (appends_sendAll _).bind fun _ => appends_sendAll _

omit [DecidableEq P] in
theorem appends_requestSetup (run : SetupRun β S) (enrollee : Enrollee S P) :
    Appends (requestSetup G run.call enrollee run.random.clientNonce)
      (lits [msgSetup] ++ Server.setupRequestBytes G run.call.pairingToken (run.request enrollee)) := by
  unfold requestSetup Server.setupRequestBytes
  apply (appends_sendAll _).bind
  intro _
  apply (appends_sendPairingToken _).bind
  intro _
  apply (appends_sendAll _).bind
  intro _
  apply (appends_sendAll _).bind
  intro _
  exact (appends_sendAll _).bind fun _ => appends_sendAll _

omit [Octet β] in
theorem listens_recvPoint (label : String) : Listens (recvPoint G label) := by
  apply (Listens.recvExact 32).bind
  intro _
  apply (Listens.lift _).bind
  intro _
  exact (Listens.lift _).bind fun _ => Listens.pure _

omit [Octet β] in
theorem listens_recvSetupChallenge : Listens (recvSetupChallenge G) := by
  apply (Listens.recvExact 32).bind
  intro _
  apply (Listens.recvExact 16).bind
  intro _
  apply (Listens.recvExact 32).bind
  intro _
  apply (Listens.lift _).bind
  intro _
  apply (Listens.lift _).bind
  intro _
  apply (listens_recvPoint _).bind
  intro _
  refine Listens.bind ((Listens.recvExact 32).bind fun _ => Listens.lift _) ?_
  intro _
  exact Listens.pure _

variable [DecidableEq β]

def SetupRun.Sends (G : Suite β S P) (run : SetupRun β S) (request : Server.SetupRequest β P) : Prop :=
  ∃ offer middle, offered G run.call run.faults run.random run.before = (.ok offer, middle) ∧
    request = run.request offer.1 ∧
    middle.conn.output = run.before.conn.output ++
      (lits [msgSetup] ++ Server.setupRequestBytes G run.call.pairingToken request)

omit [Octet β] [DecidableEq β] in
theorem onConn_ok {part : Effect Failure (Conn β) α} {state after : Connected β} {value : α}
    (run : onConn part state = (.ok value, after)) : part state.conn = (.ok value, after.conn) := by
  rw [onConn, Effect.zoom_apply, Prod.mk.injEq] at run
  obtain ⟨result, rfl⟩ := run
  exact Prod.ext result rfl

theorem offered_sends {run : SetupRun β S} {enrollee : Enrollee S P} {challenge : SetupChallenge β S P}
    {middle : Connected β}
    (outcome : offered G run.call run.faults run.random run.before = (.ok (enrollee, challenge), middle)) :
    middle.conn.output = run.before.conn.output ++
      (lits [msgSetup] ++ Server.setupRequestBytes G run.call.pairingToken (run.request enrollee)) := by
  obtain ⟨prepared, ready, prepares, outcome⟩ := Effect.bind_ok.mp outcome
  obtain ⟨_, asked, requests, outcome⟩ := Effect.bind_ok.mp outcome
  obtain ⟨answered, last, reads, done⟩ := Effect.bind_ok.mp outcome
  rw [Effect.pure_apply, Prod.mk.injEq, Except.ok.injEq, Prod.mk.injEq] at done
  obtain ⟨⟨rfl, rfl⟩, rfl⟩ := done
  have kept := prepareSetup_keeps G run.call run.faults run.random run.before.files.serverPub run.before.conn
    run.before ⟨rfl, rfl⟩
  rw [prepares] at kept
  have sent := appends_requestSetup run prepared ready.conn _ _ (onConn_ok requests)
  have same := appends_of_listens listens_recvSetupChallenge asked.conn _ _ (onConn_ok reads)
  rw [same, List.append_nil, sent, kept.2]

theorem SetupRun.Signs.sends {run : SetupRun β S} {enrollee : Enrollee S P} {challenge : SetupChallenge β S P}
    (signs : run.Signs G enrollee challenge) : run.Sends G (run.request enrollee) := by
  obtain ⟨middle, outcome⟩ := signs.offered
  exact ⟨_, middle, outcome, rfl, offered_sends outcome⟩

end Sending

end ZkArche.Client

namespace ZkArche.Server

open Foundation

variable {β S P : Type} [Octet β] [Field S] [AddCommGroup P] [Module S P]
variable [DecidableEq β] [DecidableEq P]

/-- `handle_setup` up to the insertion, with the proof that was verified. -/
def acceptedSetup (G : Suite β S P) (ctx : ServerContext S) (moments : SetupMoments β P) (peerKey : String)
    (random : SetupRandom β S) : Effect Failure (Connected β P) (SetupRequest β P × (P × S)) := do
  checkRateLimit ctx.vars moments.admission peerKey
  let request ← onConn (readSetupRequest G ctx.policy moments.pairing.now)
  let state ← readShared
  let checked ← Effect.lift (checkCollision G state.reg request)
  onConn (challengeSetup G ctx checked.toSetupRequest random)
  let proof ← onConn (verifySetup G ctx checked.toSetupRequest random)
  pure (checked.toSetupRequest, proof)

def SetupRequest.transcript (G : Suite β S P) (ctx : ServerContext S) (random : SetupRandom β S)
    (request : SetupRequest β P) (a : P) : CompatTranscript β :=
  setupTranscript G request.deviceStaticPub request.deviceId (ctx.staticPub G) request.clientNonce random.serverNonce
    random.setupChallenge a

section Stored

variable {G : Suite β S P} {ctx : ServerContext S} {moments : SetupMoments β P} {peerKey : String}
  {random : SetupRandom β S} {before middle : Connected β P} {request : SetupRequest β P} {proof : P × S}

theorem verifiedSetup_eq : verifiedSetup G ctx moments peerKey random = (do
    let accepted ← acceptedSetup G ctx moments peerKey random
    pure accepted.1) := by
  simp only [verifiedSetup, acceptedSetup, bind_assoc, pure_bind]

theorem returns_acceptedSetup : Effect.Returns (fun accepted => vartimeSchnorrCheck G.basepoint accepted.1.deviceStaticPub
    accepted.2.1 ((accepted.1.transcript G ctx random accepted.2.1).challengeScalar G) accepted.2.2 = true)
    (acceptedSetup G ctx moments peerKey random) := by
  have verifies : ∀ request, Effect.Returns (fun proof => vartimeSchnorrCheck G.basepoint request.deviceStaticPub proof.1
      ((request.transcript G ctx random proof.1).challengeScalar G) proof.2 = true)
      (verifySetup G ctx request random) := by
    intro request
    unfold verifySetup
    apply Effect.Returns.last
    intro a
    apply Effect.Returns.last
    intro s
    refine Effect.Returns.bind (Effect.returns_failIf _ _) ?_
    intro _ verified
    rw [Bool.not_eq_false'] at verified
    exact Effect.returns_pure verified
  unfold acceptedSetup
  apply Effect.Returns.last
  intro _
  apply Effect.Returns.last
  intro _
  apply Effect.Returns.last
  intro _
  apply Effect.Returns.last
  intro checked
  apply Effect.Returns.last
  intro _
  refine Effect.Returns.bind (verifies checked.toSetupRequest).zoom ?_
  intro proof verified
  exact Effect.returns_pure verified

/-- The session puts this record under this device_id into the registry. -/
def Stores (G : Suite β S P) (ctx : ServerContext S) (moments : SetupMoments β P) (peerKey : String)
    (random : SetupRandom β S) (before : Connected β P) (deviceId : Block β 32) (record : DeviceRecord P) : Prop :=
  ∃ accepted middle, acceptedSetup G ctx moments peerKey random before = (.ok accepted, middle) ∧
    deviceId = accepted.1.deviceId ∧ record = accepted.1.record

theorem handleSetup_stored (accepted : acceptedSetup G ctx moments peerKey random before = (.ok (request, proof), middle)) :
    (handleSetup G ctx moments peerKey random before).2.server.reg =
      before.server.reg.insert request.deviceId request.record := by
  have valid : verifiedSetup G ctx moments peerKey random before = (.ok request, middle) := by
    rw [verifiedSetup_eq, Effect.bind_of_ok accepted, Effect.pure_apply]
  have kept : Effect.Keeps (fun state : Connected β P => state.server.reg =
      middle.server.reg.insert request.deviceId request.record) (do onConn acknowledge; pure request) :=
    (keeps_onConn acknowledge fun server => server.reg = _).bind fun _ => Effect.keeps_pure _
  rw [handleSetup_eq, Effect.bind_of_ok valid, ← (verifiedSetup_maps valid).1]
  have inserted := enrollDevice_state G moments.insertion request middle.server
  rcases enrolls : onServer (enrollDevice G moments.insertion request) middle with ⟨failure | _, enrolled⟩
  · rw [Effect.bind_of_error enrolls]
    rw [onServer_apply, inserted, Prod.mk.injEq] at enrolls
    rw [← enrolls.2]
  · rw [Effect.bind_of_ok enrolls]
    rw [onServer_apply, inserted, Prod.mk.injEq] at enrolls
    apply kept
    rw [← enrolls.2]

end Stored

end ZkArche.Server

namespace ZkArche.Protocol

open Foundation

variable {β S P : Type} [Octet β] [Field S] [AddCommGroup P] [Module S P]
variable [DecidableEq β] [DecidableEq P]

/-- What a device has done with its secret: its setups, and the first messages of its sessions. -/
structure DeviceHistory (β S P : Type) where
  setups : Set (Client.SetupRun β S)
  sessions : Set (Client.AuthHello β S P)

inductive DeviceHistory.Proves (G : Suite β S P) (history : DeviceHistory β S P) (x : S) : CompatTranscript β → Prop where
  | setup {run : Client.SetupRun β S} {enrollee : Client.Enrollee S P} {challenge : Client.SetupChallenge β S P}
      (member : run ∈ history.setups) (own : run.call.x = x) (signs : run.Signs G enrollee challenge) :
      Proves G history x (run.transcript G enrollee challenge)
  | session {hello : Client.AuthHello β S P} (member : hello ∈ history.sessions) :
      Proves G history x (Client.clientTranscript G (x • G.basepoint) hello.pid hello.aC hello.nonceC hello.ephC)

/-- Whatever pair this session accepts under the device's key, the device has made a proof for the
    challenge that the pair answers. -/
def ProofUnforgeable (G : Suite β S P) (ctx : Server.ServerContext S) (moments : Server.SetupMoments β P)
    (peerKey : String) (random : Server.SetupRandom β S) (before : Server.Connected β P)
    (history : DeviceHistory β S P) (x : S) : Prop :=
  ∀ accepted middle, Server.acceptedSetup G ctx moments peerKey random before = (.ok accepted, middle) →
    let c := (accepted.1.transcript G ctx random accepted.2.1).challengeScalar G
    Server.vartimeSchnorrCheck G.basepoint (x • G.basepoint) accepted.2.1 c accepted.2.2 = true →
      ∃ proved, history.Proves G x proved ∧ proved.challengeScalar G = c

/-- What the device has made a proof for and what this session verified do not collide under the
    challenge hash. -/
def ChallengeCollisionFree (G : Suite β S P) (ctx : Server.ServerContext S) (moments : Server.SetupMoments β P)
    (peerKey : String) (random : Server.SetupRandom β S) (before : Server.Connected β P)
    (history : DeviceHistory β S P) (x : S) : Prop :=
  ∀ accepted middle, Server.acceptedSetup G ctx moments peerKey random before = (.ok accepted, middle) →
    ∀ proved, history.Proves G x proved →
      proved.challengeScalar G = (accepted.1.transcript G ctx random accepted.2.1).challengeScalar G →
        proved.buf = (accepted.1.transcript G ctx random accepted.2.1).buf

section Setup

variable {G : Suite β S P} {ctx : Server.ServerContext S} {moments : Server.SetupMoments β P} {peerKey : String}
  {random : Server.SetupRandom β S} {before middle : Server.Connected β P} {history : DeviceHistory β S P} {x : S}

def setupFields (pubkey : P) (deviceId : Block β 32) (serverStaticPub : P) (clientNonce serverNonce : Block β 32)
    (setupChallenge : Block β 16) (a : P) : List (List UInt8 × TranscriptValue β P) := [
  (ascii "role", .bytes (lits (ascii "client"))),
  (ascii "device_id", .bytes deviceId.bytes),
  (ascii "device_pub", .point pubkey),
  (ascii "server_pub", .point serverStaticPub),
  (ascii "a", .point a),
  (ascii "client_nonce", .bytes clientNonce.bytes),
  (ascii "server_nonce", .bytes serverNonce.bytes),
  (ascii "setup_challenge", .bytes setupChallenge.bytes)]

omit [DecidableEq β] [DecidableEq P] in
theorem setupFields_fit (G : Suite β S P) (pubkey : P) (deviceId : Block β 32) (serverStaticPub : P)
    (clientNonce serverNonce : Block β 32) (setupChallenge : Block β 16) (a : P) :
    ∀ field ∈ setupFields pubkey deviceId serverStaticPub clientNonce serverNonce setupChallenge a,
      FieldFits (field.1, field.2.serialize G) := by
  have role : (ascii "client").length < 4294967296 := by decide
  intro field member
  simp only [setupFields, List.mem_cons, List.not_mem_nil, or_false] at member
  rcases member with rfl | rfl | rfl | rfl | rfl | rfl | rfl | rfl
  all_goals exact ⟨by dsimp only; decide, by simp [TranscriptValue.serialize, role]⟩

omit [DecidableEq β] [DecidableEq P] in
theorem setupTranscript_inj {pubkey pubkey' : P} {deviceId deviceId' : Block β 32} {serverStaticPub serverStaticPub' : P}
    {clientNonce clientNonce' serverNonce serverNonce' : Block β 32} {setupChallenge setupChallenge' : Block β 16} {a a' : P}
    (same : (Client.setupTranscript G pubkey deviceId serverStaticPub clientNonce serverNonce setupChallenge a).buf =
      (Server.setupTranscript G pubkey' deviceId' serverStaticPub' clientNonce' serverNonce' setupChallenge' a').buf) :
    pubkey = pubkey' ∧ deviceId = deviceId' := by
  have fields := (buildTranscript_inj (by decide) (by decide) (setupFields_fit G _ _ _ _ _ _ _)
    (setupFields_fit G _ _ _ _ _ _ _) same).2
  simp only [setupFields, List.map_cons, List.map_nil, List.cons.injEq, Prod.mk.injEq, true_and,
    TranscriptValue.serialize, Block.bytes_inj] at fields
  obtain ⟨deviceId, pubkey, _⟩ := fields
  exact ⟨G.compress_injective pubkey, deviceId⟩

omit [DecidableEq β] [DecidableEq P] in
theorem session_ne_setup {pubkey pubkey' serverStaticPub a a' ephC : P}
    {deviceId pid nonceC clientNonce serverNonce : Block β 32} {setupChallenge : Block β 16} :
    (Client.clientTranscript G pubkey pid a nonceC ephC).buf ≠
      (Server.setupTranscript G pubkey' deviceId serverStaticPub clientNonce serverNonce setupChallenge a').buf := by
  intro same
  rw [Client.clientTranscript, Server.setupTranscript, buildTranscript_eq_ofFields, buildTranscript_eq_ofFields] at same
  have domains := domain_of_ofFields (by decide) (by decide) same
  exact absurd domains (by decide)

theorem acceptedSetup_received {accepted : Server.SetupRequest β P × (P × S)}
    (run : Server.acceptedSetup G ctx moments peerKey random before = (.ok accepted, middle)) :
    ∃ asked, Server.readSetupRequest G ctx.policy moments.pairing.now before.conn = (.ok accepted.1, asked) := by
  obtain ⟨_, admitted, admits, run⟩ := Effect.bind_ok.mp run
  obtain ⟨request, asked, reads, run⟩ := Effect.bind_ok.mp run
  obtain ⟨_, _, _, run⟩ := Effect.bind_ok.mp run
  obtain ⟨checked, _, free, run⟩ := Effect.bind_ok.mp run
  obtain ⟨_, _, _, run⟩ := Effect.bind_ok.mp run
  obtain ⟨_, _, _, done⟩ := Effect.bind_ok.mp run
  obtain ⟨blocked, looked, looks, passes⟩ := Effect.bind_ok.mp admits
  rw [Effect.failIf_ok] at passes
  rw [passes.2, Server.onConn_ok, (Server.onServer_ok.mp looks).2] at reads
  rw [Effect.lift_apply, Prod.mk.injEq] at free
  cases done
  rw [(Server.checkCollision_ok free.1).1]
  exact ⟨_, reads.1⟩

/-- The device_id and the key that a session enrolls a device under are the ones that the device
    has sent in one of its setups. The role commitment is the one that the server received. -/
theorem enrolled_values_sent (unforgeable : ProofUnforgeable G ctx moments peerKey random before history x)
    (collisionFree : ChallengeCollisionFree G ctx moments peerKey random before history x) {deviceId : Block β 32}
    {record : Server.DeviceRecord P} (stores : Server.Stores G ctx moments peerKey random before deviceId record)
    (own : record.pubkey = x • G.basepoint) :
    (∃ run ∈ history.setups, run.call.x = x ∧ ∃ sent, run.Sends G sent ∧
      deviceId = sent.deviceId ∧ record.pubkey = sent.deviceStaticPub) ∧
    ∃ received asked, Server.readSetupRequest G ctx.policy moments.pairing.now before.conn = (.ok received, asked) ∧
      record.roleCommitment = received.roleCommitment := by
  obtain ⟨⟨request, proof⟩, middle, accepted, rfl, rfl⟩ := stores
  obtain ⟨asked, reads⟩ := acceptedSetup_received accepted
  refine ⟨?_, request, asked, reads, rfl⟩
  have verified := Server.returns_acceptedSetup before _ _ accepted
  change request.deviceStaticPub = x • G.basepoint at own
  dsimp only at verified
  rw [own] at verified
  obtain ⟨proved, proves, challenges⟩ := unforgeable _ _ accepted verified
  have same := collisionFree _ _ accepted proved proves challenges
  cases proves with
  | setup member ofDevice signs =>
    obtain ⟨pubkey, deviceId⟩ := setupTranscript_inj same
    exact ⟨_, member, ofDevice, _, signs.sends, deviceId.symm, pubkey.symm⟩
  | session member => exact absurd same session_ne_setup

theorem proves_once {run : Client.SetupRun β S} {offer : Client.Enrollee S P × Client.SetupChallenge β S P}
    {after : Client.Connected β}
    (outcome : Client.offered G run.call run.faults run.random run.before = (.ok offer, after))
    {proved : CompatTranscript β} (proves : DeviceHistory.Proves G ⟨{run}, ∅⟩ x proved) :
    proved = run.transcript G offer.1 offer.2 := by
  cases proves with
  | setup member own signs =>
    rw [Set.mem_singleton_iff.mp member] at signs ⊢
    obtain ⟨middle, again⟩ := signs.offered
    rw [outcome] at again
    cases again
    rfl
  | session member => exact absurd member (Set.notMem_empty _)

end Setup

theorem RustExchange.acceptedSetup {S P : Type} [Field S] [AddCommGroup P] [Module S P] [DecidableEq P]
    {G : Suite UInt8 S P} {ctx : Server.ServerContext S}
    {server : Server.ServerState UInt8 P} {moments : Server.SetupMoments UInt8 P}
    {random : Server.SetupRandom UInt8 S} {request : Server.SetupRequest UInt8 P} {conn asked challenged verified
    answered : Conn UInt8} {proof : P × S}
    (exchange : RustExchange G ctx moments random request conn asked challenged verified answered proof)
    (peerKey : String) (unknown : server.failures = .empty)
    (free : ∀ pub ∈ Server.registeredKey server.reg request.deviceId, pub = request.deviceStaticPub) :
    Server.acceptedSetup G ctx moments peerKey random ⟨server, conn⟩ = (.ok (request, proof), ⟨server, verified⟩) := by
  rw [Server.acceptedSetup, Effect.bind_of_ok (checkRateLimit_unknown _ _ _ unknown),
    Effect.bind_of_ok (Server.onConn_of_eq exchange.reads), Effect.bind_of_ok (Server.readShared_apply _),
    Effect.bind_of_ok (Effect.lift_of_ok (Server.checkCollision_apply G free)),
    Effect.bind_of_ok (Server.onConn_of_eq exchange.challenges),
    Effect.bind_of_ok (Server.onConn_of_eq exchange.verifies)]
  rfl

def drawn : Server.SetupRandom UInt8 (ZMod 5) := ⟨Suite.untouched, zeroChallenge, 1⟩

/-- A device with the secret 1 enrolls for the first time, and the server's answer reaches it. -/
def firstRun : Client.SetupRun UInt8 (ZMod 5) where
  call := ⟨Suite.untouched, 1, none, true⟩
  faults := .none
  random := ⟨0, Suite.untouched, 1⟩
  before := ⟨⟨.absent, .absent, .absent, .absent⟩,
    .opened (Server.setupChallengeBytes oneSuite openContext (reenrollment 1) drawn ++ [1])⟩

def firstOffer : Client.Enrollee (ZMod 5) (ZMod 5) × Client.SetupChallenge UInt8 (ZMod 5) (ZMod 5) :=
  (⟨1, ⟨1, 1, 0, 1⟩, none⟩, ⟨Suite.untouched, zeroChallenge, encodeResidue (1 : ZMod 5), 1, 1, 1 + 1⟩)

deriving instance DecidableEq for Client.RoleCredential, Client.Enrollee, Client.SetupChallenge

theorem firstRun_offered : ∃ middle, Client.offered oneSuite firstRun.call firstRun.faults firstRun.random
    firstRun.before = (.ok firstOffer, middle) := by
  have offers : (Client.offered oneSuite firstRun.call firstRun.faults firstRun.random firstRun.before).1.toOption =
      some firstOffer := by decide +kernel
  rcases outcome : Client.offered oneSuite firstRun.call firstRun.faults firstRun.random firstRun.before with
    ⟨failure | offer, middle⟩
  · rw [outcome] at offers
    cases offers
  · rw [outcome] at offers
    exact ⟨middle, by rw [Option.some.inj offers]⟩

theorem firstRun_signs : firstRun.Signs oneSuite firstOffer.1 firstOffer.2 where
  offered := firstRun_offered
  pinned := fun _ member => absurd member (Option.not_mem_none _)
  convinced := by decide +kernel

noncomputable def tampered : Presented oneSuite oneSuite.sodium openContext openCContext :=
  presentedTo two_ne_zero_five

noncomputable def beforeTampered : Server.Connected UInt8 (ZMod 5) := ⟨.fresh, tampered.rust.conn⟩

def onceEnrolled : DeviceHistory UInt8 (ZMod 5) (ZMod 5) := ⟨{firstRun}, ∅⟩

theorem tampered_accepted : ∃ verified, Server.acceptedSetup oneSuite openContext tampered.moments "peer" drawn
    beforeTampered = (.ok (reenrollment (1 + 1), (1, 1 + 1)), verified) := by
  obtain ⟨_, _, verified, _, exchange⟩ := tampered.rust.exchange
  refine ⟨⟨.fresh, verified⟩, exchange.acceptedSetup "peer" rfl ?_⟩
  intro pub bound
  cases bound

theorem transcripts_same : firstRun.transcript oneSuite firstOffer.1 firstOffer.2 =
    (reenrollment (1 + 1)).transcript oneSuite openContext drawn 1 := rfl

theorem tampered_unforgeable :
    ProofUnforgeable oneSuite openContext tampered.moments "peer" drawn beforeTampered onceEnrolled 1 := by
  intro accepted middle run
  obtain ⟨verified, known⟩ := tampered_accepted
  rw [known] at run
  cases run
  intro c _
  refine ⟨_, .setup (Set.mem_singleton _) rfl firstRun_signs, ?_⟩
  rw [transcripts_same]

theorem tampered_collisionFree :
    ChallengeCollisionFree oneSuite openContext tampered.moments "peer" drawn beforeTampered onceEnrolled 1 := by
  intro accepted middle run proved proves _
  obtain ⟨verified, known⟩ := tampered_accepted
  rw [known] at run
  cases run
  obtain ⟨after, outcome⟩ := firstRun_offered
  rw [proves_once outcome proves, transcripts_same]

theorem tampered_stored : Server.Stores oneSuite openContext tampered.moments "peer" drawn beforeTampered
    Suite.untouched ⟨1, 1 + 1⟩ := by
  obtain ⟨verified, known⟩ := tampered_accepted
  exact ⟨_, verified, known, rfl, rfl⟩

theorem enrolled_values_sent_tampered :
    (∃ run ∈ onceEnrolled.setups, run.call.x = 1 ∧ ∃ sent, run.Sends oneSuite sent ∧
      Suite.untouched = sent.deviceId ∧ 1 = sent.deviceStaticPub) ∧
    ∃ received asked, Server.readSetupRequest oneSuite openContext.policy 0 tampered.rust.conn = (.ok received, asked) ∧
      1 + 1 = received.roleCommitment :=
  enrolled_values_sent tampered_unforgeable tampered_collisionFree tampered_stored rfl

/-- The device has sent the commitment 1, and the registry has the commitment 2. -/
theorem role_commitment_replaced :
    ProofUnforgeable oneSuite openContext tampered.moments "peer" drawn beforeTampered onceEnrolled 1 ∧
    ChallengeCollisionFree oneSuite openContext tampered.moments "peer" drawn beforeTampered onceEnrolled 1 ∧
    Server.Stores oneSuite openContext tampered.moments "peer" drawn beforeTampered Suite.untouched ⟨1, 1 + 1⟩ ∧
    (Server.handleSetup oneSuite openContext tampered.moments "peer" drawn beforeTampered).2.server.reg.lookup
      Suite.untouched = some ⟨1, 1 + 1⟩ ∧
    ∀ run ∈ onceEnrolled.setups, ∀ sent, run.Sends oneSuite sent →
      sent.deviceStaticPub = (1 : ZMod 5) • oneSuite.basepoint ∧ sent.roleCommitment ≠ 1 + 1 := by
  refine ⟨tampered_unforgeable, tampered_collisionFree, tampered_stored, ?_, ?_⟩
  · obtain ⟨verified, known⟩ := tampered_accepted
    rw [Server.handleSetup_stored known]
    exact AList.lookup_insert _
  · intro run member sent sends
    obtain ⟨offer, middle, outcome, request, _⟩ := sends
    obtain ⟨after, known⟩ := firstRun_offered
    rw [Set.mem_singleton_iff.mp member, known] at outcome
    cases outcome
    have different : firstOffer.1.roleCred.commitment ≠ 1 + 1 := by decide
    rw [request]
    exact ⟨(one_smul _ _).symm, different⟩

end ZkArche.Protocol

import ZkArche.CServer.Agreement
import ZkArche.Protocol.SameRequests

namespace ZkArche.Protocol

open Foundation Client

variable {S P : Type} [Field S] [AddCommGroup P] [Module S P] [DecidableEq P]
variable {G : Suite UInt8 S P} {so : CImpl.Sodium}

def Conn.afterRead (size : Nat) (conn : Conn UInt8) : Conn UInt8 :=
  if size ≤ conn.input.length then { conn with input := conn.input.drop size, recv := conn.recv + size }
  else { conn with input := [] }

theorem recvExact_state (size : Nat) (conn : Conn UInt8) : (recvExact size conn).2 = Conn.afterRead size conn := by
  unfold recvExact Conn.afterRead
  split <;> rfl

theorem recvVec_state (size : Nat) (conn : Conn UInt8) : (recvVec size conn).2 = Conn.afterRead size conn := by
  rw [recvVec, Effect.bind_pure_state, recvExact_state]

theorem recvAll_state (size : Nat) (conn : Conn UInt8) : (CImpl.recvAll size conn).2 = Conn.afterRead size conn := by
  unfold CImpl.recvAll Conn.afterRead
  split <;> rfl

section Rust

variable {ephSecret : S} {hello : AuthHello UInt8 S P} {conn after : Conn UInt8} {session : AuthSession UInt8 S P}

theorem finishAuth_iff (quiet : conn.Quiet) : finishAuth G ephSecret hello conn = (.ok session, after) ↔
    ∃ reply rest, conn.input = replyBytes G reply ++ rest ∧ Satisfying G ephSecret hello reply ∧
      session = conclude G ephSecret hello reply ∧ after = conn.moved rest (replyBytes G reply) (session.tagC G).bytes := by
  constructor
  · intro run
    obtain ⟨reply, rest, input, satisfying, isSession, _⟩ := finishAuth_ok run
    have turn := turn_finishAuth satisfying conn _ quiet input
    change finishAuth G ephSecret hello conn = _ at turn
    rw [turn] at run
    cases run
    exact ⟨reply, rest, input, satisfying, rfl, rfl⟩
  · intro ⟨reply, rest, input, satisfying, isSession, isAfter⟩
    rw [isAfter, isSession]
    exact turn_finishAuth satisfying conn rest quiet input

theorem finishAuth_error (quiet : conn.Quiet) {failure : Failure}
    (failed : finishAuth G ephSecret hello conn = (.error failure, after)) : after = Conn.afterRead 192 conn := by
  have state := recvVec_state 192 conn
  rcases Effect.bind_error.mp failed with unread | ⟨pt2, middle, read, afterRead⟩
  · rw [unread] at state
    exact state
  · have calm : middle.writeFault = fun _ => none := by
      rw [(recvVec_ok read).2.2]
      exact quiet
    rw [read] at state
    rw [← state]
    rcases Effect.bind_error.mp afterRead with unparsed | ⟨reply, parsedAt, parsed, afterParse⟩
    · exact (Prod.mk.inj unparsed).2.symm
    · have same := (Prod.mk.inj parsed).2
      subst same
      rcases Effect.bind_error.mp afterParse with otherKey | ⟨_, keyAt, key, afterKey⟩
      · exact Effect.failIf_error otherKey
      · rw [(Effect.failIf_ok.mp key).2] at afterKey
        rcases Effect.bind_error.mp afterKey with unverified | ⟨_, verifiedAt, verified, afterVerified⟩
        · exact Effect.failIf_error unverified
        · rw [(Effect.failIf_ok.mp verified).2] at afterVerified
          rcases Effect.bind_error.mp afterVerified with otherTag | ⟨_, tagAt, tag, afterTag⟩
          · exact Effect.failIf_error otherTag
          · rw [(Effect.failIf_ok.mp tag).2] at afterTag
            have sent := Writes.sendAll ((conclude G ephSecret hello reply).tagC G).bytes _ calm
            rw [Effect.bind_of_ok sent] at afterTag
            cases afterTag

end Rust

def rawReply (G : Suite UInt8 S P) (reply : AuthReply UInt8 S P) : CClient.AuthReply :=
  ⟨G.compress reply.serverStaticPub, G.compress reply.aS, G.toBytes reply.sS, reply.nonceS, G.compress reply.ephS,
    reply.tagS⟩

/-- A session of the Rust client as the C client holds it. -/
def rawSession (G : Suite UInt8 S P) (session : AuthSession UInt8 S P) : CClient.AuthSession where
  hello := ⟨session.pid, G.compress session.aC, G.toBytes session.sC, session.nonceC, G.compress session.ephC⟩
  reply := ⟨G.compress session.serverPub, G.compress session.aS, G.toBytes session.sS, session.nonceS,
    G.compress session.ephS, session.tagS G⟩
  sessionKey := session.sessionKey
  th := session.th

omit [DecidableEq P] in
theorem rawReply_bytes (reply : AuthReply UInt8 S P) : (rawReply G reply).bytes = replyBytes G reply := by
  simp [CClient.AuthReply.bytes, rawReply, replyBytes]

section Replies

variable (m : so.Matches G) {ephSecret : S} {hello : AuthHello UInt8 S P} {reply : AuthReply UInt8 S P}

include m

omit [DecidableEq P] in
theorem tagS_eq {raw : CClient.AuthSession} {session : AuthSession UInt8 S P} (key : raw.sessionKey = session.sessionKey)
    (th : raw.th = session.th) : raw.tagS so = session.tagS G := by
  rw [CClient.AuthSession.tagS, CImpl.deriveKcKeys_eq m, CImpl.hmacTag, m.hmacsha256, key, th, AuthSession.tagS,
    hmacTag, CImpl.lits_bytes]
  rfl

omit [DecidableEq P] in
theorem tagC_eq {raw : CClient.AuthSession} {session : AuthSession UInt8 S P} (key : raw.sessionKey = session.sessionKey)
    (th : raw.th = session.th) : raw.tagC so = session.tagC G := by
  rw [CClient.AuthSession.tagC, CImpl.deriveKcKeys_eq m, CImpl.hmacTag, m.hmacsha256, key, th, AuthSession.tagC,
    hmacTag, CImpl.lits_bytes]
  rfl

omit [DecidableEq P] in
theorem conclude_eq (proper : ephSecret • reply.ephS ≠ 0) :
    CClient.conclude so (G.toBytes ephSecret) (rawHello G hello) (rawReply G reply) =
      some ⟨rawHello G hello, rawReply G reply, (conclude G ephSecret hello reply).sessionKey,
        (conclude G ephSecret hello reply).th⟩ := by
  have key : CImpl.deriveSessionKey so (G.toBytes ephSecret) (G.compress reply.ephS) hello.nonceC reply.nonceS hello.pid
      (G.compress hello.ephC) (G.compress reply.ephS) = some (conclude G ephSecret hello reply).sessionKey :=
    CImpl.deriveSessionKey_eq m proper hello.nonceC reply.nonceS hello.pid hello.ephC reply.ephS
  have th : CImpl.kcTranscriptHash so hello.pid (G.compress hello.aC) (G.toBytes hello.sC) hello.nonceC
      (G.compress hello.ephC) (G.compress reply.serverStaticPub) (G.compress reply.aS) (G.toBytes reply.sS) reply.nonceS
      (G.compress reply.ephS) = some (conclude G ephSecret hello reply).th := by
    rw [CImpl.kcTranscriptHash, CServer.kcTranscript_eq, Option.bind_eq_bind, Option.bind_some, m.sha256]
    rfl
  rw [CClient.conclude, rawHello, rawReply, key, th]
  rfl

def ChallengesKey (G : Suite UInt8 S P) (reply : AuthReply UInt8 S P) : Prop :=
  (Client.serverTranscript G reply.serverStaticPub reply.aS reply.nonceS reply.ephS).challengeScalar G •
    reply.serverStaticPub ≠ 0

omit [DecidableEq P] in
theorem conclude_proper {raw : CClient.AuthSession}
    (concluded : CClient.conclude so (G.toBytes ephSecret) (rawHello G hello) (rawReply G reply) = some raw) :
    ephSecret • reply.ephS ≠ 0 := by
  intro zero
  have bits : (CImpl.scalarBits (G.toBytes ephSecret) : S) = ephSecret := m.scalarBits_toBytes ephSecret
  have fails := m.scalarmult_zero (G.toBytes ephSecret) reply.ephS (by rwa [bits])
  simp only [CClient.conclude, rawReply, CImpl.deriveSessionKey, fails, Option.bind_eq_bind, Option.bind_none,
    reduceCtorEq] at concluded

omit m in
theorem rawSession_conclude (satisfying : Satisfying G ephSecret hello reply) :
    rawSession G (conclude G ephSecret hello reply) =
      ⟨rawHello G hello, rawReply G reply, (conclude G ephSecret hello reply).sessionKey,
        (conclude G ephSecret hello reply).th⟩ := by
  rw [rawSession, satisfying.tag]
  rfl

/-- The C client confirms a session exactly when the Rust client does, except that it takes a proof with the identity
    in it or with a response that is not reduced, and none whose challenge is zero. -/
theorem acceptReply_iff (secret : ephSecret ≠ 0) (serverProper : hello.pinnedServerPub ≠ 0) {payload : List UInt8}
    (length : payload.length = 192) {raw : CClient.AuthSession} :
    CClient.acceptReply so (G.compress hello.pinnedServerPub) (G.toBytes ephSecret) (rawHello G hello) payload = some raw ∧
        (∃ s, G.toBytes s = raw.reply.sS) ∧ raw.reply.aS ≠ G.compress 0 ↔
      ∃ reply, payload = replyBytes G reply ∧ Satisfying G ephSecret hello reply ∧ ChallengesKey G reply ∧
        raw = rawSession G (conclude G ephSecret hello reply) := by
  constructor
  · intro ⟨accepted, ⟨sS, reduced⟩, proofProper⟩
    simp only [CClient.acceptReply, Option.bind_eq_bind, Option.bind_eq_some_iff, Option.guard_eq_some',
      Bool.and_eq_true, m.isValidPoint, Option.pure_def, Option.some.injEq] at accepted
    obtain ⟨read, split, _, ⟨⟨⟨serverPub, isServer⟩, aS, isA⟩, ephS, isEph⟩, _, sameKey, _, verified, session, concluded, _,
      sameTag, same⟩ := accepted
    subst same
    have isReply : session.reply = read := by
      simp only [CClient.conclude, Option.bind_eq_bind, Option.bind_eq_some_iff, Option.pure_def,
        Option.some.injEq] at concluded
      obtain ⟨_, _, _, _, same⟩ := concluded
      rw [← same]
    rw [isReply] at reduced proofProper
    have whole : read = rawReply G ⟨serverPub, aS, sS, read.nonceS, ephS, read.tagS⟩ := by
      rw [rawReply, isServer, isA, reduced, isEph]
    generalize isRead : (⟨serverPub, aS, sS, read.nonceS, ephS, read.tagS⟩ : AuthReply UInt8 S P) = reply at whole
    subst whole
    have eph := conclude_proper m concluded
    rw [conclude_eq m eph, Option.some.injEq] at concluded
    have verifies := (schnorrVerifyServer_iff m).mp verified
    rw [show (rawReply G reply).sS = G.toBytes reply.sS from rfl, CServer.residue_toBytes m] at verifies
    have key : reply.serverStaticPub = hello.pinnedServerPub := G.compress_injective sameKey
    have satisfying : Satisfying G ephSecret hello reply := by
      refine ⟨key, key ▸ serverProper, ?_, ?_, verifies.2, ?_⟩
      · intro zero
        rw [rawReply, zero] at proofProper
        exact proofProper rfl
      · intro zero
        rw [zero, smul_zero] at eph
        exact eph rfl
      · have tags : session.tagS so = (conclude G ephSecret hello reply).tagS G :=
          tagS_eq m (by rw [← concluded]) (by rw [← concluded])
        rw [← tags]
        exact sameTag
    refine ⟨reply, ?_, satisfying, verifies.1, ?_⟩
    · rw [(CClient.splitReply_iff length).mp split, rawReply_bytes]
    · rw [rawSession_conclude satisfying]
      exact concluded.symm
  · intro ⟨reply, bytes, satisfying, challenges, same⟩
    have eph : ephSecret • reply.ephS ≠ 0 := by
      intro zero
      apply satisfying.ephProper
      rw [← inv_smul_smul₀ secret reply.ephS, zero, smul_zero]
    have split : CClient.splitReply payload = some (rawReply G reply) := by
      rw [CClient.splitReply_iff length, bytes, rawReply_bytes]
    have verified : CClient.schnorrVerifyServer so (rawReply G reply).serverPub2 (rawReply G reply).aS
        (rawReply G reply).sS (rawReply G reply).nonceS (rawReply G reply).ephS = some () := by
      rw [show (rawReply G reply).sS = G.toBytes reply.sS from rfl]
      refine (schnorrVerifyServer_iff m).mpr ⟨challenges, ?_⟩
      rw [CServer.residue_toBytes m]
      exact satisfying.verifies
    rw [rawSession_conclude satisfying] at same
    refine ⟨?_, ?_, ?_⟩
    · simp only [CClient.acceptReply, Option.bind_eq_bind, Option.bind_eq_some_iff, Option.guard_eq_some',
        Bool.and_eq_true, m.isValidPoint, Option.pure_def, Option.some.injEq]
      refine ⟨_, split, (), ⟨⟨⟨_, rfl⟩, _, rfl⟩, _, rfl⟩, (), congrArg G.compress satisfying.key, (), verified, _,
        conclude_eq m eph, (), ?_, same.symm⟩
      have tags : (rawSession G (conclude G ephSecret hello reply)).tagS so = (conclude G ephSecret hello reply).tagS G :=
        tagS_eq m rfl rfl
      refine Eq.trans ?_ satisfying.tag
      exact tags
    · rw [same]
      exact ⟨_, rfl⟩
    · rw [same]
      intro zero
      exact satisfying.proofProper (G.compress_injective zero)

section Dialogue

variable {conn after : Conn UInt8} {raw : CClient.AuthSession} {pinned ephemeral : Block UInt8 32}
  {rawSent : CClient.AuthHello}

omit m in
theorem cFinishAuth_iff (quiet : conn.Quiet) :
    CClient.finishAuth so pinned ephemeral rawSent conn = (.ok raw, after) ↔
      ∃ payload rest, conn.input = payload ++ rest ∧ payload.length = 192 ∧
        CClient.acceptReply so pinned ephemeral rawSent payload = some raw ∧
        after = conn.moved rest payload (raw.tagC so).bytes := by
  constructor
  · intro run
    obtain ⟨payload, middle, read, accepting⟩ := Effect.bind_ok.mp run
    obtain ⟨input, moved⟩ := CImpl.recvAll_ok read
    obtain ⟨session, afterAccept, accepted, sending⟩ := Effect.bind_ok.mp accepting
    obtain ⟨accepts, same⟩ := CImpl.orFail_ok.mp accepted
    subst same
    obtain ⟨_, later, sent, done⟩ := Effect.bind_ok.mp sending
    cases done
    have calm : afterAccept.writeFault = fun _ => none := by
      rw [moved]
      exact quiet
    rw [CImpl.sendAll_quiet calm, Prod.mk.injEq] at sent
    refine ⟨payload.bytes, afterAccept.input, input, payload.bytes_length, accepts, ?_⟩
    rw [← sent.2]
    rw [moved]
    simp [Conn.moved]
  · rintro ⟨payload, rest, input, length, accepted, moved⟩
    have whole : conn.input = (⟨payload, length⟩ : Block UInt8 192).bytes ++ rest := input
    have read := CImpl.recvAll_apply whole
    have calm : ({ conn with input := rest, recv := conn.recv + 192 } : Conn UInt8).writeFault = fun _ => none := quiet
    rw [CClient.finishAuth, Effect.bind_of_ok read, accepted, Effect.bind_of_ok (CImpl.orFail_some _ _),
      Effect.bind_of_ok (CImpl.sendAll_quiet calm _), moved, Effect.pure_apply]
    simp only [Conn.moved, length]

omit m in
theorem cFinishAuth_error (quiet : conn.Quiet) {failure : Unit}
    (failed : CClient.finishAuth so pinned ephemeral rawSent conn = (.error failure, after)) :
    after = Conn.afterRead 192 conn := by
  have state := recvAll_state 192 conn
  rcases Effect.bind_error.mp failed with unread | ⟨payload, middle, read, accepting⟩
  · rw [unread] at state
    exact state
  · have calm : middle.writeFault = fun _ => none := by
      rw [(CImpl.recvAll_ok read).2]
      exact quiet
    rw [read] at state
    rw [← state]
    cases accepted : CClient.acceptReply so pinned ephemeral rawSent payload.bytes with
    | none =>
      rw [accepted, Effect.bind_of_error (CImpl.orFail_none _)] at accepting
      cases accepting
      rfl
    | some session =>
      rw [accepted, Effect.bind_of_ok (CImpl.orFail_some _ _),
        Effect.bind_of_ok (CImpl.sendAll_quiet calm _)] at accepting
      cases accepting

end Dialogue

end Replies

section Sessions

variable {cso : CClient.ClientSodium} {device : Device UInt8 S} {files : Files UInt8} {serverPub : P}
  {rust : AuthRandom UInt8 S} {c : CClient.AuthRandom} {vars : Vars} {roles : List UInt8}

/-- A device with its files, what it draws for a session, and the role proofs that it sends. -/
structure Ready (G : Suite UInt8 S P) (device : Device UInt8 S) (files : Files UInt8) (serverPub : P) (mode : AuthMode)
    (rust : AuthRandom UInt8 S) (c : CClient.AuthRandom) (roles : List UInt8) : Prop where
  proper : device.Proper G
  serverProper : serverPub ≠ 0
  files : EnrolledFiles G device serverPub files
  draws : SameDraws G rust c
  ephSecret : rust.ephSecret ≠ 0
  multiplies : mode.deviceOnly = false → RoleMultiplies G device rust
  carries : device.Roles G CServer.allowedRoles serverPub rust mode.deviceOnly roles

/-- The connection of a device after its request. -/
def Ready.asked (G : Suite UInt8 S P) (device : Device UInt8 S) (serverPub : P) (mode : AuthMode)
    (rust : AuthRandom UInt8 S) (roles : List UInt8) (conn : Conn UInt8) : Conn UInt8 :=
  conn.moved conn.input [] (requestSent G device mode serverPub rust roles)

theorem doAuthV2Session_apply (ready : Ready G device files serverPub (authMode vars) rust c roles) {conn : Conn UInt8}
    (quiet : conn.Quiet) :
    doAuthV2Session G CServer.allowedRoles vars (device.x G) .none rust ⟨files, conn⟩ =
      onConn (finishAuth G rust.ephSecret (device.hello G serverPub rust))
        ⟨files.cached G device, Ready.asked G device serverPub (authMode vars) rust roles conn⟩ := by
  have asks := turn_requestAuth ready.proper ready.serverProper ready.files.own ready.files.pinned ready.carries conn
    conn.input quiet rfl
  rw [doAuthV2Session, Effect.bind_of_ok asks]
  rfl

theorem doAuth_apply (m : cso.Matches G) (reduces : ∀ wide, G.fromBytesModOrderWide wide = (leNat wide.bytes : S))
    (ready : Ready G device files serverPub (authMode vars) rust c roles) {conn : Conn UInt8} (quiet : conn.Quiet) :
    CClient.doAuth cso vars true .none c ⟨files, conn⟩ =
      CClient.onConn (CClient.finishAuth cso.toSodium (G.compress serverPub) (G.toBytes rust.ephSecret)
          (rawHello G (device.hello G serverPub rust)))
        ⟨files.cached G device, Ready.asked G device serverPub (authMode vars) rust roles conn⟩ := by
  have prepares := turn_prepareAuth m (c := c) reduces ready.files
    (fun full => (ready.multiplies full).blind) conn conn.input quiet rfl
  have connects : CClient.tcpConnect true ⟨files.cached G device, conn.moved conn.input [] []⟩ =
      (.ok (), ⟨files.cached G device, conn.moved conn.input [] []⟩) := rfl
  have asks := turn_cOnConn (writes_sendRequest m ready.draws ready.multiplies ready.carries).turn (files.cached G device)
    (conn.moved conn.input [] []) conn.input quiet rfl
  rw [CClient.doAuth, Effect.bind_of_ok prepares, Effect.bind_of_ok connects, Effect.bind_of_ok asks, ready.draws.ephSecret,
    Conn.moved_moved]
  rfl

/-- The challenge of a session does not take the server's key to the identity. -/
def ProperChallenge (G : Suite UInt8 S P) (session : AuthSession UInt8 S P) : Prop :=
  (Client.serverTranscript G session.serverPub session.aS session.nonceS session.ephS).challengeScalar G • session.serverPub ≠ 0

/-- Against any network the C client confirms exactly the sessions that the Rust client confirms, with the same bytes
    and the same files left behind, except for replies with the identity, an unreduced response or a challenge of zero;
    and where both refuse, they leave the same behind as well. -/
theorem clients_confirm_same_sessions (m : cso.Matches G)
    (reduces : ∀ wide, G.fromBytesModOrderWide wide = (leNat wide.bytes : S))
    (ready : Ready G device files serverPub (authMode vars) rust c roles) {conn : Conn UInt8} (quiet : conn.Quiet) :
    (∀ raw after, CClient.doAuth cso vars true .none c ⟨files, conn⟩ = (.ok raw, after) ∧
        (∃ s, G.toBytes s = raw.reply.sS) ∧ raw.reply.aS ≠ G.compress 0 ↔
      ∃ session, doAuthV2Session G CServer.allowedRoles vars (device.x G) .none rust ⟨files, conn⟩ = (.ok session, after) ∧
        ProperChallenge G session ∧ raw = rawSession G session) ∧
    ∀ failure failure' after after', CClient.doAuth cso vars true .none c ⟨files, conn⟩ = (.error failure, after) →
      doAuthV2Session G CServer.allowedRoles vars (device.x G) .none rust ⟨files, conn⟩ = (.error failure', after') →
        after = after' := by
  rw [doAuth_apply m reduces ready quiet, doAuthV2Session_apply ready quiet]
  have calm : (Ready.asked G device serverPub (authMode vars) rust roles conn).Quiet := quiet
  generalize Ready.asked G device serverPub (authMode vars) rust roles conn = asked at calm
  generalize isHello : device.hello G serverPub rust = hello
  have pinned : hello.pinnedServerPub = serverPub := by
    rw [← isHello]
    rfl
  have serverProper := ready.serverProper
  rw [← pinned] at serverProper ⊢
  simp only [CClient.onConn, onConn, Effect.zoom_eq_iff]
  constructor
  · intro raw after
    constructor
    · rintro ⟨⟨inner, run, left⟩, reduced, proofProper⟩
      obtain ⟨payload, rest, input, length, accepted, moved⟩ := (cFinishAuth_iff calm).mp run
      obtain ⟨reply, bytes, satisfying, challenges, same⟩ :=
        (acceptReply_iff m.library ready.ephSecret serverProper length).mp ⟨accepted, reduced, proofProper⟩
      have confirmed : raw.tagC cso.toSodium = (conclude G rust.ephSecret hello reply).tagC G := by
        rw [same]
        exact tagC_eq m.library rfl rfl
      rw [bytes] at input moved
      rw [confirmed] at moved
      exact ⟨_, ⟨inner, (finishAuth_iff calm).mpr ⟨reply, rest, input, satisfying, rfl, moved⟩, left⟩, challenges, same⟩
    · rintro ⟨session, ⟨inner, run, left⟩, challenges, same⟩
      obtain ⟨reply, rest, input, satisfying, isSession, moved⟩ := (finishAuth_iff calm).mp run
      rw [isSession] at challenges same moved
      have length := length_replyBytes G reply
      obtain ⟨accepted, reduced, proofProper⟩ := (acceptReply_iff m.library ready.ephSecret serverProper length).mpr
        ⟨reply, rfl, satisfying, challenges, same⟩
      have confirmed : raw.tagC cso.toSodium = (conclude G rust.ephSecret hello reply).tagC G := by
        rw [same]
        exact tagC_eq m.library rfl rfl
      rw [← confirmed] at moved
      exact ⟨⟨inner, (cFinishAuth_iff calm).mpr ⟨_, rest, input, length, accepted, moved⟩, left⟩, reduced, proofProper⟩
  · rintro failure failure' after after' ⟨inner, cFails, left⟩ ⟨inner', rustFails, left'⟩
    rw [left, left', cFinishAuth_error calm cFails, finishAuth_error calm rustFails]

end Sessions

section Examples

/-- Hash functions that keep a byte of the root secret and the length of a transcript, and the reduction of all 64
    bytes. -/
def crossHashes : Hashes 5 :=
  { rootedHashes with
    fromBytesModOrderWide := fun wide => (leNat wide.bytes : ZMod 5)
    sha512 := fun message => ⟨UInt8.ofNat (message.length + 3) :: List.replicate 63 0, rfl⟩ }

def crossSuite : Suite UInt8 (ZMod 5) (ZMod 5) := smallSuite 5 primeFive_small crossHashes

def crossSodium : CClient.ClientSodium :=
  { crossSuite.sodium with
    generichash32 := crossSuite.blake2b256
    generichash64 := crossSuite.blake2b512 }

theorem crossSodium_matches : crossSodium.Matches crossSuite where
  library := smallSuite_matches fun _ _ _ => rfl
  generichash32 := fun _ => rfl
  generichash64 := fun _ => rfl

theorem crossSuite_reduces (wide : Block UInt8 64) :
    crossSuite.fromBytesModOrderWide wide = (leNat wide.bytes : ZMod 5) := rfl

theorem length_startingWith (first : UInt8) : (first :: List.replicate 31 0).length = 32 := rfl

def startingWith (first : UInt8) : Block UInt8 32 := ⟨first :: List.replicate 31 0, length_startingWith first⟩

def crossDevice : Device UInt8 (ZMod 5) := ⟨startingWith 1, 1, 1⟩

def crossFiles : Files UInt8 where
  deviceRoot := .present crossDevice.root.bytes 0o600
  serverPub := .present (crossSuite.compress 1).bytes 0o600
  devicePub := .absent
  roleCred := .present (roleCredBytes crossSuite (crossDevice.cred crossSuite)) 0o600

def crossRandom : AuthRandom UInt8 (ZMod 5) :=
  ⟨Suite.untouched, 1, 1, 0, -1 - 1, 1, ⟨1, fun _ => (1 + 1, 1 + 1)⟩⟩

def crossDraws : CClient.AuthRandom where
  root := Suite.untouched
  blind := Suite.untouched
  nonceC := crossRandom.nonceC
  ephSecret := crossSuite.toBytes crossRandom.ephSecret
  r := crossSuite.toBytes crossRandom.r
  delta := crossSuite.toBytes crossRandom.delta
  rerandR := crossSuite.toBytes crossRandom.rerandR
  orProof := ⟨crossSuite.toBytes 1, fun _ => (crossSuite.toBytes (1 + 1), crossSuite.toBytes (1 + 1))⟩

theorem crossDraws_same : SameDraws crossSuite crossRandom crossDraws where
  nonceC := rfl
  ephSecret := rfl
  r := rfl
  delta := rfl
  rerandR := rfl
  orProof := ⟨rfl, fun _ => rfl⟩

def crossReply : AuthReply UInt8 (ZMod 5) (ZMod 5) := ⟨1, 1, -1, Suite.untouched, 1, Suite.untouched⟩

theorem crossDevice_multiplies : RoleMultiplies crossSuite crossDevice crossRandom where
  blind := by decide
  delta := by decide
  rerandR := by decide
  branches := by
    intro index _ y member
    have proper : ∀ y ∈ (CServer.allowedRoles.map (Server.roleStatement crossSuite
        ((crossDevice.cred crossSuite).commitment + crossRandom.delta • attrH crossSuite))).zipIdx,
      (1 + 1 : ZMod 5) • y.1 ≠ 0 := by decide
    have own : (1 : ZMod 5) • attrH crossSuite ≠ 0 := by decide
    have response : (1 + 1 : ZMod 5) • attrH crossSuite ≠ 0 := by decide
    exact ⟨fun _ => own, fun _ => response, fun _ => proper y member⟩

theorem crossReady :
    ∃ roles, Ready crossSuite crossDevice crossFiles 1 (authMode fun _ => none) crossRandom crossDraws roles := by
  have succeeds : (proveRole crossSuite CServer.allowedRoles (crossDevice.cred crossSuite)
      (crossDevice.hello crossSuite 1 crossRandom) crossRandom).isOk = true := by decide
  cases proves : proveRole crossSuite CServer.allowedRoles (crossDevice.cred crossSuite)
      (crossDevice.hello crossSuite 1 crossRandom) crossRandom with
  | error failure =>
    rw [proves] at succeeds
    cases succeeds
  | ok proof =>
    have enrolled : EnrolledFiles crossSuite crossDevice 1 crossFiles := ⟨⟨_, rfl⟩, ⟨.inl rfl, rfl⟩, rfl⟩
    exact ⟨_, ⟨by decide, by decide⟩, by decide, enrolled, crossDraws_same, by decide, fun _ => crossDevice_multiplies,
      .full proves⟩

/-- A full session with the reply of an honest server, which the C client confirms. -/
theorem clients_confirm_same_sessions_cross :
    ((∀ raw after, CClient.doAuth crossSodium (fun _ => none) true .none crossDraws
          ⟨crossFiles, .opened (replyBytes crossSuite crossReply)⟩ = (.ok raw, after) ∧
          (∃ s, crossSuite.toBytes s = raw.reply.sS) ∧ raw.reply.aS ≠ crossSuite.compress 0 ↔
        ∃ session, doAuthV2Session crossSuite CServer.allowedRoles (fun _ => none) (crossDevice.x crossSuite) .none
            crossRandom ⟨crossFiles, .opened (replyBytes crossSuite crossReply)⟩ = (.ok session, after) ∧
          ProperChallenge crossSuite session ∧ raw = rawSession crossSuite session) ∧
      ∀ failure failure' after after', CClient.doAuth crossSodium (fun _ => none) true .none crossDraws
            ⟨crossFiles, .opened (replyBytes crossSuite crossReply)⟩ = (.error failure, after) →
          doAuthV2Session crossSuite CServer.allowedRoles (fun _ => none) (crossDevice.x crossSuite) .none crossRandom
            ⟨crossFiles, .opened (replyBytes crossSuite crossReply)⟩ = (.error failure', after') →
          after = after') ∧
    (CClient.doAuth crossSodium (fun _ => none) true .none crossDraws
      ⟨crossFiles, .opened (replyBytes crossSuite crossReply)⟩).1.isOk = true := by
  obtain ⟨roles, ready⟩ := crossReady
  exact ⟨clients_confirm_same_sessions crossSodium_matches crossSuite_reduces ready rfl, by decide +kernel⟩

end Examples

end ZkArche.Protocol

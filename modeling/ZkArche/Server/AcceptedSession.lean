import ZkArche.Primitives.SmallSuite
import ZkArche.Server.Verification

namespace ZkArche.Server

open Foundation Foundation.Sigma

variable {β S P : Type} [Octet β] [Field S] [AddCommGroup P] [Module S P]
variable [DecidableEq β] [DecidableEq P] [DecidableEq S]

def clientChallenge (G : Suite β S P) (record : DeviceRecord P) (request : AuthRequest β S P) : S :=
  (clientTranscript G record.pubkey request.pid request.aC request.nonceC request.ephC).challengeScalar G

def rerandChallenge (G : Suite β S P) (record : DeviceRecord P) (cPrime rerandA : P)
    (request : AuthRequest β S P) : S :=
  (rerandTranscript G record.roleCommitment cPrime rerandA request.pid request.nonceC request.ephC).challengeScalar G

/-- The equations of the two role proofs, for the commitment enrolled with the record. -/
structure RoleProofsHold (G : Suite β S P) (allowedRoles : List UInt64) (record : DeviceRecord P)
    (request : AuthRequest β S P) (proofs : RoleProofs S P allowedRoles.length) : Prop where
  cPrime : request.cPrimeOpt = some proofs.cPrime
  rerandA : request.rerandAOpt = some proofs.rerandA
  rerandS : request.rerandSOpt = some proofs.rerandS
  orProof : request.orProof = proofs.orProof
  rerandomized : proofs.rerandS • attrH G = proofs.rerandA +
    rerandChallenge G record proofs.cPrime proofs.rerandA request • (proofs.cPrime - record.roleCommitment)
  commitments : ∀ branch ∈ proofs.orProof, branch.1 ≠ 0
  branches : List.Forall₂
    (fun role branch => branch.2.2 • attrH G =
      branch.1 + branch.2.1 • (proofs.cPrime - ((role : UInt64).toNat : S) • G.basepoint))
    allowedRoles proofs.orProof
  challenges : (proofs.orProof.map fun branch => branch.2.1).sum =
    roleSetChallenge G allowedRoles proofs.cPrime proofs.orProof request.pid request.nonceC request.ephC

/-- The equations behind a request that passed `verifyProofs`. -/
structure ProofsHold (G : Suite β S P) (allowedRoles : List UInt64) (record : DeviceRecord P)
    (request : AuthRequest β S P) : Prop where
  schnorr : request.sC • G.basepoint = request.aC + clientChallenge G record request • record.pubkey
  roles : request.deviceOnly = false → ∃ proofs, RoleProofsHold G allowedRoles record request proofs

theorem require_ok {condition : Bool} {message : String} {value : Unit} :
    require condition message = .ok value ↔ condition = true := by
  cases condition <;> simp [require]

theorem expect_ok {α : Type} {message : String} {option : Option α} {value : α} :
    expect message option = .ok value ↔ option = some value := by
  cases option <;> simp [expect]

omit [DecidableEq β] in
theorem verifyProofs_ok {G : Suite β S P} {allowedRoles : List UInt64} {request : AuthRequest β S P}
    {record : DeviceRecord P} {value : Unit}
    (wellFormed : request.toAuthPayload.WellFormed request.deviceOnly allowedRoles.length) :
    verifyProofs G allowedRoles request record = .ok value ↔ ProofsHold G allowedRoles record request := by
  simp only [verifyProofs, Except.bind_ok_iff, require_ok, schnorrVerifyAuth, vartimeSchnorrCheck_iff]
  have fields := wellFormed.roles
  cases mode : request.deviceOnly with
  | true =>
    constructor
    · rintro ⟨_, schnorr, _⟩
      refine ⟨schnorr, fun full => ?_⟩
      rw [mode] at full
      cases full
    · intro holds
      exact ⟨(), holds.schnorr, rfl⟩
  | false =>
    rw [mode] at fields
    cases fields with
    | full proofs cPrime rerandA rerandS orProof =>
    simp only [Bool.false_eq_true, ↓reduceIte, Except.bind_ok_iff, expect_ok, require_ok, orProof,
      verifyRoleRerandomization, vartimeSchnorrCheck_iff]
    constructor
    · rintro ⟨_, schnorr, c, here, a, here', s, here'', _, rerandomized, member, checked, rfl⟩
      obtain rfl := Option.some.inj (cPrime.symm.trans here)
      obtain rfl := Option.some.inj (rerandA.symm.trans here')
      obtain rfl := Option.some.inj (rerandS.symm.trans here'')
      obtain ⟨commitments, accepts⟩ := verifyRoleSetMembership_iff.mp checked
      exact ⟨schnorr, fun _ => ⟨proofs, cPrime, rerandA, rerandS, orProof, rerandomized, commitments,
        List.forall₂_map_left_iff.mp accepts.each, accepts.sum⟩⟩
    · intro holds
      obtain ⟨proofs', held⟩ := holds.roles mode
      have sameC := Option.some.inj (held.cPrime.symm.trans cPrime)
      have sameA := Option.some.inj (held.rerandA.symm.trans rerandA)
      have sameS := Option.some.inj (held.rerandS.symm.trans rerandS)
      have sameProof := held.orProof.symm.trans orProof
      have rerandomized := held.rerandomized
      have commitments := held.commitments
      have branches := held.branches
      have challenges := held.challenges
      rw [sameC, sameA, sameS] at rerandomized
      rw [sameProof] at commitments
      rw [sameC, sameProof] at branches challenges
      exact ⟨(), holds.schnorr, _, cPrime, _, rerandA, _, rerandS, (), rerandomized, true,
        verifyRoleSetMembership_iff.mpr ⟨commitments, List.forall₂_map_left_iff.mpr branches, challenges⟩, rfl⟩

/-- Everything that a session is known to satisfy when the handler returned `Ok`. -/
structure Accepted (G : Suite β S P) (ctx : ServerContext S) (v3 : Bool) (before after : Connected β P)
    (record : DeviceRecord P) (session : AuthSession β S P) (request : AuthRequest β S P) (bytes : List β) :
    Prop where
  read : request.Accepted G ctx v3 bytes
  absentCurrent : replayKey request.pid request.nonceC ∉ before.server.replay.current
  absentPrevious : replayKey request.pid request.nonceC ∉ before.server.replay.previous
  present : replayKey request.pid request.nonceC ∈ after.server.replay.current
  enrolled : ∃ id, Enrolled before.server request.handleOpt id record
  pid : computePid G record.pubkey request.nonceC request.ephC (ctx.staticPub G) = request.pid
  proofs : ProofsHold G ctx.allowedRoles record request
  established : ∃ random, session = establish G ctx.serverStaticSecret request random
  input : before.conn.input = bytes ++ ((session.tagC G).bytes ++ after.conn.input)
  received : after.conn.recv = before.conn.recv + bytes.length + 32

theorem handleAuthCommon_ok {G : Suite β S P} {ctx : ServerContext S} {moments : AuthMoments β P}
    {random : AuthRandom β S} {v3 : Bool} {before after : Connected β P} {record : DeviceRecord P}
    {session : AuthSession β S P}
    (run : handleAuthCommon G ctx moments random v3 before = (.ok (record, session), after)) :
    ∃ request bytes, session = establish G ctx.serverStaticSecret request random ∧
      Accepted G ctx v3 before after record session request bytes := by
  simp only [handleAuthCommon, Effect.bind_ok, readShared_ok, onConn_ok, onServer_ok, Effect.lift_apply,
    Prod.mk.injEq] at run
  obtain ⟨request, opened, ⟨readRun, openedServer⟩, blob, admitted, ⟨admitRun, admittedConn⟩, _, written,
    ⟨writeRun, writtenConn⟩, state, _, ⟨rfl, rfl⟩, ⟨id, record'⟩, _, ⟨found, rfl⟩, _, _,
    ⟨verified, rfl⟩, _, replied, ⟨replyRun, repliedServer⟩, _, confirmed, ⟨confirmRun, confirmedServer⟩, blob',
    taken, ⟨takeRun, takenConn⟩, _, final, ⟨finalRun, finalConn⟩, done⟩ := run
  cases done
  obtain ⟨bytes, accepted, input, openedConn⟩ := readAuthRequest_ok readRun
  obtain ⟨fresh, _, admittedServer⟩ := admitSession_ok admitRun
  rw [openedServer, ReplayCache.mem_keys, not_or] at fresh
  obtain ⟨enrolled, pid⟩ := findRecord_ok found
  obtain ⟨tagInput, confirmedConn⟩ := confirm_ok confirmRun
  have writtenServer := persistReplay_ok writeRun
  have finalServer := persistReplay_ok finalRun
  have repliedConn := sendAll_ok replyRun
  obtain ⟨blob'', replay, take, current, _⟩ := takeFinalBlob_apply ctx.vars moments.completion confirmed.server
  rw [takeRun, Prod.mk.injEq] at take
  obtain ⟨_, takenServer⟩ := take
  refine ⟨request, bytes, rfl, accepted, fresh.1, fresh.2, ?_, ⟨id, ?_⟩, pid,
    (verifyProofs_ok accepted.wellFormed).mp verified, ⟨random, rfl⟩, ?_, ?_⟩
  · rw [finalServer, takenServer]
    simp only
    rw [current, confirmedServer, repliedServer, writtenServer, admittedServer]
    simp only
    rw [(admission_keys _ _ _ _).1]
    exact ReplayCache.mem_inserted _ _
  · have lookup : written.server.handleIndex = before.server.handleIndex ∧
        written.server.reg = before.server.reg := by
      rw [writtenServer, admittedServer, openedServer]
      exact ⟨rfl, rfl⟩
    simpa only [Enrolled, lookup] using enrolled
  · rw [input, finalConn, takenConn, ← tagInput, repliedConn, writtenConn, admittedConn]
  · rw [finalConn, takenConn, confirmedConn, repliedConn, writtenConn, admittedConn, openedConn]

theorem noPanic_require (condition : Bool) (message : String) : NoPanic (require condition message) := by
  cases condition
  · exact failsOnly_error id
  · exact failsOnly_ok ()

omit [DecidableEq β] in
theorem noPanic_verifyProofs (G : Suite β S P) {allowedRoles : List UInt64} {request : AuthRequest β S P}
    (record : DeviceRecord P)
    (wellFormed : request.toAuthPayload.WellFormed request.deviceOnly allowedRoles.length) :
    NoPanic (verifyProofs G allowedRoles request record) := by
  refine (noPanic_require _ _).bind fun _ _ => ?_
  have fields := wellFormed.roles
  split
  · exact failsOnly_ok ()
  case isFalse mode =>
    rw [Bool.eq_false_of_not_eq_true mode] at fields
    cases fields with
    | full proofs cPrime rerandA rerandS orProof =>
    rw [cPrime, rerandA, rerandS]
    refine (failsOnly_ok proofs.cPrime).bind fun cPrime' _ => ?_
    refine (failsOnly_ok proofs.rerandA).bind fun _ _ => ?_
    refine (failsOnly_ok proofs.rerandS).bind fun _ _ => ?_
    refine (noPanic_require _ _).bind fun _ _ => ?_
    refine FailsOnly.bind ?_ fun _ _ => noPanic_require _ _
    obtain ⟨verdict, checked⟩ := verifyRoleSetMembership_total G allowedRoles cPrime'
      request.orProof request.pid request.nonceC request.ephC
    rw [checked]
    exact failsOnly_ok verdict

omit [DecidableEq P] [DecidableEq S] in
theorem noPanic_findRecord (G : Suite β S P) (moment : Moment β P) (serverStaticPub : P)
    (state : ServerState β P) (handleOpt : Option (Block β 16)) (pid nonceC : Block β 32) (ephC : P) :
    NoPanic (findRecord G moment serverStaticPub state handleOpt pid nonceC ephC) := by
  unfold findRecord
  cases handleOpt with
  | some handle =>
    simp only
    split
    · exact failsOnly_error id
    · split
      · exact failsOnly_error id
      · exact failsOnly_ok _
  | none =>
    simp only
    split
    · exact failsOnly_ok _
    · exact failsOnly_error id

omit [AddCommGroup P] [DecidableEq P] in
theorem noPanic_admitSession (vars : Vars) (moment : Moment β P) (pid nonceC : Block β 32) (state : ServerState β P) :
    NoPanic (admitSession vars moment pid nonceC state).1 := by
  by_cases seen : replayKey pid nonceC ∈ state.replay.keys
  · rw [admitSession_seen _ _ seen]
    exact failsOnly_error id
  · rw [admitSession_fresh _ _ seen]
    exact failsOnly_ok _

omit [Octet β] [AddCommGroup P] [DecidableEq β] [DecidableEq P] in
theorem noPanic_persistReplay (moment : Moment β P) (blob : Option (List β)) (state : ServerState β P) :
    NoPanic (persistReplay moment blob state).1 := by
  cases blob with
  | none => exact failsOnly_ok ()
  | some blob =>
    change NoPanic (replaceFile moment.diskFault blob state.replayFile).1
    unfold replaceFile
    split
    · exact failsOnly_ok ()
    · exact failsOnly_error id

omit [AddCommGroup P] [DecidableEq β] [DecidableEq P] in
theorem noPanic_takeFinalBlob (vars : Vars) (moment : Moment β P) (state : ServerState β P) :
    NoPanic (takeFinalBlob vars moment state).1 := by
  obtain ⟨blob, replay, take, _⟩ := takeFinalBlob_apply vars moment state
  rw [take]
  exact failsOnly_ok blob

omit [DecidableEq P] [DecidableEq S] in
theorem noPanic_confirm (G : Suite β S P) (session : AuthSession β S P) (conn : Conn β) :
    NoPanic (confirm G session conn).1 := by
  refine ((malformed_recvExact 32 conn).mono fun _ => Failure.Malformed.noPanic).effectBind fun _ _ _ => ?_
  exact failsOnly_failIf (fun _ => id) _

theorem noPanic_handleAuthCommon (G : Suite β S P) (ctx : ServerContext S) (moments : AuthMoments β P)
    (random : AuthRandom β S) (v3 : Bool) (before : Connected β P) :
    NoPanic (handleAuthCommon G ctx moments random v3 before).1 := by
  refine FailsOnly.effectBind (noPanic_readAuthRequest G ctx v3 before.conn) fun request opened run => ?_
  obtain ⟨bytes, accepted, _⟩ := readAuthRequest_ok (onConn_ok.mp run).1
  refine FailsOnly.effectBind (noPanic_admitSession _ _ _ _ _) fun _ _ _ => ?_
  refine FailsOnly.effectBind (noPanic_persistReplay _ _ _) fun _ _ _ => ?_
  refine FailsOnly.effectBind (failsOnly_ok _) fun _ _ _ => ?_
  refine FailsOnly.effectBind (noPanic_findRecord _ _ _ _ _ _ _ _) fun found _ _ => ?_
  refine FailsOnly.effectBind (noPanic_verifyProofs G found.2 accepted.wellFormed) fun _ _ _ => ?_
  refine FailsOnly.effectBind (noPanic_sendAll _ _) fun _ _ _ => ?_
  refine FailsOnly.effectBind (noPanic_confirm _ _ _) fun _ _ _ => ?_
  refine FailsOnly.effectBind (noPanic_takeFinalBlob _ _ _) fun _ _ _ => ?_
  exact FailsOnly.effectBind (noPanic_persistReplay _ _ _) fun _ _ _ => failsOnly_ok _

/-- No session is accepted past a check, and nothing a peer sends stops the handler with a
    panic. -/
theorem accepted_session_passed_every_check (G : Suite β S P) (ctx : ServerContext S)
    (moments : AuthMoments β P) (random : AuthRandom β S) (v3 : Bool) (before : Connected β P) :
    (∀ record session after,
      handleAuthCommon G ctx moments random v3 before = (.ok (record, session), after) →
      ∃ request bytes, session = establish G ctx.serverStaticSecret request random ∧
        Accepted G ctx v3 before after record session request bytes) ∧
    NoPanic (handleAuthCommon G ctx moments random v3 before).1 :=
  ⟨fun _ _ _ run => handleAuthCommon_ok run, noPanic_handleAuthCommon G ctx moments random v3 before⟩

noncomputable def AuthMoments.quiet {β P : Type} : AuthMoments β P := ⟨.quiet, .quiet, .quiet⟩

def benchContext : ServerContext (ZMod 5) where
  vars := fun name => if name = "ZKARCHE_BENCH_MODE" then some "1" else none
  allowedRoles := [1, 2]
  policy := { enabled := true, token := none, deadline := none }
  serverStaticSecret := 1

def ones : Block UInt8 32 := ⟨List.replicate 32 1, by simp⟩

def toyRandom : AuthRandom UInt8 (ZMod 5) := { nonceS := zeros, ephSecret := 1, r := 1 }

def deviceOnlyRun : Connected UInt8 (ZMod 5) where
  server := { ServerState.fresh with reg := AList.insert zeros ⟨1, 1⟩ ∅ }
  conn := .opened ([0x01] ++ zeros.bytes ++ (encodeResidue (1 : ZMod 5)).bytes ++
    (encodeResidue (1 : ZMod 5)).bytes ++ zeros.bytes ++ (encodeResidue (1 : ZMod 5)).bytes ++ zeros.bytes)

theorem length_zeroHash : (List.replicate 32 (0 : UInt8)).length = 32 := List.length_replicate

theorem five_small : 5 ≤ 256 := by decide

def challengingHashes : Hashes 5 :=
  { constantHashes 5 (1 + 1) fun _ => ⟨List.replicate 32 0, length_zeroHash⟩ with fromBytesModOrderWide := fun _ => 1 }

def challengingSuite : Suite UInt8 (ZMod 5) (ZMod 5) := smallSuite 5 five_small challengingHashes

def fullContext : ServerContext (ZMod 5) := { benchContext with vars := fun _ => none }

/-- A request of the device with the secret 1 and the first of two roles: a proof for the role, and a simulated one. -/
def fullPayload : AuthPayload UInt8 (ZMod 5) (ZMod 5) where
  pid := zeros
  aC := 1
  sC := 1 + 1
  nonceC := zeros
  ephC := 1
  cPrimeOpt := some (-(1 + 1))
  rerandAOpt := some (1 + 1)
  rerandSOpt := some (1 + 1)
  orProof := [(1 + 1, -(1 + 1), -1), (-1, -(1 + 1), 1)]

def fullRun : Connected UInt8 (ZMod 5) where
  server := { ServerState.fresh with reg := AList.insert zeros ⟨1, 1⟩ ∅ }
  conn := .opened ([0x00] ++ fullPayload.encode challengingSuite ++ zeros.bytes)

set_option maxRecDepth 100000 in
theorem fullRun_isOk : (handleAuthCommon challengingSuite fullContext .quiet toyRandom true fullRun).1.isOk = true := by
  decide +kernel

/-- A session with both role proofs, outside the bench mode. -/
theorem accepted_session_passed_every_check_full :
    ∃ record session after request bytes, Accepted challengingSuite fullContext true fullRun after record session request bytes ∧
      request.deviceOnly = false := by
  have run := fullRun_isOk
  rcases outcome : handleAuthCommon challengingSuite fullContext .quiet toyRandom true fullRun with
    ⟨failure | ⟨record, session⟩, after⟩
  · rw [outcome] at run
    cases run
  · obtain ⟨request, bytes, _, accepted⟩ :=
      (accepted_session_passed_every_check challengingSuite fullContext .quiet toyRandom true fullRun).1
        record session after outcome
    exact ⟨record, session, after, request, bytes, accepted,
      Bool.eq_false_of_not_eq_true fun only => absurd (accepted.read.gate only) (by decide)⟩

end ZkArche.Server

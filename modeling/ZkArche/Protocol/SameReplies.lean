import ZkArche.CServer.Restarts
import ZkArche.Protocol.SameRecords

namespace ZkArche.Protocol

open Foundation Foundation.Sigma

variable {S P : Type} [Field S] [AddCommGroup P] [Module S P]
variable {G : Suite UInt8 S P} {so : CImpl.Sodium} {record : Server.DeviceRecord P} {raw : CServer.AuthRequest}
  {request : Server.AuthRequest UInt8 S P}

def rawBranches (raw : CServer.AuthRequest) : List CServer.OrBranch :=
  match raw.role with
  | some fields => fields.orProof
  | none => []

/-- All equations that a request has to satisfy for the key and the role commitment of a record. The
    challenges of the branches are added up as bytes. -/
structure Equations (G : Suite UInt8 S P) (so : CImpl.Sodium) (record : Server.DeviceRecord P)
    (raw : CServer.AuthRequest) (request : Server.AuthRequest UInt8 S P) : Prop where
  client : Accepts G.basepoint record.pubkey request.aC (Server.clientChallenge G record request) request.sC
  rerandomized : ∀ cPrime ∈ request.cPrimeOpt, ∀ rerandA ∈ request.rerandAOpt, ∀ rerandS ∈ request.rerandSOpt,
    Accepts (attrH G) (cPrime - record.roleCommitment) rerandA
      (Server.rerandChallenge G record cPrime rerandA request) rerandS
  challenges : ∀ cPrime ∈ request.cPrimeOpt, CServer.challengeSum so (rawBranches raw) =
    G.toBytes (Server.roleSetChallenge G CServer.allowedRoles cPrime request.orProof request.pid request.nonceC
      request.ephC)
  branches : ∀ cPrime ∈ request.cPrimeOpt, List.Forall₂ (fun role branch =>
    Accepts (attrH G) (Server.roleStatement G cPrime role) branch.1 branch.2.1 branch.2.2)
    CServer.allowedRoles request.orProof

structure NonVanishing (G : Suite UInt8 S P) (record : Server.DeviceRecord P)
    (request : Server.AuthRequest UInt8 S P) : Prop where
  client : Server.clientChallenge G record request • record.pubkey ≠ 0
  rerandomized : ∀ cPrime ∈ request.cPrimeOpt, ∀ rerandA ∈ request.rerandAOpt, ∀ rerandS ∈ request.rerandSOpt,
    rerandS • attrH G ≠ 0 ∧
      Server.rerandChallenge G record cPrime rerandA request • (cPrime - record.roleCommitment) ≠ 0
  branches : ∀ cPrime ∈ request.cPrimeOpt, List.Forall₂ (fun role branch =>
    branch.2.2 • attrH G ≠ 0 ∧ branch.2.1 • Server.roleStatement G cPrime role ≠ 0)
    CServer.allowedRoles request.orProof

/-- The scalars of a request are written in their reduced form and no point of it is the identity. -/
structure Proper (G : Suite UInt8 S P) (raw : CServer.AuthRequest) (request : Server.AuthRequest UInt8 S P) :
    Prop where
  reduced : rawRequest G request = raw
  wellFormed : request.toAuthPayload.WellFormed request.deviceOnly CServer.allowedRoles.length
  commitments : ∀ branch ∈ request.orProof, branch.1 ≠ 0

theorem branchesPass_iff {h : P} {statement : UInt64 → P} {roles : List UInt64} {branches : List (P × S × S)} :
    List.Forall₂ (fun role branch => CServer.BranchPasses h (statement role) branch) roles branches ↔
      List.Forall₂ (fun role branch => Accepts h (statement role) branch.1 branch.2.1 branch.2.2) roles branches ∧
      List.Forall₂ (fun role branch => branch.2.2 • h ≠ 0 ∧ branch.2.1 • statement role ≠ 0) roles branches := by
  constructor
  · intro passes
    exact ⟨passes.imp fun _ _ pass => pass.accepts, passes.imp fun _ _ pass => ⟨pass.response, pass.challenge⟩⟩
  · intro ⟨accepts, nonzero⟩
    induction accepts with
    | nil => exact .nil
    | cons here _ ih =>
      cases nonzero with
      | cons vanish rest => exact .cons ⟨vanish.1, vanish.2, here⟩ (ih rest)

section C

variable (m : so.Matches G)

include m

theorem cVerifyProofs_iff [DecidableEq P] (shows : Shows G raw request) {deviceOnly : Bool}
    (shaped : raw.toAuthPayload.Shaped deviceOnly) (id : Block UInt8 32) :
    CServer.verifyProofs so raw (rawRecord G id record) = some () ↔
      Equations G so record raw request ∧ NonVanishing G record request := by
  obtain ⟨⟨flags, handle⟩, pid, aC, sC, nonceC, ephC, role⟩ := raw
  obtain ⟨header, samePid, sameA, sameS, sameNonce, sameEph, roleShows⟩ := shows
  dsimp only at samePid sameA sameS sameNonce sameEph roleShows
  subst samePid sameA sameNonce sameEph
  rw [CServer.verifyProofs, rawRecord]
  cases roleShows with
  | deviceOnly _ c a s proof =>
    simp only [Option.bind_eq_bind, Option.bind_eq_some_iff, Option.pure_def, CServer.schnorrVerifyAuth_iff m, sameS]
    constructor
    · rintro ⟨_, checked, _⟩
      refine ⟨⟨checked.2, ?_, ?_, ?_⟩, ⟨checked.1, ?_, ?_⟩⟩
      all_goals
        intro cPrime present
        rw [c] at present
        cases present
    · rintro ⟨equations, nonVanishing⟩
      exact ⟨(), ⟨nonVanishing.client, equations.client⟩, trivial⟩
  | full _ rerandS raws cPrime rerandA c a s shown =>
    have count : raws.length = CServer.allowedRoles.length := by
      cases shaped with
      | deviceOnly role => cases role
      | full fields role count =>
        cases role
        exact count
    simp only [Option.bind_eq_bind, Option.bind_eq_some_iff, CServer.schnorrVerifyAuth_iff m, sameS,
      CServer.verifyRoleRerandomization_iff m, CServer.verifyRoleSetMembership_iff m shown count, branchesPass_iff]
    constructor
    · rintro ⟨_, client, _, rerand, sum, accepts, nonzero⟩
      refine ⟨⟨client.2, ?_, ?_, ?_⟩, ⟨client.1, ?_, ?_⟩⟩
      · intro cPrime' isC rerandA' isA rerandS' isS
        rw [c] at isC
        rw [a] at isA
        rw [s] at isS
        cases isC
        cases isA
        cases isS
        exact rerand.2.2
      · intro cPrime' isC
        rw [c] at isC
        cases isC
        exact sum
      · intro cPrime' isC
        rw [c] at isC
        cases isC
        exact accepts
      · intro cPrime' isC rerandA' isA rerandS' isS
        rw [c] at isC
        rw [a] at isA
        rw [s] at isS
        cases isC
        cases isA
        cases isS
        exact ⟨rerand.1, rerand.2.1⟩
      · intro cPrime' isC
        rw [c] at isC
        cases isC
        exact nonzero
    · rintro ⟨equations, nonVanishing⟩
      obtain ⟨response, challenge⟩ := nonVanishing.rerandomized _ c _ a _ s
      exact ⟨(), ⟨nonVanishing.client, equations.client⟩, (), ⟨response, challenge,
        equations.rerandomized _ c _ a _ s⟩, equations.challenges _ c, equations.branches _ c,
        nonVanishing.branches _ c⟩

theorem challengeSum_rawBranches (branches : List (P × S × S)) :
    CServer.challengeSum so (branches.map (rawBranch G)) = G.toBytes (branches.map fun branch => branch.2.1).sum := by
  have loop : ∀ start : S, (branches.map (rawBranch G)).foldl (fun sum branch => so.scalarAdd sum branch.c)
      (G.toBytes start) = G.toBytes (start + (branches.map fun branch => branch.2.1).sum) := by
    induction branches with
    | nil =>
      intro start
      rw [List.map_nil, List.foldl_nil, List.map_nil, List.sum_nil, add_zero]
    | cons branch branches ih =>
      intro start
      have first : so.scalarAdd (G.toBytes start) (rawBranch G branch).c = G.toBytes (start + branch.2.1) :=
        m.scalarAdd start branch.2.1
      rw [List.map_cons, List.foldl_cons, first, ih, List.map_cons, List.sum_cons, add_assoc]
  rw [CServer.challengeSum, CServer.scalarZero_eq m, loop, zero_add]

/-- The Rust server checks the same equations, and that no commitment of a branch is the identity. -/
theorem proofsHold_iff (wellFormed : request.toAuthPayload.WellFormed request.deviceOnly CServer.allowedRoles.length) :
    Server.ProofsHold G CServer.allowedRoles record request ↔
      Equations G so record (rawRequest G request) request ∧ ∀ branch ∈ request.orProof, branch.1 ≠ 0 := by
  have fields := wellFormed.roles
  generalize mode : request.deviceOnly = deviceOnly at fields
  cases fields with
  | deviceOnly c a s proof =>
    constructor
    · intro holds
      refine ⟨⟨holds.schnorr, ?_, ?_, ?_⟩, ?_⟩
      · intro cPrime present
        rw [c] at present
        cases present
      · intro cPrime present
        rw [c] at present
        cases present
      · intro cPrime present
        rw [c] at present
        cases present
      · intro branch member
        rw [proof] at member
        cases member
    · intro ⟨equations, _⟩
      refine ⟨equations.client, ?_⟩
      intro full
      rw [mode] at full
      cases full
  | full proofs c a s proof =>
    have raws : rawBranches (rawRequest G request) = request.orProof.map (rawBranch G) := by
      simp only [rawBranches, rawRequest, rawRole, c, a, s, Option.bind_eq_bind, Option.bind_some, Option.pure_def]
    constructor
    · intro holds
      obtain ⟨proofs', roles⟩ := holds.roles mode
      refine ⟨⟨holds.schnorr, ?_, ?_, ?_⟩, by rw [roles.orProof]; exact roles.commitments⟩
      · intro cPrime isC rerandA isA rerandS isS
        rw [roles.cPrime] at isC
        rw [roles.rerandA] at isA
        rw [roles.rerandS] at isS
        cases isC
        cases isA
        cases isS
        exact roles.rerandomized
      · intro cPrime isC
        rw [roles.cPrime] at isC
        cases isC
        rw [raws, challengeSum_rawBranches m, roles.orProof, roles.challenges]
      · intro cPrime isC
        rw [roles.cPrime] at isC
        cases isC
        rw [roles.orProof]
        exact roles.branches
    · intro ⟨equations, commitments⟩
      have challenges := equations.challenges _ c
      rw [raws, challengeSum_rawBranches m, proof] at challenges
      have branches := equations.branches _ c
      rw [proof] at branches commitments
      refine ⟨equations.client, fun _ => ⟨proofs, c, a, s, proof, equations.rerandomized _ c _ a _ s, commitments,
        branches, G.toBytes_injective challenges⟩⟩

/-- A session fails behind its checks exactly when the client's ephemeral key is the identity. -/
theorem establish_iff [DecidableEq P] (ctx : CServer.ServerContext) {random : CServer.AuthRandom} {ephC : P}
    (secret : CServer.residue S random.ephSSecret ≠ 0) (sent : raw.ephC = G.compress ephC) :
    (∃ session, CServer.establish so ctx raw random = some session) ↔ ephC ≠ 0 := by
  have proves : ∃ proof, CServer.schnorrProveServer so ctx.serverSk (ctx.serverPub so) random.nonceS
      (so.scalarmultBase random.ephSSecret) random.r = some proof := by
    have built : ∃ tr, CServer.serverTranscript (ctx.serverPub so) (so.scalarmultBase random.r) random.nonceS
        (so.scalarmultBase random.ephSSecret) = some tr := by
      refine ⟨_, CImpl.trBuild_of_writable ?_⟩
      simp only [CImpl.Writable, List.map_cons, List.map_nil, List.sum_cons, List.sum_nil, CImpl.field,
        Block.bytes_length]
      decide
    obtain ⟨tr, built⟩ := built
    exact ⟨_, by rw [CServer.schnorrProveServer, built]; rfl⟩
  obtain ⟨⟨aS, sS⟩, proves⟩ := proves
  have hashes : ∃ th, CImpl.kcTranscriptHash so raw.pid raw.aC raw.sC raw.nonceC raw.ephC (ctx.serverPub so) aS sS
      random.nonceS (so.scalarmultBase random.ephSSecret) = some th := by
    have built : ∃ tr, CImpl.kcTranscript raw.pid raw.aC raw.sC raw.nonceC raw.ephC (ctx.serverPub so) aS sS
        random.nonceS (so.scalarmultBase random.ephSSecret) = some tr := by
      refine ⟨_, CImpl.trBuild_of_writable ?_⟩
      simp only [CImpl.Writable, List.map_cons, List.map_nil, List.sum_cons, List.sum_nil, CImpl.field,
        Block.bytes_length]
      decide
    obtain ⟨tr, built⟩ := built
    exact ⟨_, by rw [CImpl.kcTranscriptHash, built]; rfl⟩
  obtain ⟨th, hashes⟩ := hashes
  have product : CServer.residue S random.ephSSecret • ephC ≠ 0 ↔ ephC ≠ 0 := by
    constructor
    · intro nonzero zero
      rw [zero, smul_zero] at nonzero
      exact nonzero rfl
    · intro nonzero zero
      rw [← inv_smul_smul₀ secret ephC, zero, smul_zero] at nonzero
      exact nonzero rfl
  have derives : (∃ key, CImpl.deriveSessionKey so random.ephSSecret raw.ephC raw.nonceC random.nonceS raw.pid raw.ephC
      (so.scalarmultBase random.ephSSecret) = some key) ↔ ephC ≠ 0 := by
    rw [sent, ← product]
    simp only [CImpl.deriveSessionKey, Option.bind_eq_bind, CServer.scalarmult_bind m, exists_and_left,
      and_iff_left_iff_imp]
    intro _
    exact ⟨_, rfl⟩
  rw [← derives, CServer.establish, proves]
  simp only [Option.bind_eq_bind, Option.bind_some, Option.bind_eq_some_iff]
  constructor
  · rintro ⟨_, key, derived, _⟩
    exact ⟨key, derived⟩
  · rintro ⟨key, derived⟩
    exact ⟨_, key, derived, th, hashes, rfl⟩

end C

section Verdicts

variable {rustCtx : Server.ServerContext S} {cCtx : CServer.ServerContext} {rust : Server.ServerState UInt8 P}
  {c : CServer.ServerState} {call : CServer.ClientCall} {moments : Server.AuthMoments UInt8 P}
  {random : Server.AuthRandom UInt8 S} {v3 : Bool} {message : List UInt8}

/-- The C server finds a record for which the equations hold and no multiplication fails. -/
def CVerifies (G : Suite UInt8 S P) (so : CImpl.Sodium) (ctx : CServer.ServerContext) (server : CServer.ServerState)
    (raw : CServer.AuthRequest) (request : Server.AuthRequest UInt8 S P) : Prop :=
  ∃ record, CFinds G so ctx server raw record ∧ Equations G so record raw request ∧ NonVanishing G record request

def RustVerifies (G : Suite UInt8 S P) (so : CImpl.Sodium) (ctx : Server.ServerContext S)
    (moment : Server.Moment UInt8 P) (server : Server.ServerState UInt8 P) (raw : CServer.AuthRequest)
    (request : Server.AuthRequest UInt8 S P) : Prop :=
  ∃ record, RustFinds G ctx moment server request record ∧ Equations G so record raw request ∧ Proper G raw request

/-- A message that carries a request, with the points and scalars that it shows. -/
structure Carries (G : Suite UInt8 S P) (vars : Vars) (v3 : Bool) (message : List UInt8) (raw : CServer.AuthRequest)
    (request : Server.AuthRequest UInt8 S P) : Prop where
  sent : ∃ bytes rest, message = bytes ++ rest ∧ raw.Sent vars v3 bytes
  shows : Shows G raw request

theorem Carries.unique {vars : Vars} {raw' : CServer.AuthRequest} {request' : Server.AuthRequest UInt8 S P}
    (carries : Carries G vars v3 message raw request) (carries' : Carries G vars v3 message raw' request') :
    raw = raw' ∧ request = request' := by
  obtain ⟨bytes, rest, split, sent⟩ := carries.sent
  obtain ⟨bytes', rest', split', sent'⟩ := carries'.sent
  have same := sent_unique split sent split' sent'
  have shows := carries.shows
  rw [same] at shows
  exact ⟨same, shows_unique shows carries'.shows⟩

/-- A server's own condition on the key of a request that is new to both servers. -/
def Unseen (vars : Vars) (rust : Server.ServerState UInt8 P) (c : CServer.ServerState) (v3 : Bool)
    (message : List UInt8) : Prop :=
  ∀ bytes rest (raw : CServer.AuthRequest), message = bytes ++ rest → raw.Sent vars v3 bytes →
    c.replay.contains (CServer.replayKey raw.pid raw.nonceC) = false ∧
      Server.replayKey raw.pid raw.nonceC ∉ rust.replay.keys

theorem cRepliesTo_iff [DecidableEq P] (m : so.Matches G) (servers : SameServers G rustCtx cCtx rust c)
    (online : benchMode rustCtx.vars = false) (memory : call.memory = true) (writes : call.moment.diskFault = none)
    (secret : CServer.residue S call.auth.ephSSecret ≠ 0) (unseen : Unseen rustCtx.vars rust c v3 message) :
    CServer.RepliesTo so cCtx call c v3 message ↔
      ∃ raw request, Carries G rustCtx.vars v3 message raw request ∧ request.ephC ≠ 0 ∧
        CVerifies G so cCtx c raw request := by
  have vars := servers.vars
  rw [← vars] at online unseen ⊢
  rw [CServer.repliesTo_iff online memory writes fun bytes rest raw split sent => (unseen bytes rest raw split sent).1]
  constructor
  · intro ⟨bytes, rest, raw, session, split, sent, valid, answered⟩
    obtain ⟨request, shows⟩ := (pointsValid_iff_shows m raw).mp valid
    obtain ⟨entry, found, answered⟩ := Option.bind_eq_some_iff.mp answered
    obtain ⟨_, verified, established⟩ := Option.bind_eq_some_iff.mp answered
    obtain ⟨record, _, isRecord⟩ := servers.found found
    rw [isRecord] at found verified
    refine ⟨raw, request, ⟨⟨bytes, rest, split, sent⟩, shows⟩, ?_, record, ⟨_, found⟩, ?_⟩
    · exact (establish_iff m cCtx secret shows.ephC).mp ⟨session, established⟩
    · exact (cVerifyProofs_iff m shows sent.shaped _).mp verified
  · intro ⟨raw, request, carries, nonzero, record, ⟨id, found⟩, checks⟩
    obtain ⟨bytes, rest, split, sent⟩ := carries.sent
    have shows := carries.shows
    obtain ⟨session, established⟩ := (establish_iff m cCtx secret shows.ephC).mpr nonzero
    have verified := (cVerifyProofs_iff m shows sent.shaped id).mpr checks
    refine ⟨bytes, rest, raw, session, split, sent, (pointsValid_iff_shows m raw).mpr ⟨request, shows⟩, ?_⟩
    simp only [CServer.answer, found, verified, established, Option.bind_eq_bind, Option.bind_some]

theorem rustRepliesTo_iff [DecidableEq P] [DecidableEq S] (m : so.Matches G)
    (servers : SameServers G rustCtx cCtx rust c)
    (writes : moments.admission.diskFault = none) (unseen : Unseen rustCtx.vars rust c v3 message) :
    Server.RepliesTo G rustCtx moments random rust v3 message ↔
      ∃ raw request, Carries G rustCtx.vars v3 message raw request ∧ request.ephC ≠ 0 ∧
        RustVerifies G so rustCtx moments.lookup rust raw request := by
  have roles := servers.roles
  have fresh : ∀ bytes rest (request : Server.AuthRequest UInt8 S P), message = bytes ++ rest →
      request.Accepted G rustCtx v3 bytes → Server.replayKey request.pid request.nonceC ∉ rust.replay.keys :=
    fun bytes rest request split accepted => (unseen bytes rest _ split ((accepted_iff_sent roles).mp accepted).1).2
  rw [Server.repliesTo_iff writes fresh]
  constructor
  · intro ⟨bytes, rest, request, record, split, accepted, verified⟩
    obtain ⟨sent, wellFormed⟩ := (accepted_iff_sent roles).mp accepted
    obtain ⟨⟨id, record'⟩, found, verified⟩ := Except.bind_ok_iff.mp verified
    obtain ⟨_, checked, same⟩ := Except.bind_ok_iff.mp verified
    cases same
    rw [roles] at checked
    obtain ⟨equations, commitments⟩ := (proofsHold_iff m wellFormed).mp ((Server.verifyProofs_ok wellFormed).mp checked)
    exact ⟨_, request, ⟨⟨bytes, rest, split, sent⟩, shows_rawRequest m wellFormed.roles⟩, wellFormed.ephC, record,
      ⟨id, found⟩, equations, rfl, wellFormed, commitments⟩
  · intro ⟨raw, request, carries, _, record, ⟨id, found⟩, equations, reduced, wellFormed, commitments⟩
    obtain ⟨bytes, rest, split, sent⟩ := carries.sent
    rw [← reduced] at sent equations
    have holds := (proofsHold_iff m wellFormed).mpr ⟨equations, commitments⟩
    have checked : Server.verifyProofs G rustCtx.allowedRoles request record = .ok () := by
      rw [roles]
      exact (Server.verifyProofs_ok wellFormed).mpr holds
    refine ⟨bytes, rest, request, record, split, (accepted_iff_sent roles).mpr ⟨sent, wellFormed⟩, ?_⟩
    rw [Server.verifiedRecord, found]
    exact Except.bind_ok_iff.mpr ⟨(id, record), rfl, Except.bind_ok_iff.mpr ⟨(), checked, rfl⟩⟩

/-- Where the request selects at most one enrolled device, and the index has it under its handle, the request is proper
    exactly when no multiplication fails, if the equations hold for the device. Where several devices come into question,
    the first one of the C server passes exactly when the one that the Rust server prefers does. -/
structure SameVerdict (G : Suite UInt8 S P) (so : CImpl.Sodium) (rustCtx : Server.ServerContext S)
    (moment : Server.Moment UInt8 P) (rust : Server.ServerState UInt8 P) (c : CServer.ServerState)
    (raw : CServer.AuthRequest) (request : Server.AuthRequest UInt8 S P) : Prop where
  oneDevice : Alone G rustCtx rust request → IndexAgrees G rust request → ∀ record, Selects G rustCtx rust request record →
    Equations G so record raw request → (NonVanishing G record request ↔ Proper G raw request)
  otherwise : ¬ (Alone G rustCtx rust request ∧ IndexAgrees G rust request) →
    ((∃ record, FirstSelected G rustCtx c request record ∧ HasPid G rustCtx request record ∧
        Equations G so record raw request ∧ NonVanishing G record request) ↔
      ∃ record, Preferred G rustCtx moment rust request record ∧ HasPid G rustCtx request record ∧
        Equations G so record raw request ∧ Proper G raw request)

theorem Selects.unique {other : Server.DeviceRecord P} (alone : Alone G rustCtx rust request)
    (selects : Selects G rustCtx rust request record) (selects' : Selects G rustCtx rust request other) :
    record = other := by
  obtain ⟨id, stored, selected, _⟩ := selects
  obtain ⟨id', stored', selected', _⟩ := selects'
  have sameId := alone id id' record other stored stored' selected selected'
  rw [sameId] at stored
  exact Option.some.inj (stored.symm.trans stored')

theorem sameVerdict_iff (m : so.Matches G) (servers : SameServers G rustCtx cCtx rust c) (shows : Shows G raw request)
    {moment : Server.Moment UInt8 P} :
    SameVerdict G so rustCtx moment rust c raw request ↔
      (CVerifies G so cCtx c raw request ↔ RustVerifies G so rustCtx moment rust raw request) := by
  have cVerifies : CVerifies G so cCtx c raw request ↔ ∃ record, FirstSelected G rustCtx c request record ∧
      HasPid G rustCtx request record ∧ Equations G so record raw request ∧ NonVanishing G record request := by
    simp only [CVerifies, cFinds_first m servers shows, and_assoc]
  have rustVerifies : RustVerifies G so rustCtx moment rust raw request ↔ ∃ record,
      Preferred G rustCtx moment rust request record ∧ HasPid G rustCtx request record ∧
      Equations G so record raw request ∧ Proper G raw request := by
    simp only [RustVerifies, rustFinds_preferred, and_assoc]
  by_cases clear : Alone G rustCtx rust request ∧ IndexAgrees G rust request
  · obtain ⟨alone, agrees⟩ := clear
    have cSelects : ∀ record, CFinds G so cCtx c raw record ↔ Selects G rustCtx rust request record :=
      fun _ => cFinds_iff m servers shows alone
    have sameFinds : ∀ record, CFinds G so cCtx c raw record ↔ RustFinds G rustCtx moment rust request record :=
      fun _ => finds_iff_of_alone m servers agrees shows alone
    constructor
    · intro verdict
      constructor
      · intro verifies
        obtain ⟨record, finds, equations, nonVanishing⟩ := verifies
        have proper := verdict.oneDevice alone agrees record ((cSelects record).mp finds) equations
        exact ⟨record, (sameFinds record).mp finds, equations, proper.mp nonVanishing⟩
      · intro verifies
        obtain ⟨record, finds, equations, proper⟩ := verifies
        have cFinds := (sameFinds record).mpr finds
        have vanishing := verdict.oneDevice alone agrees record ((cSelects record).mp cFinds) equations
        exact ⟨record, cFinds, equations, vanishing.mpr proper⟩
    · intro same
      refine ⟨fun _ _ record selects equations => ?_, fun unclear => absurd ⟨alone, agrees⟩ unclear⟩
      have finds := (cSelects record).mpr selects
      constructor
      · intro nonVanishing
        obtain ⟨_, _, _, proper⟩ := same.mp ⟨record, finds, equations, nonVanishing⟩
        exact proper
      · intro proper
        obtain ⟨other, finds', _, nonVanishing⟩ := same.mpr ⟨record, (sameFinds record).mp finds, equations, proper⟩
        rw [selects.unique alone ((cSelects other).mp finds')]
        exact nonVanishing
  · rw [cVerifies, rustVerifies]
    exact ⟨fun verdict => verdict.otherwise clear, fun same => ⟨fun alone agrees => absurd ⟨alone, agrees⟩ clear, fun _ => same⟩⟩

/-- Both servers reply to the same messages exactly when they pass the same verdict on the request, if
    the message carries one. -/
theorem same_replies_iff_same_verdict [DecidableEq P] [DecidableEq S] (m : so.Matches G)
    (servers : SameServers G rustCtx cCtx rust c)
    (online : benchMode rustCtx.vars = false) (memory : call.memory = true)
    (cWrites : call.moment.diskFault = none) (rustWrites : moments.admission.diskFault = none)
    (secret : CServer.residue S call.auth.ephSSecret ≠ 0) (unseen : Unseen rustCtx.vars rust c v3 message) :
    (CServer.RepliesTo so cCtx call c v3 message ↔ Server.RepliesTo G rustCtx moments random rust v3 message) ↔
      ∀ raw request, Carries G rustCtx.vars v3 message raw request → request.ephC ≠ 0 →
        SameVerdict G so rustCtx moments.lookup rust c raw request := by
  rw [cRepliesTo_iff m servers online memory cWrites secret unseen, rustRepliesTo_iff m servers rustWrites unseen]
  constructor
  · intro same raw request carries nonzero
    rw [sameVerdict_iff m servers carries.shows]
    constructor
    · intro verifies
      obtain ⟨raw', request', carries', _, verifies'⟩ := same.mp ⟨raw, request, carries, nonzero, verifies⟩
      obtain ⟨rfl, rfl⟩ := carries.unique carries'
      exact verifies'
    · intro verifies
      obtain ⟨raw', request', carries', _, verifies'⟩ := same.mpr ⟨raw, request, carries, nonzero, verifies⟩
      obtain ⟨rfl, rfl⟩ := carries.unique carries'
      exact verifies'
  · intro verdicts
    constructor
    · intro ⟨raw, request, carries, nonzero, verifies⟩
      exact ⟨raw, request, carries, nonzero,
        ((sameVerdict_iff m servers carries.shows).mp (verdicts raw request carries nonzero)).mp verifies⟩
    · intro ⟨raw, request, carries, nonzero, verifies⟩
      exact ⟨raw, request, carries, nonzero,
        ((sameVerdict_iff m servers carries.shows).mp (verdicts raw request carries nonzero)).mpr verifies⟩

end Verdicts

section Examples

/-- A device-only request of the device with the secret 1, with these bytes as the response s_c. -/
def deviceOnlyRequest (sC : Block UInt8 32) : List UInt8 :=
  CServer.authFlagDeviceOnly :: (Suite.untouched.bytes ++ (encodeResidue (1 : ZMod 5)).bytes ++ sC.bytes ++
    Suite.untouched.bytes ++ (encodeResidue (1 : ZMod 5)).bytes)

def deviceOnlyRustContext : Server.ServerContext (ZMod 5) where
  vars := CServer.deviceOnlyContext.vars
  allowedRoles := [1, 2]
  policy := { enabled := true, token := none, deadline := none }
  serverStaticSecret := 1

/-- The Rust server with the device of `CServer.startedServer` enrolled. -/
def startedRustServer : Server.ServerState UInt8 (ZMod 5) :=
  { (Server.ServerState.fresh : Server.ServerState UInt8 (ZMod 5)) with
    reg := AList.insert Suite.untouched ⟨1, 1⟩ ∅
    handleIndex := Server.buildHandleIndex oneSuite [⟨Suite.untouched, ⟨1, 1⟩⟩] }

theorem startedServers_same :
    SameServers oneSuite deviceOnlyRustContext CServer.deviceOnlyContext startedRustServer CServer.startedServer where
  vars := rfl
  roles := rfl
  serverSk := rfl
  registry := by
    intro id
    by_cases own : id = Suite.untouched
    · rw [own]
      decide
    · have rust : startedRustServer.reg.lookup id = none := AList.lookup_insert_ne own
      have c : CServer.regLookupRecord CServer.startedServer.reg id = none := by
        rw [CServer.regLookupRecord, List.find?_eq_none]
        intro entry member
        rw [List.mem_singleton.mp member, decide_eq_true_iff]
        exact Ne.symm own
      rw [rustBound, rust, cBound, c]
      rfl
  enrolledOnce := List.nodup_singleton _

theorem startedServers_unseen (vars : Vars) (v3 : Bool) (message : List UInt8) :
    Unseen vars startedRustServer CServer.startedServer v3 message :=
  fun _ _ _ _ _ => ⟨rfl, Finset.notMem_empty _⟩

theorem startedSecret_ne_zero : CServer.residue (ZMod 5) (CServer.callAt 1002).auth.ephSSecret ≠ 0 := by decide

theorem deviceOnlyRustContext_online : benchMode deviceOnlyRustContext.vars = false := by decide

theorem servers_reply_honest :
    CServer.RepliesTo oneSuite.sodium CServer.deviceOnlyContext (CServer.callAt 1002) CServer.startedServer true
      (deviceOnlyRequest (encodeResidue (1 + 1 : ZMod 5))) ∧
    Server.RepliesTo oneSuite deviceOnlyRustContext .quiet Server.toyRandom startedRustServer true
      (deviceOnlyRequest (encodeResidue (1 + 1 : ZMod 5))) := by
  unfold CServer.RepliesTo Server.RepliesTo
  decide +kernel

/-- Both servers reply to it, and it meets the condition. -/
theorem same_replies_iff_same_verdict_honest :
    CServer.RepliesTo oneSuite.sodium CServer.deviceOnlyContext (CServer.callAt 1002) CServer.startedServer true
        (deviceOnlyRequest (encodeResidue (1 + 1 : ZMod 5))) ∧
      Server.RepliesTo oneSuite deviceOnlyRustContext .quiet Server.toyRandom startedRustServer true
        (deviceOnlyRequest (encodeResidue (1 + 1 : ZMod 5))) ∧
      ∀ raw request, Carries oneSuite deviceOnlyRustContext.vars true
          (deviceOnlyRequest (encodeResidue (1 + 1 : ZMod 5))) raw request → request.ephC ≠ 0 →
        SameVerdict oneSuite oneSuite.sodium deviceOnlyRustContext .quiet startedRustServer CServer.startedServer raw
          request := by
  obtain ⟨c, rust⟩ := servers_reply_honest
  refine ⟨c, rust, ?_⟩
  exact (same_replies_iff_same_verdict oneSuite_matches startedServers_same deviceOnlyRustContext_online rfl rfl rfl
    startedSecret_ne_zero (startedServers_unseen _ _ _)).mp (iff_of_true c rust)

def unreducedTwo : Block UInt8 32 := ⟨7 :: List.replicate 31 0, rfl⟩

theorem c_replies_unreduced :
    CServer.RepliesTo oneSuite.sodium CServer.deviceOnlyContext (CServer.callAt 1002) CServer.startedServer true
      (deviceOnlyRequest unreducedTwo) := by
  unfold CServer.RepliesTo
  decide +kernel

theorem rust_refuses_unreduced :
    ¬ Server.RepliesTo oneSuite deviceOnlyRustContext .quiet Server.toyRandom startedRustServer true
      (deviceOnlyRequest unreducedTwo) := by
  unfold Server.RepliesTo
  decide +kernel

/-- The C server replies to a response that is not reduced, and the Rust server does not. -/
theorem unreduced_response_splits_replies :
    ¬ (CServer.RepliesTo oneSuite.sodium CServer.deviceOnlyContext (CServer.callAt 1002) CServer.startedServer true
        (deviceOnlyRequest unreducedTwo) ↔
      Server.RepliesTo oneSuite deviceOnlyRustContext .quiet Server.toyRandom startedRustServer true
        (deviceOnlyRequest unreducedTwo)) :=
  fun same => rust_refuses_unreduced (same.mp c_replies_unreduced)

end Examples

end ZkArche.Protocol

import ZkArche.CImpl.SuiteSodium
import ZkArche.CServer.SetupDialogue
import ZkArche.Foundation.Enrollments
import ZkArche.Server.AcceptedSession
import ZkArche.Server.SetupDialogue

namespace ZkArche.Protocol

open Foundation

variable {S P : Type} [Field S] [AddCommGroup P] [Module S P] [DecidableEq P]

/-- A connection to the Rust server that presents an enrollment: its points are valid and not the
    identity, the pairing policy is satisfied and the device's proof verifies. -/
structure RustPresents (G : Suite UInt8 S P) (ctx : Server.ServerContext S) (moments : Server.SetupMoments UInt8 P)
    (random : Server.SetupRandom UInt8 S) (request : Server.SetupRequest UInt8 P) where
  conn : Conn UInt8
  token : Option String
  proof : P × S
  rest : List UInt8
  input : conn.input = Server.setupRequestBytes G token request ++
    (((G.compress proof.1).bytes ++ (G.toBytes proof.2).bytes) ++ rest)
  quiet : conn.writeFault = fun _ => none
  short : ∀ text ∈ token, (utf8Bytes text).length ≤ 128
  allowed : ctx.policy.allowsZtpSetup moments.pairing.now (Server.presentedToken token) = true
  pub : request.deviceStaticPub ≠ 0
  roleCommitment : request.roleCommitment ≠ 0
  nonzero : proof.1 ≠ 0
  verifies : Server.schnorrVerifySetup G request.deviceStaticPub request.deviceId (ctx.staticPub G)
    request.clientNonce random.serverNonce random.setupChallenge proof.1 proof.2 = true
  writes : moments.insertion.diskFault = none

structure CPresents (so : CImpl.Sodium) (ctx : CServer.ServerContext) (moment : CServer.Moment)
    (random : CServer.SetupRandom) (request : CServer.SetupRequest) where
  conn : Conn UInt8
  token : List UInt8
  proof : Block UInt8 32 × Block UInt8 32
  rest : List UInt8
  input : conn.input = CServer.setupRequestBytes token request ++ ((proof.1.bytes ++ proof.2.bytes) ++ rest)
  quiet : conn.writeFault = fun _ => none
  short : token.length ≤ 128
  allowed : ctx.policy.allowsSetup moment.now token = true
  pub : so.isValidPoint request.entry.pub = true
  roleCommitment : so.isValidPoint request.entry.roleCommitment = true
  valid : so.isValidPoint proof.1 = true
  verifies : CServer.schnorrVerifySetup so request.entry.id request.entry.pub (ctx.serverPub so) request.clientNonce
    random.serverNonce random.setupChal proof.1 proof.2 = some ()
  writes : moment.diskFault = none

/-- One enrollment, as it is presented to both servers. -/
structure Presented (G : Suite UInt8 S P) (so : CImpl.Sodium) (rustCtx : Server.ServerContext S)
    (cCtx : CServer.ServerContext) where
  moments : Server.SetupMoments UInt8 P
  peerKey : String
  rustRandom : Server.SetupRandom UInt8 S
  rustRequest : Server.SetupRequest UInt8 P
  rust : RustPresents G rustCtx moments rustRandom rustRequest
  moment : CServer.Moment
  cRandom : CServer.SetupRandom
  cRequest : CServer.SetupRequest
  c : CPresents so cCtx moment cRandom cRequest
  same : cRequest.entry =
    ⟨rustRequest.deviceId, G.compress rustRequest.deviceStaticPub, G.compress rustRequest.roleCommitment⟩

variable {G : Suite UInt8 S P} {so : CImpl.Sodium} {rustCtx : Server.ServerContext S} {cCtx : CServer.ServerContext}

/-- The Rust server's map from device_id to (pubkey, role_commitment). -/
def rustBound (G : Suite UInt8 S P) (reg : Server.Registry UInt8 P) (id : Block UInt8 32) :
    Option (Block UInt8 32 × Block UInt8 32) :=
  (reg.lookup id).map fun record => (G.compress record.pubkey, G.compress record.roleCommitment)

/-- The C server's map from device_id to (pubkey, role_commitment). -/
def cBound (reg : List CServer.RegEntry) (id : Block UInt8 32) : Option (Block UInt8 32 × Block UInt8 32) :=
  (CServer.regLookupRecord reg id).map fun entry => (entry.pub, entry.roleCommitment)

def cFresh (now : Nat) : CServer.ServerState :=
  ⟨[], { CServer.ReplayCache.zero with lastPersist := now }, .absent, .absent⟩

omit [AddCommGroup P] [DecidableEq P] in
theorem checkRateLimit_unknown (vars : Vars) (moment : Server.Moment UInt8 P) (peerKey : String)
    {state : Server.Connected UInt8 P} (unknown : state.server.failures = .empty) :
    Server.checkRateLimit vars moment peerKey state = (.ok (), state) := by
  obtain ⟨⟨reg, handleIndex, replay, failures, registryFile, replayFile⟩, conn⟩ := state
  cases unknown
  unfold Server.checkRateLimit Server.isRateLimited
  split <;> rfl

structure RustExchange (G : Suite UInt8 S P) (ctx : Server.ServerContext S) (moments : Server.SetupMoments UInt8 P)
    (random : Server.SetupRandom UInt8 S) (request : Server.SetupRequest UInt8 P) (conn asked challenged verified
    answered : Conn UInt8) (proof : P × S) : Prop where
  reads : Server.readSetupRequest G ctx.policy moments.pairing.now conn = (.ok request, asked)
  challenges : Server.challengeSetup G ctx request random asked = (.ok (), challenged)
  verifies : Server.verifySetup G ctx request random challenged = (.ok proof, verified)
  answers : Server.acknowledge verified = (.ok (), answered)

theorem RustPresents.exchange {moments : Server.SetupMoments UInt8 P} {random : Server.SetupRandom UInt8 S}
    {request : Server.SetupRequest UInt8 P} (presents : RustPresents G rustCtx moments random request) :
    ∃ asked challenged verified answered, RustExchange G rustCtx moments random request presents.conn asked
      challenged verified answered presents.proof := by
  obtain ⟨asked, reads, stands⟩ := (Server.reads_readSetupRequest presents.short presents.allowed presents.pub
    presents.roleCommitment).step ⟨presents.input, rfl, presents.quiet⟩
  obtain ⟨challenged, challenges, stands⟩ := (Server.writes_challengeSetup G rustCtx request random).step stands
  obtain ⟨verified, verifies, stands⟩ := (Server.reads_verifySetup presents.nonzero presents.verifies).step stands
  obtain ⟨answered, answers, _⟩ := (Writes.sendAll (lits [0x01])).step stands
  exact ⟨asked, challenged, verified, answered, reads, challenges, verifies, answers⟩

/-- The connection of the C server after the request, the challenge, the proof and the answer. -/
structure CExchange (so : CImpl.Sodium) (ctx : CServer.ServerContext) (moment : CServer.Moment)
    (random : CServer.SetupRandom) (request : CServer.SetupRequest) (conn asked challenged verified
    answered : Conn UInt8) : Prop where
  reads : CServer.readSetupRequest so ctx.policy moment.now conn = (.ok request, asked)
  challenges : CServer.challengeSetup so ctx request random asked = (.ok (), challenged)
  verifies : CServer.verifySetup so ctx request random challenged = (.ok (), verified)
  answers : CImpl.sendAll [1] verified = (.ok (), answered)

theorem CPresents.exchange {moment : CServer.Moment} {random : CServer.SetupRandom} {request : CServer.SetupRequest}
    (presents : CPresents so cCtx moment random request) :
    ∃ asked challenged verified answered, CExchange so cCtx moment random request presents.conn asked challenged
      verified answered := by
  obtain ⟨proof, proved⟩ := CServer.schnorrProveSetupServer_some so cCtx.serverSk (cCtx.serverPub so)
    request.entry.id request.entry.pub request.clientNonce random.serverNonce random.setupChal random.r
  obtain ⟨asked, reads, stands⟩ := (CServer.reads_readSetupRequest presents.short presents.allowed presents.pub
    presents.roleCommitment).step ⟨presents.input, rfl, presents.quiet⟩
  obtain ⟨challenged, challenges, stands⟩ := (CServer.writes_challengeSetup proved).step stands
  obtain ⟨verified, verifies, stands⟩ := (CServer.reads_verifySetup presents.valid presents.verifies).step stands
  obtain ⟨answered, answers, _⟩ := (CImpl.writes_sendAll [1]).step stands
  exact ⟨asked, challenged, verified, answered, reads, challenges, verifies, answers⟩

def openContext : Server.ServerContext (ZMod 5) := { Server.benchContext with vars := fun _ => none }

def openCContext : CServer.ServerContext := ⟨fun _ => none, ⟨true, none, 0⟩, encodeResidue (1 : ZMod 5)⟩

def reenrollment (roleCommitment : ZMod 5) : Server.SetupRequest UInt8 (ZMod 5) :=
  ⟨Suite.untouched, 1, Suite.untouched, roleCommitment⟩

def creenrollment (roleCommitment : ZMod 5) : CServer.SetupRequest :=
  ⟨⟨Suite.untouched, encodeResidue (1 : ZMod 5), encodeResidue roleCommitment⟩, Suite.untouched⟩

theorem openContext_verifies : Server.schnorrVerifySetup oneSuite (1 : ZMod 5) Suite.untouched
    (openContext.staticPub oneSuite) Suite.untouched Suite.untouched zeroChallenge 1 (1 + 1) = true := by
  decide

theorem openCContext_verifies : CServer.schnorrVerifySetup oneSuite.sodium Suite.untouched
    (encodeResidue (1 : ZMod 5)) (openCContext.serverPub oneSuite.sodium) Suite.untouched Suite.untouched
    zeroChallenge (encodeResidue (1 : ZMod 5)) (encodeResidue (1 + 1 : ZMod 5)) = some () := by
  decide +kernel

theorem oneSuite_isValidPoint (p : ZMod 5) : oneSuite.sodium.isValidPoint (encodeResidue p) = true :=
  (oneSuite_matches.isValidPoint _).mpr ⟨p, rfl⟩

noncomputable def presentedTo {roleCommitment : ZMod 5} (nonzero : roleCommitment ≠ 0) :
    Presented oneSuite oneSuite.sodium openContext openCContext where
  moments := ⟨.quiet, .quiet, .quiet⟩
  peerKey := "peer"
  rustRandom := ⟨Suite.untouched, zeroChallenge, 1⟩
  rustRequest := reenrollment roleCommitment
  rust :=
    { conn := .opened (Server.setupRequestBytes oneSuite none (reenrollment roleCommitment) ++
        (((oneSuite.compress 1).bytes ++ (oneSuite.toBytes (1 + 1)).bytes) ++ []))
      token := none
      proof := (1, 1 + 1)
      rest := []
      input := rfl
      quiet := rfl
      short := fun _ member => absurd member (Option.not_mem_none _)
      allowed := rfl
      pub := one_ne_zero
      roleCommitment := nonzero
      nonzero := one_ne_zero
      verifies := openContext_verifies
      writes := rfl }
  moment := ⟨0, none⟩
  cRandom := ⟨Suite.untouched, zeroChallenge, encodeResidue (1 : ZMod 5)⟩
  cRequest := creenrollment roleCommitment
  c :=
    { conn := .opened (CServer.setupRequestBytes [] (creenrollment roleCommitment) ++
        (((encodeResidue (1 : ZMod 5)).bytes ++ (encodeResidue (1 + 1 : ZMod 5)).bytes) ++ []))
      token := []
      proof := (encodeResidue (1 : ZMod 5), encodeResidue (1 + 1 : ZMod 5))
      rest := []
      input := rfl
      quiet := rfl
      short := Nat.zero_le _
      allowed := rfl
      pub := oneSuite_isValidPoint _
      roleCommitment := oneSuite_isValidPoint _
      valid := oneSuite_isValidPoint _
      verifies := openCContext_verifies
      writes := rfl }
  same := rfl

theorem two_ne_zero_five : (1 + 1 : ZMod 5) ≠ 0 := by decide

end ZkArche.Protocol

import ZkArche.Protocol.CServerTurns
import ZkArche.Protocol.SameProofs
import ZkArche.Protocol.SameReplies
import ZkArche.Protocol.ServerTurns

namespace ZkArche.Protocol

open Foundation

variable {S P : Type} [Field S] [AddCommGroup P] [Module S P]
variable {G : Suite UInt8 S P} {so : CImpl.Sodium} {rustCtx : Server.ServerContext S} {cCtx : CServer.ServerContext}

structure SameContexts (G : Suite UInt8 S P) (rustCtx : Server.ServerContext S) (cCtx : CServer.ServerContext) : Prop where
  vars : cCtx.vars = rustCtx.vars
  roles : rustCtx.allowedRoles = CServer.allowedRoles
  serverSk : cCtx.serverSk = G.toBytes rustCtx.serverStaticSecret

def rawSetupDrawn (G : Suite UInt8 S P) (random : Server.SetupRandom UInt8 S) : CServer.SetupRandom :=
  ⟨random.serverNonce, random.setupChallenge, G.toBytes random.r⟩

def rawAuthDrawn (G : Suite UInt8 S P) (random : Server.AuthRandom UInt8 S) : CServer.AuthRandom :=
  ⟨random.nonceS, G.toBytes random.ephSecret, G.toBytes random.r⟩

def rawServed (G : Suite UInt8 S P) (session : Server.AuthSession UInt8 S P) : CServer.AuthSession :=
  ⟨G.compress session.serverPub, G.compress session.aS, G.toBytes session.sS, session.nonceS, G.compress session.ephS,
    session.sessionKey, session.th⟩

def rawSetupRequest (G : Suite UInt8 S P) (request : Server.SetupRequest UInt8 P) : CServer.SetupRequest :=
  ⟨⟨request.deviceId, G.compress request.deviceStaticPub, G.compress request.roleCommitment⟩, request.clientNonce⟩

variable (m : so.Matches G)

include m

theorem SameContexts.serverPub (contexts : SameContexts G rustCtx cCtx) :
    cCtx.serverPub so = G.compress (rustCtx.staticPub G) := by
  rw [CServer.ServerContext.serverPub, contexts.serverSk, makePub_eq m]
  rfl

theorem schnorrProveServer_eq (x r : S) (nonceS : Block UInt8 32) (ephS : P) :
    CServer.schnorrProveServer so (G.toBytes x) (G.compress (x • G.basepoint)) nonceS (G.compress ephS) (G.toBytes r) =
      some (signature G (Server.schnorrProveServer G x nonceS ephS r)) := by
  rw [CServer.schnorrProveServer]
  simp only [makePub_eq m, CServer.serverTranscript_eq, Option.bind_eq_bind, Option.bind_some, response_eq m]
  rfl

theorem schnorrProveSetupServer_eq (x r : S) (serverPub devicePub : P) (deviceId clientNonce serverNonce : Block UInt8 32)
    (setupChallenge : Block UInt8 16) :
    CServer.schnorrProveSetupServer so (G.toBytes x) (G.compress serverPub) deviceId (G.compress devicePub) clientNonce
        serverNonce setupChallenge (G.toBytes r) =
      some (signature G (Server.schnorrProveSetupServer G x serverPub deviceId devicePub clientNonce serverNonce
        setupChallenge r)) := by
  rw [CServer.schnorrProveSetupServer]
  simp only [makePub_eq m, CServer.setupServerTranscript_eq, Option.bind_eq_bind, Option.bind_some, response_eq m]
  rfl

theorem establish_eq (contexts : SameContexts G rustCtx cCtx) {request : Server.AuthRequest UInt8 S P}
    {random : Server.AuthRandom UInt8 S} (proper : random.ephSecret • request.ephC ≠ 0) :
    CServer.establish so cCtx (rawRequest G request) (rawAuthDrawn G random) =
      some (rawServed G (Server.establish G rustCtx.serverStaticSecret request random)) := by
  have proves := schnorrProveServer_eq m rustCtx.serverStaticSecret random.r random.nonceS
    (random.ephSecret • G.basepoint)
  have key := CImpl.deriveSessionKey_eq m proper request.nonceC random.nonceS request.pid request.ephC
    (random.ephSecret • G.basepoint)
  rw [CServer.establish]
  simp only [contexts.serverPub m, contexts.serverSk, rawAuthDrawn, rawRequest, makePub_eq m, Server.ServerContext.staticPub,
    proves, key, Option.bind_eq_bind, Option.bind_some, signature, CImpl.kcTranscriptHash, CServer.kcTranscript_eq,
    m.sha256]
  rfl

theorem tagS_rawServed (session : Server.AuthSession UInt8 S P) : (rawServed G session).tagS so = session.tagS G := by
  rw [CServer.AuthSession.tagS, CImpl.deriveKcKeys_eq m, CImpl.hmacTag, m.hmacsha256, Server.AuthSession.tagS,
    Server.hmacTag, CImpl.lits_bytes]
  rfl

theorem tagC_rawServed (session : Server.AuthSession UInt8 S P) : (rawServed G session).tagC so = session.tagC G := by
  rw [CServer.AuthSession.tagC, CImpl.deriveKcKeys_eq m, CImpl.hmacTag, m.hmacsha256, Server.AuthSession.tagC,
    Server.hmacTag, CImpl.lits_bytes]
  rfl

theorem payload2_rawServed (session : Server.AuthSession UInt8 S P) :
    (rawServed G session).payload2 so = session.payload2 G := by
  rw [CServer.AuthSession.payload2, tagS_rawServed m]
  rfl

section Session

variable {c : CServer.ServerState} {moment : CServer.Moment} {random : Server.AuthRandom UInt8 S} {v3 : Bool}
  {bytes : List UInt8} {request : Server.AuthRequest UInt8 S P} {id : Block UInt8 32} {record : Server.DeviceRecord P}

/-- A C server that finds the same record admits what a Rust server admits, and answers with the same session. -/
theorem cAdmissible_of_rust [DecidableEq P] [DecidableEq S] (contexts : SameContexts G rustCtx cCtx)
    (accepted : request.Accepted G rustCtx v3 bytes)
    (found : CServer.findRecord so (cCtx.serverPub so) c.reg (rawRequest G request) = some (rawRecord G id record))
    (verified : Server.verifyProofs G rustCtx.allowedRoles request record = .ok ())
    (nonVanishing : NonVanishing G record request) (shared : random.ephSecret • request.ephC ≠ 0)
    (fresh : c.replay.contains (CServer.replayKey request.pid request.nonceC) = false) (writes : moment.diskFault = none) :
    CServer.Admissible so cCtx moment (rawAuthDrawn G random) v3 c bytes (rawRequest G request)
      (rawServed G (Server.establish G rustCtx.serverStaticSecret request random)) := by
  obtain ⟨sent, wellFormed⟩ := (accepted_iff_sent contexts.roles).mp accepted
  have shows := shows_rawRequest m wellFormed.roles
  rw [contexts.roles, Server.verifyProofs_ok wellFormed, proofsHold_iff m wellFormed] at verified
  have checked := (cVerifyProofs_iff m shows sent.shaped id).mpr ⟨verified.1, nonVanishing⟩
  have established := establish_eq m contexts shared
  refine ⟨?_, (pointsValid_iff_shows m _).mpr ⟨request, shows⟩, fresh, ?_, writes⟩
  · rw [contexts.vars]
    exact sent
  · simp only [CServer.answer, found, checked, established, Option.bind_eq_bind, Option.bind_some]

end Session

section Setup

variable {c : CServer.ServerState} {moment : CServer.Moment} {random : Server.SetupRandom UInt8 S}
  {token : Option String} {request : Server.SetupRequest UInt8 P} {proof : P × S}

def rawToken (token : Option String) : List UInt8 := (token.map utf8Bytes).getD []

omit m in
theorem setupRequestBytes_eq (token : Option String) (request : Server.SetupRequest UInt8 P) :
    (Server.setupRequestBytes G token request : List UInt8) =
      CServer.setupRequestBytes (rawToken token) (rawSetupRequest G request) := by
  have tokens : (Server.tokenBytes token : List UInt8) = CServer.tokenBytes (rawToken token) := by
    cases token with
    | none => rfl
    | some text => exact CImpl.lits_bytes _
  rw [Server.setupRequestBytes, tokens]
  rfl

def setupChallengeProof (G : Suite UInt8 S P) (rustCtx : Server.ServerContext S) (request : Server.SetupRequest UInt8 P)
    (random : Server.SetupRandom UInt8 S) : P × S :=
  Server.schnorrProveSetupServer G rustCtx.serverStaticSecret (rustCtx.staticPub G) request.deviceId
    request.deviceStaticPub request.clientNonce random.serverNonce random.setupChallenge random.r

theorem setupChallengeBytes_eq (contexts : SameContexts G rustCtx cCtx) (request : Server.SetupRequest UInt8 P)
    (random : Server.SetupRandom UInt8 S) : Server.setupChallengeBytes G rustCtx request random =
      CServer.setupChallengeBytes so cCtx (rawSetupDrawn G random)
        (signature G (setupChallengeProof G rustCtx request random)) := by
  rw [CServer.setupChallengeBytes, contexts.serverPub m]
  rfl

def ChallengesDeviceKey (G : Suite UInt8 S P) (rustCtx : Server.ServerContext S) (request : Server.SetupRequest UInt8 P)
    (random : Server.SetupRandom UInt8 S) (a : P) : Prop :=
  (Server.setupTranscript G request.deviceStaticPub request.deviceId (rustCtx.staticPub G) request.clientNonce
    random.serverNonce random.setupChallenge a).challengeScalar G • request.deviceStaticPub ≠ 0

/-- A C server welcomes a device whose proof the Rust server verifies, when it is new to it or the same. -/
theorem cWelcome_of_rust [DecidableEq P] (contexts : SameContexts G rustCtx cCtx)
    (short : ∀ text ∈ token, (utf8Bytes text).length ≤ 128)
    (verifies : Server.schnorrVerifySetup G request.deviceStaticPub request.deviceId (rustCtx.staticPub G)
      request.clientNonce random.serverNonce random.setupChallenge proof.1 proof.2 = true)
    (allowed : cCtx.policy.allowsSetup moment.now (rawToken token) = true)
    (free : ∀ entry ∈ c.reg, entry.id = request.deviceId → entry = (rawSetupRequest G request).entry)
    (challenges : ChallengesDeviceKey G rustCtx request random proof.1) (writes : moment.diskFault = none) :
    CServer.Welcome so cCtx moment (rawSetupDrawn G random) c (rawToken token) (rawSetupRequest G request)
      (signature G (setupChallengeProof G rustCtx request random)) (signature G proof) where
  short := by
    cases token with
    | none => exact Nat.zero_le _
    | some text => exact short text rfl
  allowed := allowed
  pub := (m.isValidPoint _).mpr ⟨_, rfl⟩
  roleCommitment := (m.isValidPoint _).mpr ⟨_, rfl⟩
  free := by
    intro entry found
    have named : entry.id = (rawSetupRequest G request).entry.id := by simpa using List.find?_some found
    exact free entry (List.mem_of_find?_eq_some found) named
  proves := by
    rw [contexts.serverPub m, contexts.serverSk]
    exact schnorrProveSetupServer_eq m _ _ _ _ _ _ _ _
  proofValid := (m.isValidPoint _).mpr ⟨_, rfl⟩
  verifies := by
    rw [contexts.serverPub m]
    refine (CServer.schnorrVerifySetup_iff m).mpr ⟨challenges, ?_⟩
    rw [signature, CServer.residue_toBytes m]
    exact Server.vartimeSchnorrCheck_iff.mp verifies
  writes := writes

end Setup

end ZkArche.Protocol

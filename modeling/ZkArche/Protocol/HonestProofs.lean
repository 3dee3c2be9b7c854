import ZkArche.Client.RoleProof
import ZkArche.Protocol.Confirmation
import ZkArche.Protocol.DeviceTurns
import ZkArche.Protocol.ServerTurns

namespace ZkArche.Protocol

open Foundation Foundation.Sigma Client

variable {β S P : Type} [Octet β] [Field S] [AddCommGroup P] [Module S P]

section Setup

variable (G : Suite β S P) (device : Device β S) (ctx : Server.ServerContext S) (random : Client.SetupRandom β S)
  (drawn : Server.SetupRandom β S)

def serverChallenge : SetupChallenge β S P :=
  let proof := Server.schnorrProveSetupServer G ctx.serverStaticSecret (ctx.staticPub G) (device.id G) (device.pub G)
    random.clientNonce drawn.serverNonce drawn.setupChallenge drawn.r
  ⟨drawn.serverNonce, drawn.setupChallenge, G.compress (ctx.staticPub G), ctx.staticPub G, proof.1, proof.2⟩

theorem challengeBytes_serverChallenge : challengeBytes G (serverChallenge G device ctx random drawn) =
    Server.setupChallengeBytes G ctx (setupRequestOf G device random.clientNonce) drawn := rfl

variable {G device ctx random drawn}

variable [DecidableEq P]

theorem convincing_serverChallenge (serverProper : ctx.staticPub G ≠ 0) (proofProper : drawn.r • G.basepoint ≠ 0) :
    Convincing G device (ctx.staticPub G) random.clientNonce (serverChallenge G device ctx random drawn) where
  key := rfl
  encoded := rfl
  serverProper := serverProper
  proofProper := proofProper
  verifies := decide_eq_true (accepts_honest _ _ _ _)

theorem setupProof_verifies : Server.schnorrVerifySetup G (device.pub G) (device.id G) (ctx.staticPub G)
    random.clientNonce drawn.serverNonce drawn.setupChallenge
    (setupProof G device (ctx.staticPub G) random (serverChallenge G device ctx random drawn)).1
    (setupProof G device (ctx.staticPub G) random (serverChallenge G device ctx random drawn)).2 = true :=
  Server.vartimeSchnorrCheck_iff.mpr (accepts_honest _ _ _ _)

end Setup

section Roles

variable {G : Suite β S P} {device : Device β S} {allowedRoles : List UInt64}

theorem proveRoleSetMembership_accepted (distinct : allowedRoles.Nodup) (k : Fin allowedRoles.length) {cPrime : P}
    {blind : S} (opened : cPrime = makeRoleCommitment G (encodeRole (allowedRoles.get k)) blind) (pid nonceC : Block β 32)
    (ephC : P) (random : OrRandomness S) :
    ∃ proof, proveRoleSetMembership G allowedRoles cPrime (allowedRoles.get k) blind pid nonceC ephC random = .ok proof ∧
      OrAccepts (attrH G) (allowedRoles.map (Server.roleStatement G cPrime))
        (Server.roleSetChallenge G allowedRoles cPrime proof pid nonceC ephC) proof := by
  have statement : roleStatement G cPrime allowedRoles[k] = blind • attrH G := opened_statement opened
  have honest : OrProof (attrH G) (fun i : Fin allowedRoles.length => roleStatement G cPrime allowedRoles[i])
      (roleSetHash G allowedRoles cPrime pid nonceC ephC) (proveOr (attrH G)
        (fun i : Fin allowedRoles.length => roleStatement G cPrime allowedRoles[i])
        (roleSetHash G allowedRoles cPrime pid nonceC ephC) k blind (random.coins k)) :=
    proveOr_accepted statement (random.coins k)
  refine ⟨_, proveRoleSetMembership_eq G cPrime (findIdx_getElem distinct k) blind pid nonceC ephC random, ?_⟩
  generalize proveOr (attrH G) (fun i : Fin allowedRoles.length => roleStatement G cPrime allowedRoles[i])
    (roleSetHash G allowedRoles cPrime pid nonceC ephC) k blind (random.coins k) = branches at honest
  constructor
  · rw [List.forall₂_iff_get]
    refine ⟨by simp, ?_⟩
    intro i inside _
    have each := honest.each ⟨i, by simpa using inside⟩
    simpa [branchTuple, roleStatement, Server.roleStatement] using each
  · have commitments : (List.ofFn fun i => branchTuple (branches i)).map (·.1) =
        List.ofFn fun i => (branches i).commitment := by
      rw [List.map_ofFn]
      rfl
    rw [List.map_ofFn, List.sum_ofFn, Server.roleSetChallenge, commitments]
    exact honest.sum

/-- What the device proves about its role, for these equations on the commitment it enrolled with. -/
structure RoleEquations (G : Suite β S P) (allowedRoles : List UInt64) (commitment : P) (hello : AuthHello β S P)
    (proof : RoleProof S P) : Prop where
  rerandomized : Accepts (attrH G) (proof.cPrime - commitment) proof.rerandA
    ((Server.rerandTranscript G commitment proof.cPrime proof.rerandA hello.pid hello.nonceC hello.ephC).challengeScalar G)
    proof.rerandS
  member : OrAccepts (attrH G) (allowedRoles.map (Server.roleStatement G proof.cPrime))
    (Server.roleSetChallenge G allowedRoles proof.cPrime proof.orProof hello.pid hello.nonceC hello.ephC) proof.orProof

theorem proveRole_accepted (distinct : allowedRoles.Nodup) (allowed : device.roleCode ∈ allowedRoles)
    (hello : AuthHello β S P) (random : Client.AuthRandom β S) :
    ∃ proof, proveRole G allowedRoles (device.cred G) hello random = .ok proof ∧
      RoleEquations G allowedRoles (device.cred G).commitment hello proof := by
  obtain ⟨k, inside, own⟩ := List.getElem_of_mem allowed
  have opened : (device.cred G).commitment + random.delta • attrH G =
      makeRoleCommitment G (encodeRole (allowedRoles.get ⟨k, inside⟩)) (device.blind + random.delta) := by
    rw [List.get_eq_getElem, own, makeRoleCommitment, add_smul, ← add_assoc]
    rfl
  obtain ⟨orProof, proves, member⟩ := proveRoleSetMembership_accepted distinct ⟨k, inside⟩ opened hello.pid hello.nonceC
    hello.ephC random.orProof
  rw [List.get_eq_getElem, own] at proves
  have shift : (device.cred G).commitment + random.delta • attrH G - (device.cred G).commitment =
      random.delta • attrH G := add_sub_cancel_left _ _
  generalize isC : (device.cred G).commitment + random.delta • attrH G = cPrime at proves member shift
  have rerandomized := accepts_honest (attrH G) random.delta random.rerandR ((Server.rerandTranscript G
    (device.cred G).commitment cPrime (random.rerandR • attrH G) hello.pid hello.nonceC hello.ephC).challengeScalar G)
  rw [← shift] at rerandomized
  refine ⟨⟨cPrime, random.rerandR • attrH G, _, orProof⟩, ?_, rerandomized, member⟩
  have provesOwn : proveRoleSetMembership G allowedRoles cPrime (device.cred G).roleCode
      ((device.cred G).blind + random.delta) hello.pid hello.nonceC hello.ephC random.orProof = .ok orProof := proves
  rw [proveRole, rerandomizeRoleCommitment]
  dsimp only
  rw [isC, proveRoleRerandomization, provesOwn]
  rfl

end Roles

section Requests

variable {G : Suite β S P} {device : Device β S} {ctx : Server.ServerContext S} {mode : AuthMode}
  {hello : AuthHello β S P} {random : Client.AuthRandom β S} {roles : Option (RoleProof S P)}

structure ProperRole (proof : RoleProof S P) : Prop where
  cPrime : proof.cPrime ≠ 0
  rerandA : proof.rerandA ≠ 0
  commitments : ∀ branch ∈ proof.orProof, branch.1 ≠ 0

inductive RoleSent (G : Suite β S P) (allowedRoles : List UInt64) (device : Device β S) (hello : AuthHello β S P)
    (random : Client.AuthRandom β S) : Bool → Option (RoleProof S P) → Prop where
  | deviceOnly : RoleSent G allowedRoles device hello random true none
  | full {proof : RoleProof S P} (proves : proveRole G allowedRoles (device.cred G) hello random = .ok proof)
      (equations : RoleEquations G allowedRoles (device.cred G).commitment hello proof) (proper : ProperRole proof) :
      RoleSent G allowedRoles device hello random false (some proof)

def rolesBytes (G : Suite β S P) : Option (RoleProof S P) → List β
  | some proof => roleProofBytes G proof
  | none => []

def deviceRecord (G : Suite β S P) (device : Device β S) : Server.DeviceRecord P :=
  ⟨device.pub G, (device.cred G).commitment⟩

def sentRequest (G : Suite β S P) (device : Device β S) (mode : AuthMode) (hello : AuthHello β S P)
    (roles : Option (RoleProof S P)) : Server.AuthRequest β S P where
  flags := mode.flags
  handleOpt := if mode.fastLookup then some (Client.computeDeviceHandle G (device.pub G)) else none
  pid := hello.pid
  aC := hello.aC
  sC := hello.sC
  nonceC := hello.nonceC
  ephC := hello.ephC
  cPrimeOpt := roles.map (·.cPrime)
  rerandAOpt := roles.map (·.rerandA)
  rerandSOpt := roles.map (·.rerandS)
  orProof := (roles.map (·.orProof)).getD []

def usesV3 (mode : AuthMode) : Bool := mode.fastLookup || mode.deviceOnly

def headerBytes (mode : AuthMode) (handle : Block β 16) : List β :=
  if usesV3 mode then lits [mode.flags] ++ (if mode.fastLookup then handle.bytes else []) else []

theorem reads_header (mode : AuthMode) (handle : Block β 16) :
    Server.AuthHeader.Reads (usesV3 mode) (headerBytes mode handle)
      ⟨mode.flags, if mode.fastLookup then some handle else none⟩ := by
  obtain ⟨fast, only⟩ := mode
  cases fast with
  | false =>
    cases only with
    | false => exact .v2
    | true =>
      have reads := Server.AuthHeader.Reads.plain (Octet.lit authFlagDeviceOnly : β) (by rw [Octet.val_lit']; decide)
      rwa [Octet.val_lit'] at reads
  | true =>
    have reads := Server.AuthHeader.Reads.lookup (Octet.lit (AuthMode.flags ⟨true, only⟩) : β) handle
      (by rw [Octet.val_lit']; cases only <;> decide)
    rwa [Octet.val_lit'] at reads

theorem flags_deviceOnly (mode : AuthMode) :
    decide (mode.flags &&& Server.authFlagDeviceOnly ≠ 0) = mode.deviceOnly := by
  obtain ⟨fast, only⟩ := mode
  cases fast <;> cases only <;> rfl

theorem sentRequest_deviceOnly : (sentRequest G device mode hello roles).deviceOnly = mode.deviceOnly :=
  flags_deviceOnly mode

theorem requestSent_eq {serverPub : P} : requestSent G device mode serverPub random (rolesBytes G roles) =
    lits [Server.msgAuth (usesV3 mode)] ++ (headerBytes mode (Client.computeDeviceHandle G (device.pub G)) ++
      (sentRequest G device mode (device.hello G serverPub random) roles).toAuthPayload.encode G) := by
  have opening : modeBytes mode ++ handleBytes G mode device = lits [Server.msgAuth (usesV3 mode)] ++
      (headerBytes mode (Client.computeDeviceHandle G (device.pub G)) : List β) := by
    obtain ⟨fast, only⟩ := mode
    cases fast <;> cases only <;> simp [modeBytes, handleBytes, headerBytes, usesV3, Server.msgAuth, lits] <;> rfl
  have payload : helloBytes G (device.hello G serverPub random) ++ rolesBytes G roles =
      (sentRequest G device mode (device.hello G serverPub random) roles).toAuthPayload.encode G := by
    cases roles with
    | none => simp [helloBytes, rolesBytes, sentRequest, Server.AuthPayload.encode, Server.optBytes]
    | some proof =>
      simp [helloBytes, rolesBytes, roleProofBytes, sentRequest, Server.AuthPayload.encode, Server.optBytes]
      rfl
  rw [requestSent, ← List.append_assoc, opening, payload, List.append_assoc]

variable (sent : RoleSent G ctx.allowedRoles device hello random mode.deviceOnly roles)
include sent

theorem sentRequest_wellFormed (aC : hello.aC ≠ 0) (ephC : hello.ephC ≠ 0) :
    (sentRequest G device mode hello roles).toAuthPayload.WellFormed mode.deviceOnly ctx.allowedRoles.length := by
  refine ⟨aC, ephC, ?_⟩
  cases mode with
  | mk fast only =>
  cases sent with
  | deviceOnly => exact .deviceOnly rfl rfl rfl rfl
  | full _ equations proper =>
    have length := equations.member.length_eq
    rw [List.length_map] at length
    exact .full ⟨_, _, _, _, proper.cPrime, proper.rerandA, length⟩ rfl rfl rfl rfl

theorem sentRequest_accepted (gate : mode.deviceOnly = true → Server.allowsDeviceOnly ctx.vars = true)
    (aC : hello.aC ≠ 0) (ephC : hello.ephC ≠ 0) :
    (sentRequest G device mode hello roles).Accepted G ctx (usesV3 mode)
      (headerBytes mode (Client.computeDeviceHandle G (device.pub G)) ++
        (sentRequest G device mode hello roles).toAuthPayload.encode G) := by
  refine ⟨?_, ?_, _, reads_header mode _, rfl⟩
  · rw [sentRequest_deviceOnly]
    exact sentRequest_wellFormed sent aC ephC
  · rw [sentRequest_deviceOnly]
    exact gate

end Requests

section Session

variable {G : Suite β S P} {device : Device β S} {ctx : Server.ServerContext S} {mode : AuthMode}
  {random : Client.AuthRandom β S} {drawn : Server.AuthRandom β S} {roles : Option (RoleProof S P)}

abbrev honestRequest (G : Suite β S P) (ctx : Server.ServerContext S) (device : Device β S) (mode : AuthMode)
    (random : Client.AuthRandom β S) (roles : Option (RoleProof S P)) : Server.AuthRequest β S P :=
  sentRequest G device mode (device.hello G (ctx.staticPub G) random) roles

abbrev servedSession (G : Suite β S P) (ctx : Server.ServerContext S) (device : Device β S) (mode : AuthMode)
    (random : Client.AuthRandom β S) (roles : Option (RoleProof S P)) (drawn : Server.AuthRandom β S) :
    Server.AuthSession β S P :=
  Server.establish G ctx.serverStaticSecret (honestRequest G ctx device mode random roles) drawn

theorem sentRequest_verified [DecidableEq P] [DecidableEq S]
    (sent : RoleSent G ctx.allowedRoles device (device.hello G (ctx.staticPub G) random) random mode.deviceOnly roles)
    (aC : (device.hello G (ctx.staticPub G) random).aC ≠ 0) (ephC : (device.hello G (ctx.staticPub G) random).ephC ≠ 0) :
    Server.verifyProofs G ctx.allowedRoles (honestRequest G ctx device mode random roles)
      (deviceRecord G device) = .ok () := by
  have wellFormed : (honestRequest G ctx device mode random roles).toAuthPayload.WellFormed
      (honestRequest G ctx device mode random roles).deviceOnly ctx.allowedRoles.length := by
    rw [sentRequest_deviceOnly]
    exact sentRequest_wellFormed sent aC ephC
  refine (Server.verifyProofs_ok wellFormed).mpr ⟨accepts_honest _ _ _ _, ?_⟩
  intro full
  rw [sentRequest_deviceOnly] at full
  obtain ⟨fast, only⟩ := mode
  obtain rfl : only = false := full
  cases sent with
  | full _ equations proper =>
    have length := equations.member.length_eq
    rw [List.length_map] at length
    exact ⟨⟨_, _, _, _, proper.cPrime, proper.rerandA, length⟩, rfl, rfl, rfl, rfl, equations.rerandomized,
      proper.commitments, List.forall₂_map_left_iff.mp equations.member.each, equations.member.sum⟩

def replyOf (G : Suite β S P) (session : Server.AuthSession β S P) : AuthReply β S P :=
  ⟨session.serverPub, session.aS, session.sS, session.nonceS, session.ephS, session.tagS G⟩

theorem replyBytes_replyOf (session : Server.AuthSession β S P) : replyBytes G (replyOf G session) = session.payload2 G := rfl

theorem sessions_agree : Agrees
    (device.session G (ctx.staticPub G) random (replyOf G (servedSession G ctx device mode random roles drawn)))
    (servedSession G ctx device mode random roles drawn) := by
  have shared : random.ephSecret • drawn.ephSecret • G.basepoint = drawn.ephSecret • random.ephSecret • G.basepoint :=
    smul_comm _ _ _
  refine ⟨rfl, rfl, rfl, rfl, rfl, rfl, rfl, rfl, rfl, rfl, ?_, rfl⟩
  change Client.deriveSessionKey G random.ephSecret (drawn.ephSecret • G.basepoint) _ _ _ _ _ =
    Server.deriveSessionKey G drawn.ephSecret (random.ephSecret • G.basepoint) _ _ _ _ _
  rw [Client.deriveSessionKey, Server.deriveSessionKey, shared]
  rfl

variable {ours : Client.AuthSession β S P} {theirs : Server.AuthSession β S P}

theorem Agrees.tagS (agrees : Agrees ours theirs) : ours.tagS G = theirs.tagS G := by
  rw [Client.AuthSession.tagS, agrees.sessionKey, agrees.th]
  rfl

theorem Agrees.tagC (agrees : Agrees ours theirs) : ours.tagC G = theirs.tagC G := by
  rw [Client.AuthSession.tagC, agrees.sessionKey, agrees.th]
  rfl

theorem satisfying_replyOf [DecidableEq P] (serverProper : ctx.staticPub G ≠ 0) (aS : drawn.r • G.basepoint ≠ 0)
    (ephS : drawn.ephSecret • G.basepoint ≠ 0) : Satisfying G random.ephSecret (device.hello G (ctx.staticPub G) random)
      (replyOf G (servedSession G ctx device mode random roles drawn)) where
  key := rfl
  keyProper := serverProper
  proofProper := aS
  ephProper := ephS
  verifies := decide_eq_true (accepts_honest _ _ _ _)
  tag := sessions_agree.tagS

end Session

end ZkArche.Protocol

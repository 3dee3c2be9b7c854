import ZkArche.CServer.Replies
import ZkArche.CServer.Verification
import ZkArche.Server.Replies

namespace ZkArche.Protocol

open Foundation

variable {S P : Type} [Field S] [AddCommGroup P] [Module S P]
variable {G : Suite UInt8 S P} {so : CImpl.Sodium}

def rawBranch (G : Suite UInt8 S P) (branch : P × S × S) : CServer.OrBranch :=
  ⟨G.compress branch.1, G.toBytes branch.2.1, G.toBytes branch.2.2⟩

def rawRole (G : Suite UInt8 S P) (payload : Server.AuthPayload UInt8 S P) : Option CServer.RoleFields := do
  let cPrime ← payload.cPrimeOpt
  let rerandA ← payload.rerandAOpt
  let rerandS ← payload.rerandSOpt
  pure ⟨G.compress cPrime, G.compress rerandA, G.toBytes rerandS, payload.orProof.map (rawBranch G)⟩

/-- What the C server holds of a request that was written with these points and scalars. -/
def rawRequest (G : Suite UInt8 S P) (request : Server.AuthRequest UInt8 S P) : CServer.AuthRequest where
  flags := request.flags
  handle := request.handleOpt
  pid := request.pid
  aC := G.compress request.aC
  sC := G.toBytes request.sC
  nonceC := request.nonceC
  ephC := G.compress request.ephC
  role := rawRole G request.toAuthPayload

inductive RoleShows (G : Suite UInt8 S P) : Option CServer.RoleFields → Server.AuthPayload UInt8 S P → Prop where
  | deviceOnly (payload : Server.AuthPayload UInt8 S P) (cPrime : payload.cPrimeOpt = none)
      (rerandA : payload.rerandAOpt = none) (rerandS : payload.rerandSOpt = none) (orProof : payload.orProof = []) :
      RoleShows G none payload
  | full (payload : Server.AuthPayload UInt8 S P) (rerandS : Block UInt8 32) (raws : List CServer.OrBranch)
      (cPrime rerandA : P) (isCPrime : payload.cPrimeOpt = some cPrime) (isRerandA : payload.rerandAOpt = some rerandA)
      (isRerandS : payload.rerandSOpt = some (CServer.residue S rerandS))
      (orProof : List.Forall₂ (CServer.OrBranch.Shows G) raws payload.orProof) :
      RoleShows G (some ⟨G.compress cPrime, G.compress rerandA, rerandS, raws⟩) payload

structure Shows (G : Suite UInt8 S P) (raw : CServer.AuthRequest) (request : Server.AuthRequest UInt8 S P) :
    Prop where
  header : raw.toAuthHeader.toRust = request.toAuthHeader
  pid : raw.pid = request.pid
  aC : raw.aC = G.compress request.aC
  sC : CServer.residue S raw.sC = request.sC
  nonceC : raw.nonceC = request.nonceC
  ephC : raw.ephC = G.compress request.ephC
  role : RoleShows G raw.role request.toAuthPayload

theorem bytes_rawBranches (branches : List (P × S × S)) :
    (branches.map (rawBranch G)).flatMap CServer.OrBranch.bytes = branches.flatMap (Server.encodeBranch G) := by
  rw [List.flatMap_map]
  rfl

theorem bytes_rawRequest {request : Server.AuthRequest UInt8 S P} {deviceOnly : Bool} {nRoles : Nat}
    (fields : request.toAuthPayload.RoleFields nRoles deviceOnly) :
    (rawRequest G request).toAuthPayload.bytes = request.toAuthPayload.encode G := by
  rw [CServer.AuthPayload.bytes, Server.AuthPayload.encode]
  cases fields with
  | deviceOnly cPrime rerandA rerandS orProof =>
    simp only [rawRequest, rawRole, cPrime, rerandA, rerandS, orProof, Server.optBytes, Option.bind_eq_bind,
      Option.bind_none, List.flatMap_nil, List.append_nil]
  | full proofs cPrime rerandA rerandS orProof =>
    simp only [rawRequest, rawRole, cPrime, rerandA, rerandS, Server.optBytes, Option.bind_eq_bind, Option.bind_some,
      Option.pure_def, CServer.RoleFields.bytes, bytes_rawBranches]

theorem shaped_rawRequest {request : Server.AuthRequest UInt8 S P} {deviceOnly : Bool}
    (fields : request.toAuthPayload.RoleFields CServer.allowedRoles.length deviceOnly) :
    (rawRequest G request).toAuthPayload.Shaped deviceOnly := by
  cases fields with
  | deviceOnly cPrime rerandA rerandS orProof =>
    apply CServer.AuthPayload.Shaped.deviceOnly
    simp only [rawRequest, rawRole, cPrime, Option.bind_eq_bind, Option.bind_none]
  | full proofs cPrime rerandA rerandS orProof =>
    apply CServer.AuthPayload.Shaped.full ⟨G.compress proofs.cPrime, G.compress proofs.rerandA,
      G.toBytes proofs.rerandS, request.orProof.map (rawBranch G)⟩
    · simp only [rawRequest, rawRole, cPrime, rerandA, rerandS, Option.bind_eq_bind, Option.bind_some, Option.pure_def]
    · rw [List.length_map, orProof, proofs.length_orProof]

/-- The Rust server accepts the bytes of a request exactly when the C server lets in its reduced
    form and no point of it is the identity. -/
theorem accepted_iff_sent {ctx : Server.ServerContext S} (roles : ctx.allowedRoles = CServer.allowedRoles) {v3 : Bool}
    {bytes : List UInt8} {request : Server.AuthRequest UInt8 S P} :
    request.Accepted G ctx v3 bytes ↔
      (rawRequest G request).Sent ctx.vars v3 bytes ∧
        request.toAuthPayload.WellFormed request.deviceOnly CServer.allowedRoles.length := by
  constructor
  · intro accepted
    have wellFormed := accepted.wellFormed
    rw [roles] at wellFormed
    obtain ⟨front, reads, written⟩ := accepted.bytes
    refine ⟨⟨shaped_rawRequest wellFormed.roles, accepted.gate, front, reads, ?_⟩, wellFormed⟩
    rw [bytes_rawRequest wellFormed.roles]
    exact written
  · intro ⟨sent, wellFormed⟩
    obtain ⟨front, reads, written⟩ := sent.bytes
    rw [bytes_rawRequest wellFormed.roles] at written
    exact ⟨by rw [roles]; exact wellFormed, sent.gate, front, reads, written⟩

theorem sent_unique {vars : Vars} {v3 : Bool} {message bytes rest bytes' rest' : List UInt8}
    {raw raw' : CServer.AuthRequest} (split : message = bytes ++ rest) (sent : raw.Sent vars v3 bytes)
    (split' : message = bytes' ++ rest') (sent' : raw'.Sent vars v3 bytes') : raw = raw' := by
  have run := CServer.reads_recvAuthRequest sent (.opened message) rest split
  have run' := CServer.reads_recvAuthRequest sent' (.opened message) rest' split'
  rw [run] at run'
  exact Except.ok.inj (Prod.mk.inj run').1

section Decoding

variable (m : so.Matches G)

include m

theorem branch_shows_rawBranch (branch : P × S × S) : (rawBranch G branch).Shows G branch :=
  ⟨rfl, CServer.residue_toBytes m branch.2.1, CServer.residue_toBytes m branch.2.2⟩

theorem shows_rawRequest {request : Server.AuthRequest UInt8 S P} {deviceOnly : Bool} {nRoles : Nat}
    (fields : request.toAuthPayload.RoleFields nRoles deviceOnly) : Shows G (rawRequest G request) request := by
  refine ⟨rfl, rfl, rfl, CServer.residue_toBytes m request.sC, rfl, rfl, ?_⟩
  cases fields with
  | deviceOnly cPrime rerandA rerandS orProof =>
    simp only [rawRequest, rawRole, cPrime, Option.bind_eq_bind, Option.bind_none]
    exact .deviceOnly _ cPrime rerandA rerandS orProof
  | full proofs cPrime rerandA rerandS orProof =>
    simp only [rawRequest, rawRole, cPrime, rerandA, rerandS, Option.bind_eq_bind, Option.bind_some, Option.pure_def]
    apply RoleShows.full _ _ _ _ _ cPrime rerandA
    · rw [rerandS, CServer.residue_toBytes m]
    · rw [List.forall₂_map_left_iff]
      exact List.forall₂_same.mpr fun branch _ => branch_shows_rawBranch m branch

theorem valid_of_shown {raws : List CServer.OrBranch} {branches : List (P × S × S)}
    (shown : List.Forall₂ (CServer.OrBranch.Shows G) raws branches) :
    (raws.all fun branch => so.isValidPoint branch.a) = true := by
  induction shown with
  | nil => rfl
  | cons shows _ ih =>
    rw [List.all_cons, ih, shows.a, (m.isValidPoint _).mpr ⟨_, rfl⟩]
    rfl

theorem shown_of_valid {raws : List CServer.OrBranch}
    (valid : (raws.all fun branch => so.isValidPoint branch.a) = true) :
    ∃ branches, List.Forall₂ (CServer.OrBranch.Shows G) raws branches := by
  induction raws with
  | nil => exact ⟨[], .nil⟩
  | cons raw raws ih =>
    rw [List.all_cons, Bool.and_eq_true] at valid
    obtain ⟨a, encoded⟩ := (m.isValidPoint _).mp valid.1
    obtain ⟨branches, shown⟩ := ih valid.2
    exact ⟨(a, CServer.residue S raw.c, CServer.residue S raw.s) :: branches, .cons ⟨encoded.symm, rfl, rfl⟩ shown⟩

theorem pointsValid_iff_shows (raw : CServer.AuthRequest) :
    raw.pointsValid so = true ↔ ∃ request, Shows G raw request := by
  have point : ∀ p, so.isValidPoint (G.compress p) = true := fun p => (m.isValidPoint _).mpr ⟨p, rfl⟩
  rw [CServer.AuthPayload.pointsValid, Bool.and_eq_true, Bool.and_eq_true]
  constructor
  · intro ⟨⟨validA, validEph⟩, validRole⟩
    obtain ⟨aC, isA⟩ := (m.isValidPoint _).mp validA
    obtain ⟨ephC, isEph⟩ := (m.isValidPoint _).mp validEph
    cases role : raw.role with
    | none =>
      refine ⟨⟨raw.toAuthHeader.toRust, ⟨raw.pid, aC, CServer.residue S raw.sC, raw.nonceC, ephC, none, none, none, []⟩⟩,
        rfl, rfl, isA.symm, rfl, rfl, isEph.symm, ?_⟩
      rw [role]
      exact .deviceOnly _ rfl rfl rfl rfl
    | some fields =>
      rw [role] at validRole
      simp only [Bool.and_eq_true] at validRole
      obtain ⟨cPrime, isC⟩ := (m.isValidPoint _).mp validRole.1.1
      obtain ⟨rerandA, isRerandA⟩ := (m.isValidPoint _).mp validRole.1.2
      obtain ⟨branches, shown⟩ := shown_of_valid m validRole.2
      refine ⟨⟨raw.toAuthHeader.toRust, ⟨raw.pid, aC, CServer.residue S raw.sC, raw.nonceC, ephC, some cPrime,
        some rerandA, some (CServer.residue S fields.rerandS), branches⟩⟩, rfl, rfl, isA.symm, rfl, rfl, isEph.symm, ?_⟩
      rw [role]
      obtain ⟨rawC, rawA, rawS, raws⟩ := fields
      obtain rfl := isC
      obtain rfl := isRerandA
      exact .full _ rawS raws cPrime rerandA rfl rfl rfl shown
  · intro ⟨request, shows⟩
    rw [shows.aC, shows.ephC, point, point]
    refine ⟨⟨rfl, rfl⟩, ?_⟩
    have role := shows.role
    generalize raw.role = fields at role
    cases role with
    | deviceOnly => rfl
    | full _ rerandS raws cPrime rerandA _ _ _ shown =>
      simp only [point, valid_of_shown m shown, Bool.and_self]

end Decoding

theorem shown_unique {raws : List CServer.OrBranch} {branches branches' : List (P × S × S)}
    (shown : List.Forall₂ (CServer.OrBranch.Shows G) raws branches)
    (shown' : List.Forall₂ (CServer.OrBranch.Shows G) raws branches') : branches = branches' := by
  induction shown generalizing branches' with
  | nil =>
    cases shown'
    rfl
  | cons shows _ ih =>
    cases shown' with
    | cons shows' rest' =>
      have point := G.compress_injective (shows.a.symm.trans shows'.a)
      have scalars := Prod.ext (shows.c.symm.trans shows'.c) (shows.s.symm.trans shows'.s)
      rw [ih rest']
      exact congrArg (· :: _) (Prod.ext point scalars)

theorem shows_unique {raw : CServer.AuthRequest} {request request' : Server.AuthRequest UInt8 S P}
    (shows : Shows G raw request) (shows' : Shows G raw request') : request = request' := by
  obtain ⟨⟨flags, handle⟩, pid, aC, sC, nonceC, ephC, cPrime, rerandA, rerandS, orProof⟩ := request
  obtain ⟨⟨flags', handle'⟩, pid', aC', sC', nonceC', ephC', cPrime', rerandA', rerandS', orProof'⟩ := request'
  have header := shows.header.symm.trans shows'.header
  have samePid := shows.pid.symm.trans shows'.pid
  have sameA := G.compress_injective (shows.aC.symm.trans shows'.aC)
  have sameS := shows.sC.symm.trans shows'.sC
  have sameNonce := shows.nonceC.symm.trans shows'.nonceC
  have sameEph := G.compress_injective (shows.ephC.symm.trans shows'.ephC)
  have role := shows.role
  have role' := shows'.role
  dsimp only at header samePid sameA sameS sameNonce sameEph
  subst samePid sameA sameS sameNonce sameEph
  cases header
  generalize raw.role = fields at role role'
  cases role with
  | deviceOnly _ c a s proof =>
    cases role' with
    | deviceOnly _ c' a' s' proof' =>
      dsimp only at c a s proof c' a' s' proof'
      subst c a s proof c' a' s' proof'
      rfl
  | full _ rerandS raws cPrime rerandA c a s shown =>
    generalize encodedC : G.compress cPrime = bytesC at role'
    generalize encodedA : G.compress rerandA = bytesA at role'
    cases role' with
    | full _ _ _ otherC otherA c' a' s' shown' =>
      have sameC := G.compress_injective encodedC
      have sameRerandA := G.compress_injective encodedA
      have sameProof := shown_unique shown shown'
      dsimp only at c a s c' a' s' sameProof
      subst c a s c' a' s' sameC sameRerandA sameProof
      rfl

end ZkArche.Protocol

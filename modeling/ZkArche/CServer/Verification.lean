import ZkArche.CServer.Agreement

namespace ZkArche.CServer

open Foundation Foundation.Sigma CImpl

variable {S P : Type} [Field S] [AddCommGroup P] [Module S P]
variable {G : Suite UInt8 S P} {so : Sodium}

/-- The scalar that a multiplication takes from 32 bytes. -/
def residue (S : Type) [Field S] (s : Block UInt8 32) : S := (scalarBits s : S)

section Library

variable (m : so.Matches G)

include m

theorem residue_toBytes (s : S) : residue S (G.toBytes s) = s := m.scalarBits_toBytes s

theorem trChallengeScalar_eq (t : CompatTranscript UInt8) :
    trChallengeScalar so ⟨t.buf⟩ = G.toBytes (t.challengeScalar G) := by
  rw [trChallengeScalar, m.sha512, m.scalarReduce, CompatTranscript.challengeScalar]

theorem attrH_eq : CImpl.attrH so = G.compress (ZkArche.attrH G) := by
  rw [CImpl.attrH, CImpl.hashToPoint, m.sha512, m.fromHash, ZkArche.attrH, ZkArche.hashToPoint, lits_bytes, lits_bytes]

theorem scalarZero_eq : scalarZero = G.toBytes 0 := Block.ext m.toBytes_zero.symm

variable [DecidableEq P]

theorem scalarmult_bind {n : Block UInt8 32} {p : P} {α : Type} {next : Block UInt8 32 → Option α} {value : α} :
    (so.scalarmult n (G.compress p)).bind next = some value ↔
      residue S n • p ≠ 0 ∧ next (G.compress (residue S n • p)) = some value := by
  by_cases zero : residue S n • p = 0
  · rw [m.scalarmult_zero n p zero, Option.bind_none]
    exact ⟨fun found => (by cases found), fun found => absurd zero found.1⟩
  · rw [m.scalarmult n p zero, Option.bind_some]
    exact ⟨fun found => ⟨zero, found⟩, fun found => found.2⟩

omit [DecidableEq P] in
theorem scalarmultBase_eq (n : Block UInt8 32) : so.scalarmultBase n = G.compress (residue S n • G.basepoint) :=
  m.scalarmultBase n

theorem schnorrVerifyAuth_iff {pid nonceC s : Block UInt8 32} {pub a ephC : P} :
    schnorrVerifyAuth so pid (G.compress pub) (G.compress a) s nonceC (G.compress ephC) = some () ↔
      (Server.clientTranscript G pub pid a nonceC ephC).challengeScalar G • pub ≠ 0 ∧
      Accepts G.basepoint pub a ((Server.clientTranscript G pub pid a nonceC ephC).challengeScalar G)
        (residue S s) := by
  rw [schnorrVerifyAuth, clientTranscript_eq, Option.bind_eq_bind, Option.bind_some]
  simp only [trChallengeScalar_eq m, Option.bind_eq_bind, scalarmult_bind m, residue_toBytes m, scalarmultBase_eq m,
    m.add, Option.guard_eq_some', G.compress_injective.eq_iff]
  rfl

theorem schnorrVerifySetup_iff {deviceId clientNonce serverNonce s : Block UInt8 32}
    {setupChallenge : Block UInt8 16} {pub serverPub a : P} :
    schnorrVerifySetup so deviceId (G.compress pub) (G.compress serverPub) clientNonce serverNonce setupChallenge
      (G.compress a) s = some () ↔
      (Server.setupTranscript G pub deviceId serverPub clientNonce serverNonce setupChallenge a).challengeScalar G •
        pub ≠ 0 ∧
      Accepts G.basepoint pub a ((Server.setupTranscript G pub deviceId serverPub clientNonce serverNonce
        setupChallenge a).challengeScalar G) (residue S s) := by
  rw [schnorrVerifySetup, setupTranscript_eq, Option.bind_eq_bind, Option.bind_some]
  simp only [trChallengeScalar_eq m, Option.bind_eq_bind, scalarmult_bind m, residue_toBytes m, scalarmultBase_eq m,
    m.add, Option.guard_eq_some', G.compress_injective.eq_iff]
  rfl

theorem verifyRoleRerandomization_iff {pid nonceC s : Block UInt8 32} {storedC cPrime a ephC : P} :
    verifyRoleRerandomization so (G.compress storedC) (G.compress cPrime) (G.compress a) s pid nonceC
      (G.compress ephC) = some () ↔
      residue S s • ZkArche.attrH G ≠ 0 ∧
      (Server.rerandTranscript G storedC cPrime a pid nonceC ephC).challengeScalar G • (cPrime - storedC) ≠ 0 ∧
      Accepts (ZkArche.attrH G) (cPrime - storedC) a
        ((Server.rerandTranscript G storedC cPrime a pid nonceC ephC).challengeScalar G) (residue S s) := by
  rw [verifyRoleRerandomization]
  simp only [rerandTranscript_eq, Option.bind_eq_bind, Option.bind_some, attrH_eq m, trChallengeScalar_eq m, m.sub,
    scalarmult_bind m, residue_toBytes m, m.add, Option.guard_eq_some', G.compress_injective.eq_iff]
  rfl

end Library

structure OrBranch.Shows (G : Suite UInt8 S P) (raw : OrBranch) (branch : P × S × S) : Prop where
  a : raw.a = G.compress branch.1
  c : residue S raw.c = branch.2.1
  s : residue S raw.s = branch.2.2

theorem shows_points {raws : List OrBranch} {branches : List (P × S × S)}
    (shown : List.Forall₂ (OrBranch.Shows G) raws branches) :
    raws.map (·.a) = (branches.map (·.1)).map G.compress := by
  induction shown with
  | nil => rfl
  | cons shows _ ih => rw [List.map_cons, List.map_cons, List.map_cons, ih, shows.a]

variable [DecidableEq P]

structure BranchPasses (h y : P) (branch : P × S × S) : Prop where
  response : branch.2.2 • h ≠ 0
  challenge : branch.2.1 • y ≠ 0
  accepts : Accepts h y branch.1 branch.2.1 branch.2.2

def challengeSum (so : Sodium) (proof : List OrBranch) : Block UInt8 32 :=
  proof.foldl (fun sum branch => so.scalarAdd sum branch.c) scalarZero

theorem residue_scalarFromU64 (role : UInt64) : residue S (scalarFromU64 role) = (role.toNat : S) := by
  have small := role.toNat_lt
  have value : leNat (scalarFromU64 role).bytes = role.toNat := by
    rw [scalarFromU64, leNat_append_zeros]
    exact leNat_leBytes_of_lt small
  rw [residue, scalarBits, value, Nat.mod_eq_of_lt (by omega)]

section Membership

variable (m : so.Matches G)

include m

theorem verifyBranches_iff {h cPrime : P} {roles : List UInt64} {raws : List OrBranch} {branches : List (P × S × S)}
    (shown : List.Forall₂ (OrBranch.Shows G) raws branches) (length : roles.length = raws.length) :
    verifyBranches so (G.compress h) (G.compress cPrime) (roles.zip raws) = some () ↔
      List.Forall₂ (fun role branch => BranchPasses h (Server.roleStatement G cPrime role) branch) roles branches := by
  induction shown generalizing roles with
  | nil =>
    rw [List.length_eq_zero_iff.mp length]
    simp [verifyBranches]
  | cons shows _ ih =>
    cases roles with
    | nil => cases length
    | cons role roles =>
      have rest := ih (Nat.succ.inj length)
      rw [List.zip_cons_cons, verifyBranches, List.forall₂_cons, ← rest]
      simp only [scalarmultBase_eq m, residue_scalarFromU64, m.sub, Option.bind_eq_bind, scalarmult_bind m, shows.a,
        m.add, shows.c, shows.s, Option.bind_eq_some_iff, Option.guard_eq_some', G.compress_injective.eq_iff]
      constructor
      · intro ⟨response, challenge, _, accepts, others⟩
        exact ⟨⟨response, challenge, accepts⟩, others⟩
      · intro ⟨passes, others⟩
        exact ⟨passes.response, passes.challenge, (), passes.accepts, others⟩

theorem verifyRoleSetMembership_iff {pid nonceC : Block UInt8 32} {cPrime ephC : P} {raws : List OrBranch}
    {branches : List (P × S × S)} (shown : List.Forall₂ (OrBranch.Shows G) raws branches)
    (length : raws.length = allowedRoles.length) :
    verifyRoleSetMembership so (G.compress cPrime) raws pid nonceC (G.compress ephC) = some () ↔
      challengeSum so raws =
        G.toBytes (Server.roleSetChallenge G allowedRoles cPrime branches pid nonceC ephC) ∧
      List.Forall₂ (fun role branch => BranchPasses (ZkArche.attrH G) (Server.roleStatement G cPrime role) branch)
        allowedRoles branches := by
  have points := shows_points shown
  have valid : (raws.all fun branch => so.isValidPoint branch.a) = true := by
    have all_points : (raws.all fun branch => so.isValidPoint branch.a) = (raws.map (·.a)).all so.isValidPoint := by
      rw [List.all_map]
      rfl
    rw [all_points, points, List.all_map, List.all_eq_true]
    intro point _
    exact (m.isValidPoint _).mpr ⟨point, rfl⟩
  have counted : (branches.map (·.1)).length = allowedRoles.length := by
    rw [List.length_map, ← shown.length_eq, length]
  rw [verifyRoleSetMembership]
  simp only [valid, points, roleSetTranscript_eq G _ _ _ _ counted, attrH_eq m, trChallengeScalar_eq m,
    Option.bind_eq_bind, Option.bind_some, Option.bind_eq_some_iff, Option.guard_eq_some',
    verifyBranches_iff m shown length.symm]
  constructor
  · intro ⟨_, _, _, sum, branchesPass⟩
    exact ⟨sum, branchesPass⟩
  · intro ⟨sum, branchesPass⟩
    exact ⟨(), trivial, (), sum, branchesPass⟩

end Membership

end ZkArche.CServer

import ZkArche.Foundation.Sigma
import ZkArche.Server.Auth

namespace ZkArche.Server

open Foundation Foundation.Sigma

variable {β S P : Type} [Octet β] [Field S] [AddCommGroup P] [Module S P]
variable [DecidableEq P]

theorem vartimeSchnorrCheck_iff {base pubkey a : P} {c s : S} :
    vartimeSchnorrCheck base pubkey a c s = true ↔ Accepts base pubkey a c s := by
  rw [vartimeSchnorrCheck, decide_eq_true_iff, accepts_iff_combination]

def roleStatement (G : Suite β S P) (cPrime : P) (role : UInt64) : P :=
  cPrime - ((role.toNat : S) • G.basepoint)

theorem verifyBranches_iff {G : Suite β S P} {allowedRoles : List UInt64} {cPrime : P}
    {proof : List (P × S × S)} {start : Nat} (lengths : start + proof.length = allowedRoles.length) :
    verifyBranches G allowedRoles cPrime (proof.zipIdx start) = .ok true ↔
      List.Forall₂ (fun pub branch => Accepts (attrH G) pub branch.1 branch.2.1 branch.2.2)
        ((allowedRoles.drop start).map (roleStatement G cPrime)) proof := by
  induction proof generalizing start with
  | nil =>
    rw [List.length_nil, Nat.add_zero] at lengths
    simp [verifyBranches, lengths]
  | cons branch proof ih =>
    rw [List.length_cons] at lengths
    have bound : start < allowedRoles.length := by omega
    have found : indexOr allowedRoles start = .ok allowedRoles[start] := by
      rw [indexOr, List.getElem?_eq_getElem bound]
    rw [List.drop_eq_getElem_cons bound, List.map_cons, List.forall₂_cons, List.zipIdx_cons, verifyBranches,
      found, ← ih (by omega), ← vartimeSchnorrCheck_iff]
    simp only [bind, Except.bind, roleStatement]
    split <;> simp_all

theorem verifyBranches_total (G : Suite β S P) {allowedRoles : List UInt64} (cPrime : P)
    {proof : List (P × S × S)} {start : Nat} (lengths : start + proof.length = allowedRoles.length) :
    ∃ verdict, verifyBranches G allowedRoles cPrime (proof.zipIdx start) = .ok verdict := by
  induction proof generalizing start with
  | nil => exact ⟨true, rfl⟩
  | cons branch proof ih =>
    rw [List.length_cons] at lengths
    have bound : start < allowedRoles.length := by omega
    have found : indexOr allowedRoles start = .ok allowedRoles[start] := by
      rw [indexOr, List.getElem?_eq_getElem bound]
    rw [List.zipIdx_cons, verifyBranches, found]
    simp only [bind, Except.bind]
    split
    · exact ih (by omega)
    · exact ⟨false, rfl⟩

omit [AddCommGroup P] [Module S P] [DecidableEq P] in
theorem foldl_challenges (proof : List (P × S × S)) (start : S) :
    proof.foldl (fun sum branch => sum + branch.2.1) start =
      start + (proof.map fun branch => branch.2.1).sum := by
  induction proof generalizing start with
  | nil => simp
  | cons branch proof ih => rw [List.foldl_cons, ih, List.map_cons, List.sum_cons, add_assoc]

variable [DecidableEq S]

def roleSetChallenge (G : Suite β S P) (allowedRoles : List UInt64) (cPrime : P) (proof : List (P × S × S))
    (pid nonceC : Block β 32) (ephC : P) : S :=
  (roleSetTranscript G allowedRoles cPrime (proof.map (·.1)) pid nonceC ephC).challengeScalar G

/-- The set-membership check accepts exactly the disjunctive proofs without an identity
    commitment. -/
theorem verifyRoleSetMembership_iff {G : Suite β S P} {allowedRoles : List UInt64} {cPrime : P}
    {proof : List (P × S × S)} {pid nonceC : Block β 32} {ephC : P} :
    verifyRoleSetMembership G allowedRoles cPrime proof pid nonceC ephC = .ok true ↔
      (∀ branch ∈ proof, branch.1 ≠ 0) ∧
      OrAccepts (attrH G) (allowedRoles.map (roleStatement G cPrime))
        (roleSetChallenge G allowedRoles cPrime proof pid nonceC ephC) proof := by
  unfold verifyRoleSetMembership
  split
  case isTrue different =>
    refine ⟨nofun, ?_⟩
    rintro ⟨_, accepts⟩
    exact absurd (by simpa using accepts.length_eq) different
  case isFalse same =>
    have lengths : 0 + proof.length = allowedRoles.length := by
      rw [Nat.zero_add]
      exact not_not.mp same
    split
    case isTrue identity =>
      refine ⟨nofun, ?_⟩
      rintro ⟨nonzero, _⟩
      obtain ⟨branch, member, zero⟩ := List.any_eq_true.mp identity
      exact absurd (by simpa using zero) (nonzero branch member)
    case isFalse nonzero =>
      simp only [foldl_challenges, zero_add]
      split
      case isTrue different =>
        refine ⟨nofun, ?_⟩
        rintro ⟨_, accepts⟩
        exact absurd accepts.sum different
      case isFalse sum =>
        rw [verifyBranches_iff lengths, List.drop_zero]
        constructor
        · intro each
          refine ⟨?_, each, not_not.mp sum⟩
          intro branch member zero
          exact nonzero (List.any_eq_true.mpr ⟨branch, member, by simpa using zero⟩)
        · rintro ⟨_, accepts⟩
          exact accepts.each

theorem verifyRoleSetMembership_total (G : Suite β S P) (allowedRoles : List UInt64) (cPrime : P)
    (proof : List (P × S × S)) (pid nonceC : Block β 32) (ephC : P) :
    ∃ verdict, verifyRoleSetMembership G allowedRoles cPrime proof pid nonceC ephC = .ok verdict := by
  unfold verifyRoleSetMembership
  split
  case isTrue => exact ⟨false, rfl⟩
  case isFalse same =>
    split
    · exact ⟨false, rfl⟩
    · simp only
      split
      · exact ⟨false, rfl⟩
      · exact verifyBranches_total G cPrime (by rw [Nat.zero_add]; exact not_not.mp same)

end ZkArche.Server

import ZkArche.Client.Proofs
import ZkArche.Primitives.SmallSuite
import ZkArche.Server.Verification

namespace ZkArche.Protocol

open Foundation Foundation.Sigma

variable {β S P : Type} [Octet β] [Field S] [AddCommGroup P] [Module S P]
variable [DecidableEq P] [DecidableEq S]

/-- The values of a session that its role proofs are bound to. -/
structure Binding (β P : Type) where
  pid : Block β 32
  nonceC : Block β 32
  ephC : P

def rerandChallenge (G : Suite β S P) (storedC cPrime a : P) (bound : Binding β P) : S :=
  (Server.rerandTranscript G storedC cPrime a bound.pid bound.nonceC bound.ephC).challengeScalar G

def masterChallenge (G : Suite β S P) (allowedRoles : List UInt64) (cPrime : P) (proof : List (P × S × S))
    (bound : Binding β P) : S :=
  Server.roleSetChallenge G allowedRoles cPrime proof bound.pid bound.nonceC bound.ephC

/-- A re-randomisation proof that the server accepts. -/
def RerandAccepted (G : Suite β S P) (storedC cPrime a : P) (s : S) (bound : Binding β P) : Prop :=
  Server.verifyRoleRerandomization G storedC cPrime a s bound.pid bound.nonceC bound.ephC = true

instance [DecidableEq β] (G : Suite β S P) (storedC cPrime a : P) (s : S) (bound : Binding β P) :
    Decidable (RerandAccepted G storedC cPrime a s bound) := inferInstanceAs (Decidable (_ = true))

/-- A set-membership proof that the server accepts. -/
def MembershipAccepted (G : Suite β S P) (allowedRoles : List UInt64) (cPrime : P) (proof : List (P × S × S))
    (bound : Binding β P) : Prop :=
  Server.verifyRoleSetMembership G allowedRoles cPrime proof bound.pid bound.nonceC bound.ephC = .ok true

def accepted : Except Failure Bool → Bool
  | .ok verdict => verdict
  | .error _ => false

instance [DecidableEq β] (G : Suite β S P) (allowedRoles : List UInt64) (cPrime : P) (proof : List (P × S × S))
    (bound : Binding β P) :
    Decidable (MembershipAccepted G allowedRoles cPrime proof bound) :=
  decidable_of_iff
    (accepted (Server.verifyRoleSetMembership G allowedRoles cPrime proof bound.pid bound.nonceC bound.ephC) = true) (by
      unfold MembershipAccepted accepted
      split <;> simp_all)

omit [DecidableEq S] in
theorem RerandAccepted.accepts {G : Suite β S P} {storedC cPrime a : P} {s : S} {bound : Binding β P}
    (accepted : RerandAccepted G storedC cPrime a s bound) :
    Accepts (attrH G) (cPrime - storedC) a (rerandChallenge G storedC cPrime a bound) s :=
  Server.vartimeSchnorrCheck_iff.mp accepted

theorem MembershipAccepted.accepts {G : Suite β S P} {allowedRoles : List UInt64} {cPrime : P}
    {proof : List (P × S × S)} {bound : Binding β P} (accepted : MembershipAccepted G allowedRoles cPrime proof bound) :
    OrAccepts (attrH G) (allowedRoles.map (Server.roleStatement G cPrime))
      (masterChallenge G allowedRoles cPrime proof bound) proof :=
  (Server.verifyRoleSetMembership_iff.mp accepted).2

/-- The shift of the commitment, the index of a role and the blinding that two pairs of proofs give away. -/
def extractRole (c s c' s' : S) (proof proof' : List (P × S × S)) : Option (S × Nat × S) :=
  (extractBranch proof proof').map fun found => (extract c s c' s', found.1, found.2)

/-- Two accepted re-randomisation proofs with one commitment and two accepted set-membership proofs
    with the same commitments, under different challenges, open the enrolled commitment to an allowed
    role. The hash functions and the sessions of the proofs may differ. -/
theorem role_proofs_open_commitment {G G' : Suite β S P} (sameBase : G'.basepoint = G.basepoint)
    (sameH : attrH G' = attrH G) {allowedRoles : List UInt64} {storedC cPrime a : P} {s s' : S}
    {bound bound' : Binding β P} (rerand : RerandAccepted G storedC cPrime a s bound)
    (rerand' : RerandAccepted G' storedC cPrime a s' bound')
    (challenges : rerandChallenge G storedC cPrime a bound ≠ rerandChallenge G' storedC cPrime a bound')
    {proof proof' : List (P × S × S)} {session session' : Binding β P}
    (member : MembershipAccepted G allowedRoles cPrime proof session)
    (member' : MembershipAccepted G' allowedRoles cPrime proof' session')
    (commitments : proof.map (·.1) = proof'.map (·.1))
    (masters : masterChallenge G allowedRoles cPrime proof session ≠
      masterChallenge G' allowedRoles cPrime proof' session') :
    ∃ delta i beta role,
      extractRole (rerandChallenge G storedC cPrime a bound) s (rerandChallenge G' storedC cPrime a bound') s' proof
        proof' = some (delta, i, beta) ∧
      allowedRoles[i]? = some role ∧
      cPrime = storedC + delta • attrH G ∧
      cPrime = Client.makeRoleCommitment G (Client.encodeRole role) beta ∧
      storedC = Client.makeRoleCommitment G (Client.encodeRole role) (beta - delta) := by
  have shifted := rerand.accepts
  have shifted' := rerand'.accepts
  rw [sameH] at shifted'
  have difference := shifted.extract shifted' challenges
  have statements : allowedRoles.map (Server.roleStatement G' cPrime) =
      allowedRoles.map (Server.roleStatement G cPrime) := by
    apply List.map_congr_left
    intro role _
    rw [Server.roleStatement, Server.roleStatement, sameBase]
  have branches' := member'.accepts
  rw [statements, sameH] at branches'
  obtain ⟨i, beta, found, statement⟩ := member.accepts.extract branches' commitments masters
  rw [List.getElem?_map] at statement
  obtain ⟨role, listed, opened⟩ := Option.map_eq_some_iff.mp statement
  rw [Server.roleStatement, sub_eq_iff_eq_add] at opened
  have wire : cPrime = Client.makeRoleCommitment G (Client.encodeRole role) beta := by
    rw [Client.makeRoleCommitment, Client.encodeRole, opened, add_comm]
  have shift := sub_eq_iff_eq_add.mp difference
  refine ⟨_, i, beta, role, ?_, listed, shift.trans (add_comm _ _), wire, ?_⟩
  · rw [extractRole, found, Option.map_some]
  · rw [Client.makeRoleCommitment, sub_smul, add_sub_assoc', eq_sub_iff_add_eq, add_comm storedC, ← shift]
    exact wire

def forkedSuite : Suite UInt8 (ZMod 5) (ZMod 5) := { toySuite with fromBytesModOrderWide := fun _ => 1 }

def toyBinding : Binding UInt8 (ZMod 5) := ⟨Server.zeros, Server.zeros, 1⟩

set_option maxRecDepth 100000 in
theorem role_proofs_open_commitment_forked :
    ∃ delta i beta role,
      extractRole (rerandChallenge toySuite 1 3 2 toyBinding) 1 (rerandChallenge forkedSuite 1 3 2 toyBinding) 2
        [(2, 4, 0), (1, 1, 1)] [(2, 0, 1), (1, 1, 1)] = some (delta, i, beta) ∧
      [1, 2][i]? = some role ∧
      3 = 1 + delta • attrH toySuite ∧
      3 = Client.makeRoleCommitment toySuite (Client.encodeRole role) beta ∧
      1 = Client.makeRoleCommitment toySuite (Client.encodeRole role) (beta - delta) := by
  have rerand : RerandAccepted toySuite 1 3 2 1 toyBinding := by decide
  have rerand' : RerandAccepted forkedSuite 1 3 2 2 toyBinding := by decide
  have member : MembershipAccepted toySuite [1, 2] 3 [(2, 4, 0), (1, 1, 1)] toyBinding := by decide
  have member' : MembershipAccepted forkedSuite [1, 2] 3 [(2, 0, 1), (1, 1, 1)] toyBinding := by decide
  have challenges : rerandChallenge toySuite 1 3 2 toyBinding ≠ rerandChallenge forkedSuite 1 3 2 toyBinding := by decide
  have masters : masterChallenge toySuite [1, 2] 3 [(2, 4, 0), (1, 1, 1)] toyBinding ≠
      masterChallenge forkedSuite [1, 2] 3 [(2, 0, 1), (1, 1, 1)] toyBinding := by decide
  have sameBase : forkedSuite.basepoint = toySuite.basepoint := rfl
  exact role_proofs_open_commitment sameBase (by decide) rerand rerand' challenges member member' rfl masters

end ZkArche.Protocol

import ZkArche.Client.Proofs
import ZkArche.Foundation.Disjunction
import ZkArche.Primitives.SmallSuite

namespace ZkArche.Client

open Foundation Foundation.Sigma

variable {β S P : Type} [Octet β] [Field S] [AddCommGroup P] [Module S P]

/-- What the proof of branch `k` takes from the random scalars. -/
def OrRandomness.coins {n : Nat} (random : OrRandomness S) (k : Fin n) : Coins S k where
  w := random.w
  simulated := fun i => random.simulated i

/-- Random scalars that start as zeros and are drawn where the proof of branch `k` needs them. -/
def tape {n : Nat} {k : Fin n} (coins : Coins S k) : OrRandomness S where
  w := coins.w
  simulated := fun i =>
    if inside : i < n then
      if other : (⟨i, inside⟩ : Fin n) ≠ k then coins.simulated ⟨⟨i, inside⟩, other⟩ else (0, 0)
    else (0, 0)

theorem coins_tape {n : Nat} {k : Fin n} (coins : Coins S k) : (tape coins).coins k = coins := by
  apply Coins.ext
  · rfl
  · funext i
    obtain ⟨i, other⟩ := i
    simp only [OrRandomness.coins, tape, i.isLt, dif_pos, other, ne_eq, not_false_eq_true]

def roleStatement (G : Suite β S P) (cPrime : P) (role : UInt64) : P :=
  cPrime - ((role.toNat : S) • G.basepoint)

def roleSetHash (G : Suite β S P) (allowedRoles : List UInt64) (cPrime : P) (pid nonceC : Block β 32) (ephC : P)
    (commitments : Fin allowedRoles.length → P) : S :=
  (roleSetTranscript G allowedRoles cPrime (List.ofFn commitments) pid nonceC ephC).challengeScalar G

def branchTuple (branch : Branch S P) : P × S × S := (branch.commitment, branch.challenge, branch.response)

theorem findIdx_getElem {allowedRoles : List UInt64} (distinct : allowedRoles.Nodup) (k : Fin allowedRoles.length) :
    allowedRoles.findIdx? (· == allowedRoles[k]) = some k.val := by
  rw [List.findIdx?_eq_some_iff_getElem]
  refine ⟨k.isLt, beq_self_eq_true _, ?_⟩
  intro j before
  simp only [Fin.getElem_fin, Bool.not_eq_true, beq_eq_false_iff_ne, ne_eq]
  intro same
  exact absurd ((List.Nodup.getElem_inj_iff distinct).mp same) (Nat.ne_of_lt before)

theorem foldl_chosen {n : Nat} (k : Fin n) (random : OrRandomness S) :
    (List.range n).foldl (fun sum i => if i ≠ k.val then sum + (random.simulated i).1 else sum) 0 =
      ∑ i, chosenChallenge k (random.coins k) i := by
  have loop : ∀ (indices : List Nat) (start : S),
      indices.foldl (fun sum i => if i ≠ k.val then sum + (random.simulated i).1 else sum) start =
        start + (indices.map fun i => if i ≠ k.val then (random.simulated i).1 else 0).sum := by
    intro indices
    induction indices with
    | nil => intro start; simp
    | cons i indices ih =>
      intro start
      rw [List.foldl_cons, ih, List.map_cons, List.sum_cons]
      split
      · rw [add_assoc]
      · rw [zero_add]
  rw [loop, zero_add, ← List.sum_ofFn]
  congr 1
  apply List.ext_getElem
  · simp
  · intro i _ _
    simp only [List.getElem_map, List.getElem_range, List.getElem_ofFn, chosenChallenge, OrRandomness.coins,
      Fin.ext_iff, ne_eq, dite_eq_ite]

theorem proveRoleSetMembership_eq (G : Suite β S P) {allowedRoles : List UInt64} (cPrime : P) {roleCode : UInt64}
    {k : Fin allowedRoles.length} (found : allowedRoles.findIdx? (· == roleCode) = some k.val) (blindPrime : S)
    (pid nonceC : Block β 32) (ephC : P) (random : OrRandomness S) :
    proveRoleSetMembership G allowedRoles cPrime roleCode blindPrime pid nonceC ephC random =
      .ok (List.ofFn fun i => branchTuple (proveOr (attrH G) (fun i => roleStatement G cPrime allowedRoles[i])
        (roleSetHash G allowedRoles cPrime pid nonceC ephC) k blindPrime (random.coins k) i)) := by
  have commitments : ((allowedRoles.map fun role => cPrime - ((role.toNat : S) • G.basepoint)).zipIdx.map fun y =>
      if y.2 = k.val then random.w • attrH G
      else (random.simulated y.2).2 • attrH G - (random.simulated y.2).1 • y.1) =
      List.ofFn (commitment (attrH G) (fun i => roleStatement G cPrime allowedRoles[i]) k (random.coins k)) := by
    apply List.ext_getElem
    · simp
    · intro i inside _
      have bound : i < allowedRoles.length := by simpa using inside
      simp only [List.getElem_map, List.getElem_zipIdx, List.getElem_ofFn, commitment, OrRandomness.coins,
        roleStatement, Fin.getElem_fin, Nat.zero_add, Fin.ext_iff, ne_eq]
      by_cases own : i = k.val
      · simp [own]
      · simp [own]
  rw [proveRoleSetMembership, found]
  simp only [bind, Except.bind, commitments, foldl_chosen]
  congr 1
  apply List.ext_getElem
  · simp
  · intro i inside _
    simp only [List.getElem_map, List.getElem_zipIdx, List.getElem_ofFn, Nat.zero_add, branchTuple]
    by_cases own : i = k.val
    · subst own
      rw [if_pos rfl, proveOr_own]
      simp only [commitment, ne_eq, not_true_eq_false, dite_false, Fin.eta]
      rfl
    · have other : (⟨i, by simpa using inside⟩ : Fin allowedRoles.length) ≠ k := fun same => own (congrArg Fin.val same)
      rw [if_neg own, proveOr_other _ other, commitment, dif_pos other]
      rfl

theorem opened_statement {G : Suite β S P} {cPrime : P} {role : UInt64} {blind : S}
    (opened : cPrime = makeRoleCommitment G (encodeRole role) blind) :
    roleStatement G cPrime role = blind • attrH G := by
  rw [opened, roleStatement, makeRoleCommitment, encodeRole, add_sub_cancel_left]

/-- The set-membership proof does not tell which role it is about: for two openings of one commitment,
    the random choices of one prover correspond one to one to those of the other with the same proof. -/
theorem role_proof_hides_role (G : Suite β S P) {allowedRoles : List UInt64} (distinct : allowedRoles.Nodup)
    {cPrime : P} {k m : Fin allowedRoles.length} {blind blind' : S}
    (opened : cPrime = makeRoleCommitment G (encodeRole allowedRoles[k]) blind)
    (opened' : cPrime = makeRoleCommitment G (encodeRole allowedRoles[m]) blind')
    (pid nonceC : Block β 32) (ephC : P) :
    ∃ reopen : Coins S k → Coins S m, Function.Bijective reopen ∧
      ∀ coins, ∃ proof,
        proveRoleSetMembership G allowedRoles cPrime allowedRoles[k] blind pid nonceC ephC (tape coins) = .ok proof ∧
        proveRoleSetMembership G allowedRoles cPrime allowedRoles[m] blind' pid nonceC ephC (tape (reopen coins)) =
          .ok proof := by
  obtain ⟨reopen, bijective, same⟩ := proveOr_indistinguishable
    (fun i : Fin allowedRoles.length => roleStatement G cPrime allowedRoles[i])
    (roleSetHash G allowedRoles cPrime pid nonceC ephC) (opened_statement opened) (opened_statement opened')
  refine ⟨reopen, bijective, ?_⟩
  intro coins
  have first := proveRoleSetMembership_eq G cPrime (findIdx_getElem distinct k) blind pid nonceC ephC (tape coins)
  have second := proveRoleSetMembership_eq G cPrime (findIdx_getElem distinct m) blind' pid nonceC ephC
    (tape (reopen coins))
  rw [coins_tape] at first second
  rw [same] at second
  exact ⟨_, first, second⟩

theorem role_proof_hides_role_toy :
    ∃ reopen : Coins (ZMod 5) (0 : Fin 2) → Coins (ZMod 5) (1 : Fin 2), Function.Bijective reopen ∧
      ∀ coins, ∃ proof,
        proveRoleSetMembership toySuite [1, 2] 2 1 3 (toySuite.sha256 []) (toySuite.sha256 []) 1 (tape coins) =
          .ok proof ∧
        proveRoleSetMembership toySuite [1, 2] 2 2 0 (toySuite.sha256 []) (toySuite.sha256 []) 1
          (tape (reopen coins)) = .ok proof := by
  have distinct : [(1 : UInt64), 2].Nodup := by decide
  have asRoleOne : (2 : ZMod 5) = makeRoleCommitment toySuite (encodeRole 1) 3 := by decide
  have asRoleTwo : (2 : ZMod 5) = makeRoleCommitment toySuite (encodeRole 2) 0 := by decide
  exact role_proof_hides_role toySuite (k := 0) (m := 1) distinct asRoleOne asRoleTwo _ _ _

end ZkArche.Client

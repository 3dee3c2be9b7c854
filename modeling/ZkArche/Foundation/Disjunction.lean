import Mathlib.Algebra.BigOperators.Group.Finset.Basic
import Mathlib.Algebra.BigOperators.Fin
import ZkArche.Foundation.Sigma

namespace Foundation.Sigma

variable {F V : Type} [Field F] [AddCommGroup V] [Module F V] {n : Nat}

structure Branch (F V : Type) where
  commitment : V
  challenge : F
  response : F

/-- What the prover of branch `k` draws: the scalar of its own proof, and a challenge and a response
    for each of the others. -/
@[ext] structure Coins (F : Type) (k : Fin n) where
  w : F
  simulated : {i : Fin n // i ≠ k} → F × F

section Prover

variable (base : V) (statements : Fin n → V) (hash : (Fin n → V) → F) (k : Fin n)

def commitment (coins : Coins F k) (i : Fin n) : V :=
  if other : i ≠ k then (coins.simulated ⟨i, other⟩).2 • base - (coins.simulated ⟨i, other⟩).1 • statements i
  else coins.w • base

def chosenChallenge (coins : Coins F k) (i : Fin n) : F :=
  if other : i ≠ k then (coins.simulated ⟨i, other⟩).1 else 0

def ownChallenge (coins : Coins F k) : F :=
  hash (commitment base statements k coins) - ∑ i, chosenChallenge k coins i

/-- The prover with the witness `x` of branch `k`. -/
def proveOr (x : F) (coins : Coins F k) (i : Fin n) : Branch F V where
  commitment := commitment base statements k coins i
  challenge := if i ≠ k then chosenChallenge k coins i else ownChallenge base statements hash k coins
  response :=
    if other : i ≠ k then (coins.simulated ⟨i, other⟩).2
    else coins.w + ownChallenge base statements hash k coins * x

end Prover

structure OrProof (base : V) (statements : Fin n → V) (hash : (Fin n → V) → F) (proof : Fin n → Branch F V) : Prop where
  each : ∀ i, Accepts base (statements i) (proof i).commitment (proof i).challenge (proof i).response
  sum : ∑ i, (proof i).challenge = hash fun i => (proof i).commitment

variable {base : V} {statements : Fin n → V} {hash : (Fin n → V) → F} {k : Fin n} {x : F}

theorem proveOr_own (coins : Coins F k) :
    proveOr base statements hash k x coins k =
      ⟨coins.w • base, ownChallenge base statements hash k coins,
        coins.w + ownChallenge base statements hash k coins * x⟩ := by
  simp [proveOr, commitment]

theorem proveOr_other (coins : Coins F k) {i : Fin n} (other : i ≠ k) :
    proveOr base statements hash k x coins i =
      ⟨(coins.simulated ⟨i, other⟩).2 • base - (coins.simulated ⟨i, other⟩).1 • statements i,
        (coins.simulated ⟨i, other⟩).1, (coins.simulated ⟨i, other⟩).2⟩ := by
  simp [proveOr, commitment, chosenChallenge, other]

theorem sum_split (value : Fin n → F) : ∑ i, value i = value k + ∑ i, if i ≠ k then value i else 0 := by
  rw [← Finset.add_sum_erase Finset.univ value (Finset.mem_univ k)]
  congr 1
  rw [← Finset.add_sum_erase Finset.univ (fun i => if i ≠ k then value i else 0) (Finset.mem_univ k)]
  rw [if_neg (by simp), zero_add]
  apply Finset.sum_congr rfl
  intro i member
  rw [if_pos (Finset.ne_of_mem_erase member)]

theorem proveOr_accepted (witness : statements k = x • base) (coins : Coins F k) :
    OrProof base statements hash (proveOr base statements hash k x coins) := by
  constructor
  · intro i
    by_cases other : i ≠ k
    · rw [proveOr_other coins other]
      exact accepts_simulated _ _ _ _
    · rw [not_not.mp other, proveOr_own, witness]
      exact accepts_honest _ _ _ _
  · rw [sum_split (k := k), proveOr_own]
    have chosen : ∀ i, (if i ≠ k then (proveOr base statements hash k x coins i).challenge else 0) =
        chosenChallenge k coins i := by
      intro i
      by_cases other : i ≠ k
      · rw [if_pos other, proveOr_other coins other, chosenChallenge, dif_pos other]
      · rw [if_neg other, chosenChallenge, dif_neg other]
    simp only [chosen, ownChallenge, sub_add_cancel]
    rfl

/-- The coins with which the prover of branch `k` makes an accepted proof. -/
def coinsOf (k : Fin n) (x : F) (proof : Fin n → Branch F V) : Coins F k where
  w := (proof k).response - (proof k).challenge * x
  simulated := fun i => ((proof i).challenge, (proof i).response)

theorem coinsOf_proveOr (coins : Coins F k) : coinsOf k x (proveOr base statements hash k x coins) = coins := by
  apply Coins.ext
  · rw [coinsOf, proveOr_own]
    simp
  · funext i
    obtain ⟨i, other⟩ := i
    simp only [coinsOf, proveOr_other coins other]

theorem proveOr_coinsOf {proof : Fin n → Branch F V} (accepted : OrProof base statements hash proof)
    (witness : statements k = x • base) : proveOr base statements hash k x (coinsOf k x proof) = proof := by
  have commitments : ∀ i, commitment base statements k (coinsOf k x proof) i = (proof i).commitment := by
    intro i
    have equation := accepted.each i
    by_cases other : i ≠ k
    · rw [commitment, dif_pos other]
      exact sub_eq_of_eq_add equation
    · rw [not_not.mp other] at equation ⊢
      rw [witness, Accepts] at equation
      rw [commitment, dif_neg (by simp), coinsOf, sub_smul, mul_smul]
      exact sub_eq_of_eq_add equation
  have own : ownChallenge base statements hash k (coinsOf k x proof) = (proof k).challenge := by
    have chosen : ∀ i, chosenChallenge k (coinsOf k x proof) i = if i ≠ k then (proof i).challenge else 0 := fun i => rfl
    have total := accepted.sum
    rw [sum_split (k := k)] at total
    rw [ownChallenge, funext commitments, ← total]
    simp only [chosen, add_sub_cancel_right]
  funext i
  by_cases other : i ≠ k
  · rw [proveOr_other _ other]
    have same := commitments i
    rw [commitment, dif_pos other] at same
    rw [same]
    rfl
  · rw [not_not.mp other, proveOr_own, own]
    have same := commitments k
    rw [commitment, dif_neg (by simp)] at same
    rw [same]
    simp only [coinsOf, sub_add_cancel]

variable (statements hash) in
/-- Perfect witness indistinguishability: the coins of one witness correspond one to one to those of
    another so that both provers make the same proof. -/
theorem proveOr_indistinguishable {m : Fin n} {y : F} (left : statements k = x • base)
    (right : statements m = y • base) :
    ∃ reopen : Coins F k → Coins F m, Function.Bijective reopen ∧
      ∀ coins, proveOr base statements hash m y (reopen coins) = proveOr base statements hash k x coins := by
  have same : ∀ coins, proveOr base statements hash m y
      (coinsOf m y (proveOr base statements hash k x coins)) = proveOr base statements hash k x coins :=
    fun coins => proveOr_coinsOf (proveOr_accepted left coins) right
  have back : ∀ coins, proveOr base statements hash k x
      (coinsOf k x (proveOr base statements hash m y coins)) = proveOr base statements hash m y coins :=
    fun coins => proveOr_coinsOf (proveOr_accepted right coins) left
  refine ⟨fun coins => coinsOf m y (proveOr base statements hash k x coins), ?_, same⟩
  rw [Function.bijective_iff_has_inverse]
  refine ⟨fun coins => coinsOf k x (proveOr base statements hash m y coins), ?_, ?_⟩
  · intro coins
    simp only [same, coinsOf_proveOr]
  · intro coins
    simp only [back, coinsOf_proveOr]

end Foundation.Sigma

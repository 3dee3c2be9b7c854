import Mathlib.Algebra.BigOperators.Group.List.Basic
import Mathlib.Algebra.Module.Basic
import Mathlib.Algebra.Field.Basic
import Mathlib.Tactic.Abel
import Mathlib.Tactic.Ring

namespace Foundation.Sigma

variable {F V : Type} [Field F] [AddCommGroup V] [Module F V]

def Accepts (base pub a : V) (c s : F) : Prop := s • base = a + c • pub

theorem accepts_honest (base : V) (x r c : F) : Accepts base (x • base) (r • base) c (r + c * x) := by
  rw [Accepts, add_smul, mul_smul]

theorem accepts_simulated (base pub : V) (c s : F) : Accepts base pub (s • base - c • pub) c s := by
  rw [Accepts, sub_add_cancel]

theorem accepts_iff_combination {base pub a : V} {c s : F} :
    s • base + (-c) • pub + (-1 : F) • a = 0 ↔ Accepts base pub a c s := by
  have moved : s • base + (-c) • pub + (-1 : F) • a = s • base - (a + c • pub) := by
    rw [neg_smul, neg_smul, one_smul]
    abel
  rw [moved, sub_eq_zero, Accepts]

/-- A disjunction: every branch verifies, and the challenges of the branches add up to the
    challenge of the whole. -/
structure OrAccepts (base : V) (statements : List V) (challenge : F) (branches : List (V × F × F)) : Prop where
  each : List.Forall₂ (fun pub branch => Accepts base pub branch.1 branch.2.1 branch.2.2) statements branches
  sum : (branches.map fun branch => branch.2.1).sum = challenge

theorem OrAccepts.length_eq {base : V} {statements : List V} {challenge : F} {branches : List (V × F × F)}
    (accepts : OrAccepts base statements challenge branches) : branches.length = statements.length :=
  accepts.each.length_eq.symm

def extract (c s c' s' : F) : F := (s - s') / (c - c')

theorem Accepts.extract {base pub a : V} {c s c' s' : F} (first : Accepts base pub a c s)
    (second : Accepts base pub a c' s') (different : c ≠ c') : pub = extract c s c' s' • base := by
  have quotient : (s - s') • base = (c - c') • pub := by
    rw [sub_smul, sub_smul, first, second]
    abel
  rw [Sigma.extract, div_eq_inv_mul, mul_smul, quotient, inv_smul_smul₀ (sub_ne_zero.mpr different)]

/-- The first branch that two proofs answer under different challenges, with its witness. -/
def extractBranch [DecidableEq F] : List (V × F × F) → List (V × F × F) → Option (Nat × F)
  | (_, c, s) :: rest, (_, c', s') :: rest' =>
    if c = c' then (extractBranch rest rest').map fun found => (found.1 + 1, found.2)
    else some (0, extract c s c' s')
  | _, _ => none

/-- Two answers to the same commitments whose challenges have different sums differ in the challenge
    of some branch, and this branch gives its witness away. -/
theorem extractBranch_sound [DecidableEq F] {base : V} {statements : List V} {branches branches' : List (V × F × F)}
    (first : List.Forall₂ (fun pub branch => Accepts base pub branch.1 branch.2.1 branch.2.2) statements branches)
    (second : List.Forall₂ (fun pub branch => Accepts base pub branch.1 branch.2.1 branch.2.2) statements branches')
    (commitments : branches.map (·.1) = branches'.map (·.1))
    (different : (branches.map (·.2.1)).sum ≠ (branches'.map (·.2.1)).sum) :
    ∃ i x, extractBranch branches branches' = some (i, x) ∧ statements[i]? = some (x • base) := by
  induction first generalizing branches' with
  | nil =>
    cases second
    exact absurd rfl different
  | cons here rest ih =>
    rename_i pub branch statements branches
    cases second with
    | cons here' rest' =>
      rename_i branch' branches'
      obtain ⟨a, c, s⟩ := branch
      obtain ⟨a', c', s'⟩ := branch'
      simp only [List.map_cons, List.cons.injEq, List.sum_cons] at commitments different
      obtain ⟨rfl, commitments⟩ := commitments
      by_cases same : c = c'
      · subst same
        have later := ih rest' commitments fun sums => different (by rw [sums])
        obtain ⟨i, x, found, statement⟩ := later
        refine ⟨i + 1, x, ?_, statement⟩
        rw [extractBranch, if_pos rfl, found, Option.map_some]
      · refine ⟨0, Sigma.extract c s c' s', ?_, ?_⟩
        · rw [extractBranch, if_neg same]
        · rw [List.getElem?_cons_zero, here.extract here' same]

theorem OrAccepts.extract [DecidableEq F] {base : V} {statements : List V} {challenge challenge' : F}
    {branches branches' : List (V × F × F)} (first : OrAccepts base statements challenge branches)
    (second : OrAccepts base statements challenge' branches')
    (commitments : branches.map (·.1) = branches'.map (·.1)) (different : challenge ≠ challenge') :
    ∃ i x, extractBranch branches branches' = some (i, x) ∧ statements[i]? = some (x • base) := by
  apply extractBranch_sound first.each second.each commitments
  rw [first.sum, second.sum]
  exact different

end Foundation.Sigma

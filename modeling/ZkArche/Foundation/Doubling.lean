import Mathlib.Algebra.Order.Ring.Nat

namespace Foundation

/-- A number of `word` bits is doubled until it reaches `need`: what it ends at, if it does so in
    `fuel` rounds. -/
def doubleUntil (word need : Nat) : (fuel number : Nat) → Option Nat
  | 0, _ => none
  | fuel + 1, number =>
    if number < need then doubleUntil word need fuel (number * 2 % 2 ^ word) else some number

variable {word need fuel exponent number : Nat}

theorem doubleUntil_of_le (reached : need ≤ number) : doubleUntil word need (fuel + 1) number = some number := by
  rw [doubleUntil, if_neg (Nat.not_lt.mpr reached)]

theorem doubleUntil_succ {last : Nat} (ends : doubleUntil word need fuel number = some last) :
    doubleUntil word need (fuel + 1) number = some last := by
  induction fuel generalizing number with
  | zero => cases ends
  | succ fuel ih =>
    rw [doubleUntil] at ends ⊢
    split at ends
    · rename_i short
      rw [if_pos short]
      exact ih ends
    · rename_i reached
      rw [if_neg reached]
      exact ends

theorem doubleUntil_mono {last more : Nat} (ends : doubleUntil word need fuel number = some last) (le : fuel ≤ more) :
    doubleUntil word need more number = some last := by
  induction le with
  | refl => exact ends
  | step _ ih => exact doubleUntil_succ ih

theorem double_pow (room : exponent + 1 < word) : 2 ^ exponent * 2 % 2 ^ word = 2 ^ (exponent + 1) := by
  rw [← Nat.pow_succ, Nat.mod_eq_of_lt (Nat.pow_lt_pow_right (by decide) room)]

theorem doubleUntil_pow (reachable : need ≤ 2 ^ (word - 1)) (below : exponent < word) (enough : word - exponent ≤ fuel) :
    ∃ last, last < word ∧ doubleUntil word need fuel (2 ^ exponent) = some (2 ^ last) ∧ need ≤ 2 ^ last ∧
      (last = exponent ∨ exponent < last ∧ 2 ^ (last - 1) < need) := by
  induction fuel generalizing exponent with
  | zero => omega
  | succ fuel ih =>
    by_cases reached : need ≤ 2 ^ exponent
    · exact ⟨exponent, below, doubleUntil_of_le reached, reached, .inl rfl⟩
    · have short : 2 ^ exponent < need := Nat.not_le.mp reached
      have room : exponent + 1 < word := by
        have lower := (Nat.pow_lt_pow_iff_right (show 1 < 2 by decide)).mp (lt_of_lt_of_le short reachable)
        omega
      obtain ⟨last, inside, ends, reaches, first⟩ := ih room (by omega)
      refine ⟨last, inside, ?_, reaches, ?_⟩
      · rw [doubleUntil, if_pos short, double_pow room, ends]
      · rcases first with same | ⟨later, tight⟩
        · exact .inr ⟨by omega, by rw [same]; exact short⟩
        · exact .inr ⟨by omega, tight⟩

theorem doubleUntil_never (huge : 2 ^ (word - 1) < need) (start : number = 0 ∨ ∃ exponent < word, number = 2 ^ exponent) :
    doubleUntil word need fuel number = none := by
  induction fuel generalizing number with
  | zero => rfl
  | succ fuel ih =>
    rcases start with rfl | ⟨exponent, below, rfl⟩
    · rw [doubleUntil, if_pos (Nat.zero_lt_of_lt huge), Nat.zero_mul, Nat.zero_mod]
      exact ih (.inl rfl)
    · have small : 2 ^ exponent ≤ 2 ^ (word - 1) := Nat.pow_le_pow_right (by decide) (by omega)
      rw [doubleUntil, if_pos (lt_of_le_of_lt small huge)]
      apply ih
      by_cases room : exponent + 1 < word
      · exact .inr ⟨exponent + 1, room, double_pow room⟩
      · left
        rw [← Nat.pow_succ, show exponent.succ = word by omega, Nat.mod_self]

end Foundation

import Mathlib.Data.List.TakeWhile
import ZkArche.Primitives.Environment

namespace ZkArche

def isDigit (byte : UInt8) : Bool := decide (48 ≤ byte.toNat ∧ byte.toNat ≤ 57)

def isSpace (byte : UInt8) : Bool := decide (byte.toNat = 32 ∨ (9 ≤ byte.toNat ∧ byte.toNat ≤ 13))

def decimalValue (digits : List UInt8) : Nat := digits.foldl (fun value digit => 10 * value + (digit.toNat - 48)) 0

def parseDigits (digits : List UInt8) : Option Nat :=
  if digits ≠ [] ∧ digits.all isDigit ∧ decimalValue digits < 2 ^ 64 then some (decimalValue digits) else none

def parseU64 (source : List UInt8) : Option Nat :=
  if source.head? = some 43 then parseDigits source.tail else parseDigits source

/-- `strtoull(.., NULL, 10)`: whitespace, a sign and as many digits as there are. The value saturates, and a minus
    sign negates it modulo `2 ^ 64`. -/
def strtoull (source : List UInt8) : Nat :=
  let trimmed := source.dropWhile isSpace
  let digits := if trimmed.head? = some 43 ∨ trimmed.head? = some 45 then trimmed.tail else trimmed
  let value := decimalValue (digits.takeWhile isDigit)
  if 2 ^ 64 ≤ value then 2 ^ 64 - 1
  else if trimmed.head? = some 45 then (2 ^ 64 - value) % 2 ^ 64
  else value

theorem parseDigits_some {digits : List UInt8} {number : Nat} : parseDigits digits = some number ↔
    (digits ≠ [] ∧ digits.all isDigit ∧ decimalValue digits < 2 ^ 64) ∧ decimalValue digits = number := by
  rw [parseDigits, Option.ite_none_right_eq_some, Option.some.injEq]

theorem takeWhile_digits {digits : List UInt8} (all : digits.all isDigit = true) : digits.takeWhile isDigit = digits :=
  List.takeWhile_eq_self_iff.mpr (List.all_eq_true.mp all)

theorem strtoull_unsigned {source : List UInt8} {number : Nat} (visible : ∀ byte ∈ source.head?, isSpace byte = false)
    (plain : source.head? ≠ some 43 ∧ source.head? ≠ some 45) (parsed : parseDigits source = some number) :
    strtoull source = number := by
  obtain ⟨⟨_, all, fits⟩, rfl⟩ := parseDigits_some.mp parsed
  have trimmed : source.dropWhile isSpace = source := by
    cases source with
    | nil => rfl
    | cons first rest => exact List.dropWhile_cons_of_neg (by simp [visible first rfl])
  have unsigned : ¬ (source.head? = some 43 ∨ source.head? = some 45) := by
    rintro (sign | sign)
    · exact plain.1 sign
    · exact plain.2 sign
  simp only [strtoull, trimmed, if_neg unsigned, takeWhile_digits all, if_neg (Nat.not_le_of_lt fits), if_neg plain.2]

theorem strtoull_plus {digits : List UInt8} {number : Nat} (parsed : parseDigits digits = some number) :
    strtoull (43 :: digits) = number := by
  obtain ⟨⟨_, all, fits⟩, rfl⟩ := parseDigits_some.mp parsed
  have trimmed : (43 :: digits).dropWhile isSpace = 43 :: digits := rfl
  have unsigned : ¬ some (43 : UInt8) = some 45 := by decide
  simp only [strtoull, trimmed, List.head?_cons, true_or, if_true, List.tail_cons, takeWhile_digits all,
    if_neg (Nat.not_le_of_lt fits), if_neg unsigned]

theorem strtoull_of_parseU64 {source : List UInt8} {number : Nat} (parsed : parseU64 source = some number) :
    strtoull source = number := by
  unfold parseU64 at parsed
  split at parsed
  case isTrue plus =>
    cases source with
    | nil => cases plus
    | cons first rest =>
      cases plus
      exact strtoull_plus parsed
  case isFalse plain =>
    have digit : ∀ byte ∈ source.head?, isDigit byte = true := by
      intro byte first
      exact List.all_eq_true.mp (parseDigits_some.mp parsed).1.2.1 byte (List.mem_of_mem_head? first)
    refine strtoull_unsigned ?_ ⟨plain, ?_⟩ parsed
    · intro byte first
      have range := of_decide_eq_true (digit byte first)
      exact decide_eq_false (by omega)
    · intro minus
      exact absurd (digit 45 minus) (by decide)

end ZkArche

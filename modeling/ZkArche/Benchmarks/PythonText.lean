import Mathlib.Data.List.TakeWhile
import Mathlib.Data.Rat.Defs
import Mathlib.Tactic.Ring
import Mathlib.Tactic.FieldSimp
import ZkArche.Foundation.Lines

namespace ZkArche.Python

open Foundation

/-- The code points of the zeros; the other nine digits of each script stand behind its zero. -/
def zeros : List Nat :=
  [0x30, 0x660, 0x6f0, 0x7c0, 0x966, 0x9e6, 0xa66, 0xae6, 0xb66, 0xbe6, 0xc66, 0xce6, 0xd66, 0xde6, 0xe50, 0xed0, 0xf20,
   0x1040, 0x1090, 0x17e0, 0x1810, 0x1946, 0x19d0, 0x1a80, 0x1a90, 0x1b50, 0x1bb0, 0x1c40, 0x1c50, 0xa620, 0xa8d0, 0xa900,
   0xa9d0, 0xa9f0, 0xaa50, 0xabf0, 0xff10, 0x104a0, 0x10d30, 0x11066, 0x110f0, 0x11136, 0x111d0, 0x112f0, 0x11450, 0x114d0,
   0x11650, 0x116c0, 0x11730, 0x118e0, 0x11950, 0x11c50, 0x11d50, 0x11da0, 0x16a60, 0x16ac0, 0x16b50, 0x1d7ce, 0x1d7d8,
   0x1d7e2, 0x1d7ec, 0x1d7f6, 0x1e140, 0x1e2f0, 0x1e950, 0x1fbf0]

def digit (char : Char) : Option Nat :=
  (zeros.find? fun base => decide (base ≤ char.toNat ∧ char.toNat < base + 10)).map fun base => char.toNat - base

def isDecimal (char : Char) : Bool := (digit char).isSome

def isSpace (char : Char) : Bool :=
  decide ((9 ≤ char.toNat ∧ char.toNat ≤ 13) ∨ (0x1c ≤ char.toNat ∧ char.toNat ≤ 0x20) ∨
    (0x2000 ≤ char.toNat ∧ char.toNat ≤ 0x200a) ∨
    char.toNat ∈ [0x85, 0xa0, 0x1680, 0x2028, 0x2029, 0x202f, 0x205f, 0x3000])

/-- The characters at which `splitlines` splits. -/
def isLineEnd (char : Char) : Bool :=
  decide ((10 ≤ char.toNat ∧ char.toNat ≤ 13) ∨ (0x1c ≤ char.toNat ∧ char.toNat ≤ 0x1e) ∨
    char.toNat ∈ [0x85, 0x2028, 0x2029])

def splitlines (text : List Char) : List (List Char) := splitLines isLineEnd text

def strip (drops : Char → Bool) (text : List Char) : List Char :=
  ((text.dropWhile drops).reverse.dropWhile drops).reverse

/-- `word in text`. -/
def occursIn (word : List Char) : List Char → Bool
  | [] => word.isEmpty
  | char :: text => word.isPrefixOf (char :: text) || occursIn word text

inductive ValueError where
  | invalidLiteral
  | tooManyDigits
  deriving DecidableEq

def digitsValue (digits : List Char) : Nat := digits.foldl (fun value char => 10 * value + (digit char).getD 0) 0

def maxStrDigits : Nat := 4300

/-- `int(text)`: digits with single underscores between them, behind an optional sign. -/
def int (text : List Char) : Except ValueError Int :=
  let body := strip isSpace text
  let signed := body.head? = some '-' ∨ body.head? = some '+'
  let unsigned := if signed then body.tail else body
  let digits := unsigned.filter (· ≠ '_')
  if (unsigned.splitOn '_').all fun part => !part.isEmpty && part.all isDecimal then
    if digits.length > maxStrDigits then .error .tooManyDigits
    else .ok (if body.head? = some '-' then -digitsValue digits else digitsValue digits)
  else .error .invalidLiteral

def decimalValue (text : List Char) : Except ValueError ℚ :=
  let whole := text.takeWhile (· ≠ '.')
  let fraction := (text.dropWhile (· ≠ '.')).tail
  if (whole ++ fraction).all isDecimal && !(whole ++ fraction).isEmpty then
    .ok (digitsValue (whole ++ fraction) / 10 ^ fraction.length)
  else .error .invalidLiteral

structure Floats (F : Type) where
  nearest : ℚ → F
  add : F → F → F
  mul : F → F → F
  div : F → F → F
  round4 : F → F

def Floats.float {F : Type} (floats : Floats F) (text : List Char) : Except ValueError F := do
  let value ← decimalValue text
  pure (floats.nearest value)

variable {char : Char} {digits rest : List Char} {number : Nat}

theorem toNat_bounds (ascii : char.isDigit = true) : 48 ≤ char.toNat ∧ char.toNat ≤ 57 := by
  simpa [Char.isDigit, UInt32.le_iff_toNat_le] using ascii

theorem digit_ascii (ascii : char.isDigit = true) : digit char = some (char.toNat - 48) := by
  have bounds := toNat_bounds ascii
  have range : 48 ≤ char.toNat ∧ char.toNat < 48 + 10 := by omega
  have first : zeros.find? (fun base => decide (base ≤ char.toNat ∧ char.toNat < base + 10)) = some 48 :=
    List.find?_cons_of_pos (p := fun base => decide (base ≤ char.toNat ∧ char.toNat < base + 10)) (decide_eq_true range)
  rw [digit, first]
  rfl

theorem isDecimal_ascii (ascii : char.isDigit = true) : isDecimal char = true := by
  rw [isDecimal, digit_ascii ascii]
  rfl

theorem digitsValue_ascii (ascii : ∀ char ∈ digits, char.isDigit = true) :
    digitsValue digits = Nat.ofDigitChars 10 digits 0 := by
  rw [digitsValue, Nat.ofDigitChars_eq_foldl]
  refine List.foldl_ext _ _ _ fun value char member => ?_
  rw [digit_ascii (ascii char member)]
  rfl

theorem occursIn_append (word rest : List Char) : occursIn word (word ++ rest) = true := by
  have starts : word.isPrefixOf (word ++ rest) = true := List.isPrefixOf_iff_prefix.mpr ⟨rest, rfl⟩
  cases whole : word ++ rest with
  | nil =>
    rw [(List.append_eq_nil_iff.mp whole).1]
    rfl
  | cons char text =>
    rw [whole] at starts
    rw [occursIn, starts, Bool.true_or]

theorem strip_eq_self {drops : Char → Bool} {text : List Char} (kept : ∀ char ∈ text, drops char = false) :
    strip drops text = text := by
  have whole : ∀ text : List Char, (∀ char ∈ text, drops char = false) → text.dropWhile drops = text := by
    intro text kept
    cases text with
    | nil => rfl
    | cons char rest => exact List.dropWhile_cons_of_neg (by simp [kept char List.mem_cons_self])
  rw [strip, whole text kept, whole text.reverse fun char member => kept char (List.mem_reverse.mp member),
    List.reverse_reverse]

theorem ne_of_isDigit (ascii : char.isDigit = true) {other : Char} (outside : other.toNat < 48 ∨ 57 < other.toNat) :
    char ≠ other := by
  have bounds := toNat_bounds ascii
  rintro rfl
  omega

theorem isSpace_digit (ascii : char.isDigit = true) : isSpace char = false := by
  have bounds := toNat_bounds ascii
  refine decide_eq_false ?_
  simp only [List.mem_cons, List.not_mem_nil, or_false]
  omega

theorem isLineEnd_digit (ascii : char.isDigit = true) : isLineEnd char = false := by
  have bounds := toNat_bounds ascii
  refine decide_eq_false ?_
  simp only [List.mem_cons, List.not_mem_nil, or_false]
  omega

theorem int_ascii (ascii : ∀ char ∈ digits, char.isDigit = true) (nonempty : digits ≠ [])
    (short : digits.length ≤ maxStrDigits) : int digits = .ok (digitsValue digits) := by
  have body : strip isSpace digits = digits := strip_eq_self fun char member => isSpace_digit (ascii char member)
  have head : ∀ sign ∈ digits.head?, sign ≠ '-' ∧ sign ≠ '+' := fun sign first =>
    have member := List.mem_of_mem_head? first
    ⟨ne_of_isDigit (ascii sign member) (by decide), ne_of_isDigit (ascii sign member) (by decide)⟩
  have minus : digits.head? ≠ some '-' := fun sign => (head '-' sign).1 rfl
  have plus : digits.head? ≠ some '+' := fun sign => (head '+' sign).2 rfl
  have plain : ∀ char ∈ digits, (char == '_') = false := fun char member =>
    beq_eq_false_iff_ne.mpr (ne_of_isDigit (ascii char member) (by decide))
  have parts : digits.splitOn '_' = [digits] := List.splitOn_eq_singleton_of_beq_eq_false plain
  have kept : digits.filter (fun char => decide (char ≠ '_')) = digits :=
    List.filter_eq_self.mpr fun char member => decide_eq_true (beq_eq_false_iff_ne.mp (plain char member))
  have decimals : digits.all isDecimal = true := List.all_eq_true.mpr fun char member => isDecimal_ascii (ascii char member)
  have filled : digits.isEmpty = false := by rwa [List.isEmpty_eq_false_iff]
  simp only [int, body, minus, plus, or_self, if_false, parts, kept, List.all_cons, List.all_nil, filled, decimals,
    Bool.not_false, Bool.and_self, if_true, Nat.not_lt.mpr short]

def Unbroken (text : List Char) : Prop := ∀ char ∈ text, isLineEnd char = false

theorem Unbroken.append {front back : List Char} (first : Unbroken front) (second : Unbroken back) :
    Unbroken (front ++ back) := by
  intro char member
  rcases List.mem_append.mp member with member | member
  · exact first char member
  · exact second char member

theorem splitlines_feed {line : List Char} (unbroken : Unbroken line) (rest : List Char) :
    splitlines (line ++ '\n' :: rest) = line :: splitlines rest := by
  have one : splitlines (line ++ ['\n']) = (line ++ []) :: [] := splitLines_plain_append unbroken rfl rfl
  rw [List.append_nil] at one
  rw [splitlines, splitLines_feed_append rfl, ← splitlines, one]
  rfl

/-- `{}` of an unsigned integer. -/
def decimal (number : Nat) : List Char := Nat.toDigits 10 number

theorem isDigit_decimal : ∀ char ∈ decimal number, char.isDigit = true := fun _ member =>
  Nat.isDigit_of_mem_toDigits (by decide) (by decide) member

theorem decimal_ne_nil : decimal number ≠ [] := Nat.toDigits_ne_nil

theorem isDecimal_decimal : ∀ char ∈ decimal number, isDecimal char = true := fun char member =>
  isDecimal_ascii (isDigit_decimal char member)

theorem unbroken_decimal (number : Nat) : Unbroken (decimal number) := fun char member =>
  isLineEnd_digit (isDigit_decimal char member)

theorem digitsValue_decimal : digitsValue (decimal number) = number := by
  rw [digitsValue_ascii isDigit_decimal, decimal, Nat.ofDigitChars_toDigits (by decide) (by decide)]

theorem length_decimal (bound : number < 2 ^ 64) : (decimal number).length ≤ 20 := by
  refine (Nat.length_toDigits_le_iff (by decide) (by decide)).mpr ?_
  omega

theorem int_decimal (bound : number < 2 ^ 64) : int (decimal number) = .ok number := by
  have short : (decimal number).length ≤ maxStrDigits := Nat.le_trans (length_decimal bound) (by decide)
  rw [int_ascii isDigit_decimal decimal_ne_nil short, digitsValue_decimal]

end ZkArche.Python

import ZkArche.Benchmarks.PythonText

namespace ZkArche.Benchmarks

open Foundation Python

structure Duration where
  secs : UInt64
  nanos : Fin 1000000000

/-- What `Debug` prints of a duration: an integer, a fraction of so many places and a unit. -/
structure Figures where
  integer : Nat
  part : Nat
  places : Nat
  unit : String

def Duration.figures (duration : Duration) : Figures :=
  if 0 < duration.secs.toNat then ⟨duration.secs.toNat, duration.nanos.val, 9, "s"⟩
  else if 1000000 ≤ duration.nanos.val then ⟨duration.nanos.val / 1000000, duration.nanos.val % 1000000, 6, "ms"⟩
  else if 1000 ≤ duration.nanos.val then ⟨duration.nanos.val / 1000, duration.nanos.val % 1000, 3, "µs"⟩
  else ⟨duration.nanos.val, 0, 1, "ns"⟩

def fraction : Nat → Nat → List Char
  | 0, _ => []
  | places + 1, part =>
    if part = 0 then [] else Nat.digitChar (part / 10 ^ places) :: fraction places (part % 10 ^ places)

def fmtDecimal (integer part places : Nat) : List Char :=
  decimal integer ++ if fraction places part = [] then [] else '.' :: fraction places part

def Duration.number (duration : Duration) : List Char :=
  fmtDecimal duration.figures.integer duration.figures.part duration.figures.places

def Duration.unit (duration : Duration) : List Char := duration.figures.unit.toList

def Duration.debug (duration : Duration) : List Char := duration.number ++ duration.unit

def Duration.amount (duration : Duration) : ℚ :=
  duration.figures.integer + duration.figures.part / 10 ^ duration.figures.places

def Duration.millis (duration : Duration) : ℚ := duration.secs.toNat * 1000 + duration.nanos.val / 1000000

def unitMillis (unit : List Char) : ℚ :=
  if unit = "ns".toList then 1 / 1000000
  else if unit = "µs".toList ∨ unit = "us".toList then 1 / 1000
  else if unit = "ms".toList then 1
  else 1000

variable {places part integer : Nat} {duration : Duration} {char : Char}

theorem isDigit_digitChar {digit : Nat} (small : digit < 10) : (Nat.digitChar digit).isDigit = true := by
  decide +revert

theorem isDigit_fraction (small : part < 10 ^ places) : ∀ char ∈ fraction places part, char.isDigit = true := by
  induction places generalizing part with
  | zero => exact fun _ member => absurd member List.not_mem_nil
  | succ places ih =>
    rw [fraction]
    split
    case isTrue => exact fun _ member => absurd member List.not_mem_nil
    case isFalse =>
      have leading : part / 10 ^ places < 10 := Nat.div_lt_of_lt_mul (by rwa [← Nat.pow_succ])
      intro char member
      rcases List.mem_cons.mp member with rfl | member
      · exact isDigit_digitChar leading
      · exact ih (Nat.mod_lt _ (Nat.pow_pos (by decide))) char member

theorem digitsValue_cons {digits : List Char} {digit : Nat} (small : digit < 10) (ascii : ∀ char ∈ digits, char.isDigit = true) :
    digitsValue (Nat.digitChar digit :: digits) = 10 ^ digits.length * digit + digitsValue digits := by
  have all : ∀ char ∈ Nat.digitChar digit :: digits, char.isDigit = true := by
    intro char member
    rcases List.mem_cons.mp member with rfl | member
    · exact isDigit_digitChar small
    · exact ascii char member
  rw [digitsValue_ascii all, digitsValue_ascii ascii, Nat.ofDigitChars_cons_digitChar_of_lt_ten small,
    Nat.ofDigitChars_eq_ofDigitChars_zero, Nat.mul_zero, Nat.zero_add]

theorem fraction_value (small : part < 10 ^ places) :
    (digitsValue (fraction places part) : ℚ) / 10 ^ (fraction places part).length = part / 10 ^ places := by
  induction places generalizing part with
  | zero =>
    obtain rfl : part = 0 := by omega
    rfl
  | succ places ih =>
    rw [fraction]
    split
    case isTrue zero =>
      rw [zero]
      simp [digitsValue]
    case isFalse =>
      have leading : part / 10 ^ places < 10 := Nat.div_lt_of_lt_mul (by rwa [← Nat.pow_succ])
      have rest : part % 10 ^ places < 10 ^ places := Nat.mod_lt _ (Nat.pow_pos (by decide))
      have split : (part : ℚ) = 10 ^ places * (part / 10 ^ places : Nat) + (part % 10 ^ places : Nat) := by
        exact_mod_cast (Nat.div_add_mod part (10 ^ places)).symm
      have base : (10 : ℚ) ≠ 0 := by norm_num
      calc (digitsValue (Nat.digitChar (part / 10 ^ places) :: fraction places (part % 10 ^ places)) : ℚ) /
            10 ^ ((fraction places (part % 10 ^ places)).length + 1)
          = ((part / 10 ^ places : Nat) + (digitsValue (fraction places (part % 10 ^ places)) : ℚ) /
              10 ^ (fraction places (part % 10 ^ places)).length) / 10 := by
            rw [digitsValue_cons leading (isDigit_fraction rest)]
            push_cast
            field_simp
            ring
        _ = ((part / 10 ^ places : Nat) + ((part % 10 ^ places : Nat) : ℚ) / 10 ^ places) / 10 := by rw [ih rest]
        _ = part / 10 ^ (places + 1) := by
            conv_rhs => rw [split]
            field_simp
            ring

theorem digitsValue_append {front back : List Char} (ascii : ∀ char ∈ front ++ back, char.isDigit = true) :
    digitsValue (front ++ back) = 10 ^ back.length * digitsValue front + digitsValue back := by
  have front' : ∀ char ∈ front, char.isDigit = true := fun char member => ascii char (List.mem_append_left _ member)
  have back' : ∀ char ∈ back, char.isDigit = true := fun char member => ascii char (List.mem_append_right _ member)
  rw [digitsValue_ascii ascii, digitsValue_ascii front', digitsValue_ascii back', Nat.ofDigitChars_append,
    Nat.ofDigitChars_eq_ofDigitChars_zero]

theorem decimalValue_fmtDecimal (small : part < 10 ^ places) :
    decimalValue (fmtDecimal integer part places) = .ok (integer + part / 10 ^ places) := by
  have ascii : ∀ char ∈ decimal integer ++ fraction places part, char.isDigit = true := by
    intro char member
    rcases List.mem_append.mp member with member | member
    · exact isDigit_decimal char member
    · exact isDigit_fraction small char member
  have pointless : ∀ char ∈ decimal integer, decide (char ≠ '.') = true := fun char member =>
    decide_eq_true (ne_of_isDigit (isDigit_decimal char member) (by decide))
  have whole : (fmtDecimal integer part places).takeWhile (fun char => decide (char ≠ '.')) = decimal integer := by
    rw [fmtDecimal, List.takeWhile_append_of_pos pointless]
    split <;> simp
  have behind : ((fmtDecimal integer part places).dropWhile (fun char => decide (char ≠ '.'))).tail =
      fraction places part := by
    rw [fmtDecimal, List.dropWhile_append_of_pos pointless]
    split
    case isTrue empty => rw [empty]; rfl
    case isFalse => simp
  have decimals : (decimal integer ++ fraction places part).all isDecimal = true :=
    List.all_eq_true.mpr fun char member => isDecimal_ascii (ascii char member)
  have filled : (decimal integer ++ fraction places part).isEmpty = false := by
    rw [List.isEmpty_eq_false_iff]
    exact List.append_ne_nil_of_left_ne_nil decimal_ne_nil _
  have value : (digitsValue (decimal integer ++ fraction places part) : ℚ) / 10 ^ (fraction places part).length =
      integer + part / 10 ^ places := by
    rw [digitsValue_append ascii, digitsValue_decimal, ← fraction_value small]
    push_cast
    field_simp
  simp only [decimalValue, whole, behind, decimals, filled, Bool.not_false, Bool.and_self, if_true, value]

theorem Duration.part_lt (duration : Duration) : duration.figures.part < 10 ^ duration.figures.places := by
  have bound := duration.nanos.isLt
  unfold Duration.figures
  split
  case isTrue => exact bound
  case isFalse =>
    split
    case isTrue => exact Nat.mod_lt _ (by decide)
    case isFalse =>
      split
      case isTrue => exact Nat.mod_lt _ (by decide)
      case isFalse => exact Nat.pow_pos (by decide)

theorem Duration.number_char (duration : Duration) : ∀ char ∈ duration.number, char.isDigit = true ∨ char = '.' := by
  intro char member
  rcases List.mem_append.mp member with member | member
  · exact .inl (isDigit_decimal char member)
  · split at member
    case isTrue => cases member
    case isFalse =>
      rcases List.mem_cons.mp member with rfl | member
      · exact .inr rfl
      · exact .inl (isDigit_fraction duration.part_lt char member)

theorem Duration.unit_cases (duration : Duration) : duration.unit = "s".toList ∨ duration.unit = "ms".toList ∨
    duration.unit = "µs".toList ∨ duration.unit = "ns".toList := by
  unfold Duration.unit Duration.figures
  split
  case isTrue => exact .inl rfl
  case isFalse =>
    split
    case isTrue => exact .inr (.inl rfl)
    case isFalse =>
      split
      case isTrue => exact .inr (.inr (.inl rfl))
      case isFalse => exact .inr (.inr (.inr rfl))

theorem Duration.unit_char (duration : Duration) : ∀ char ∈ duration.unit, char ∈ ['s', 'm', 'µ', 'n'] := by
  rcases duration.unit_cases with unit | unit | unit | unit
  all_goals
    rw [unit]
    exact every (by decide)

theorem Duration.debug_char (duration : Duration) :
    ∀ char ∈ duration.debug, char.isDigit = true ∨ char ∈ ['.', 's', 'm', 'µ', 'n'] := by
  intro char member
  rcases List.mem_append.mp member with member | member
  · rcases duration.number_char char member with ascii | rfl
    · exact .inl ascii
    · exact .inr List.mem_cons_self
  · exact .inr (List.mem_cons_of_mem _ (duration.unit_char char member))

theorem Duration.debug_ne (duration : Duration) {other : Char} (outside : other.toNat < 48 ∨ 57 < other.toNat)
    (letter : other ∉ ['.', 's', 'm', 'µ', 'n']) : other ∉ duration.debug := by
  intro member
  rcases duration.debug_char other member with ascii | member
  · exact ne_of_isDigit ascii outside rfl
  · exact letter member

theorem unbroken_debug (duration : Duration) : Unbroken duration.debug := by
  have others : ∀ char ∈ ['.', 's', 'm', 'µ', 'n'], isLineEnd char = false := every (by decide)
  intro char member
  rcases duration.debug_char char member with ascii | member
  · exact isLineEnd_digit ascii
  · exact others char member

theorem Duration.millis_eq (duration : Duration) :
    duration.amount * unitMillis duration.unit = duration.millis := by
  have whole := Nat.div_add_mod
  unfold Duration.amount Duration.millis Duration.unit Duration.figures
  split
  case isTrue =>
    rw [show unitMillis "s".toList = 1000 from rfl]
    push_cast
    ring
  case isFalse short =>
    have zero : duration.secs.toNat = 0 := by omega
    rw [zero]
    split
    case isTrue =>
      have split : (duration.nanos.val : ℚ) = 1000000 * (duration.nanos.val / 1000000 : Nat) +
          (duration.nanos.val % 1000000 : Nat) := by exact_mod_cast (whole duration.nanos.val 1000000).symm
      rw [show unitMillis "ms".toList = 1 from rfl]
      conv_rhs => rw [split]
      push_cast
      ring
    case isFalse =>
      split
      case isTrue =>
        have split : (duration.nanos.val : ℚ) = 1000 * (duration.nanos.val / 1000 : Nat) +
            (duration.nanos.val % 1000 : Nat) := by exact_mod_cast (whole duration.nanos.val 1000).symm
        rw [show unitMillis "µs".toList = 1 / 1000 from rfl]
        conv_rhs => rw [split]
        push_cast
        ring
      case isFalse =>
        rw [show unitMillis "ns".toList = 1 / 1000000 from rfl]
        push_cast
        ring

end ZkArche.Benchmarks

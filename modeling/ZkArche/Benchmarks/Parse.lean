import ZkArche.Benchmarks.Printed
import ZkArche.Foundation.Pattern

namespace ZkArche.Benchmarks

open Foundation Foundation.Pattern Python

def spaces : Pattern := .many 0 isSpace

def exactly (text : String) : Pattern := .text text.toList

/-- `(?P<name>\d+)`. -/
def digitsNamed (name : String) : Pattern := .group name (.many 1 isDecimal)

/-- `\d+(?:\.\d+)?`. -/
def numberRe : Pattern :=
  chain [.many 1 isDecimal, .either (chain [exactly ".", .many 1 isDecimal]) (exactly "")]

def unitRe : Pattern :=
  .either (exactly "ns") (.either (exactly "µs") (.either (exactly "us") (.either (exactly "ms") (exactly "s"))))

def metricsRe : Pattern :=
  chain [.group "role" (.either (exactly "CLIENT") (exactly "SERVER")), .many 1 isSpace, exactly "METRICS", spaces,
    exactly "->", .either (chain [spaces, .few 0 (· ≠ ',')]) (exactly ""), spaces, exactly "Duration:", spaces,
    .group "dur" numberRe, .group "unit" unitRe, spaces, exactly ",", spaces, exactly "Sent:", spaces,
    digitsNamed "sent", spaces, exactly "bytes", spaces, exactly ",", spaces, exactly "Received:", spaces,
    digitsNamed "recv", spaces, exactly "bytes"]

structure MetricsLine (F : Type) where
  role : List Char
  durationMs : F
  sentBytes : Int
  recvBytes : Int

variable {F : Type}

def parseLine (floats : Floats F) (line : List Char) : Except ValueError (Option (MetricsLine F)) :=
  match metricsRe.search line with
  | none => .ok none
  | some m => do
    let dur ← floats.float (m.group "dur")
    let durationMs := floats.mul dur (floats.nearest (unitMillis (m.group "unit")))
    let sentBytes ← int (m.group "sent")
    let recvBytes ← int (m.group "recv")
    pure (some { role := m.group "role", durationMs, sentBytes, recvBytes })

def firstClient (floats : Floats F) : List (List Char) → Except ValueError (Option (MetricsLine F))
  | [] => .ok none
  | ln :: lines => do
    let m ← parseLine floats ln
    if m.any fun found => found.role = "CLIENT".toList then pure m else firstClient floats lines

def firstClientMetrics (floats : Floats F) (text : List Char) : Except ValueError (Option (MetricsLine F)) :=
  firstClient floats (splitlines text)

section Figures

variable {number unit rest : List Char} {sent recv : Nat} {duration : Duration} {part places integer : Nat}

theorem takes_blank {least : Nat} (enough : least ≤ 1) (stop : ∀ char ∈ rest.head?, isSpace char = false) :
    Takes (.many least isSpace) (' ' :: rest) [] rest := by
  have blank : ∀ char ∈ [' '], isSpace char = true := every (by decide)
  exact takes_many blank stop enough

theorem takes_spaces_one (stop : ∀ char ∈ rest.head?, isSpace char = false) : Takes spaces (' ' :: rest) [] rest :=
  takes_blank (Nat.zero_le 1) stop

theorem exactly_fails {text : String} {input : List Char} (char : Char) (starts : text.toList.head? = some char)
    (other : input.head? ≠ some char) : (exactly text).ways input = [] := by
  cases spelled : text.toList with
  | nil =>
    rw [spelled] at starts
    cases starts
  | cons first chars =>
    rw [spelled] at starts
    cases starts
    rw [exactly, spelled]
    exact text_fails other

theorem spaces_fail {patterns : List Pattern} (stop : ∀ char ∈ rest.head?, isSpace char = false)
    (left : (chain patterns).ways (' ' :: rest) = []) (taken : (chain patterns).ways rest = []) :
    (chain (spaces :: patterns)).ways (' ' :: rest) = [] := by
  have inner : longest isSpace 0 rest = [stay rest] := by
    cases rest with
    | nil => rfl
    | cons next rest =>
      rw [longest, if_neg (by rw [stop next rfl]; exact Bool.false_ne_true)]
      rfl
  have both : longest isSpace 0 (' ' :: rest) = [(stay rest).push ' ', stay (' ' :: rest)] := by
    rw [longest, if_pos (by decide), inner]
    rfl
  have front : ((stay rest).push ' ').rest = rest := rfl
  have none : (stay (' ' :: rest)).rest = ' ' :: rest := rfl
  rw [chain, ways, spaces, ways, both, List.flatMap_cons, List.flatMap_singleton, front, none, left, taken]
  rfl

theorem takes_number (small : part < 10 ^ places) (stop : ∀ char ∈ rest.head?, isDecimal char = false ∧ char ≠ '.') :
    Takes numberRe (fmtDecimal integer part places ++ rest) [] rest := by
  have filled : 1 ≤ (decimal integer).length := List.length_pos_iff.mpr decimal_ne_nil
  have ended : ∀ char ∈ rest.head?, isDecimal char = false := fun char first => (stop char first).1
  rw [fmtDecimal]
  split
  case isTrue =>
    have pointless : rest.head? ≠ some '.' := fun first => (stop '.' first).2 rfl
    rw [List.append_nil]
    refine Takes.skip (takes_many isDecimal_decimal ended filled) ?_
    refine Takes.skip (Takes.right (chain_fails (text_fails pointless)) (takes_text [] rest)) ?_
    exact takes_chain_nil rest
  case isFalse nonempty =>
    have digits : ∀ char ∈ fraction places part, isDecimal char = true := fun char member =>
      isDecimal_ascii (isDigit_fraction small char member)
    have point : ∀ char ∈ ('.' :: (fraction places part ++ rest)).head?, isDecimal char = false := stops (by decide)
    have behind : Takes (chain [exactly ".", .many 1 isDecimal]) ('.' :: (fraction places part ++ rest)) [] rest :=
      Takes.skip (takes_text ".".toList _)
        (Takes.skip (takes_many digits ended (List.length_pos_iff.mpr nonempty)) (takes_chain_nil rest))
    rw [List.append_assoc, List.cons_append]
    exact Takes.skip (takes_many isDecimal_decimal point filled) (Takes.skip behind.left (takes_chain_nil rest))

theorem takes_unit (duration : Duration) (rest : List Char) : Takes unitRe (duration.unit ++ rest) [] rest := by
  rcases duration.unit_cases with unit | unit | unit | unit
  all_goals
    rw [unit]
    exact ⟨_, rfl⟩

theorem unit_head (duration : Duration) (rest : List Char) :
    ∀ char ∈ (duration.unit ++ rest).head?, isDecimal char = false ∧ char ≠ '.' := by
  rcases duration.unit_cases with unit | unit | unit | unit
  all_goals
    rw [unit]
    intro char first
    cases first
    decide +kernel

def metricsText (duration sent recv : List Char) : List Char :=
  "Duration: ".toList ++ duration ++ ", Sent: ".toList ++ sent ++ " bytes, Received: ".toList ++ recv ++ " bytes".toList

def figuresText (duration : Duration) (sent recv : UInt64) : List Char :=
  metricsText duration.debug (decimal sent.toNat) (decimal recv.toNat)

theorem metricsText_append (number unit sent recv rest : List Char) :
    metricsText (number ++ unit) sent recv ++ rest = "Duration:".toList ++ (' ' :: (number ++ (unit ++ (",".toList ++
      (' ' :: ("Sent:".toList ++ (' ' :: (sent ++ (' ' :: ("bytes".toList ++ (",".toList ++ (' ' :: ("Received:".toList ++
        (' ' :: (recv ++ (' ' :: ("bytes".toList ++ rest))))))))))))))))) := by
  have first : "Duration: ".toList = "Duration:".toList ++ [' '] := rfl
  have second : ", Sent: ".toList = ",".toList ++ (' ' :: ("Sent:".toList ++ [' '])) := rfl
  have third : " bytes, Received: ".toList =
      ' ' :: ("bytes".toList ++ (",".toList ++ (' ' :: ("Received:".toList ++ [' '])))) := rfl
  have last : " bytes".toList = ' ' :: "bytes".toList := rfl
  unfold metricsText
  rw [first, second, third, last]
  simp only [List.append_assoc, List.cons_append, List.nil_append]

theorem unbroken_figures (elapsed : Duration) (sent recv : UInt64) : Unbroken (figuresText elapsed sent recv) := by
  have first : Unbroken "Duration: ".toList := every (by decide)
  have second : Unbroken ", Sent: ".toList := every (by decide)
  have third : Unbroken " bytes, Received: ".toList := every (by decide)
  have last : Unbroken " bytes".toList := every (by decide)
  exact ((((((first.append (unbroken_debug elapsed)).append second).append (unbroken_decimal _)).append third).append
    (unbroken_decimal _)).append last)

def figureGroups (duration : Duration) (sent recv : UInt64) : List (String × List Char) :=
  [("dur", duration.number), ("unit", duration.unit), ("sent", decimal sent.toNat), ("recv", decimal recv.toNat)]

def figuresRe : List Pattern :=
  [spaces, exactly "Duration:", spaces, .group "dur" numberRe, .group "unit" unitRe, spaces, exactly ",", spaces,
    exactly "Sent:", spaces, digitsNamed "sent", spaces, exactly "bytes", spaces, exactly ",", spaces,
    exactly "Received:", spaces, digitsNamed "recv", spaces, exactly "bytes"]

theorem takes_digits {name : String} (stop : ∀ char ∈ rest.head?, isDecimal char = false) (number : Nat) :
    Takes (digitsNamed name) (decimal number ++ rest) [(name, decimal number)] rest :=
  Takes.group (takes_many isDecimal_decimal stop (List.length_pos_iff.mpr decimal_ne_nil))

theorem isSpace_number_head (duration : Duration) (rest : List Char) :
    ∀ char ∈ (duration.number ++ rest).head?, isSpace char = false := by
  intro char first
  have member : char ∈ decimal duration.figures.integer := by
    have nonempty : decimal duration.figures.integer ≠ [] := decimal_ne_nil
    obtain ⟨head, tail, split⟩ := List.exists_cons_of_ne_nil nonempty
    rw [Duration.number, fmtDecimal, split] at first
    cases first
    rw [split]
    exact List.mem_cons_self
  exact isSpace_digit (isDigit_decimal char member)

theorem isSpace_decimal_head (number : Nat) (rest : List Char) :
    ∀ char ∈ (decimal number ++ rest).head?, isSpace char = false := by
  intro char first
  have member : char ∈ decimal number := by
    have nonempty : decimal number ≠ [] := decimal_ne_nil
    obtain ⟨head, tail, split⟩ := List.exists_cons_of_ne_nil nonempty
    rw [split] at first
    cases first
    rw [split]
    exact List.mem_cons_self
  exact isSpace_digit (isDigit_decimal char member)

theorem takes_figures (duration : Duration) (sent recv : UInt64) (rest : List Char) :
    Takes (chain figuresRe) (figuresText duration sent recv ++ rest) (figureGroups duration sent recv) rest := by
  unfold figuresText Duration.debug
  rw [metricsText_append]
  refine Takes.skip (takes_none (stops (by decide))) ?_
  refine Takes.skip (takes_text _ _) ?_
  refine Takes.skip (takes_spaces_one (isSpace_number_head duration _)) ?_
  refine Takes.capture (Takes.group (takes_number duration.part_lt (unit_head duration _))) ?_
  refine Takes.capture (Takes.group (takes_unit duration _)) ?_
  refine Takes.skip (takes_none (stops (by decide))) ?_
  refine Takes.skip (takes_text _ _) ?_
  refine Takes.skip (takes_spaces_one (stops (by decide))) ?_
  refine Takes.skip (takes_text _ _) ?_
  refine Takes.skip (takes_spaces_one (isSpace_decimal_head _ _)) ?_
  refine Takes.capture (takes_digits (stops (by decide)) _) ?_
  refine Takes.skip (takes_spaces_one (stops (by decide))) ?_
  refine Takes.skip (takes_text _ _) ?_
  refine Takes.skip (takes_none (stops (by decide))) ?_
  refine Takes.skip (takes_text _ _) ?_
  refine Takes.skip (takes_spaces_one (stops (by decide))) ?_
  refine Takes.skip (takes_text _ _) ?_
  refine Takes.skip (takes_spaces_one (isSpace_decimal_head _ _)) ?_
  refine Takes.capture (takes_digits (stops (by decide)) _) ?_
  refine Takes.skip (takes_spaces_one (stops (by decide))) ?_
  refine Takes.skip (takes_text _ _) ?_
  exact takes_chain_nil rest

end Figures

section Search

variable {chars : List Char}

def roleless (chars : List Char) : Bool := clear ["CLIENT".toList, "SERVER".toList] chars

theorem search_roleless (none : roleless chars = true) (rest : List Char) :
    metricsRe.search (chars ++ rest) = metricsRe.search rest := by
  refine search_clear (fun input fails => ?_) none rest
  have role : (Pattern.group "role" (.either (exactly "CLIENT") (exactly "SERVER"))).ways input = [] := by
    rw [ways, ways, exactly, exactly, ways, ways, fails _ List.mem_cons_self,
      fails _ (List.mem_cons_of_mem _ List.mem_cons_self)]
    rfl
  exact chain_fails role

theorem roleless_of_lower (lower : ∀ char ∈ chars, char ≠ 'C' ∧ char ≠ 'S') : roleless chars = true := by
  refine clear_of_heads fun word member => ?_
  simp only [List.mem_cons, List.not_mem_nil, or_false] at member
  rcases member with rfl | rfl
  · exact ⟨'C', rfl, fun member => (lower 'C' member).1 rfl⟩
  · exact ⟨'S', rfl, fun member => (lower 'S' member).2 rfl⟩

theorem roleless_decimal (number : Nat) : roleless (decimal number) = true :=
  roleless_of_lower fun char member =>
    ⟨ne_of_isDigit (isDigit_decimal char member) (by decide), ne_of_isDigit (isDigit_decimal char member) (by decide)⟩

theorem roleless_debug (duration : Duration) : roleless duration.debug = true :=
  roleless_of_lower fun _ member =>
    ⟨fun same => duration.debug_ne (by decide) (by decide) (same ▸ member),
      fun same => duration.debug_ne (by decide) (by decide) (same ▸ member)⟩

end Search

end ZkArche.Benchmarks

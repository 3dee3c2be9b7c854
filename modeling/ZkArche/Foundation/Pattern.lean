import Mathlib.Data.List.Basic

namespace Foundation

/-- A regular expression with named groups. `many` and `few` repeat one character class, as often as they can and as
    seldom as they can. -/
inductive Pattern where
  | text (chars : List Char)
  | many (least : Nat) (allowed : Char → Bool)
  | few (least : Nat) (allowed : Char → Bool)
  | sequence (first second : Pattern)
  | either (first second : Pattern)
  | group (name : String) (inner : Pattern)

namespace Pattern

/-- One way to match at the start of an input: what is matched, the captured groups, and the input behind it. -/
structure Way where
  eaten : List Char
  groups : List (String × List Char)
  rest : List Char
  deriving DecidableEq

def Way.group (way : Way) (name : String) : List Char := (way.groups.lookup name).getD []

def Way.push (way : Way) (char : Char) : Way := { way with eaten := char :: way.eaten }

def Way.capture (way : Way) (name : String) : Way := { way with groups := (name, way.eaten) :: way.groups }

def Way.before (way last : Way) : Way := ⟨way.eaten ++ last.eaten, way.groups ++ last.groups, last.rest⟩

def stay (input : List Char) : Way := ⟨[], [], input⟩

def spell : List Char → List Char → List Way
  | [], input => [stay input]
  | _ :: _, [] => []
  | char :: chars, next :: input => if char = next then (spell chars input).map (Way.push · char) else []

def longest (allowed : Char → Bool) : Nat → List Char → List Way
  | least, [] => if least = 0 then [stay []] else []
  | least, next :: input =>
    (if allowed next then (longest allowed (least - 1) input).map (Way.push · next) else []) ++
      if least = 0 then [stay (next :: input)] else []

def shortest (allowed : Char → Bool) : Nat → List Char → List Way
  | least, [] => if least = 0 then [stay []] else []
  | least, next :: input =>
    (if least = 0 then [stay (next :: input)] else []) ++
      if allowed next then (shortest allowed (least - 1) input).map (Way.push · next) else []

/-- The ways to match at the start of the input, in the order in which backtracking tries them. -/
def ways : Pattern → List Char → List Way
  | text chars, input => spell chars input
  | many least allowed, input => longest allowed least input
  | few least allowed, input => shortest allowed least input
  | sequence first second, input => (first.ways input).flatMap fun way => (second.ways way.rest).map way.before
  | either first second, input => first.ways input ++ second.ways input
  | group name inner, input => (inner.ways input).map (Way.capture · name)

def chain : List Pattern → Pattern
  | [] => text []
  | pattern :: patterns => sequence pattern (chain patterns)

def matchAt (pattern : Pattern) (input : List Char) : Option Way := (pattern.ways input).head?

def search (pattern : Pattern) : List Char → Option Way
  | [] => pattern.matchAt []
  | next :: input => (pattern.matchAt (next :: input)).or (pattern.search input)

variable {pattern first second : Pattern} {patterns : List Pattern} {input chars rest remaining : List Char}
  {way last : Way} {allowed : Char → Bool} {least : Nat} {name : String} {groups : List (String × List Char)}

section Eaten

theorem spell_eaten (member : way ∈ spell chars input) : way = ⟨chars, [], way.rest⟩ ∧ input = chars ++ way.rest := by
  induction chars generalizing input way with
  | nil =>
    obtain rfl := List.mem_singleton.mp member
    exact ⟨rfl, rfl⟩
  | cons char chars ih =>
    cases input with
    | nil => cases member
    | cons next input =>
      rw [spell] at member
      split at member
      case isTrue same =>
        obtain ⟨tail, found, rfl⟩ := List.mem_map.mp member
        obtain ⟨shape, split⟩ := ih found
        rw [shape, same, split]
        exact ⟨rfl, rfl⟩
      case isFalse => cases member

def Peels (allowed : Char → Bool) (input : List Char) (way : Way) : Prop :=
  way.groups = [] ∧ input = way.eaten ++ way.rest ∧ ∀ char ∈ way.eaten, allowed char = true

theorem peels_stay (input : List Char) : Peels allowed input (stay input) :=
  ⟨rfl, rfl, fun _ member => absurd member List.not_mem_nil⟩

theorem Peels.push {char : Char} (peels : Peels allowed input way) (fits : allowed char = true) :
    Peels allowed (char :: input) (way.push char) := by
  obtain ⟨groups, split, all⟩ := peels
  refine ⟨groups, congrArg (char :: ·) split, ?_⟩
  intro other member
  rcases List.mem_cons.mp member with rfl | member
  · exact fits
  · exact all other member

theorem peels_of_mem_longest (member : way ∈ longest allowed least input) : Peels allowed input way := by
  induction input generalizing least way with
  | nil =>
    rw [longest] at member
    split at member
    case isTrue =>
      obtain rfl := List.mem_singleton.mp member
      exact peels_stay []
    case isFalse => cases member
  | cons next input ih =>
    rw [longest] at member
    rcases List.mem_append.mp member with member | member
    · split at member
      case isTrue fits =>
        obtain ⟨tail, found, rfl⟩ := List.mem_map.mp member
        exact (ih found).push fits
      case isFalse => cases member
    · split at member
      case isTrue =>
        obtain rfl := List.mem_singleton.mp member
        exact peels_stay _
      case isFalse => cases member

theorem peels_of_mem_shortest (member : way ∈ shortest allowed least input) : Peels allowed input way := by
  induction input generalizing least way with
  | nil =>
    rw [shortest] at member
    split at member
    case isTrue =>
      obtain rfl := List.mem_singleton.mp member
      exact peels_stay []
    case isFalse => cases member
  | cons next input ih =>
    rw [shortest] at member
    rcases List.mem_append.mp member with member | member
    · split at member
      case isTrue =>
        obtain rfl := List.mem_singleton.mp member
        exact peels_stay _
      case isFalse => cases member
    · split at member
      case isTrue fits =>
        obtain ⟨tail, found, rfl⟩ := List.mem_map.mp member
        exact (ih found).push fits
      case isFalse => cases member

theorem eaten_append_rest (member : way ∈ pattern.ways input) : input = way.eaten ++ way.rest := by
  induction pattern generalizing input way with
  | text chars =>
    obtain ⟨shape, split⟩ := spell_eaten member
    rw [shape, split]
  | many least allowed => exact (peels_of_mem_longest member).2.1
  | few least allowed => exact (peels_of_mem_shortest member).2.1
  | sequence first second firstIh secondIh =>
    obtain ⟨front, found, member⟩ := List.mem_flatMap.mp member
    obtain ⟨back, behind, rfl⟩ := List.mem_map.mp member
    rw [firstIh found, secondIh behind, Way.before, List.append_assoc]
  | either first second firstIh secondIh =>
    rcases List.mem_append.mp member with member | member
    · exact firstIh member
    · exact secondIh member
  | group name inner ih =>
    obtain ⟨way, found, rfl⟩ := List.mem_map.mp member
    have split := ih found
    exact split

end Eaten

section Takes

def Takes (pattern : Pattern) (input : List Char) (groups : List (String × List Char)) (rest : List Char) : Prop :=
  ∃ eaten, pattern.matchAt input = some ⟨eaten, groups, rest⟩

theorem Takes.eaten (takes : Takes pattern (chars ++ rest) groups rest) :
    pattern.matchAt (chars ++ rest) = some ⟨chars, groups, rest⟩ := by
  obtain ⟨eaten, found⟩ := takes
  have split : chars ++ rest = eaten ++ rest := eaten_append_rest (List.mem_of_mem_head? found)
  rw [found, List.append_cancel_right split]

theorem spell_append (chars rest : List Char) : spell chars (chars ++ rest) = [⟨chars, [], rest⟩] := by
  induction chars with
  | nil => rfl
  | cons char chars ih =>
    rw [List.cons_append, spell, if_pos rfl, ih]
    rfl

theorem takes_text (chars rest : List Char) : Takes (text chars) (chars ++ rest) [] rest :=
  ⟨chars, by rw [matchAt, ways, spell_append]; rfl⟩

theorem longest_append (all : ∀ char ∈ chars, allowed char = true) (stop : ∀ char ∈ rest.head?, allowed char = false)
    (enough : least ≤ chars.length) : (longest allowed least (chars ++ rest)).head? = some ⟨chars, [], rest⟩ := by
  induction chars generalizing least with
  | nil =>
    obtain rfl : least = 0 := Nat.le_zero.mp enough
    cases rest with
    | nil => rfl
    | cons next rest => simp [longest, stop next rfl, stay]
  | cons char chars ih =>
    have others := ih (fun other member => all other (List.mem_cons_of_mem _ member))
      (Nat.sub_le_of_le_add enough : least - 1 ≤ chars.length)
    rw [List.cons_append, longest, if_pos (all char List.mem_cons_self), List.head?_append, List.head?_map, others]
    rfl

theorem takes_many (all : ∀ char ∈ chars, allowed char = true) (stop : ∀ char ∈ rest.head?, allowed char = false)
    (enough : least ≤ chars.length) : Takes (many least allowed) (chars ++ rest) [] rest :=
  ⟨chars, longest_append all stop enough⟩

theorem takes_none (stop : ∀ char ∈ rest.head?, allowed char = false) : Takes (many 0 allowed) rest [] rest :=
  takes_many (fun _ member => absurd member List.not_mem_nil) stop (Nat.zero_le _)

theorem takes_few (input : List Char) : Takes (few 0 allowed) input [] input :=
  ⟨[], by cases input <;> rfl⟩

theorem head?_shortest {γ : Type} {next : Way → List γ} {image : γ} (all : ∀ char ∈ chars, allowed char = true)
    (early : ∀ front back, chars = front ++ back → back ≠ [] → next ⟨front, [], back ++ rest⟩ = [])
    (found : (next ⟨chars, [], rest⟩).head? = some image) :
    ((shortest allowed 0 (chars ++ rest)).flatMap next).head? = some image := by
  induction chars generalizing next with
  | nil =>
    have whole : next (stay rest) = next ⟨[], [], rest⟩ := rfl
    cases rest <;> rw [List.nil_append, shortest] <;> simp [whole, found]
  | cons char chars ih =>
    have here : next (stay (char :: chars ++ rest)) = [] := early [] (char :: chars) rfl (List.cons_ne_nil _ _)
    have later : ((shortest allowed 0 (chars ++ rest)).flatMap fun way => next (way.push char)).head? = some image := by
      refine ih (fun other member => all other (List.mem_cons_of_mem _ member)) (fun front back split nonempty => ?_) found
      exact early (char :: front) back (by rw [split, List.cons_append]) nonempty
    rw [List.cons_append] at here ⊢
    rw [shortest, if_pos rfl, if_pos (all char List.mem_cons_self), Nat.zero_sub, List.flatMap_append,
      List.flatMap_singleton, here, List.nil_append, List.flatMap_map]
    exact later

theorem head?_flatMap {α γ : Type} {items : List α} {item : α} {image : γ} {next : α → List γ}
    (front : items.head? = some item) (found : (next item).head? = some image) :
    (items.flatMap next).head? = some image := by
  cases items with
  | nil => cases front
  | cons other items =>
    cases front
    rw [List.flatMap_cons, List.head?_append, found, Option.some_or]

theorem Takes.sequence {more : List (String × List Char)} (front : Takes first input groups rest)
    (back : Takes second rest more remaining) : Takes (first.sequence second) input (groups ++ more) remaining := by
  obtain ⟨eaten, front⟩ := front
  obtain ⟨last, back⟩ := back
  refine ⟨eaten ++ last, head?_flatMap front ?_⟩
  rw [List.head?_map, show (second.ways rest).head? = some _ from back]
  rfl

theorem Takes.skip (front : Takes pattern input [] rest) (back : Takes (chain patterns) rest groups remaining) :
    Takes (chain (pattern :: patterns)) input groups remaining := front.sequence back

theorem Takes.capture (front : Takes pattern input [(name, chars)] rest)
    (back : Takes (chain patterns) rest groups remaining) :
    Takes (chain (pattern :: patterns)) input ((name, chars) :: groups) remaining := front.sequence back

theorem takes_chain_nil (input : List Char) : Takes (chain []) input [] input := takes_text [] input

theorem Takes.left (front : Takes first input groups rest) : Takes (first.either second) input groups rest := by
  obtain ⟨eaten, front⟩ := front
  exact ⟨eaten, by rw [matchAt, ways, List.head?_append, show (first.ways input).head? = some _ from front]; rfl⟩

theorem Takes.right (fails : first.ways input = []) (back : Takes second input groups rest) :
    Takes (first.either second) input groups rest := by
  obtain ⟨eaten, back⟩ := back
  exact ⟨eaten, by rw [matchAt, ways, fails, List.nil_append]; exact back⟩

theorem Takes.group (inner : Takes pattern (chars ++ rest) groups rest) :
    Takes (pattern.group name) (chars ++ rest) ((name, chars) :: groups) rest := by
  refine ⟨chars, ?_⟩
  rw [matchAt, ways, List.head?_map, show (pattern.ways (chars ++ rest)).head? = some _ from inner.eaten]
  rfl

theorem chain_fails (fails : pattern.ways input = []) : (chain (pattern :: patterns)).ways input = [] := by
  rw [chain, ways, fails, List.flatMap_nil]

theorem Takes.lazily (nonempty : chars ≠ []) (all : ∀ char ∈ chars, allowed char = true)
    (early : ∀ front back, chars = front ++ back → back ≠ [] → (chain patterns).ways (back ++ rest) = [])
    (back : Takes (chain patterns) rest groups remaining) :
    Takes (chain (.group name (few 1 allowed) :: patterns)) (chars ++ rest) ((name, chars) :: groups) remaining := by
  obtain ⟨eaten, found⟩ := back
  obtain ⟨char, chars, rfl⟩ := List.exists_cons_of_ne_nil nonempty
  let next : Way → List Way := fun way => ((chain patterns).ways way.rest).map ((way.push char).capture name).before
  have image : (next ⟨chars, [], rest⟩).head? = some ⟨char :: chars ++ eaten, (name, char :: chars) :: groups, remaining⟩ := by
    show (((chain patterns).ways rest).map _).head? = _
    rw [List.head?_map, show ((chain patterns).ways rest).head? = some _ from found]
    rfl
  have first : ((shortest allowed 0 (chars ++ rest)).flatMap next).head? =
      some ⟨char :: chars ++ eaten, (name, char :: chars) :: groups, remaining⟩ := by
    refine head?_shortest (fun other member => all other (List.mem_cons_of_mem _ member)) (fun front back split more => ?_) image
    show ((chain patterns).ways (back ++ rest)).map _ = []
    rw [early (char :: front) back (by rw [split, List.cons_append]) more, List.map_nil]
  refine ⟨char :: chars ++ eaten, ?_⟩
  rw [matchAt, chain, ways, ways, ways, List.cons_append, Pattern.shortest, if_neg (by decide),
    if_pos (all char List.mem_cons_self), List.nil_append, List.flatMap_map, List.flatMap_map]
  exact first

theorem text_fails {char : Char} (other : input.head? ≠ some char) : (text (char :: chars)).ways input = [] := by
  cases input with
  | nil => rfl
  | cons next input =>
    have differ : ¬ char = next := fun same => other (by rw [same]; rfl)
    rw [ways, spell, if_neg differ]

theorem many_fails {char : Char} (blocked : allowed char = false) : (many (least + 1) allowed).ways (char :: input) = [] := by
  rw [ways, longest, if_neg (by rw [blocked]; exact Bool.false_ne_true), if_neg (Nat.succ_ne_zero least)]
  rfl

theorem chain_text_fails (fails : (chain patterns).ways rest = []) :
    (chain (text chars :: patterns)).ways (chars ++ rest) = [] := by
  rw [chain, ways, ways, spell_append, List.flatMap_singleton, fails, List.map_nil]

theorem stops {char : Char} (blocked : allowed char = false) : ∀ next ∈ (char :: rest).head?, allowed next = false := by
  intro next first
  cases first
  exact blocked

end Takes

section Searching

theorem Takes.search (takes : Takes pattern input groups rest) :
    ∃ eaten, pattern.search input = some ⟨eaten, groups, rest⟩ := by
  obtain ⟨eaten, found⟩ := takes
  refine ⟨eaten, ?_⟩
  cases input with
  | nil => exact found
  | cons next input => rw [Pattern.search, found, Option.some_or]

theorem search_cons {next : Char} (fails : pattern.ways (next :: input) = []) :
    pattern.search (next :: input) = pattern.search input := by
  rw [search, matchAt, fails]
  rfl

def differs : List Char → List Char → Bool
  | char :: chars, next :: input => decide (char ≠ next) || differs chars input
  | _, _ => false

theorem spell_of_differs (distinct : differs chars input = true) (rest : List Char) : spell chars (input ++ rest) = [] := by
  induction chars generalizing input with
  | nil => cases distinct
  | cons char chars ih =>
    cases input with
    | nil => cases distinct
    | cons next input =>
      rw [List.cons_append, spell]
      split
      case isTrue same =>
        rw [differs, decide_eq_false (not_not.mpr same), Bool.false_or] at distinct
        rw [ih distinct, List.map_nil]
      case isFalse => rfl

def clear (words : List (List Char)) : List Char → Bool
  | [] => true
  | char :: chars => (words.all fun word => differs word (char :: chars)) && clear words chars

/-- A search passes over characters in which none of the words starts that a match starts with. -/
theorem search_clear {words : List (List Char)}
    (needs : ∀ input, (∀ word ∈ words, spell word input = []) → pattern.ways input = [])
    (none : clear words chars = true) (rest : List Char) : pattern.search (chars ++ rest) = pattern.search rest := by
  induction chars with
  | nil => rfl
  | cons char chars ih =>
    obtain ⟨here, later⟩ := Bool.and_eq_true_iff.mp none
    have fails : pattern.ways (char :: (chars ++ rest)) = [] :=
      needs _ fun word member => spell_of_differs (List.all_eq_true.mp here word member) rest
    rw [List.cons_append, search_cons fails, ih later]

theorem clear_of_heads {words : List (List Char)}
    (other : ∀ word ∈ words, ∃ first, word.head? = some first ∧ first ∉ chars) : clear words chars = true := by
  induction chars with
  | nil => rfl
  | cons char chars ih =>
    refine Bool.and_eq_true_iff.mpr ⟨List.all_eq_true.mpr fun word member => ?_, ih fun word member => ?_⟩
    · obtain ⟨first, head, absent⟩ := other word member
      cases word with
      | nil => cases head
      | cons letter word =>
        cases head
        have differ : first ≠ char := fun same => absent (same ▸ List.mem_cons_self)
        rw [differs, decide_eq_true differ, Bool.true_or]
    · obtain ⟨first, head, absent⟩ := other word member
      exact ⟨first, head, fun member => absent (List.mem_cons_of_mem _ member)⟩

end Searching

section Barriers

def Eats (allowed : Char → Bool) (pattern : Pattern) : Prop :=
  ∀ input, ∀ way ∈ pattern.ways input, ∀ char ∈ way.eaten, allowed char = true

theorem eats_text (all : ∀ char ∈ chars, allowed char = true) : Eats allowed (text chars) := by
  intro input way member
  rw [(spell_eaten member).1]
  exact all

theorem eats_many {inner : Char → Bool} (sub : ∀ char, inner char = true → allowed char = true) (least : Nat) :
    Eats allowed (many least inner) := fun _ _ member char eaten =>
  sub char ((peels_of_mem_longest member).2.2 char eaten)

theorem eats_few {inner : Char → Bool} (sub : ∀ char, inner char = true → allowed char = true) (least : Nat) :
    Eats allowed (few least inner) := fun _ _ member char eaten =>
  sub char ((peels_of_mem_shortest member).2.2 char eaten)

theorem Eats.either (left : Eats allowed first) (right : Eats allowed second) : Eats allowed (first.either second) := by
  intro input way member
  rcases List.mem_append.mp member with member | member
  · exact left input way member
  · exact right input way member

theorem Eats.group (inner : Eats allowed pattern) (name : String) : Eats allowed (pattern.group name) := by
  intro input way member
  obtain ⟨way, found, rfl⟩ := List.mem_map.mp member
  exact inner input way found

theorem eats_chain (all : ∀ pattern ∈ patterns, Eats allowed pattern) : Eats allowed (chain patterns) := by
  induction patterns with
  | nil => exact eats_text fun _ member => absurd member List.not_mem_nil
  | cons pattern patterns ih =>
    intro input way member char eaten
    obtain ⟨front, found, member⟩ := List.mem_flatMap.mp member
    obtain ⟨back, behind, rfl⟩ := List.mem_map.mp member
    rcases List.mem_append.mp eaten with eaten | eaten
    · exact all pattern List.mem_cons_self input front found char eaten
    · exact ih (fun other member => all other (List.mem_cons_of_mem _ member)) front.rest back behind char eaten

theorem mem_chain_append {others : List Pattern} (member : way ∈ (chain (patterns ++ others)).ways input) :
    ∃ front ∈ (chain patterns).ways input, ∃ back, back ∈ (chain others).ways front.rest := by
  induction patterns generalizing input way with
  | nil => exact ⟨stay input, List.mem_singleton.mpr rfl, way, member⟩
  | cons pattern patterns ih =>
    obtain ⟨front, found, member⟩ := List.mem_flatMap.mp member
    obtain ⟨tail, behind, _⟩ := List.mem_map.mp member
    obtain ⟨middle, reached, back, last⟩ := ih behind
    exact ⟨front.before middle, List.mem_flatMap.mpr ⟨front, found, List.mem_map.mpr ⟨middle, reached, rfl⟩⟩, back, last⟩

/-- A pattern fails when the text that it needs does not stand in front of a character that it cannot cross. -/
theorem fails_at_barrier {word : List Char} {others : List Pattern} {barrier : Char} (front : Eats allowed (chain patterns))
    (all : ∀ char ∈ word, allowed char = true) (blocked : allowed barrier = false) (absent : ¬ word <:+: chars)
    (rest : List Char) : (chain (patterns ++ text word :: others)).ways (chars ++ barrier :: rest) = [] := by
  refine List.eq_nil_iff_forall_not_mem.mpr fun way member => ?_
  obtain ⟨before, found, back, behind⟩ := mem_chain_append member
  obtain ⟨spelled, wordFound, _⟩ := List.mem_flatMap.mp behind
  have split : chars ++ barrier :: rest = (before.eaten ++ word) ++ spelled.rest := by
    rw [List.append_assoc, ← (spell_eaten wordFound).2]
    exact eaten_append_rest found
  have uncrossed : ∀ char ∈ before.eaten ++ word, allowed char = true := by
    intro char member
    rcases List.mem_append.mp member with member | member
    · exact front _ before found char member
    · exact all char member
  have inside : ∀ tail, chars = (before.eaten ++ word) ++ tail → False := fun tail whole =>
    absent ⟨before.eaten, tail, whole.symm⟩
  rcases List.append_eq_append_iff.mp split with ⟨tail, whole, cut⟩ | ⟨tail, whole, _⟩
  · cases tail with
    | nil => exact inside [] (by rw [whole, List.append_nil, List.append_nil])
    | cons next tail =>
      cases cut
      have crossed := uncrossed barrier (by rw [whole]; simp)
      rw [blocked] at crossed
      cases crossed
  · exact inside tail whole

end Barriers

end Pattern

end Foundation

import Mathlib.Data.List.Basic

namespace Foundation

theorem every {holds : Char → Prop} [DecidablePred holds] {chars : List Char}
    (checked : (chars.all fun char => decide (holds char)) = true) : ∀ char ∈ chars, holds char := fun char member =>
  of_decide_eq_true (List.all_eq_true.mp checked char member)

def onFirst (char : Char) : List (List Char) → List (List Char)
  | [] => [[char]]
  | line :: lines => (char :: line) :: lines

/-- The lines of a text without their ends. A carriage return in front of a line feed is part of the same end. -/
def splitLines (ends : Char → Bool) : List Char → List (List Char)
  | [] => []
  | char :: rest =>
    if char = '\r' ∧ rest.head? = some '\n' then splitLines ends rest
    else if ends char then [] :: splitLines ends rest
    else onFirst char (splitLines ends rest)

variable {ends : Char → Bool} {char : Char} {line before after junk rest : List Char} {lines pieces : List (List Char)}

theorem length_onFirst : (onFirst char lines).length = max 1 lines.length := by
  cases lines with
  | nil => rfl
  | cons line lines => rw [onFirst, List.length_cons, List.length_cons, Nat.max_eq_right (Nat.le_add_left _ _)]

theorem onFirst_ne_nil : onFirst char lines ≠ [] := by
  cases lines <;> simp [onFirst]

theorem splitLines_ne_nil (nonempty : before ≠ []) : splitLines ends before ≠ [] := by
  induction before with
  | nil => exact absurd rfl nonempty
  | cons char rest ih =>
    rw [splitLines]
    split
    case isTrue pair =>
      refine ih ?_
      intro empty
      rw [empty] at pair
      cases pair.2
    case isFalse =>
      split
      case isTrue => exact List.cons_ne_nil _ _
      case isFalse => exact onFirst_ne_nil

theorem splitLines_plain (plain : ∀ char ∈ line, ends char = false) (returns : ends '\r' = true) (nonempty : line ≠ []) :
    splitLines ends line = [line] := by
  induction line with
  | nil => exact absurd rfl nonempty
  | cons char rest ih =>
    have visible := plain char List.mem_cons_self
    have other : ¬ (char = '\r' ∧ rest.head? = some '\n') := by
      rintro ⟨same, _⟩
      rw [same, returns] at visible
      cases visible
    rw [splitLines, if_neg other, visible]
    cases rest with
    | nil => rfl
    | cons next rest =>
      rw [ih (fun other member => plain other (List.mem_cons_of_mem _ member)) (List.cons_ne_nil _ _)]
      rfl

theorem splitLines_plain_append (plain : ∀ char ∈ line, ends char = false) (returns : ends '\r' = true)
    (first : splitLines ends rest = before :: lines) : splitLines ends (line ++ rest) = (line ++ before) :: lines := by
  induction line with
  | nil => exact first
  | cons char tail ih =>
    have visible := plain char List.mem_cons_self
    have other : ¬ (char = '\r' ∧ (tail ++ rest).head? = some '\n') := by
      rintro ⟨same, _⟩
      rw [same, returns] at visible
      cases visible
    rw [List.cons_append, splitLines, if_neg other, visible, ih fun other member => plain other (List.mem_cons_of_mem _ member)]
    rfl

theorem splitLines_feed_append (feeds : ends '\n' = true) (before rest : List Char) :
    splitLines ends (before ++ '\n' :: rest) = splitLines ends (before ++ ['\n']) ++ splitLines ends rest := by
  induction before with
  | nil => simp [splitLines, feeds]
  | cons char before ih =>
    have heads : (before ++ '\n' :: rest).head? = (before ++ ['\n']).head? := by cases before <;> rfl
    have nonempty : splitLines ends (before ++ ['\n']) ≠ [] := splitLines_ne_nil (by simp)
    rw [List.cons_append, List.cons_append, splitLines, splitLines, heads, ih]
    split
    case isTrue => rfl
    case isFalse =>
      split
      case isTrue => rfl
      case isFalse =>
        obtain ⟨line, lines, split⟩ := List.exists_cons_of_ne_nil nonempty
        rw [split]
        rfl

section Cuts

/-- What is seen of a text that is cut somewhere. The rest of a character that is cut in two does not end a line, and
    more follows behind the cut. -/
structure Glimpse (ends : Char → Bool) (whole seen : List Char) : Prop where
  split : ∃ before after junk, whole = before ++ after ∧ seen = before ++ junk ∧ (∀ char ∈ junk, ends char = false) ∧
    (junk ≠ [] → after ≠ [] ∧ after.head? ≠ some '\n')

structure FirstLines (whole pieces : List (List Char)) : Prop where
  complete : pieces.dropLast <+: whole
  shorter : pieces.length ≤ whole.length

theorem FirstLines.cons (firstLines : FirstLines lines pieces) (line : List Char) :
    FirstLines (line :: lines) (line :: pieces) := by
  refine ⟨?_, Nat.succ_le_succ firstLines.shorter⟩
  cases pieces with
  | nil => exact List.nil_prefix
  | cons piece pieces => exact List.prefix_cons_inj line |>.mpr firstLines.complete

theorem FirstLines.onFirst (firstLines : FirstLines lines pieces) (char : Char) :
    FirstLines (onFirst char lines) (onFirst char pieces) := by
  refine ⟨?_, ?_⟩
  · rcases pieces with _ | ⟨piece, _ | ⟨second, pieces⟩⟩
    · exact List.nil_prefix
    · exact List.nil_prefix
    · cases lines with
      | nil => cases firstLines.shorter
      | cons line lines =>
        obtain ⟨same, rest⟩ := List.cons_prefix_cons.mp firstLines.complete
        exact List.cons_prefix_cons.mpr ⟨by rw [same], rest⟩
  · have shorter := firstLines.shorter
    rw [length_onFirst, length_onFirst]
    omega

theorem firstLines_of_cut (returns : ends '\r' = true) (feeds : ends '\n' = true)
    (plain : ∀ char ∈ junk, ends char = false) (more : junk ≠ [] → after ≠ [] ∧ after.head? ≠ some '\n') :
    FirstLines (splitLines ends (before ++ after)) (splitLines ends (before ++ junk)) := by
  have unfed : junk.head? ≠ some '\n' := by
    intro starts
    rw [plain '\n' (List.mem_of_mem_head? starts)] at feeds
    cases feeds
  induction before with
  | nil =>
    cases junk with
    | nil => exact ⟨List.nil_prefix, Nat.zero_le _⟩
    | cons char junk =>
      rw [List.nil_append, List.nil_append, splitLines_plain plain returns (List.cons_ne_nil _ _)]
      exact ⟨List.nil_prefix, List.length_pos_iff.mpr (splitLines_ne_nil (more (List.cons_ne_nil _ _)).1)⟩
  | cons char before ih =>
    rw [List.cons_append, List.cons_append]
    by_cases pair : char = '\r' ∧ (before ++ after).head? = some '\n'
    · obtain ⟨rfl, follows⟩ := pair
      cases before with
      | nil =>
        -- The cut is between the two characters of one line end.
        have empty : junk = [] := by
          by_contra nonempty
          exact (more nonempty).2 follows
        have single : splitLines ends ('\r' :: ([] ++ [])) = [[]] := by simp [splitLines, returns]
        have nonempty : after ≠ [] := by
          intro nothing
          rw [nothing] at follows
          cases follows
        rw [empty, single, splitLines, if_pos ⟨rfl, follows⟩]
        exact ⟨List.nil_prefix, List.length_pos_iff.mpr (splitLines_ne_nil nonempty)⟩
      | cons next before =>
        have seen : ('\r' : Char) = '\r' ∧ ((next :: before) ++ junk).head? = some '\n' := ⟨rfl, follows⟩
        rw [splitLines, splitLines, if_pos ⟨rfl, follows⟩, if_pos seen]
        exact ih
    · have unpaired : ¬ (char = '\r' ∧ (before ++ junk).head? = some '\n') := by
        rintro ⟨same, follows⟩
        cases before with
        | nil => exact unfed follows
        | cons next before => exact pair ⟨same, follows⟩
      rw [splitLines, splitLines, if_neg pair, if_neg unpaired]
      split
      case isTrue => exact ih.cons []
      case isFalse => exact ih.onFirst char

theorem Glimpse.firstLines {whole seen : List Char} (returns : ends '\r' = true) (feeds : ends '\n' = true)
    (glimpse : Glimpse ends whole seen) : FirstLines (splitLines ends whole) (splitLines ends seen) := by
  obtain ⟨before, after, junk, rfl, rfl, plain, more⟩ := glimpse.split
  exact firstLines_of_cut returns feeds plain more

end Cuts

end Foundation

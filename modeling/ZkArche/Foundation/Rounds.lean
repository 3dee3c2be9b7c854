namespace Foundation

variable {α : Type}

/-- What two parties have written after so many rounds. What a party writes depends on what it has
    read, and in each round both read everything that was written before it. -/
def rounds (left right : List α → List α) : Nat → List α × List α
  | 0 => ([], [])
  | n + 1 => (left (rounds left right n).2, right (rounds left right n).1)

def Settles (left right : List α → List α) (fromLeft fromRight : List α) : Prop :=
  ∃ n, ∀ m, n ≤ m → rounds left right m = (fromLeft, fromRight)

variable {left right : List α → List α} {fromLeft fromRight : List α}

theorem rounds_persist {n : Nat} (reached : rounds left right n = (fromLeft, fromRight))
    (ofLeft : left fromRight = fromLeft) (ofRight : right fromLeft = fromRight) :
    ∀ m, n ≤ m → rounds left right m = (fromLeft, fromRight) := by
  intro m later
  induction later with
  | refl => exact reached
  | step _ ih => rw [rounds, ih, ofLeft, ofRight]

theorem Settles.unique {fromLeft' fromRight' : List α} (settles : Settles left right fromLeft fromRight)
    (settles' : Settles left right fromLeft' fromRight') : fromLeft = fromLeft' ∧ fromRight = fromRight' := by
  obtain ⟨n, reached⟩ := settles
  obtain ⟨n', reached'⟩ := settles'
  have same := (reached (max n n') (Nat.le_max_left n n')).symm.trans (reached' (max n n') (Nat.le_max_right n n'))
  exact Prod.mk.inj same

theorem settles_of_turns {opening answer : List α} (opens : left [] = opening) (listens : right [] = [])
    (answers : right opening = answer) (continues : left answer = fromLeft) (ends : right fromLeft = fromRight)
    (rests : left fromRight = fromLeft) : Settles left right fromLeft fromRight := by
  have first : rounds left right 1 = (opening, []) := by rw [rounds, rounds, opens, listens]
  have second : rounds left right 2 = (opening, answer) := by rw [rounds, first, opens, answers]
  have third : rounds left right 3 = (fromLeft, answer) := by rw [rounds, second, continues, answers]
  have fourth : rounds left right 4 = (fromLeft, fromRight) := by rw [rounds, third, continues, ends]
  exact ⟨4, rounds_persist fourth rests ends⟩

end Foundation

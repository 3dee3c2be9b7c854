import ZkArche.Foundation.Octets

namespace Foundation.Symbolic

/-- The letters of an idealised byte alphabet: atoms, and the bytes of the outputs of functions
    that are known only by their inputs. -/
inductive Letter (α φ : Type) where
  | atom (a : α)
  | call (function : φ) (inputs : List (List (Letter α φ))) (index : Nat)

variable {α φ : Type} {size : Nat}

namespace Letter

def output (function : φ) (inputs : List (List (Letter α φ))) (size : Nat) : Block (Letter α φ) size :=
  ⟨(List.range size).map (.call function inputs), by simp⟩

def atoms (name : Nat → α) (size : Nat) : Block (Letter α φ) size :=
  ⟨(List.range size).map fun i => .atom (name i), by simp⟩

theorem mem_output {function : φ} {inputs : List (List (Letter α φ))} {s : Letter α φ} :
    s ∈ (output function inputs size).bytes ↔ ∃ i < size, s = .call function inputs i := by
  simp [output, eq_comm]

theorem mem_atoms {name : Nat → α} {s : Letter α φ} :
    s ∈ (atoms name size).bytes ↔ ∃ i < size, s = .atom (name i) := by
  simp [atoms, eq_comm]

theorem output_inj {function function' : φ} {inputs inputs' : List (List (Letter α φ))} (positive : 0 < size)
    (same : (output function inputs size) = output function' inputs' size) :
    function = function' ∧ inputs = inputs' := by
  have first : Letter.call function inputs 0 ∈ (output function' inputs' size).bytes := by
    rw [← same]
    exact mem_output.mpr ⟨0, positive, rfl⟩
  obtain ⟨i, _, equal⟩ := mem_output.mp first
  cases equal
  exact ⟨rfl, rfl⟩

theorem atoms_inj {name name' : Nat → α} (positive : 0 < size)
    (same : (atoms name size : Block (Letter α φ) size) = atoms name' size) : ∃ i < size, name 0 = name' i := by
  have first : (Letter.atom (name 0) : Letter α φ) ∈ (atoms name' size).bytes := by
    rw [← same]
    exact mem_atoms.mpr ⟨0, positive, rfl⟩
  obtain ⟨i, bound, equal⟩ := mem_atoms.mp first
  exact ⟨i, bound, Letter.atom.inj equal⟩

end Letter

/-- What can be made of observed letters and free atoms: a letter of an output takes all inputs of
    the function. -/
inductive Derives (observed : Letter α φ → Prop) (free : α → Prop) : Letter α φ → Prop where
  | observed {s : Letter α φ} (seen : observed s) : Derives observed free s
  | atom {a : α} (isFree : free a) : Derives observed free (.atom a)
  | call {function : φ} {inputs : List (List (Letter α φ))} {index : Nat}
      (parts : ∀ input ∈ inputs, ∀ s ∈ input, Derives observed free s) : Derives observed free (.call function inputs index)

namespace Derives

variable {observed observed' : Letter α φ → Prop} {free : α → Prop} {s : Letter α φ}

theorem mono (derives : Derives observed free s) (more : ∀ s, observed s → observed' s) : Derives observed' free s := by
  induction derives with
  | observed seen => exact .observed (more _ seen)
  | atom isFree => exact .atom isFree
  | call _ ih => exact .call ih

theorem input_of_call {function : φ} {inputs : List (List (Letter α φ))} {index : Nat}
    (derives : Derives observed free (.call function inputs index)) (unseen : ¬ observed (.call function inputs index)) :
    ∀ input ∈ inputs, ∀ s ∈ input, Derives observed free s := by
  cases derives with
  | observed seen => exact absurd seen unseen
  | call parts => exact parts

end Derives

/-- The letters that tell a secret: its atoms, and the outputs of silent functions that take such letters. -/
inductive Guarded (secret : α → Prop) (silent : φ → Prop) : Letter α φ → Prop where
  | atom {a : α} (isSecret : secret a) : Guarded secret silent (.atom a)
  | call {function : φ} {inputs : List (List (Letter α φ))} {index : Nat} {input : List (Letter α φ)} {s : Letter α φ}
      (isSilent : silent function) (member : input ∈ inputs) (inside : s ∈ input) (guarded : Guarded secret silent s) :
      Guarded secret silent (.call function inputs index)

namespace Guarded

variable {observed : Letter α φ → Prop} {free secret : α → Prop} {silent : φ → Prop} {s : Letter α φ}

theorem not_derives (guarded : Guarded secret silent s) (unseen : ∀ s, observed s → ¬ Guarded secret silent s)
    (kept : ∀ a, free a → ¬ secret a) : ¬ Derives observed free s := by
  induction guarded with
  | atom isSecret =>
    intro derives
    cases derives with
    | observed seen => exact unseen _ seen (.atom isSecret)
    | atom isFree => exact kept _ isFree isSecret
  | call isSilent member inside guarded ih =>
    intro derives
    cases derives with
    | observed seen => exact unseen _ seen (.call isSilent member inside guarded)
    | call parts => exact ih (parts _ member _ inside)

theorem seen_of_call {function : φ} {inputs : List (List (Letter α φ))} {index : Nat} {input : List (Letter α φ)}
    (guarded : Guarded secret silent s) (member : input ∈ inputs) (inside : s ∈ input)
    (unseen : ∀ s, observed s → ¬ Guarded secret silent s) (kept : ∀ a, free a → ¬ secret a)
    (derives : Derives observed free (.call function inputs index)) : observed (.call function inputs index) := by
  by_contra never
  exact guarded.not_derives unseen kept (derives.input_of_call never input member s inside)

end Guarded

end Foundation.Symbolic

import ZkArche.Foundation.Octets

namespace Foundation.Block

variable {β : Type} {size : Nat} {memory : Block β size} {offset : Nat} {written source rest : List β}

theorem length_overwrite (memory : Block β size) (offset : Nat) (source : List β)
    (fits : offset + source.length ≤ size) :
    (memory.bytes.take offset ++ source ++ memory.bytes.drop (offset + source.length)).length = size := by
  simp only [List.length_append, List.length_take, List.length_drop, bytes_length]
  omega

/-- Writing into a memory of fixed size; a write that would leave it is `none`. -/
def overwrite (memory : Block β size) (offset : Nat) (source : List β) : Option (Block β size) :=
  if fits : offset + source.length ≤ size then
    some ⟨memory.bytes.take offset ++ source ++ memory.bytes.drop (offset + source.length),
      length_overwrite memory offset source fits⟩
  else none

theorem overwrite_next (parts : memory.bytes = written ++ rest) (fits : source.length ≤ rest.length) :
    ∃ after, memory.overwrite written.length source = some after ∧
      after.bytes = (written ++ source) ++ rest.drop source.length := by
  have inside : written.length + source.length ≤ size := by
    have whole := memory.bytes_length
    rw [parts, List.length_append] at whole
    omega
  have before : memory.bytes.take written.length = written := by rw [parts, List.take_left]
  have behind : memory.bytes.drop (written.length + source.length) = rest.drop source.length := by
    rw [parts, ← List.drop_drop, List.drop_left]
  rw [overwrite, dif_pos inside]
  refine ⟨_, rfl, ?_⟩
  show memory.bytes.take written.length ++ source ++ memory.bytes.drop (written.length + source.length) = _
  rw [before, behind]

def fill : Block β size → Nat → List (List β) → Option (Block β size × Nat)
  | memory, offset, [] => some (memory, offset)
  | memory, offset, source :: sources => do
    let memory ← memory.overwrite offset source
    fill memory (offset + source.length) sources

theorem fill_next {sources : List (List β)} (parts : memory.bytes = written ++ rest)
    (fits : sources.flatten.length ≤ rest.length) :
    ∃ after, memory.fill written.length sources = some (after, (written ++ sources.flatten).length) ∧
      after.bytes = (written ++ sources.flatten) ++ rest.drop sources.flatten.length := by
  induction sources generalizing memory written rest with
  | nil => exact ⟨memory, by rw [fill, List.flatten_nil, List.append_nil], by simpa using parts⟩
  | cons source sources ih =>
    rw [List.flatten_cons, List.length_append] at fits
    obtain ⟨next, stored, bytes⟩ := overwrite_next parts (Nat.le_of_add_right_le fits)
    have room : sources.flatten.length ≤ (rest.drop source.length).length := by
      rw [List.length_drop]
      omega
    obtain ⟨after, filled, final⟩ := ih bytes room
    have same : (written ++ source) ++ sources.flatten = written ++ (source :: sources).flatten := by
      rw [List.flatten_cons, List.append_assoc]
    rw [same] at filled final
    refine ⟨after, ?_, ?_⟩
    · rw [fill, stored, Option.bind_eq_bind, Option.bind_some, ← List.length_append, filled]
    · rw [final, List.drop_drop, List.flatten_cons, List.length_append]

theorem fill_start {sources : List (List β)} (memory : Block β size) (fits : sources.flatten.length ≤ size) :
    ∃ after, memory.fill 0 sources = some (after, sources.flatten.length) ∧
      after.bytes = sources.flatten ++ memory.bytes.drop sources.flatten.length :=
  fill_next (List.nil_append memory.bytes).symm (by rw [bytes_length]; exact fits)

end Foundation.Block

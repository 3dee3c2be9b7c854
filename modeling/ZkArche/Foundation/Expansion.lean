import ZkArche.Foundation.Octets

/-! Expansion of a key block by block, over any keyed function with outputs of fixed size. -/

namespace Foundation

variable {size : Nat}

def expansionBlock (hmac : List UInt8 → List UInt8 → Block UInt8 size) (prk info : List UInt8) : Nat → List UInt8
  | 0 => []
  | count + 1 => (hmac prk (expansionBlock hmac prk info count ++ info ++ [UInt8.ofNat (count + 1)])).bytes

def expansionBlocks (hmac : List UInt8 → List UInt8 → Block UInt8 size) (prk info : List UInt8) : Nat → List UInt8
  | 0 => []
  | count + 1 => expansionBlocks hmac prk info count ++ expansionBlock hmac prk info (count + 1)

/-- The first bytes of as many blocks as they need. The counter is one octet, so that there are 255 blocks at most. -/
def expansion (hmac : List UInt8 → List UInt8 → Block UInt8 size) (prk info : List UInt8) (length : Nat) :
    Option (List UInt8) :=
  if length ≤ 255 * size then some ((expansionBlocks hmac prk info ((length + size - 1) / size)).take length) else none

variable {hmac : List UInt8 → List UInt8 → Block UInt8 size} {prk info : List UInt8} {count more length : Nat}

@[simp] theorem length_expansionBlocks : (expansionBlocks hmac prk info count).length = count * size := by
  induction count with
  | zero => simp [expansionBlocks]
  | succ count ih =>
    rw [expansionBlocks, List.length_append, ih, expansionBlock, Block.bytes_length]
    exact (Nat.succ_mul count size).symm

theorem take_expansionBlocks (order : count ≤ more) (enough : length ≤ count * size) :
    (expansionBlocks hmac prk info more).take length = (expansionBlocks hmac prk info count).take length := by
  induction order with
  | refl => rfl
  | @step more order ih =>
    have inside : length ≤ (expansionBlocks hmac prk info more).length := by
      rw [length_expansionBlocks]
      exact enough.trans (Nat.mul_le_mul_right size order)
    rw [expansionBlocks, List.take_append_of_le_length inside, ih]

theorem expansion_eq (positive : 0 < size) (bound : length ≤ 255 * size) (enough : length ≤ count * size) :
    expansion hmac prk info length = some ((expansionBlocks hmac prk info count).take length) := by
  have least : length ≤ (length + size - 1) / size * size := by
    have division := Nat.div_add_mod (length + size - 1) size
    have rest := Nat.mod_lt (length + size - 1) positive
    rw [Nat.mul_comm] at division
    omega
  rw [expansion, if_pos bound]
  rcases Nat.le_total ((length + size - 1) / size) count with order | order
  · rw [take_expansionBlocks order least]
  · rw [take_expansionBlocks order enough]

end Foundation

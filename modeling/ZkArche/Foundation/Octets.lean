import Mathlib.Data.List.Basic
import Mathlib.Tactic.Ring

namespace Foundation

/-- An alphabet for byte strings. A program runs over `UInt8`; an analysis that needs
    collision-free hash functions runs over a larger alphabet that still contains
    every literal byte. -/
class Octet (β : Type) where
  lit : UInt8 → β
  val : β → UInt8
  val_lit : ∀ byte, val (lit byte) = byte

instance : Octet UInt8 := ⟨id, id, fun _ => rfl⟩

section Bytes

variable {β : Type} [Octet β]

@[simp] theorem Octet.val_lit' (byte : UInt8) : Octet.val (Octet.lit byte : β) = byte :=
  Octet.val_lit byte

theorem Octet.lit_injective : Function.Injective (Octet.lit : UInt8 → β) := by
  intro left right equal
  have values := congrArg Octet.val equal
  simpa using values

def lits (bytes : List UInt8) : List β := bytes.map Octet.lit
def vals (bytes : List β) : List UInt8 := bytes.map Octet.val

@[simp] theorem lits_length (bytes : List UInt8) : (lits bytes : List β).length = bytes.length := by
  simp [lits]

@[simp] theorem vals_length (bytes : List β) : (vals bytes).length = bytes.length := by
  simp [vals]

@[simp] theorem vals_lits (bytes : List UInt8) : vals (lits bytes : List β) = bytes := by
  simp [vals, lits, Function.comp_def]

theorem lits_injective : Function.Injective (lits : List UInt8 → List β) :=
  List.map_injective_iff.mpr Octet.lit_injective

@[simp] theorem lits_inj {left right : List UInt8} : (lits left : List β) = lits right ↔ left = right :=
  lits_injective.eq_iff

/-- The bytes of an ASCII literal such as `b"pid"`. -/
def ascii (text : String) : List UInt8 := text.toList.map fun character => UInt8.ofNat character.toNat

/-- The `width` little-endian bytes of `number`; higher bits are dropped, as by `as u32`. -/
def leBytes : Nat → Nat → List UInt8
  | 0, _ => []
  | width + 1, number => UInt8.ofNat (number % 256) :: leBytes width (number / 256)

def leNat : List UInt8 → Nat
  | [] => 0
  | byte :: rest => byte.toNat + 256 * leNat rest

@[simp] theorem leBytes_length (width number : Nat) : (leBytes width number).length = width := by
  induction width generalizing number with
  | zero => rfl
  | succ width ih => simp [leBytes, ih]

theorem leNat_leBytes (width number : Nat) : leNat (leBytes width number) = number % 256 ^ width := by
  induction width generalizing number with
  | zero => simp [leBytes, leNat, Nat.mod_one]
  | succ width ih =>
    have digit : (UInt8.ofNat (number % 256)).toNat = number % 256 := by simp
    simp only [leBytes, leNat, digit, ih]
    rw [Nat.pow_succ', Nat.mod_mul]

theorem leNat_leBytes_of_lt {width number : Nat} (bound : number < 256 ^ width) :
    leNat (leBytes width number) = number := by
  rw [leNat_leBytes, Nat.mod_eq_of_lt bound]

theorem leNat_lt (bytes : List UInt8) : leNat bytes < 256 ^ bytes.length := by
  induction bytes with
  | nil => exact Nat.one_pos
  | cons byte rest ih =>
    have digit := byte.toNat_lt
    rw [leNat, List.length_cons, Nat.pow_succ']
    omega

theorem leNat_replicate_zero (count : Nat) : leNat (List.replicate count 0) = 0 := by
  induction count with
  | zero => rfl
  | succ count ih =>
    rw [List.replicate_succ, leNat, ih]
    rfl

theorem leNat_append_zeros (bytes : List UInt8) (count : Nat) :
    leNat (bytes ++ List.replicate count 0) = leNat bytes := by
  induction bytes with
  | nil => exact leNat_replicate_zero count
  | cons byte bytes ih => rw [List.cons_append, leNat, leNat, ih]

theorem leBytes_inj {width left right : Nat} (leftBound : left < 256 ^ width)
    (rightBound : right < 256 ^ width) (equal : leBytes width left = leBytes width right) :
    left = right := by
  have values := congrArg leNat equal
  rwa [leNat_leBytes_of_lt leftBound, leNat_leBytes_of_lt rightBound] at values

end Bytes

section Blocks

variable {β : Type}

/-- A byte string of a length fixed by its type, such as `[u8; 32]`. -/
structure Block (β : Type) (size : Nat) where
  bytes : List β
  length_bytes : bytes.length = size
  deriving DecidableEq

namespace Block

variable {size left right : Nat}

@[ext] theorem ext {a b : Block β size} (equal : a.bytes = b.bytes) : a = b := by
  cases a
  cases b
  cases equal
  rfl

@[simp] theorem bytes_length (block : Block β size) : block.bytes.length = size := block.length_bytes

theorem bytes_inj {a b : Block β size} : a.bytes = b.bytes ↔ a = b :=
  ⟨ext, fun equal => by rw [equal]⟩

def append (a : Block β left) (b : Block β right) : Block β (left + right) :=
  ⟨a.bytes ++ b.bytes, by simp⟩

@[simp] theorem append_bytes (a : Block β left) (b : Block β right) :
    (a.append b).bytes = a.bytes ++ b.bytes := rfl

def head : Block β (size + 1) → β
  | ⟨letter :: _, _⟩ => letter

/-- The first `left` bytes, such as `out[..16]`. -/
def first (left : Nat) (a : Block β size) (fits : left ≤ size) : Block β left :=
  ⟨a.bytes.take left, by simp [fits]⟩

end Block

theorem block_append_inj {size : Nat} {a b : Block β size} {left right : List β}
    (equal : a.bytes ++ left = b.bytes ++ right) : a = b ∧ left = right := by
  obtain ⟨first, second⟩ := List.append_inj equal (by simp)
  exact ⟨Block.ext first, second⟩

end Blocks

end Foundation

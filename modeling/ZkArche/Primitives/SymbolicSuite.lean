import ZkArche.Foundation.Symbolic
import ZkArche.Primitives.Suite

namespace ZkArche

open Foundation Foundation.Symbolic

variable {S P : Type}

inductive Purpose where
  | serverNonce | clientNonce | setupServerNonce | setupChallenge | setupClientNonce
  deriving DecidableEq

inductive Atom (S P : Type) where
  | byte (value : UInt8)
  | random (purpose : Purpose) (owner index : Nat)
  | scalar (s : S) (index : Nat)
  | point (p : P) (index : Nat)

inductive Primitive where
  | sha256 | sha512 | blake2b256 | blake2b512 | hkdf | hmac
  deriving DecidableEq

abbrev SymByte (S P : Type) := Letter (Atom S P) Primitive

noncomputable instance : DecidableEq (SymByte S P) := Classical.decEq _

instance : Octet (SymByte S P) where
  lit := fun byte => .atom (.byte byte)
  val := fun
    | .atom (.byte byte) => byte
    | _ => 0
  val_lit := fun _ => rfl

def freshBlock (purpose : Purpose) (owner size : Nat) : Block (SymByte S P) size :=
  Letter.atoms (fun i => .random purpose owner i) size

theorem freshBlock_inj {purpose : Purpose} {owner owner' size : Nat} (positive : 0 < size)
    (same : (freshBlock purpose owner size : Block (SymByte S P) size) = freshBlock purpose owner' size) :
    owner = owner' := by
  obtain ⟨i, _, equal⟩ := Letter.atoms_inj positive same
  cases equal
  rfl

def encodePoint (p : P) : Block (SymByte S P) 32 := Letter.atoms (fun i => .point p i) 32
def encodeScalar (s : S) : Block (SymByte S P) 32 := Letter.atoms (fun i => .scalar s i) 32

theorem encodePoint_injective : Function.Injective (encodePoint : P → Block (SymByte S P) 32) := by
  intro p q same
  obtain ⟨i, _, equal⟩ := Letter.atoms_inj (by decide) same
  exact (Atom.point.inj equal).1

theorem encodeScalar_injective : Function.Injective (encodeScalar : S → Block (SymByte S P) 32) := by
  intro s t same
  obtain ⟨i, _, equal⟩ := Letter.atoms_inj (by decide) same
  exact (Atom.scalar.inj equal).1

open Classical in
/-- The value that an injective encoding encodes as these bytes, if there is one. -/
noncomputable def decode {α β : Type} (encode : α → β) (bytes : β) : Option α :=
  if found : ∃ value, encode value = bytes then some found.choose else none

theorem decode_encode {α β : Type} {encode : α → β} (injective : Function.Injective encode) (value : α) :
    decode encode (encode value) = some value := by
  have found : ∃ other, encode other = encode value := ⟨value, rfl⟩
  rw [decode, dif_pos found, injective found.choose_spec]

theorem encode_of_decode {α β : Type} {encode : α → β} {bytes : β} {value : α}
    (decoded : decode encode bytes = some value) : encode value = bytes := by
  unfold decode at decoded
  split at decoded
  case isTrue found =>
    cases decoded
    exact found.choose_spec
  case isFalse => cases decoded

variable [Field S] [AddCommGroup P] [Module S P]

/-- The suite over symbolic bytes: the hash, key-derivation and authentication functions are free
    constructors, and points and scalars are opaque. -/
noncomputable def symbolicSuite (basepoint : P) (basepoint_ne_zero : basepoint ≠ 0)
    (fromBytesModOrderWide : Block (SymByte S P) 64 → S) (fromUniformBytes : Block (SymByte S P) 64 → P) :
    Suite (SymByte S P) S P where
  basepoint
  compress := encodePoint
  decompress := decode encodePoint
  toBytes := encodeScalar
  fromCanonicalBytes := decode encodeScalar
  fromBytesModOrderWide
  fromUniformBytes
  sha256 := fun message => Letter.output .sha256 [message] 32
  sha512 := fun message => Letter.output .sha512 [message] 64
  blake2b256 := fun message => Letter.output .blake2b256 [message] 32
  blake2b512 := fun message => Letter.output .blake2b512 [message] 64
  hkdf := fun salt ikm info => Letter.output .hkdf [salt, ikm, info] 32
  hmac := fun key message => Letter.output .hmac [key, message] 32
  basepoint_ne_zero
  decompress_compress := decode_encode encodePoint_injective
  compress_decompress := fun _ _ => encode_of_decode
  fromCanonicalBytes_toBytes := decode_encode encodeScalar_injective
  toBytes_fromCanonicalBytes := fun _ _ => encode_of_decode

end ZkArche

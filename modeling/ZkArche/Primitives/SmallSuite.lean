import Mathlib.Data.ZMod.Basic
import Mathlib.Algebra.Field.ZMod
import ZkArche.Primitives.Suite

namespace ZkArche

open Foundation

variable {p : Nat}

def encodeResidue (a : ZMod p) : Block UInt8 32 :=
  ⟨UInt8.ofNat a.val :: List.replicate 31 0, rfl⟩

def decodeResidue (b : Block UInt8 32) : Option (ZMod p) :=
  if encodeResidue ((b.head.toNat : Nat) : ZMod p) = b then some ((b.head.toNat : Nat) : ZMod p) else none

theorem decodeResidue_encodeResidue [NeZero p] (bound : p ≤ 256) (a : ZMod p) :
    decodeResidue (encodeResidue a) = some a := by
  have below : a.val < 256 := lt_of_lt_of_le (ZMod.val_lt a) bound
  have value : (((encodeResidue a).head.toNat : Nat) : ZMod p) = a := by
    have digit : (encodeResidue a).head.toNat = a.val := by
      simp only [encodeResidue, Block.head, UInt8.toNat_ofNat']
      omega
    rw [digit, ZMod.natCast_zmod_val]
  rw [decodeResidue, value, if_pos rfl]

theorem encodeResidue_decodeResidue {b : Block UInt8 32} {a : ZMod p} (decoded : decodeResidue b = some a) :
    encodeResidue a = b := by
  unfold decodeResidue at decoded
  split at decoded
  case isTrue same =>
    cases decoded
    exact same
  case isFalse => cases decoded

structure Hashes (p : Nat) where
  fromBytesModOrderWide : Block UInt8 64 → ZMod p
  fromUniformBytes : Block UInt8 64 → ZMod p
  sha256 : List UInt8 → Block UInt8 32
  sha512 : List UInt8 → Block UInt8 64
  blake2b256 : List UInt8 → Block UInt8 32
  blake2b512 : List UInt8 → Block UInt8 64
  hkdf : List UInt8 → List UInt8 → List UInt8 → Block UInt8 32
  hmac : List UInt8 → List UInt8 → Block UInt8 32

/-- Every prime up to 256 gives a suite on real bytes: the residues are both the group, written
    additively, and its scalar field. -/
def smallSuite (p : Nat) [prime : Fact p.Prime] (bound : p ≤ 256) (hashes : Hashes p) :
    Suite UInt8 (ZMod p) (ZMod p) where
  basepoint := 1
  compress := encodeResidue
  decompress := decodeResidue
  toBytes := encodeResidue
  fromCanonicalBytes := decodeResidue
  fromBytesModOrderWide := hashes.fromBytesModOrderWide
  fromUniformBytes := hashes.fromUniformBytes
  sha256 := hashes.sha256
  sha512 := hashes.sha512
  blake2b256 := hashes.blake2b256
  blake2b512 := hashes.blake2b512
  hkdf := hashes.hkdf
  hmac := hashes.hmac
  basepoint_ne_zero := one_ne_zero
  decompress_compress := have := NeZero.of_pos prime.out.pos; decodeResidue_encodeResidue bound
  compress_decompress := fun _ _ => encodeResidue_decodeResidue
  fromCanonicalBytes_toBytes := have := NeZero.of_pos prime.out.pos; decodeResidue_encodeResidue bound
  toBytes_fromCanonicalBytes := fun _ _ => encodeResidue_decodeResidue

/-- Hash functions that forget their input, but for a choice of `sha256`. -/
def constantHashes (p : Nat) (h : ZMod p) (sha256 : List UInt8 → Block UInt8 32) : Hashes p where
  fromBytesModOrderWide := fun _ => 0
  fromUniformBytes := fun _ => h
  sha256
  sha512 := fun _ => ⟨List.replicate 64 0, rfl⟩
  blake2b256 := fun _ => ⟨List.replicate 32 0, rfl⟩
  blake2b512 := fun _ => ⟨List.replicate 64 0, rfl⟩
  hkdf := fun _ _ _ => ⟨List.replicate 32 0, rfl⟩
  hmac := fun _ _ => ⟨List.replicate 32 0, rfl⟩

instance primeFive : Fact (Nat.Prime 5) := ⟨by decide⟩

def toySuite : Suite UInt8 (ZMod 5) (ZMod 5) :=
  smallSuite 5 (by decide) (constantHashes 5 2 fun _ => ⟨List.replicate 32 0, rfl⟩)

/-- A hash that keeps the two bytes which hold the public key in a device handle and in a pid. -/
def samplingHash (message : List UInt8) : Block UInt8 32 :=
  ⟨message.getD 24 0 :: message.getD 19 0 :: List.replicate 30 0, rfl⟩

def samplingSuite : Suite UInt8 (ZMod 5) (ZMod 5) := smallSuite 5 (by decide) (constantHashes 5 2 samplingHash)

/-- Hash functions that also keep the byte with which a root secret starts, and the length of a transcript. -/
def rootedHashes : Hashes 5 where
  fromBytesModOrderWide := fun block => ((block.head.toNat : Nat) : ZMod 5)
  fromUniformBytes := fun _ => 2
  sha256 := samplingHash
  sha512 := fun message => ⟨UInt8.ofNat message.length :: List.replicate 63 0, rfl⟩
  blake2b256 := fun message => ⟨message.getD 9 0 :: List.replicate 31 0, rfl⟩
  blake2b512 := fun message => ⟨message.getD 14 0 :: List.replicate 63 0, rfl⟩
  hkdf := fun _ _ _ => ⟨List.replicate 32 0, rfl⟩
  hmac := fun _ _ => ⟨List.replicate 32 0, rfl⟩

def rootedSuite : Suite UInt8 (ZMod 5) (ZMod 5) := smallSuite 5 (by decide) rootedHashes

end ZkArche

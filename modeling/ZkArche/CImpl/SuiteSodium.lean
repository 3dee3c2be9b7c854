import ZkArche.CImpl.Primitives
import ZkArche.Primitives.SmallSuite

namespace ZkArche

open Foundation CImpl

section AnySuite

variable {S P : Type} [Field S] [AddCommGroup P] [Module S P] [DecidableEq P]

def Suite.untouched : Block UInt8 32 := ⟨List.replicate 32 0, length_scalarZero⟩

def Suite.sodium (G : Suite UInt8 S P) : Sodium where
  isValidPoint p := (G.decompress p).isSome
  add p q := match G.decompress p, G.decompress q with
    | some p, some q => G.compress (p + q)
    | _, _ => Suite.untouched
  sub p q := match G.decompress p, G.decompress q with
    | some p, some q => G.compress (p - q)
    | _, _ => Suite.untouched
  scalarmult n p := (G.decompress p).bind fun p =>
    if (scalarBits n : S) • p = 0 then none else some (G.compress ((scalarBits n : S) • p))
  scalarmultBase n := G.compress ((scalarBits n : S) • G.basepoint)
  scalarReduce h := G.toBytes (G.fromBytesModOrderWide h)
  scalarAdd x y := G.toBytes (((leNat x.bytes + leNat y.bytes) % 2 ^ 256 : Nat) : S)
  scalarSub x y := G.toBytes ((leNat x.bytes : S) - (leNat y.bytes : S))
  scalarMul x y := G.toBytes ((leNat x.bytes : S) * (leNat y.bytes : S))
  fromHash h := G.compress (G.fromUniformBytes h)
  sha256 := G.sha256
  sha512 := G.sha512
  hmacsha256 := G.hmac

/-- It is the library that a suite describes when scalars are written in little-endian order. -/
theorem Suite.sodium_matches {G : Suite UInt8 S P} (littleEndian : ∀ s, (leNat (G.toBytes s).bytes : S) = s)
    (small : ∀ s, leNat (G.toBytes s).bytes < 2 ^ 255) (zero : (G.toBytes 0).bytes = List.replicate 32 0)
    (hkdf : ∀ salt ikm info, G.hkdf salt ikm info = G.hmac (G.hmac salt ikm).bytes (info ++ [1])) :
    G.sodium.Matches G where
  isValidPoint := by
    intro bytes
    rw [Suite.sodium, Option.isSome_iff_exists]
    constructor
    · intro ⟨p, decoded⟩
      exact ⟨p, G.compress_decompress _ _ decoded⟩
    · intro ⟨p, encoded⟩
      exact ⟨p, by rw [← encoded, G.decompress_compress]⟩
  add := by
    intro p q
    simp only [Suite.sodium, G.decompress_compress]
  sub := by
    intro p q
    simp only [Suite.sodium, G.decompress_compress]
  scalarmult_zero := by
    intro n p zero
    simp only [Suite.sodium, G.decompress_compress, Option.bind_some, zero, if_true]
  scalarmult := by
    intro n p nonzero
    simp only [Suite.sodium, G.decompress_compress, Option.bind_some, nonzero, if_false]
  scalarmultBase := fun _ => rfl
  scalarBits_toBytes := by
    intro s
    rw [scalarBits, Nat.mod_eq_of_lt (small s), littleEndian]
  toBytes_zero := zero
  scalarReduce := fun _ => rfl
  scalarAdd := by
    intro x y
    have sum : leNat (G.toBytes x).bytes + leNat (G.toBytes y).bytes < 2 ^ 256 := by
      have left := small x
      have right := small y
      omega
    simp only [Suite.sodium]
    rw [Nat.mod_eq_of_lt sum, Nat.cast_add, littleEndian, littleEndian]
  scalarSub := by
    intro x y
    simp only [Suite.sodium]
    rw [littleEndian, littleEndian]
  scalarMul := by
    intro x y
    simp only [Suite.sodium]
    rw [littleEndian, littleEndian]
  fromHash := fun _ => rfl
  sha256 := fun _ => rfl
  sha512 := fun _ => rfl
  hmacsha256 := fun _ _ => rfl
  hkdf := hkdf

end AnySuite

theorem leNat_encodeResidue {p : Nat} [NeZero p] (bound : p ≤ 256) (a : ZMod p) :
    leNat (encodeResidue a).bytes = a.val := by
  have below := ZMod.val_lt a
  have digit : (UInt8.ofNat a.val).toNat = a.val := by
    rw [UInt8.toNat_ofNat']
    omega
  rw [encodeResidue, leNat, leNat_replicate_zero, digit]
  omega

theorem primeFive_small : 5 ≤ 256 := by decide

theorem length_zeroChallenge : (List.replicate 16 (0 : UInt8)).length = 16 := List.length_replicate

def zeroChallenge : Block UInt8 16 := ⟨List.replicate 16 0, length_zeroChallenge⟩

def oneHashes : Hashes 5 := { constantHashes 5 (1 + 1) fun _ => Suite.untouched with fromBytesModOrderWide := fun _ => 1 }

def oneSuite : Suite UInt8 (ZMod 5) (ZMod 5) := smallSuite 5 primeFive_small oneHashes

theorem smallSuite_matches {hashes : Hashes 5}
    (hkdf : ∀ salt ikm info, hashes.hkdf salt ikm info = hashes.hmac (hashes.hmac salt ikm).bytes (info ++ [1])) :
    (smallSuite 5 primeFive_small hashes).sodium.Matches (smallSuite 5 primeFive_small hashes) := by
  have value : ∀ s : ZMod 5, leNat ((smallSuite 5 primeFive_small hashes).toBytes s).bytes = s.val :=
    leNat_encodeResidue primeFive_small
  apply Suite.sodium_matches
  · intro s
    rw [value, ZMod.natCast_zmod_val]
  · intro s
    rw [value]
    exact (ZMod.val_lt s).trans (by decide)
  · rfl
  · exact hkdf

theorem oneSuite_matches : oneSuite.sodium.Matches oneSuite := smallSuite_matches fun _ _ _ => rfl

end ZkArche

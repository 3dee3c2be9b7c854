import Mathlib.Data.Nat.Cast.Basic
import ZkArche.CImpl.Transcript

namespace ZkArche.CImpl

open Foundation

/-- The functions of libsodium that both C programs call. `none` stands for the return value -1,
    where the callers look at it; `crypto_core_ristretto255_add` and `_sub` and the
    multiplication of the basepoint are called without a check. -/
structure Sodium where
  /-- `crypto_core_ristretto255_is_valid_point(p) == 1`. -/
  isValidPoint (p : Block UInt8 32) : Bool
  add (p q : Block UInt8 32) : Block UInt8 32
  sub (p q : Block UInt8 32) : Block UInt8 32
  scalarmult (n p : Block UInt8 32) : Option (Block UInt8 32)
  scalarmultBase (n : Block UInt8 32) : Block UInt8 32
  scalarReduce (s : Block UInt8 64) : Block UInt8 32
  scalarAdd (x y : Block UInt8 32) : Block UInt8 32
  scalarSub (x y : Block UInt8 32) : Block UInt8 32
  scalarMul (x y : Block UInt8 32) : Block UInt8 32
  fromHash (h : Block UInt8 64) : Block UInt8 32
  sha256 (message : List UInt8) : Block UInt8 32
  sha512 (message : List UInt8) : Block UInt8 64
  hmacsha256 (key message : List UInt8) : Block UInt8 32

def scalarBits (n : Block UInt8 32) : Nat := leNat n.bytes % 2 ^ 255

variable {S P : Type} [Field S] [AddCommGroup P] [Module S P]

/-- Both libraries compute in the same group with the same encodings and hash functions. The
    identity is a valid point, a multiplication fails exactly when its result is the identity and
    takes any 255 bits as the scalar, and arithmetic on scalars is known on canonical ones. -/
structure Sodium.Matches (so : Sodium) (G : Suite UInt8 S P) : Prop where
  isValidPoint : ∀ bytes, so.isValidPoint bytes = true ↔ ∃ p, G.compress p = bytes
  add : ∀ p q, so.add (G.compress p) (G.compress q) = G.compress (p + q)
  sub : ∀ p q, so.sub (G.compress p) (G.compress q) = G.compress (p - q)
  scalarmult_zero : ∀ n p, (scalarBits n : S) • p = 0 → so.scalarmult n (G.compress p) = none
  scalarmult : ∀ n p, (scalarBits n : S) • p ≠ 0 →
    so.scalarmult n (G.compress p) = some (G.compress ((scalarBits n : S) • p))
  scalarmultBase : ∀ n, so.scalarmultBase n = G.compress ((scalarBits n : S) • G.basepoint)
  scalarBits_toBytes : ∀ s, (scalarBits (G.toBytes s) : S) = s
  toBytes_zero : (G.toBytes 0).bytes = List.replicate 32 0
  scalarReduce : ∀ h, so.scalarReduce h = G.toBytes (G.fromBytesModOrderWide h)
  scalarAdd : ∀ x y, so.scalarAdd (G.toBytes x) (G.toBytes y) = G.toBytes (x + y)
  scalarSub : ∀ x y, so.scalarSub (G.toBytes x) (G.toBytes y) = G.toBytes (x - y)
  scalarMul : ∀ x y, so.scalarMul (G.toBytes x) (G.toBytes y) = G.toBytes (x * y)
  fromHash : ∀ h, so.fromHash h = G.compress (G.fromUniformBytes h)
  sha256 : ∀ message, so.sha256 message = G.sha256 message
  sha512 : ∀ message, so.sha512 message = G.sha512 message
  hmacsha256 : ∀ key message, so.hmacsha256 key message = G.hmac key message
  /-- One block of output. -/
  hkdf : ∀ salt ikm info, G.hkdf salt ikm info =
    G.hmac (G.hmac salt ikm).bytes (info ++ [1])

end ZkArche.CImpl

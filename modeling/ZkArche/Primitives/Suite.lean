import Mathlib.Algebra.Module.Basic
import Mathlib.Algebra.Field.Basic
import ZkArche.Primitives.Wire

namespace ZkArche

open Foundation

/-- The third-party primitives: the Ristretto group of `curve25519-dalek` as a vector space
    over its scalar field, with the two canonical 32-byte encodings, and the hash, HKDF and
    HMAC functions as arbitrary functions of their inputs. -/
structure Suite (β S P : Type) [Field S] [AddCommGroup P] [Module S P] where
  basepoint : P
  compress : P → Block β 32
  decompress : Block β 32 → Option P
  toBytes : S → Block β 32
  fromCanonicalBytes : Block β 32 → Option S
  fromBytesModOrderWide : Block β 64 → S
  fromUniformBytes : Block β 64 → P
  sha256 : List β → Block β 32
  sha512 : List β → Block β 64
  blake2b256 : List β → Block β 32
  blake2b512 : List β → Block β 64
  /-- `Hkdf::<Sha256>::new(Some(salt), ikm)` expanded to 32 bytes under `info`. -/
  hkdf (salt ikm info : List β) : Block β 32
  hmac (key message : List β) : Block β 32
  basepoint_ne_zero : basepoint ≠ 0
  decompress_compress : ∀ point, decompress (compress point) = some point
  compress_decompress : ∀ bytes point, decompress bytes = some point → compress point = bytes
  fromCanonicalBytes_toBytes : ∀ scalar, fromCanonicalBytes (toBytes scalar) = some scalar
  toBytes_fromCanonicalBytes :
    ∀ bytes scalar, fromCanonicalBytes bytes = some scalar → toBytes scalar = bytes

variable {β S P : Type} [Field S] [AddCommGroup P] [Module S P]

theorem Suite.compress_injective (G : Suite β S P) : Function.Injective G.compress := by
  intro left right equal
  have points := congrArg G.decompress equal
  simpa only [G.decompress_compress, Option.some.injEq] using points

theorem Suite.toBytes_injective (G : Suite β S P) : Function.Injective G.toBytes := by
  intro left right equal
  have scalars := congrArg G.fromCanonicalBytes equal
  simpa only [G.fromCanonicalBytes_toBytes, Option.some.injEq] using scalars

/-- Rejects the neutral Ristretto point so invalid or low-order inputs are not accepted. -/
def rejectIdentity [DecidableEq P] (p : P) (what : String) : Except Failure Unit :=
  if p = 0 then .error (invalidData (what ++ " is the identity point")) else .ok ()

@[simp] theorem rejectIdentity_ok [DecidableEq P] {p : P} {what : String} {value : Unit} :
    rejectIdentity p what = .ok value ↔ p ≠ 0 := by
  unfold rejectIdentity
  split <;> simp_all

/-- `CompressedRistretto(b).decompress().ok_or_else(..)`. -/
def decompressOr (G : Suite β S P) (message : String) (b : Block β 32) : Except Failure P :=
  match G.decompress b with
  | some p => .ok p
  | none => .error (invalidData message)

/-- `Scalar::from_canonical_bytes(b)` with its error. -/
def canonicalOr (G : Suite β S P) (message : String) (b : Block β 32) : Except Failure S :=
  match G.fromCanonicalBytes b with
  | some s => .ok s
  | none => .error (invalidData message)

@[simp] theorem decompressOr_ok {G : Suite β S P} {message : String} {b : Block β 32} {p : P} :
    decompressOr G message b = .ok p ↔ b = G.compress p := by
  unfold decompressOr
  constructor
  · intro run
    split at run
    · cases run
      exact (G.compress_decompress _ _ ‹_›).symm
    · cases run
  · rintro rfl
    rw [G.decompress_compress]

@[simp] theorem canonicalOr_ok {G : Suite β S P} {message : String} {b : Block β 32} {s : S} :
    canonicalOr G message b = .ok s ↔ b = G.toBytes s := by
  unfold canonicalOr
  constructor
  · intro run
    split at run
    · cases run
      exact (G.toBytes_fromCanonicalBytes _ _ ‹_›).symm
    · cases run
  · rintro rfl
    rw [G.fromCanonicalBytes_toBytes]

theorem malformed_rejectIdentity [DecidableEq P] (p : P) (what : String) :
    FailsOnly Failure.Malformed (rejectIdentity p what) := by
  unfold rejectIdentity
  split
  · exact failsOnly_error (.inl rfl)
  · exact failsOnly_ok ()

theorem malformed_decompressOr (G : Suite β S P) (message : String) (b : Block β 32) :
    FailsOnly Failure.Malformed (decompressOr G message b) := by
  unfold decompressOr
  split
  · exact failsOnly_ok _
  · exact failsOnly_error (.inl rfl)

theorem malformed_canonicalOr (G : Suite β S P) (message : String) (b : Block β 32) :
    FailsOnly Failure.Malformed (canonicalOr G message b) := by
  unfold canonicalOr
  split
  · exact failsOnly_ok _
  · exact failsOnly_error (.inl rfl)

def recvPoint [DecidableEq P] (G : Suite β S P) (label : String) : Effect Failure (Conn β) P := do
  let b ← recvExact 32
  let p ← Effect.lift (decompressOr G ("invalid point: " ++ label) b)
  Effect.lift (rejectIdentity p label)
  pure p

def recvScalar (G : Suite β S P) : Effect Failure (Conn β) S := do
  let b ← recvExact 32
  Effect.lift (canonicalOr G "non-canonical scalar" b)

theorem recvPoint_apply [DecidableEq P] {G : Suite β S P} {label : String} {conn : Conn β} {p : P}
    {rest : List β} (input : conn.input = (G.compress p).bytes ++ rest) (nonzero : p ≠ 0) :
    recvPoint G label conn = (.ok p, { conn with input := rest, recv := conn.recv + 32 }) := by
  rw [recvPoint, Effect.bind_of_ok (recvExact_apply input),
    Effect.bind_of_ok (Effect.lift_of_ok (decompressOr_ok.mpr rfl)),
    Effect.bind_of_ok (Effect.lift_of_ok (show rejectIdentity p label = .ok () from rejectIdentity_ok.mpr nonzero))]
  rfl

theorem recvPoint_ok [DecidableEq P] {G : Suite β S P} {label : String} {conn after : Conn β} {p : P}
    (run : recvPoint G label conn = (.ok p, after)) :
    p ≠ 0 ∧ conn.input = (G.compress p).bytes ++ after.input ∧
      after = { conn with input := after.input, recv := conn.recv + 32 } := by
  obtain ⟨block, middle, read, run⟩ := Effect.bind_ok.mp run
  obtain ⟨point, middle', decoded, run⟩ := Effect.bind_ok.mp run
  obtain ⟨_, middle'', checked, done⟩ := Effect.bind_ok.mp run
  simp only [Effect.lift_apply, Prod.mk.injEq] at decoded checked
  obtain ⟨decoded, rfl⟩ := decoded
  obtain ⟨checked, rfl⟩ := checked
  cases done
  rw [decompressOr_ok] at decoded
  obtain ⟨input, same⟩ := recvExact_ok read
  exact ⟨rejectIdentity_ok.mp checked, by rw [← decoded]; exact input, same⟩

theorem recvScalar_apply {G : Suite β S P} {conn : Conn β} {s : S} {rest : List β}
    (input : conn.input = (G.toBytes s).bytes ++ rest) :
    recvScalar G conn = (.ok s, { conn with input := rest, recv := conn.recv + 32 }) := by
  rw [recvScalar, Effect.bind_of_ok (recvExact_apply input), Effect.lift_apply, canonicalOr_ok.mpr rfl]

theorem recvScalar_ok {G : Suite β S P} {conn after : Conn β} {s : S}
    (run : recvScalar G conn = (.ok s, after)) :
    conn.input = (G.toBytes s).bytes ++ after.input ∧
      after = { conn with input := after.input, recv := conn.recv + 32 } := by
  obtain ⟨block, middle, read, done⟩ := Effect.bind_ok.mp run
  simp only [Effect.lift_apply, Prod.mk.injEq] at done
  obtain ⟨decoded, rfl⟩ := done
  rw [canonicalOr_ok] at decoded
  obtain ⟨input, same⟩ := recvExact_ok read
  exact ⟨by rw [← decoded]; exact input, same⟩

variable [Octet β]

theorem handle_fits : 16 ≤ 32 := by decide

def hashToPoint (G : Suite β S P) (label : List UInt8) : P :=
  G.fromUniformBytes (G.sha512 (lits (ascii "ristretto-hash-to-point-v1") ++ lits label))

def attrH (G : Suite β S P) : P := hashToPoint G (ascii "iot-auth/attr-h/v1")

end ZkArche

import ZkArche.CImpl.Sodium

namespace ZkArche.CImpl

open Foundation

def field (label : String) (val : Block UInt8 32) : List UInt8 × List UInt8 := (ascii label, val.bytes)

def trChallengeScalar (so : Sodium) (tr : Transcript) : Block UInt8 32 := so.scalarReduce (so.sha512 tr.buf)

def hashToPoint (so : Sodium) (label : List UInt8) : Block UInt8 32 :=
  so.fromHash (so.sha512 (ascii "ristretto-hash-to-point-v1" ++ label))

def attrH (so : Sodium) : Block UInt8 32 := hashToPoint so (ascii "iot-auth/attr-h/v1")

theorem length_scalarZero : (List.replicate 32 (0 : UInt8)).length = 32 := List.length_replicate

def scalarZero : Block UInt8 32 := ⟨List.replicate 32 0, length_scalarZero⟩

theorem length_scalarFromU64 (v : UInt64) : (leBytes 8 v.toNat ++ List.replicate 24 0).length = 32 := by simp

def scalarFromU64 (v : UInt64) : Block UInt8 32 := ⟨leBytes 8 v.toNat ++ List.replicate 24 0, length_scalarFromU64 v⟩

def computePid (so : Sodium) (devicePub nonceC ephC serverPub : Block UInt8 32) : Block UInt8 32 :=
  so.sha256 (leBytes 4 tPid.length ++ tPid ++ devicePub.bytes ++ nonceC.bytes ++ ephC.bytes ++ serverPub.bytes)

def computeDeviceHandle (so : Sodium) (devicePub : Block UInt8 32) : Block UInt8 16 :=
  (so.sha256 (ascii "zkarche/device-handle/v1" ++ devicePub.bytes)).first 16 handle_fits

def hkdfExtract (so : Sodium) (salt ikm : List UInt8) : Block UInt8 32 := so.hmacsha256 salt ikm

/-- The loop of `hkdf_expand` with `left` bytes still to write. Every round writes some, so that
    `fuel` rounds are enough for as many bytes. -/
def hkdfRounds (so : Sodium) (prk : Block UInt8 32) (info : List UInt8) :
    (fuel left : Nat) → (t : List UInt8) → (ctr : UInt8) → List UInt8
  | 0, _, _, _ => []
  | fuel + 1, left, t, ctr =>
    if left = 0 then []
    else
      let t := (so.hmacsha256 prk.bytes (t ++ info ++ [ctr])).bytes
      let take := min left 32
      t.take take ++ hkdfRounds so prk info fuel (left - take) t (ctr + 1)

def hkdfExpand (so : Sodium) (outLen : Nat) (prk : Block UInt8 32) (info : List UInt8) : List UInt8 :=
  hkdfRounds so prk info outLen outLen [] 1

theorem length_hkdfRounds (so : Sodium) (prk : Block UInt8 32) (info : List UInt8) (fuel left : Nat)
    (t : List UInt8) (ctr : UInt8) (enough : left ≤ fuel) :
    (hkdfRounds so prk info fuel left t ctr).length = left := by
  induction fuel generalizing left t ctr with
  | zero =>
    rw [Nat.le_zero.mp enough]
    rfl
  | succ fuel ih =>
    rw [hkdfRounds]
    split
    case isTrue empty => rw [empty, List.length_nil]
    case isFalse some_left =>
      rw [List.length_append, ih _ _ _ (by omega), List.length_take, Block.bytes_length]
      omega

def hkdfKey (so : Sodium) (prk : Block UInt8 32) (info : List UInt8) : Block UInt8 32 :=
  ⟨hkdfExpand so 32 prk info, length_hkdfRounds so prk info 32 32 [] 1 (Nat.le_refl _)⟩

def deriveSessionKey (so : Sodium) (ephSecret ephPeer nonceC nonceS pid ephC ephS : Block UInt8 32) :
    Option (Block UInt8 32) := do
  let shared ← so.scalarmult ephSecret ephPeer
  let salt := nonceC.bytes ++ nonceS.bytes
  let info := ascii "session key v2" ++ pid.bytes ++ ephC.bytes ++ ephS.bytes
  let prk := hkdfExtract so salt shared.bytes
  pure (hkdfKey so prk info)

def kcTranscript (pid aC sC nonceC ephC serverPub aS sS nonceS ephS : Block UInt8 32) : Option Transcript :=
  trBuild tKcV2 [field "pid" pid, field "a_c" aC, field "s_c" sC, field "nonce_c" nonceC, field "eph_c" ephC,
    field "server_pub" serverPub, field "a_s" aS, field "s_s" sS, field "nonce_s" nonceS, field "eph_s" ephS]

def kcTranscriptHash (so : Sodium) (pid aC sC nonceC ephC serverPub aS sS nonceS ephS : Block UInt8 32) :
    Option (Block UInt8 32) := do
  let tr ← kcTranscript pid aC sC nonceC ephC serverPub aS sS nonceS ephS
  pure (so.sha256 tr.buf)

def deriveKcKeys (so : Sodium) (sessionKey th : Block UInt8 32) : Block UInt8 32 × Block UInt8 32 :=
  let prk := hkdfExtract so th.bytes sessionKey.bytes
  (hkdfKey so prk (ascii "kc s2c"), hkdfKey so prk (ascii "kc c2s"))

def hmacTag (so : Sodium) (key : Block UInt8 32) (label : List UInt8) (th : Block UInt8 32) : Block UInt8 32 :=
  so.hmacsha256 key.bytes (label ++ th.bytes)

end ZkArche.CImpl

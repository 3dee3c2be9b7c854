import ZkArche.CImpl.Primitives
import ZkArche.CImpl.Wire
import ZkArche.Primitives.Environment

namespace ZkArche.CClient

open Foundation CImpl

structure RoleCred where
  roleCode : UInt64
  roleScalar : Block UInt8 32
  blind : Block UInt8 32
  commitment : Block UInt8 32
  deriving DecidableEq

theorem length_wideCode (roleCode : UInt64) : (leBytes 8 roleCode.toNat ++ List.replicate 56 0).length = 64 := by
  simp

def wideCode (roleCode : UInt64) : Block UInt8 64 :=
  ⟨leBytes 8 roleCode.toNat ++ List.replicate 56 0, length_wideCode roleCode⟩

def encodeRole (so : Sodium) (roleCode : UInt64) : Block UInt8 32 := so.scalarReduce (wideCode roleCode)

def makeRoleCommitment (so : Sodium) (roleScalar blind : Block UInt8 32) : Option (Block UInt8 32) := do
  let gR := so.scalarmultBase roleScalar
  let h := CImpl.attrH so
  let hB ← so.scalarmult blind h
  pure (so.add gR hB)

/-- `write_exact_file`, where `fault` is what a call that fails leaves of the file. That `fclose`
    flushes the buffer is not checked by the code and taken for granted here. -/
def writeExactFile (fault : Option (StateFile UInt8)) (buf : List UInt8) (mode : Nat) :
    Effect Unit (StateFile UInt8) Unit := fun _ =>
  match fault with
  | none => (.ok (), .present buf mode)
  | some left => (.error (), left)

/-- `read_exact_file`, which ignores what comes behind the bytes it asks for. -/
def readExactFile (size : Nat) : StateFile UInt8 → Option (Block UInt8 size)
  | .present data _ => if fits : size ≤ data.length then some ⟨data.take size, length_take_of_fits fits⟩ else none
  | _ => none

def roleCredBytes (cred : RoleCred) : List UInt8 :=
  leBytes 8 cred.roleCode.toNat ++ cred.blind.bytes ++ cred.commitment.bytes

def saveRoleCredential (fault : Option (StateFile UInt8)) (cred : RoleCred) : Effect Unit (StateFile UInt8) Unit :=
  writeExactFile fault (roleCredBytes cred) 0o600

def le64Load (data : List UInt8) : UInt64 := UInt64.ofNat (leNat (data.take 8))

/-- The part of `load_or_create_role_credential` for a file that exists. -/
def loadRoleCredential (so : Sodium) (file : StateFile UInt8) : Option RoleCred := do
  let buf ← readExactFile 72 file
  let roleCode := le64Load buf.bytes
  let roleScalar := encodeRole so roleCode
  let blind ← part buf.bytes 8
  let commitment ← part buf.bytes 40
  let expected ← makeRoleCommitment so roleScalar blind
  guard (expected = commitment)
  pure { roleCode, roleScalar, blind, commitment }

/-- The credential of the file, or a new one for role 1 with the random scalar `blind`. -/
def loadOrCreateRoleCredential (so : Sodium) (fault : Option (StateFile UInt8)) (blind : Block UInt8 32) :
    Effect Unit (StateFile UInt8) RoleCred := do
  let file ← Effect.get
  if file.isPresent then orFail (loadRoleCredential so file)
  else do
    let roleCode : UInt64 := 1
    let roleScalar := encodeRole so roleCode
    let commitment ← orFail (makeRoleCommitment so roleScalar blind)
    let cred := { roleCode, roleScalar, blind, commitment }
    saveRoleCredential fault cred
    pure cred

section Files

variable {so : Sodium} {cred : RoleCred} {mode : Nat}

theorem length_roleCredBytes (cred : RoleCred) : (roleCredBytes cred).length = 72 := by
  simp [roleCredBytes]

theorem le64Load_append (roleCode : UInt64) (rest : List UInt8) :
    le64Load (leBytes 8 roleCode.toNat ++ rest) = roleCode := by
  have bound : roleCode.toNat < 256 ^ 8 := roleCode.toNat_lt
  rw [le64Load, List.take_left' (leBytes_length 8 roleCode.toNat), leNat_leBytes_of_lt bound, UInt64.ofNat_toNat]

theorem loadRoleCredential_bytes {loaded : RoleCred} :
    loadRoleCredential so (.present (roleCredBytes cred) mode) = some loaded ↔
      makeRoleCommitment so (encodeRole so cred.roleCode) cred.blind = some cred.commitment ∧
        loaded = { cred with roleScalar := encodeRole so cred.roleCode } := by
  have length := length_roleCredBytes cred
  have whole : readExactFile 72 (.present (roleCredBytes cred) mode) = some ⟨roleCredBytes cred, length⟩ := by
    rw [readExactFile, dif_pos (Nat.le_of_eq length.symm)]
    apply congrArg some
    apply Block.ext
    exact List.take_of_length_le (Nat.le_of_eq length)
  have split : roleCredBytes cred =
      leBytes 8 cred.roleCode.toNat ++ (cred.blind.bytes ++ (cred.commitment.bytes ++ [])) := by
    simp [roleCredBytes]
  have code : le64Load (roleCredBytes cred) = cred.roleCode := by
    rw [split, le64Load_append]
  have behind : (roleCredBytes cred).drop 8 = cred.blind.bytes ++ (cred.commitment.bytes ++ []) := by
    rw [split, List.drop_left' (leBytes_length 8 cred.roleCode.toNat)]
  obtain ⟨blind, tail⟩ := part_of_drop behind
  obtain ⟨commitment, _⟩ := part_of_drop tail
  unfold loadRoleCredential
  simp only [whole, code, blind, commitment, Option.bind_eq_bind, Option.bind_some, Option.bind_eq_some_iff,
    Option.guard_eq_some', Option.pure_def, Option.some.injEq]
  constructor
  · intro opened
    obtain ⟨expected, made, _, same, done⟩ := opened
    exact ⟨by rw [made, same], done.symm⟩
  · intro opened
    exact ⟨_, opened.1, (), rfl, opened.2.symm⟩

theorem loadOrCreateRoleCredential_made {blind commitment : Block UInt8 32}
    (made : makeRoleCommitment so (encodeRole so 1) blind = some commitment) :
    loadOrCreateRoleCredential so none blind .absent =
      (.ok ⟨1, encodeRole so 1, blind, commitment⟩,
        .present (roleCredBytes ⟨1, encodeRole so 1, blind, commitment⟩) 0o600) := by
  have front : (orFail (makeRoleCommitment so (encodeRole so 1) blind) : Effect Unit (StateFile UInt8) (Block UInt8 32))
      .absent = (.ok commitment, .absent) := by rw [made, orFail_some]
  unfold loadOrCreateRoleCredential
  rw [Effect.bind_of_ok (Effect.get_apply _), if_neg (by exact Bool.false_ne_true), Effect.bind_of_ok front]
  rfl

theorem loadOrCreateRoleCredential_absent {fault : Option (StateFile UInt8)} {blind : Block UInt8 32}
    {file : StateFile UInt8} (written : loadOrCreateRoleCredential so fault blind .absent = (.ok cred, file)) :
    makeRoleCommitment so (encodeRole so 1) blind = some cred.commitment ∧
      cred = ⟨1, encodeRole so 1, blind, cred.commitment⟩ ∧ file = .present (roleCredBytes cred) 0o600 := by
  unfold loadOrCreateRoleCredential at written
  rw [Effect.bind_of_ok (Effect.get_apply _), if_neg (by exact Bool.false_ne_true)] at written
  obtain ⟨commitment, middle, made, written⟩ := Effect.bind_ok.mp written
  obtain ⟨_, last, saved, done⟩ := Effect.bind_ok.mp written
  cases fault with
  | none =>
    cases saved
    cases done
    exact ⟨(orFail_ok.mp made).1, rfl, rfl⟩
  | some left => cases saved

end Files

end ZkArche.CClient

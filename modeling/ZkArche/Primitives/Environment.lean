import ZkArche.Foundation.Collections
import ZkArche.Primitives.Wire

namespace ZkArche

open Foundation

/-- A file under `state/`: its bytes and permission bits, or why it cannot be read. -/
inductive StateFile (β : Type) where
  | absent
  | unreadable (error : IoError)
  | present (data : List β) (mode : Nat)

/-- `Path::new(path).exists()`. -/
def StateFile.isPresent {β : Type} : StateFile β → Bool
  | .absent => false
  | _ => true

def StateFile.read {β : Type} : StateFile β → Except Failure (List β)
  | .absent => .error (.io ⟨.other, "No such file or directory (os error 2)"⟩)
  | .unreadable error => .error (.io error)
  | .present data _ => .ok data

/-- `write_private_file_atomic` as one replacement of the file, which an I/O fault can prevent. -/
def replaceFile {β : Type} (fault : Option IoError) (data : List β) :
    Effect Failure (StateFile β) Unit := fun file =>
  match fault with
  | none => (.ok (), .present data 0o600)
  | some error => (.error (.io error), file)

def octal (mode : Nat) : String := String.ofList (Nat.toDigits 8 mode)

/-- `{:02x}`. -/
def hexByte (byte : UInt8) : String :=
  String.ofList [Nat.digitChar (byte.toNat / 16), Nat.digitChar (byte.toNat % 16)]

def verifyPrivateFilePermissions {β : Type} (path : String) (file : StateFile β) : Except Failure Unit :=
  match file with
  | .absent => .error (.io ⟨.other, "No such file or directory (os error 2)"⟩)
  | .unreadable _ => .ok ()
  | .present _ mode =>
    if mode &&& 0o077 ≠ 0 then
      .error (permissionDenied
        (path ++ " must not be group/world accessible (mode " ++ octal (mode &&& 0o777) ++ ")"))
    else .ok ()

abbrev Vars := String → Option String

def envTruthy (vars : Vars) (name : String) : Bool :=
  match vars name with
  | some value => value ∈ ["1", "true", "TRUE", "yes", "YES", "on", "ON"]
  | none => false

def benchMode (vars : Vars) : Bool := envTruthy vars "ZKARCHE_BENCH_MODE"

/-- `s.as_bytes()`. -/
def utf8Bytes (s : String) : List UInt8 := s.toByteArray.data.toList

def fromUtf8 (buf : List UInt8) : Option String := String.fromUTF8? ⟨buf.toArray⟩

theorem fromUtf8_utf8Bytes (s : String) : fromUtf8 (utf8Bytes s) = some s := by
  have bytes : (⟨(utf8Bytes s).toArray⟩ : ByteArray) = s.toByteArray := by simp [utf8Bytes]
  rw [fromUtf8, bytes, String.fromUTF8?, dif_pos s.isValidUTF8]
  rfl

theorem utf8Bytes_inj {first second : String} : utf8Bytes first = utf8Bytes second ↔ first = second := by
  constructor
  · intro same
    have decoded := fromUtf8_utf8Bytes first
    rw [same, fromUtf8_utf8Bytes second] at decoded
    exact (Option.some.inj decoded).symm
  · intro same
    rw [same]

-- Times are nanoseconds of the monotonic clock.
def seconds (count : Nat) : Nat := count * 1000000000

end ZkArche

import ZkArche.Foundation.Effect
import ZkArche.Foundation.Octets

namespace ZkArche

open Foundation

inductive ErrorKind where
  | invalidData | invalidInput | permissionDenied | unexpectedEof | other
  deriving DecidableEq, Repr

structure IoError where
  kind : ErrorKind
  message : String
  deriving DecidableEq, Repr

/-- How a function can stop early: an error handed back with `?`, or a panic. -/
inductive Failure where
  | io (error : IoError)
  | panic (message : String)
  deriving DecidableEq, Repr

def Failure.IsPanic : Failure → Prop
  | .io _ => False
  | .panic _ => True

def invalidData (message : String) : Failure := .io ⟨.invalidData, message⟩
def permissionDenied (message : String) : Failure := .io ⟨.permissionDenied, message⟩

def Failure.Malformed : Failure → Prop
  | .io ⟨kind, _⟩ => kind = .invalidData ∨ kind = .unexpectedEof
  | .panic _ => False

section Failures

variable {α γ σ : Type} {p q : Failure → Prop}

def FailsOnly (p : Failure → Prop) (result : Except Failure α) : Prop :=
  ∀ failure, result = .error failure → p failure

theorem failsOnly_ok (value : α) : FailsOnly p (.ok value) := nofun

theorem failsOnly_error {failure : Failure} (holds : p failure) :
    FailsOnly p (.error failure : Except Failure α) := by
  rintro _ ⟨⟩
  exact holds

theorem FailsOnly.mono {result : Except Failure α} (only : FailsOnly p result)
    (weaken : ∀ failure, p failure → q failure) : FailsOnly q result :=
  fun failure run => weaken failure (only failure run)

theorem FailsOnly.bind {first : Except Failure α} {next : α → Except Failure γ} (head : FailsOnly p first)
    (tail : ∀ value, first = .ok value → FailsOnly p (next value)) : FailsOnly p (first >>= next) := by
  intro failure run
  rcases Except.bind_error_iff.mp run with run | ⟨value, here, there⟩
  · exact head failure run
  · exact tail value here failure there

theorem FailsOnly.effectBind {first : Effect Failure σ α} {next : α → Effect Failure σ γ} {state : σ}
    (head : FailsOnly p (first state).1)
    (tail : ∀ value middle, first state = (.ok value, middle) → FailsOnly p (next value middle).1) :
    FailsOnly p ((first >>= next) state).1 := by
  rcases outcome : first state with ⟨failure | value, middle⟩
  · rw [Effect.bind_of_error outcome]
    rw [outcome] at head
    exact failsOnly_error (head failure rfl)
  · rw [Effect.bind_of_ok outcome]
    exact tail value middle outcome

theorem failsOnly_mapM {step : α → Except Failure γ} {items : List α}
    (each : ∀ item ∈ items, FailsOnly p (step item)) : FailsOnly p (items.mapM step) := by
  induction items with
  | nil => exact failsOnly_ok []
  | cons item items ih =>
    rw [List.mapM_cons]
    refine (each item (by simp)).bind fun value _ => ?_
    exact (ih fun item' member => each item' (by simp [member])).bind fun _ _ => failsOnly_ok _

theorem failsOnly_failIf {condition : Bool} {failure : Failure} (holds : condition = true → p failure) (state : σ) :
    FailsOnly p (Effect.failIf condition failure state).1 := by
  cases condition with
  | false => exact failsOnly_ok ()
  | true => exact failsOnly_error (holds rfl)

/-- A result that may be an error but is not a panic. -/
def NoPanic (result : Except Failure α) : Prop := FailsOnly (fun failure => ¬ failure.IsPanic) result

theorem Failure.Malformed.noPanic {failure : Failure} (malformed : failure.Malformed) : ¬ failure.IsPanic := by
  cases failure with
  | io error => exact id
  | panic message => exact malformed.elim

end Failures

/-- A TCP connection: what the peer has sent and is still unread, what was written, and the
    two metric counters that the handlers thread along. A write fails when the peer has
    gone by then, which `writeFault` decides from the bytes already sent. -/
structure Conn (β : Type) where
  input : List β
  output : List β
  sent : Nat
  recv : Nat
  writeFault : Nat → Option IoError

def Conn.opened {β : Type} (input : List β) : Conn β :=
  { input, output := [], sent := 0, recv := 0, writeFault := fun _ => none }

variable {β : Type}

def sendAll (buf : List β) : Effect Failure (Conn β) Unit := fun conn =>
  match conn.writeFault conn.sent with
  | none => (.ok (), { conn with sent := conn.sent + buf.length, output := conn.output ++ buf })
  | some error => (.error (.io error), { conn with sent := conn.sent + buf.length })

def recvExact (size : Nat) : Effect Failure (Conn β) (Block β size) := fun conn =>
  if fits : size ≤ conn.input.length then
    (.ok ⟨conn.input.take size, by simp [fits]⟩,
      { conn with input := conn.input.drop size, recv := conn.recv + size })
  else (.error (.io ⟨.unexpectedEof, "failed to fill whole buffer"⟩), { conn with input := [] })

/-- `recv_exact` with a buffer whose length is computed at run time. -/
def recvVec (size : Nat) : Effect Failure (Conn β) (List β) := do
  let buf ← recvExact size
  pure buf.bytes

def recvU8 [Octet β] : Effect Failure (Conn β) UInt8 := do
  let buf ← recvExact 1
  pure (Octet.val buf.head)

/-- `&data[lo..hi]`, which panics past the end. -/
def slice (data : List β) (lo hi : Nat) : Except Failure (List β) :=
  if lo ≤ hi ∧ hi ≤ data.length then .ok ((data.drop lo).take (hi - lo))
  else .error (.panic "slice index out of range")

/-- `copy_from_slice` into an array of `size` bytes, which panics when the lengths differ. -/
def copyFromSlice (size : Nat) (source : List β) : Except Failure (Block β size) :=
  if fits : source.length = size then .ok ⟨source, fits⟩
  else .error (.panic "copy_from_slice: source slice length does not match destination slice length")

def sliceBlock (size : Nat) (data : List β) (lo hi : Nat) : Except Failure (Block β size) := do
  let source ← slice data lo hi
  copyFromSlice size source

theorem window_length {size lo hi : Nat} {data : List β} (width : lo + size = hi) (bound : hi ≤ data.length) :
    ((data.drop lo).take size).length = size := by
  simp
  omega

theorem sliceBlock_eq {size lo hi : Nat} {data : List β} (width : lo + size = hi)
    (bound : hi ≤ data.length) :
    sliceBlock size data lo hi = .ok ⟨(data.drop lo).take size, window_length width bound⟩ := by
  have range : lo ≤ hi ∧ hi ≤ data.length := ⟨by omega, bound⟩
  have same : hi - lo = size := by omega
  have length := window_length width bound
  simp only [sliceBlock, slice, range, and_self, ↓reduceIte, same, bind, Except.bind, copyFromSlice,
    length, ↓reduceDIte]

theorem sliceBlock_of_drop {size lo : Nat} (hi : Nat) {data rest : List β} {block : Block β size}
    (tail : data.drop lo = block.bytes ++ rest) (width : lo + size = hi) (positive : 0 < size) :
    sliceBlock size data lo hi = .ok block ∧ data.drop hi = rest := by
  have lengths := congrArg List.length tail
  rw [List.length_drop, List.length_append, block.bytes_length] at lengths
  constructor
  · rw [sliceBlock_eq width (by omega)]
    apply congrArg Except.ok
    apply Block.ext
    simp only [tail, List.take_left' block.bytes_length]
  · rw [← width, ← List.drop_drop, tail, List.drop_left' block.bytes_length]

theorem drop_of_sliceBlock {size lo hi : Nat} {data : List β} {block : Block β size}
    (run : sliceBlock size data lo hi = .ok block) : data.drop lo = block.bytes ++ data.drop hi := by
  obtain ⟨source, range, copy⟩ := Except.bind_ok_iff.mp run
  unfold slice at range
  unfold copyFromSlice at copy
  split at range
  · cases range
    split at copy
    · cases copy
      have split := List.take_append_drop (hi - lo) (data.drop lo)
      rwa [List.drop_drop, show lo + (hi - lo) = hi by omega, eq_comm] at split
    · cases copy
  · cases range

theorem sendAll_apply {buf : List β} {conn : Conn β} (writable : conn.writeFault conn.sent = none) :
    sendAll buf conn =
      (.ok (), { conn with sent := conn.sent + buf.length, output := conn.output ++ buf }) := by
  simp only [sendAll, writable]

theorem sendAll_ok {buf : List β} {conn after : Conn β} {value : Unit}
    (run : sendAll buf conn = (.ok value, after)) :
    after = { conn with sent := conn.sent + buf.length, output := conn.output ++ buf } := by
  unfold sendAll at run
  split at run
  · cases run
    rfl
  · cases run

theorem sendAll_error {buf : List β} {conn after : Conn β} {failure : Failure}
    (failed : sendAll buf conn = (.error failure, after)) : after.output = conn.output := by
  unfold sendAll at failed
  split at failed
  · cases failed
  · cases failed
    rfl

theorem recvExact_apply {size : Nat} {conn : Conn β} {block : Block β size} {rest : List β}
    (input : conn.input = block.bytes ++ rest) :
    recvExact size conn = (.ok block, { conn with input := rest, recv := conn.recv + size }) := by
  have fits : size ≤ conn.input.length := by simp [input]
  have taken : conn.input.take size = block.bytes := by
    rw [input, List.take_left' block.bytes_length]
  have dropped : conn.input.drop size = rest := by
    rw [input, List.drop_left' block.bytes_length]
  rw [recvExact, dif_pos fits]
  simp only [taken, dropped]

theorem recvExact_ok {size : Nat} {conn after : Conn β} {block : Block β size}
    (run : recvExact size conn = (.ok block, after)) :
    conn.input = block.bytes ++ after.input ∧
      after = { conn with input := after.input, recv := conn.recv + size } := by
  unfold recvExact at run
  split at run
  · cases run
    exact ⟨(List.take_append_drop size conn.input).symm, rfl⟩
  · cases run

theorem recvVec_apply {size : Nat} {conn : Conn β} {buf rest : List β}
    (input : conn.input = buf ++ rest) (length : buf.length = size) :
    recvVec size conn = (.ok buf, { conn with input := rest, recv := conn.recv + size }) := by
  have read := recvExact_apply (show conn.input = (⟨buf, length⟩ : Block β size).bytes ++ rest from input)
  rw [recvVec, Effect.bind_of_ok read]
  rfl

theorem recvVec_ok {size : Nat} {conn after : Conn β} {buf : List β}
    (run : recvVec size conn = (.ok buf, after)) :
    buf.length = size ∧ conn.input = buf ++ after.input ∧
      after = { conn with input := after.input, recv := conn.recv + size } := by
  obtain ⟨block, middle, read, done⟩ := Effect.bind_ok.mp run
  cases done
  obtain ⟨input, same⟩ := recvExact_ok read
  exact ⟨block.bytes_length, input, same⟩

theorem recvU8_apply [Octet β] {conn : Conn β} {letter : β} {rest : List β}
    (input : conn.input = letter :: rest) :
    recvU8 conn = (.ok (Octet.val letter), { conn with input := rest, recv := conn.recv + 1 }) := by
  have read := recvExact_apply (show conn.input = (⟨[letter], rfl⟩ : Block β 1).bytes ++ rest from input)
  rw [recvU8, Effect.bind_of_ok read]
  rfl

theorem recvU8_ok [Octet β] {conn after : Conn β} {byte : UInt8}
    (run : recvU8 conn = (.ok byte, after)) :
    ∃ letter, Octet.val letter = byte ∧ conn.input = letter :: after.input ∧
      after = { conn with input := after.input, recv := conn.recv + 1 } := by
  obtain ⟨⟨bytes, length⟩, middle, read, done⟩ := Effect.bind_ok.mp run
  cases done
  obtain ⟨input, same⟩ := recvExact_ok read
  obtain ⟨letter, rfl⟩ := List.length_eq_one_iff.mp length
  exact ⟨letter, rfl, by simpa using input, same⟩

section Failures

variable {p : Failure → Prop}

theorem failsOnly_sliceBlock {size lo hi : Nat} {data : List β} (width : lo + size = hi)
    (bound : hi ≤ data.length) : FailsOnly p (sliceBlock size data lo hi) := by
  rw [sliceBlock_eq width bound]
  exact failsOnly_ok _

theorem malformed_recvExact (size : Nat) (conn : Conn β) :
    FailsOnly Failure.Malformed (recvExact size conn).1 := by
  unfold recvExact
  split
  · exact failsOnly_ok _
  · exact failsOnly_error (.inr rfl)

theorem malformed_recvVec (size : Nat) (conn : Conn β) : FailsOnly Failure.Malformed (recvVec size conn).1 :=
  (malformed_recvExact size conn).effectBind fun _ _ _ => failsOnly_ok _

theorem malformed_recvU8 [Octet β] (conn : Conn β) : FailsOnly Failure.Malformed (recvU8 conn).1 :=
  (malformed_recvExact 1 conn).effectBind fun _ _ _ => failsOnly_ok _

theorem noPanic_sendAll (buf : List β) (conn : Conn β) : NoPanic (sendAll buf conn).1 := by
  unfold sendAll
  split
  · exact failsOnly_ok _
  · exact failsOnly_error id

end Failures

end ZkArche

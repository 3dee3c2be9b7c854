import ZkArche.Primitives.Environment

namespace ZkArche

open Foundation

def anyhow (message : String) : Failure := .io ⟨.other, message⟩

def rejectIf (condition : Bool) (failure : Failure) : Except Failure Unit :=
  if condition then .error failure else .ok ()

@[simp] theorem rejectIf_ok {condition : Bool} {failure : Failure} {value : Unit} :
    rejectIf condition failure = .ok value ↔ condition = false := by
  cases condition <;> simp [rejectIf]

/-- `data[i]`, which panics past the end. -/
def byteAt (data : List UInt8) (i : Nat) : Except Failure UInt8 :=
  match data[i]? with
  | some byte => .ok byte
  | none => .error (.panic "index out of bounds")

theorem drop_of_byteAt {data : List UInt8} {i : Nat} {byte : UInt8} :
    byteAt data i = .ok byte ↔ data.drop i = byte :: data.drop (i + 1) := by
  unfold byteAt
  by_cases bound : i < data.length
  · rw [List.getElem?_eq_getElem bound, List.drop_eq_getElem_cons bound, List.cons.injEq]
    simp only [Except.ok.injEq, and_true]
  · rw [List.getElem?_eq_none (by omega), List.drop_eq_nil_of_le (by omega)]
    exact iff_of_false nofun nofun

/-- `std::str::from_utf8(buf)?`. -/
def textOr (message : String) (buf : List UInt8) : Except Failure String :=
  match fromUtf8 buf with
  | some text => .ok text
  | none => .error (anyhow message)

theorem utf8Bytes_of_fromUtf8 {buf : List UInt8} {text : String} (decoded : fromUtf8 buf = some text) :
    buf = utf8Bytes text := by
  unfold fromUtf8 String.fromUTF8? at decoded
  split at decoded
  · cases decoded
    rfl
  · cases decoded

theorem textOr_ok {message : String} {buf : List UInt8} {text : String} :
    textOr message buf = .ok text ↔ buf = utf8Bytes text := by
  unfold textOr
  constructor
  · intro decoded
    split at decoded
    case h_1 found =>
      cases decoded
      exact utf8Bytes_of_fromUtf8 found
    case h_2 => cases decoded
  · rintro rfl
    rw [fromUtf8_utf8Bytes]

section Slices

variable {data source rest : List UInt8} {lo hi : Nat}

theorem slice_of_drop (hi : Nat) (tail : data.drop lo = source ++ rest) (width : lo + source.length = hi)
    (bound : hi ≤ data.length) : slice data lo hi = .ok source ∧ data.drop hi = rest := by
  constructor
  · rw [slice, if_pos ⟨by omega, bound⟩, tail, List.take_left' (by omega)]
  · rw [← width, ← List.drop_drop, tail, List.drop_left]

theorem drop_of_slice (run : slice data lo hi = .ok source) :
    data.drop lo = source ++ data.drop hi ∧ lo + source.length = hi ∧ hi ≤ data.length := by
  unfold slice at run
  split at run
  case isTrue range =>
    cases run
    have split := List.take_append_drop (hi - lo) (data.drop lo)
    rw [List.drop_drop, show lo + (hi - lo) = hi by omega, eq_comm] at split
    refine ⟨split, ?_, range.2⟩
    rw [List.length_take, List.length_drop]
    omega
  case isFalse => cases run

theorem slice_total (order : lo ≤ hi) (bound : hi ≤ data.length) : ∃ source, slice data lo hi = .ok source :=
  ⟨_, if_pos ⟨order, bound⟩⟩

end Slices

section NoPanic

theorem noPanic_rejectIf (condition : Bool) (message : String) : NoPanic (rejectIf condition (anyhow message)) := by
  cases condition
  · exact failsOnly_ok ()
  · exact failsOnly_error id

theorem noPanic_textOr (message : String) (buf : List UInt8) : NoPanic (textOr message buf) := by
  unfold textOr
  split
  · exact failsOnly_ok _
  · exact failsOnly_error id

theorem noPanic_byteAt {data : List UInt8} {i : Nat} (bound : i < data.length) : NoPanic (byteAt data i) := by
  rw [byteAt, List.getElem?_eq_getElem bound]
  exact failsOnly_ok _

theorem noPanic_slice {data : List UInt8} {lo hi : Nat} (order : lo ≤ hi) (bound : hi ≤ data.length) :
    NoPanic (slice data lo hi) := by
  obtain ⟨source, run⟩ := slice_total order bound
  rw [run]
  exact failsOnly_ok _

end NoPanic

/-- The `width` big-endian bytes of `number`. -/
def beBytes (width number : Nat) : List UInt8 := (leBytes width number).reverse

def beNat (bytes : List UInt8) : Nat := leNat bytes.reverse

@[simp] theorem beBytes_length (width number : Nat) : (beBytes width number).length = width := by simp [beBytes]

theorem beNat_beBytes {width number : Nat} (bound : number < 256 ^ width) : beNat (beBytes width number) = number := by
  rw [beNat, beBytes, List.reverse_reverse, leNat_leBytes_of_lt bound]

theorem leBytes_leNat (bytes : List UInt8) : leBytes bytes.length (leNat bytes) = bytes := by
  induction bytes with
  | nil => rfl
  | cons byte bytes ih =>
    have digit := byte.toNat_lt
    have low : (byte.toNat + 256 * leNat bytes) % 256 = byte.toNat := by omega
    have high : (byte.toNat + 256 * leNat bytes) / 256 = leNat bytes := by omega
    rw [List.length_cons, leNat, leBytes, low, high, ih, UInt8.ofNat_toNat]

theorem leBytes_ofNat_leNat (block : Block UInt8 8) : leBytes 8 (UInt64.ofNat (leNat block.bytes)).toNat = block.bytes := by
  have bound := leNat_lt block.bytes
  have same := leBytes_leNat block.bytes
  rw [block.bytes_length] at bound same
  rw [UInt64.toNat_ofNat_of_lt' bound, same]

theorem ofNat_leNat_leBytes (number : UInt64) : UInt64.ofNat (leNat (leBytes 8 number.toNat)) = number := by
  rw [leNat_leBytes_of_lt number.toNat_lt, UInt64.ofNat_toNat]

theorem beBytes_beNat (bytes : List UInt8) : beBytes bytes.length (beNat bytes) = bytes := by
  rw [beBytes, beNat, ← List.length_reverse, leBytes_leNat, List.reverse_reverse]

theorem beBytes_ofNat_beNat (block : Block UInt8 8) : beBytes 8 (UInt64.ofNat (beNat block.bytes)).toNat = block.bytes := by
  have reversed := leBytes_ofNat_leNat ⟨block.bytes.reverse, by simp⟩
  rw [beBytes, beNat, reversed, List.reverse_reverse]

theorem ofNat_beNat_beBytes (number : UInt64) : UInt64.ofNat (beNat (beBytes 8 number.toNat)) = number := by
  rw [beNat_beBytes number.toNat_lt, UInt64.ofNat_toNat]

section Streams

def writeAll (buf : List UInt8) : Effect Failure (Conn UInt8) Unit := fun conn =>
  match conn.writeFault conn.output.length with
  | none => (.ok (), { conn with output := conn.output ++ buf })
  | some error => (.error (.io error), conn)

def readExact (size : Nat) : Effect Failure (Conn UInt8) (List UInt8) := fun conn =>
  if size ≤ conn.input.length then (.ok (conn.input.take size), { conn with input := conn.input.drop size })
  else (.error (.io ⟨.unexpectedEof, "early eof"⟩), { conn with input := [] })

theorem writeAll_apply {conn : Conn UInt8} (writable : conn.writeFault = fun _ => none) (buf : List UInt8) :
    writeAll buf conn = (.ok (), { conn with output := conn.output ++ buf }) := by
  rw [writeAll, writable]

theorem readExact_apply {conn : Conn UInt8} {buf rest : List UInt8} (input : conn.input = buf ++ rest) :
    readExact buf.length conn = (.ok buf, { conn with input := rest }) := by
  have fits : buf.length ≤ conn.input.length := by simp [input]
  rw [readExact, if_pos fits, input, List.take_left, List.drop_left]

def putFrame (data : List UInt8) : Effect Failure (Conn UInt8) Unit := do
  writeAll (beBytes 4 data.length)
  writeAll data

/-- Reads a frame of at most `maxLen` bytes; the message is for a longer one. -/
def takeFrame (maxLen : Nat) (message : String) : Effect Failure (Conn UInt8) (List UInt8) := do
  let lenBuf ← readExact 4
  let len := beNat lenBuf
  Effect.failIf (decide (len > maxLen)) (anyhow (message ++ toString len))
  readExact len

def frameBytes (data : List UInt8) : List UInt8 := beBytes 4 data.length ++ data

theorem putFrame_apply {conn : Conn UInt8} (writable : conn.writeFault = fun _ => none) (data : List UInt8) :
    putFrame data conn = (.ok (), { conn with output := conn.output ++ frameBytes data }) := by
  rw [putFrame, Effect.bind_of_ok (writeAll_apply writable _), writeAll_apply (by exact writable), frameBytes,
    List.append_assoc]

variable {conn : Conn UInt8} {data rest : List UInt8} {maxLen : Nat} {message : String}

theorem readLength_apply (encodable : data.length < 2 ^ 32) (input : conn.input = frameBytes data ++ rest) :
    readExact 4 conn = (.ok (beBytes 4 data.length), { conn with input := data ++ rest }) ∧
      beNat (beBytes 4 data.length) = data.length := by
  rw [frameBytes, List.append_assoc] at input
  have run := readExact_apply input
  rw [beBytes_length] at run
  exact ⟨run, beNat_beBytes encodable⟩

theorem takeFrame_apply (encodable : data.length < 2 ^ 32) (short : data.length ≤ maxLen)
    (input : conn.input = frameBytes data ++ rest) :
    takeFrame maxLen message conn = (.ok data, { conn with input := rest }) := by
  obtain ⟨reads, length⟩ := readLength_apply encodable input
  have passes : decide (data.length > maxLen) = false := decide_eq_false (by omega)
  rw [takeFrame, Effect.bind_of_ok reads]
  simp only [length]
  rw [Effect.bind_of_ok (Effect.failIf_of_false passes), readExact_apply rfl]

theorem takeFrame_long (encodable : data.length < 2 ^ 32) (long : maxLen < data.length)
    (input : conn.input = frameBytes data ++ rest) :
    ∃ after, takeFrame maxLen message conn = (.error (anyhow (message ++ toString data.length)), after) := by
  obtain ⟨reads, length⟩ := readLength_apply encodable input
  have refuses : decide (data.length > maxLen) = true := decide_eq_true long
  rw [takeFrame, Effect.bind_of_ok reads]
  simp only [length, refuses]
  exact ⟨_, rfl⟩

end Streams

end ZkArche

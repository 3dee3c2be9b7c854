import ZkArche.Primitives.Wire

namespace ZkArche.CImpl

open Foundation

/-- A C function that returns -1 fails with `()`. -/
def orFail {σ α : Type} (result : Option α) : Effect Unit σ α :=
  Effect.lift (match result with
    | some value => .ok value
    | none => .error ())

def sendAll (buf : List UInt8) : Effect Unit (Conn UInt8) Unit := fun conn =>
  match conn.writeFault conn.sent with
  | none => (.ok (), { conn with sent := conn.sent + buf.length, output := conn.output ++ buf })
  | some _ => (.error (), conn)

theorem length_take_of_fits {size : Nat} {input : List UInt8} (fits : size ≤ input.length) :
    (input.take size).length = size := by
  rw [List.length_take, Nat.min_eq_left fits]

theorem length_part {size lo : Nat} {data : List UInt8} (fits : lo + size ≤ data.length) :
    ((data.drop lo).take size).length = size := by
  rw [List.length_take, List.length_drop]
  omega

def part (data : List UInt8) (lo : Nat) : Option (Block UInt8 32) :=
  if fits : lo + 32 ≤ data.length then some ⟨(data.drop lo).take 32, length_part fits⟩ else none

def recvAll (size : Nat) : Effect Unit (Conn UInt8) (Block UInt8 size) := fun conn =>
  if fits : size ≤ conn.input.length then
    (.ok ⟨conn.input.take size, length_take_of_fits fits⟩,
      { conn with input := conn.input.drop size, recv := conn.recv + size })
  else (.error (), { conn with input := [] })

def recvByte : Effect Unit (Conn UInt8) UInt8 := do
  let buf ← recvAll 1
  pure buf.head

section Outcomes

variable {σ α : Type}

@[simp] theorem orFail_some (value : α) (state : σ) : (orFail (some value) : Effect Unit σ α) state = (.ok value, state) :=
  rfl

@[simp] theorem orFail_none (state : σ) : (orFail (none : Option α) : Effect Unit σ α) state = (.error (), state) := rfl

theorem orFail_ok {result : Option α} {value : α} {state after : σ} :
    (orFail result : Effect Unit σ α) state = (.ok value, after) ↔ result = some value ∧ after = state := by
  cases result with
  | none => simp
  | some found => simp [eq_comm]

end Outcomes

section Parts

variable {data rest : List UInt8} {lo : Nat} {block : Block UInt8 32}

theorem part_of_drop (tail : data.drop lo = block.bytes ++ rest) :
    part data lo = some block ∧ data.drop (lo + 32) = rest := by
  have lengths := congrArg List.length tail
  rw [List.length_drop, List.length_append, block.bytes_length] at lengths
  constructor
  · rw [part, dif_pos (by omega)]
    apply congrArg some
    apply Block.ext
    simp only [tail, List.take_left' block.bytes_length]
  · rw [← List.drop_drop, tail, List.drop_left' block.bytes_length]

theorem drop_of_part (found : part data lo = some block) : data.drop lo = block.bytes ++ data.drop (lo + 32) := by
  unfold part at found
  split at found
  · cases found
    have split := List.take_append_drop 32 (data.drop lo)
    rwa [List.drop_drop, eq_comm] at split
  · cases found

end Parts

theorem sendAll_quiet {conn : Conn UInt8} (quiet : conn.writeFault = fun _ => none) (buf : List UInt8) :
    sendAll buf conn = (.ok (), { conn with sent := conn.sent + buf.length, output := conn.output ++ buf }) := by
  rw [sendAll, quiet]

theorem recvAll_apply {size : Nat} {conn : Conn UInt8} {block : Block UInt8 size} {rest : List UInt8}
    (input : conn.input = block.bytes ++ rest) :
    recvAll size conn = (.ok block, { conn with input := rest, recv := conn.recv + size }) := by
  have fits : size ≤ conn.input.length := by
    rw [input, List.length_append, block.bytes_length]
    omega
  unfold recvAll
  rw [dif_pos fits]
  have front : conn.input.take size = block.bytes := by rw [input, List.take_left' block.bytes_length]
  have back : conn.input.drop size = rest := by rw [input, List.drop_left' block.bytes_length]
  simp only [front, back]

theorem recvAll_ok {size : Nat} {conn after : Conn UInt8} {block : Block UInt8 size}
    (run : recvAll size conn = (.ok block, after)) :
    conn.input = block.bytes ++ after.input ∧ after = { conn with input := after.input, recv := conn.recv + size } := by
  unfold recvAll at run
  split at run
  · cases run
    exact ⟨(List.take_append_drop size conn.input).symm, rfl⟩
  · cases run

theorem recvByte_apply {conn : Conn UInt8} {byte : UInt8} {rest : List UInt8} (input : conn.input = byte :: rest) :
    recvByte conn = (.ok byte, { conn with input := rest, recv := conn.recv + 1 }) := by
  have one : (⟨[byte], rfl⟩ : Block UInt8 1).bytes ++ rest = conn.input := input.symm
  rw [recvByte, Effect.bind_of_ok (recvAll_apply one.symm)]
  rfl

theorem recvByte_ok {conn after : Conn UInt8} {byte : UInt8} (run : recvByte conn = (.ok byte, after)) :
    conn.input = byte :: after.input ∧ after = { conn with input := after.input, recv := conn.recv + 1 } := by
  obtain ⟨block, middle, read, done⟩ := Effect.bind_ok.mp run
  cases done
  obtain ⟨input, same⟩ := recvAll_ok read
  obtain ⟨_ | ⟨letter, _ | _⟩, size⟩ := block
  · cases size
  · exact ⟨input, same⟩
  · cases size

end ZkArche.CImpl

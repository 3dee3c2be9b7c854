import ZkArche.Primitives.Wire

namespace ZkArche

open Foundation

variable {β ε α γ : Type}

/-- The part of a dialogue consumes exactly these bytes and hands back this value. -/
def Reads (part : Effect ε (Conn β) α) (bytes : List β) (value : α) : Prop :=
  ∀ conn rest, conn.input = bytes ++ rest →
    part conn = (.ok value, { conn with input := rest, recv := conn.recv + bytes.length })

def Writes (part : Effect ε (Conn β) α) (bytes : List β) (value : α) : Prop :=
  ∀ conn, conn.writeFault = (fun _ => none) →
    part conn = (.ok value, { conn with sent := conn.sent + bytes.length, output := conn.output ++ bytes })

/-- What a connection still has to deliver and has sent so far, while its writes succeed. -/
structure Conn.Stands (conn : Conn β) (input output : List β) : Prop where
  input : conn.input = input
  output : conn.output = output
  quiet : conn.writeFault = fun _ => none

namespace Reads

variable {first : Effect ε (Conn β) α} {next : α → Effect ε (Conn β) γ} {front back : List β} {value : α}
  {result : γ}

theorem bind (head : Reads first front value) (tail : Reads (next value) back result) :
    Reads (first >>= next) (front ++ back) result := by
  intro conn rest input
  rw [List.append_assoc] at input
  rw [Effect.bind_of_ok (head conn _ input), tail _ rest rfl]
  simp only [List.length_append, Nat.add_assoc]

theorem after (silent : ∀ conn, first conn = (.ok value, conn)) (tail : Reads (next value) back result) :
    Reads (first >>= next) back result := by
  intro conn rest input
  rw [Effect.bind_of_ok (silent conn)]
  exact tail conn rest input

theorem silent (silent : ∀ conn, first conn = (.ok value, conn)) : Reads first [] value := by
  intro conn rest input
  rw [List.nil_append] at input
  rw [silent, ← input]
  rfl

theorem pure (value : α) : Reads (Pure.pure value : Effect ε (Conn β) α) [] value := silent fun _ => rfl

theorem last (head : Reads first front value) (tail : Reads (next value) [] result) :
    Reads (first >>= next) front result := by
  have whole := head.bind tail
  rwa [List.append_nil] at whole

theorem step {conn : Conn β} {rest output : List β} (reads : Reads first front value)
    (stands : conn.Stands (front ++ rest) output) :
    ∃ after, first conn = (.ok value, after) ∧ after.Stands rest output := by
  exact ⟨_, reads conn rest stands.input, rfl, stands.output, stands.quiet⟩

theorem recvExact {size : Nat} (block : Block β size) : Reads (ZkArche.recvExact size) block.bytes block := by
  intro conn rest input
  rw [recvExact_apply input, block.bytes_length]

theorem recvVec {size : Nat} {buf : List β} (length : buf.length = size) :
    Reads (ZkArche.recvVec size) buf buf := by
  intro conn rest input
  rw [recvVec_apply input length, length]

theorem recvU8 [Octet β] (letter : β) : Reads ZkArche.recvU8 [letter] (Octet.val letter) :=
  fun _ _ input => recvU8_apply input

end Reads

namespace Writes

variable {first : Effect ε (Conn β) α} {next : α → Effect ε (Conn β) γ} {front back : List β} {value : α}
  {result : γ}

theorem bind (head : Writes first front value) (tail : Writes (next value) back result) :
    Writes (first >>= next) (front ++ back) result := by
  intro conn quiet
  have run := tail { conn with sent := conn.sent + front.length, output := conn.output ++ front } quiet
  rw [Effect.bind_of_ok (head conn quiet), run]
  simp only [List.append_assoc, List.length_append, Nat.add_assoc]

theorem after (silent : ∀ conn, first conn = (.ok value, conn)) (tail : Writes (next value) back result) :
    Writes (first >>= next) back result := by
  intro conn quiet
  rw [Effect.bind_of_ok (silent conn)]
  exact tail conn quiet

theorem last (head : Writes first front value) (tail : Writes (next value) [] result) :
    Writes (first >>= next) front result := by
  have whole := head.bind tail
  rwa [List.append_nil] at whole

theorem step {conn : Conn β} {input output : List β} (writes : Writes first front value)
    (stands : conn.Stands input output) :
    ∃ after, first conn = (.ok value, after) ∧ after.Stands input (output ++ front) := by
  exact ⟨_, writes conn stands.quiet, stands.input, by rw [stands.output], stands.quiet⟩

theorem pure (value : α) : Writes (Pure.pure value : Effect ε (Conn β) α) [] value :=
  fun conn _ => by rw [List.append_nil]; rfl

theorem sendAll (buf : List β) : Writes (ZkArche.sendAll buf) buf () :=
  fun _ quiet => sendAll_apply (by rw [quiet])

end Writes

theorem silent_failIf {condition : Bool} (passed : condition = false) (failure : ε) (conn : Conn β) :
    (Effect.failIf condition failure : Effect ε (Conn β) Unit) conn = (.ok (), conn) :=
  Effect.failIf_of_false passed

theorem silent_lift {result : Except ε α} {value : α} (succeeds : result = .ok value) (conn : Conn β) :
    (Effect.lift result : Effect ε (Conn β) α) conn = (.ok value, conn) :=
  Effect.lift_of_ok succeeds

def Listens (part : Effect ε (Conn β) α) : Prop :=
  ∀ conn, (part conn).2.output = conn.output ∧ (part conn).2.writeFault = conn.writeFault

namespace Listens

variable {first : Effect ε (Conn β) α} {next : α → Effect ε (Conn β) γ}

theorem bind (head : Listens first) (tail : ∀ value, Listens (next value)) : Listens (first >>= next) := by
  intro conn
  obtain ⟨output, quiet⟩ := head conn
  rcases outcome : first conn with ⟨failure | value, after⟩
  · rw [outcome] at output quiet
    rw [Effect.bind_of_error outcome]
    exact ⟨output, quiet⟩
  · rw [outcome] at output quiet
    rw [Effect.bind_of_ok outcome]
    obtain ⟨output', quiet'⟩ := tail value after
    exact ⟨output'.trans output, quiet'.trans quiet⟩

theorem pure (value : α) : Listens (Pure.pure value : Effect ε (Conn β) α) := fun _ => ⟨rfl, rfl⟩

theorem lift (result : Except ε α) : Listens (Effect.lift result : Effect ε (Conn β) α) := fun _ => ⟨rfl, rfl⟩

theorem failIf (condition : Bool) (failure : ε) : Listens (Effect.failIf condition failure : Effect ε (Conn β) Unit) := by
  intro conn
  cases condition <;> exact ⟨rfl, rfl⟩

theorem recvExact (size : Nat) : Listens (ZkArche.recvExact size : Effect Failure (Conn β) _) := by
  intro conn
  unfold ZkArche.recvExact
  split <;> exact ⟨rfl, rfl⟩

theorem recvVec (size : Nat) : Listens (ZkArche.recvVec size : Effect Failure (Conn β) _) :=
  (recvExact size).bind fun _ => pure _

theorem recvU8 [Octet β] : Listens (ZkArche.recvU8 : Effect Failure (Conn β) _) := (recvExact 1).bind fun _ => pure _

end Listens

def Delivers (writeFault : Nat → Option IoError) : Nat → List Nat → Prop
  | _, [] => True
  | sent, length :: lengths => writeFault sent = none ∧ Delivers writeFault (sent + length) lengths

section Succeeds

variable {conn : Conn β} {size : Nat} {buf : List β}

theorem succeeds_sendAll_bind {next : Unit → Effect Failure (Conn β) γ} :
    Effect.Succeeds (sendAll buf >>= next) conn ↔ conn.writeFault conn.sent = none ∧
      Effect.Succeeds (next ()) { conn with sent := conn.sent + buf.length, output := conn.output ++ buf } := by
  rw [Effect.succeeds_bind]
  constructor
  · rintro ⟨value, middle, run, tail⟩
    have writable : conn.writeFault conn.sent = none := by
      cases fault : conn.writeFault conn.sent with
      | none => rfl
      | some error => simp [sendAll, fault] at run
    rw [sendAll_ok run] at tail
    exact ⟨writable, tail⟩
  · rintro ⟨writable, tail⟩
    exact ⟨(), _, sendAll_apply writable, tail⟩

theorem succeeds_sendAll : Effect.Succeeds (sendAll buf) conn ↔ conn.writeFault conn.sent = none := by
  rw [← bind_pure (sendAll buf), succeeds_sendAll_bind]
  exact and_iff_left (Effect.succeeds_pure _ _)

theorem succeeds_recvExact_bind {next : Block β size → Effect Failure (Conn β) γ} :
    Effect.Succeeds (recvExact size >>= next) conn ↔ ∃ (block : Block β size) (rest : List β),
      conn.input = block.bytes ++ rest ∧
        Effect.Succeeds (next block) { conn with input := rest, recv := conn.recv + size } := by
  rw [Effect.succeeds_bind]
  constructor
  · rintro ⟨block, middle, run, tail⟩
    obtain ⟨input, same⟩ := recvExact_ok run
    rw [same] at tail
    exact ⟨block, middle.input, input, tail⟩
  · rintro ⟨block, rest, input, tail⟩
    exact ⟨block, _, recvExact_apply input, tail⟩

end Succeeds

end ZkArche

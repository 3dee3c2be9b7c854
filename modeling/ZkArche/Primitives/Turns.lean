import ZkArche.Primitives.Exchange
import ZkArche.Primitives.Suite

namespace ZkArche

open Foundation

variable {β ε σ τ α γ : Type}

/-- A connection that has delivered some bytes, with `rest` still to come, and taken some. -/
def Conn.moved (conn : Conn β) (rest consumed written : List β) : Conn β :=
  { conn with
    input := rest
    output := conn.output ++ written
    sent := conn.sent + written.length
    recv := conn.recv + consumed.length }

def Conn.Quiet (conn : Conn β) : Prop := conn.writeFault = fun _ => none

theorem Conn.Quiet.moved {conn : Conn β} (quiet : conn.Quiet) (rest consumed written : List β) :
    (conn.moved rest consumed written).Quiet := quiet

theorem Conn.moved_nil (conn : Conn β) : conn.moved conn.input [] [] = conn := by
  unfold Conn.moved
  rw [List.append_nil]
  rfl

def Conn.talked (consumed written : List β) : Conn β :=
  { input := [], output := written, sent := written.length, recv := consumed.length, writeFault := fun _ => none }

theorem Conn.talked_eq (consumed written : List β) :
    (Conn.opened consumed).moved [] consumed written = Conn.talked consumed written := by
  simp only [Conn.moved, Conn.opened, Conn.talked, List.nil_append, Nat.zero_add]

theorem Conn.moved_moved (conn : Conn β) (middle rest consumed written consumed' written' : List β) :
    (conn.moved middle consumed written).moved rest consumed' written' =
      conn.moved rest (consumed ++ consumed') (written ++ written') := by
  simp only [Conn.moved, List.append_assoc, List.length_append, Nat.add_assoc]

/-- In a state made of a connection and something else, the part takes the latter from `before` to
    `after`, consumes exactly these bytes, writes exactly these and hands back this value. -/
def Turn (mk : τ → Conn β → σ) (part : Effect ε σ α) (before : τ) (consumed written : List β) (after : τ)
    (value : α) : Prop :=
  ∀ conn rest, conn.Quiet → conn.input = consumed ++ rest →
    part (mk before conn) = (.ok value, mk after (conn.moved rest consumed written))

def Waits (mk : τ → Conn β → σ) (part : Effect ε σ α) (before : τ) (consumed written : List β) : Prop :=
  ∀ conn, conn.Quiet → conn.input = consumed →
    ∃ failure after later, part (mk before conn) = (.error failure, mk after later) ∧
      later.output = conn.output ++ written

variable {mk : τ → Conn β → σ} {first : Effect ε σ α} {next : α → Effect ε σ γ} {before middle after : τ}
  {consumed written consumed' written' : List β} {value : α} {result : γ}

namespace Turn

theorem bind (head : Turn mk first before consumed written middle value)
    (tail : Turn mk (next value) middle consumed' written' after result) :
    Turn mk (first >>= next) before (consumed ++ consumed') (written ++ written') after result := by
  intro conn rest quiet input
  rw [List.append_assoc] at input
  rw [Effect.bind_of_ok (head conn _ quiet input), tail _ rest (quiet.moved _ _ _) rfl, Conn.moved_moved]

theorem silent (same : ∀ conn, first (mk before conn) = (.ok value, mk after conn)) :
    Turn mk first before [] [] after value := by
  intro conn rest _ input
  rw [List.nil_append] at input
  rw [same, ← input, Conn.moved_nil]

theorem pass (head : Turn mk first before [] [] middle value)
    (tail : Turn mk (next value) middle consumed written after result) :
    Turn mk (first >>= next) before consumed written after result := head.bind tail

theorem skip (same : ∀ conn, first (mk before conn) = (.ok value, mk middle conn))
    (tail : Turn mk (next value) middle consumed written after result) :
    Turn mk (first >>= next) before consumed written after result := (silent same).pass tail

theorem read (head : Turn mk first before consumed [] middle value)
    (tail : Turn mk (next value) middle consumed' written after result) :
    Turn mk (first >>= next) before (consumed ++ consumed') written after result := head.bind tail

theorem write (head : Turn mk first before [] written middle value)
    (tail : Turn mk (next value) middle consumed written' after result) :
    Turn mk (first >>= next) before consumed (written ++ written') after result := head.bind tail

theorem ask (head : Turn mk first before [] written middle value)
    (tail : Turn mk (next value) middle consumed [] after result) :
    Turn mk (first >>= next) before consumed written after result := by
  have whole := head.bind tail
  rwa [List.append_nil] at whole

theorem hear (head : Turn mk first before consumed [] middle value)
    (tail : Turn mk (next value) middle [] written after result) :
    Turn mk (first >>= next) before consumed written after result := by
  have whole := head.bind tail
  rwa [List.append_nil] at whole

theorem last (head : Turn mk first before consumed written middle value)
    (same : ∀ conn, next value (mk middle conn) = (.ok result, mk after conn)) :
    Turn mk (first >>= next) before consumed written after result := by
  have whole := head.bind (silent same)
  rwa [List.append_nil, List.append_nil] at whole

theorem pure (value : α) : Turn mk (Pure.pure value : Effect ε σ α) before [] [] before value :=
  silent fun _ => rfl

theorem attempt (turn : Turn mk first before consumed written after value) :
    Turn mk first.attempt before consumed written after (.ok value) :=
  fun conn rest quiet input => Effect.attempt_of_eq (turn conn rest quiet input)

theorem of_same {other : Effect ε σ α} {start : τ}
    (same : ∀ conn, conn.Quiet → other (mk start conn) = first (mk before conn))
    (turn : Turn mk first before consumed written after value) : Turn mk other start consumed written after value := by
  intro conn rest quiet input
  rw [same conn quiet, turn conn rest quiet input]

theorem opened (turn : Turn mk first before consumed written after value) :
    first (mk before (.opened consumed)) = (.ok value, mk after (Conn.talked consumed written)) := by
  rw [turn (.opened consumed) [] rfl (List.append_nil _).symm, Conn.talked_eq]

end Turn

namespace Waits

theorem bind (head : Waits mk first before consumed written) :
    Waits mk (first >>= next) before consumed written := by
  intro conn quiet input
  obtain ⟨failure, after, later, run, output⟩ := head conn quiet input
  exact ⟨failure, after, later, Effect.bind_of_error run, output⟩

theorem following (head : Turn mk first before consumed written middle value)
    (tail : Waits mk (next value) middle consumed' written') :
    Waits mk (first >>= next) before (consumed ++ consumed') (written ++ written') := by
  intro conn quiet input
  obtain ⟨failure, after, later, run, output⟩ := tail (conn.moved consumed' consumed written) (quiet.moved _ _ _) rfl
  refine ⟨failure, after, later, ?_, ?_⟩
  · rw [Effect.bind_of_ok (head conn consumed' quiet input), run]
  · rw [output, ← List.append_assoc]
    rfl

theorem pass (head : Turn mk first before [] [] middle value)
    (tail : Waits mk (next value) middle consumed written) : Waits mk (first >>= next) before consumed written :=
  following head tail

theorem skip (same : ∀ conn, first (mk before conn) = (.ok value, mk middle conn))
    (tail : Waits mk (next value) middle consumed written) : Waits mk (first >>= next) before consumed written :=
  pass (Turn.silent same) tail

theorem read (head : Turn mk first before consumed [] middle value)
    (tail : Waits mk (next value) middle consumed' written) :
    Waits mk (first >>= next) before (consumed ++ consumed') written := following head tail

theorem write (head : Turn mk first before [] written middle value)
    (tail : Waits mk (next value) middle consumed written') :
    Waits mk (first >>= next) before consumed (written ++ written') := following head tail

theorem ask (head : Turn mk first before [] written middle value) (tail : Waits mk (next value) middle consumed []) :
    Waits mk (first >>= next) before consumed written := by
  have whole := following head tail
  rwa [List.append_nil] at whole

theorem hear (head : Turn mk first before consumed [] middle value) (tail : Waits mk (next value) middle [] written) :
    Waits mk (first >>= next) before consumed written := by
  have whole := following head tail
  rwa [List.append_nil] at whole

theorem of_same {other : Effect ε σ α} {start : τ}
    (same : ∀ conn, conn.Quiet → other (mk start conn) = first (mk before conn))
    (waits : Waits mk first before consumed written) : Waits mk other start consumed written := by
  intro conn quiet input
  rw [same conn quiet]
  exact waits conn quiet input

theorem opened (waits : Waits mk first before consumed written) :
    ∃ failure after later, first (mk before (.opened consumed)) = (.error failure, mk after later) ∧
      later.output = written := waits (.opened consumed) rfl rfl

end Waits

section Parts

def onlyConn (_ : Unit) (conn : Conn β) : Conn β := conn

theorem Reads.turn {part : Effect ε (Conn β) α} (reads : Reads part consumed value) :
    Turn onlyConn part () consumed [] () value := by
  intro conn rest _ input
  rw [onlyConn, reads conn rest input]
  simp [onlyConn, Conn.moved]

theorem Writes.turn {part : Effect ε (Conn β) α} (writes : Writes part written value) :
    Turn onlyConn part () [] written () value := by
  intro conn rest quiet input
  rw [List.nil_append] at input
  rw [onlyConn, writes conn quiet, ← input]
  rfl

section Zoomed

variable {part : Effect ε (Conn β) α} {mk : τ → Conn β → σ} {view : σ → Conn β} {put : Conn β → σ → σ}

theorem Turn.zoom (turn : Turn onlyConn part () consumed written () value) (before : τ)
    (views : ∀ conn, view (mk before conn) = conn) (puts : ∀ conn after, put after (mk before conn) = mk before after) :
    Turn mk (Effect.zoom view put part) before consumed written before value := by
  intro conn rest quiet input
  have run := turn conn rest quiet input
  change part conn = _ at run
  rw [Effect.zoom_apply, views, run, puts]
  rfl

theorem Waits.zoom (waits : Waits onlyConn part () consumed written) (before : τ)
    (views : ∀ conn, view (mk before conn) = conn) (puts : ∀ conn after, put after (mk before conn) = mk before after) :
    Waits mk (Effect.zoom view put part) before consumed written := by
  intro conn quiet input
  obtain ⟨failure, _, later, run, output⟩ := waits conn quiet input
  change part conn = _ at run
  refine ⟨failure, before, later, ?_, output⟩
  rw [Effect.zoom_apply, views, run, puts]
  rfl

end Zoomed

theorem Waits.recvExact {size : Nat} (positive : 0 < size) :
    Waits onlyConn (ZkArche.recvExact size : Effect Failure (Conn β) _) () [] [] := by
  intro conn _ input
  have starved : ¬ size ≤ conn.input.length := by
    rw [input]
    exact Nat.not_le_of_lt positive
  have run : ZkArche.recvExact size conn =
      (.error (.io ⟨.unexpectedEof, "failed to fill whole buffer"⟩), { conn with input := [] }) := by
    rw [ZkArche.recvExact, dif_neg starved]
  exact ⟨_, (), _, run, (List.append_nil _).symm⟩

theorem Waits.recvVec {size : Nat} (positive : 0 < size) :
    Waits onlyConn (ZkArche.recvVec size : Effect Failure (Conn β) _) () [] [] := (recvExact positive).bind

theorem Waits.recvU8 [Octet β] : Waits onlyConn (ZkArche.recvU8 : Effect Failure (Conn β) _) () [] [] :=
  (recvExact Nat.one_pos).bind

variable {S P : Type} [Field S] [AddCommGroup P] [Module S P]

theorem Waits.recvPoint [DecidableEq P] {G : Suite β S P} {label : String} :
    Waits onlyConn (ZkArche.recvPoint G label) () [] [] := (recvExact (by decide)).bind

end Parts

end ZkArche

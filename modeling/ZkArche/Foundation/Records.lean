import ZkArche.Foundation.Octets

namespace Foundation

variable {β : Type} [Octet β]

/-- A string behind its length in one byte; the length is truncated as by `as u8`. -/
def prefixed (text : List UInt8) : List β := Octet.lit (UInt8.ofNat text.length) :: lits text

/-- A labelled message: the label behind one length byte, the message behind four. -/
def record (label : List UInt8) (message : List β) : List β :=
  prefixed label ++ lits (leBytes 4 message.length) ++ message

/-- A domain separator followed by labelled messages. -/
def records (domain : List UInt8) (fields : List (List UInt8 × List β)) : List β :=
  prefixed domain ++ fields.flatMap fun field => record field.1 field.2

/-- The lengths fit the prefixes that announce them. -/
def FieldFits (field : List UInt8 × List β) : Prop :=
  field.1.length ≤ 255 ∧ field.2.length < 2 ^ 32

instance (field : List UInt8 × List β) : Decidable (FieldFits field) :=
  inferInstanceAs (Decidable (_ ∧ _))

theorem prefixed_append_inj {left right : List UInt8} {leftRest rightRest : List β}
    (leftFits : left.length ≤ 255) (rightFits : right.length ≤ 255)
    (equal : prefixed left ++ leftRest = prefixed right ++ rightRest) :
    left = right ∧ leftRest = rightRest := by
  simp only [prefixed, List.cons_append, List.cons.injEq] at equal
  obtain ⟨announced, rest⟩ := equal
  have lengths : left.length = right.length := by
    have values := congrArg UInt8.toNat (Octet.lit_injective announced)
    simp only [UInt8.toNat_ofNat'] at values
    omega
  obtain ⟨text, rest⟩ := List.append_inj rest (by simp [lengths])
  exact ⟨lits_injective text, rest⟩

theorem record_append_inj {left right : List UInt8 × List β} {leftRest rightRest : List β}
    (leftFits : FieldFits left) (rightFits : FieldFits right)
    (equal : record left.1 left.2 ++ leftRest = record right.1 right.2 ++ rightRest) :
    left = right ∧ leftRest = rightRest := by
  simp only [record, List.append_assoc] at equal
  obtain ⟨label, rest⟩ := prefixed_append_inj leftFits.1 rightFits.1 equal
  obtain ⟨announced, rest⟩ := List.append_inj rest (by simp)
  have lengths := leBytes_inj (by simpa using leftFits.2) (by simpa using rightFits.2)
    (lits_injective announced)
  obtain ⟨message, rest⟩ := List.append_inj rest lengths
  exact ⟨Prod.ext label message, rest⟩

theorem record_ne_nil (label : List UInt8) (message : List β) : record label message ≠ [] := by
  simp [record, prefixed]

theorem fields_inj {left right : List (List UInt8 × List β)}
    (leftFits : ∀ field ∈ left, FieldFits field) (rightFits : ∀ field ∈ right, FieldFits field)
    (equal : (left.flatMap fun field => record field.1 field.2) =
      right.flatMap fun field => record field.1 field.2) : left = right := by
  induction left generalizing right with
  | nil =>
    cases right with
    | nil => rfl
    | cons field right =>
      simp only [List.flatMap_nil, List.flatMap_cons] at equal
      exact absurd (List.append_eq_nil_iff.mp equal.symm).1 (record_ne_nil _ _)
  | cons field left ih =>
    cases right with
    | nil =>
      simp only [List.flatMap_nil, List.flatMap_cons] at equal
      exact absurd (List.append_eq_nil_iff.mp equal).1 (record_ne_nil _ _)
    | cons field' right =>
      simp only [List.flatMap_cons] at equal
      obtain ⟨same, rest⟩ := record_append_inj (leftFits field (by simp)) (rightFits field' (by simp)) equal
      have tails := ih (fun f member => leftFits f (by simp [member]))
        (fun f member => rightFits f (by simp [member])) rest
      rw [same, tails]

theorem records_inj {domain domain' : List UInt8} {fields fields' : List (List UInt8 × List β)}
    (domainFits : domain.length ≤ 255) (domainFits' : domain'.length ≤ 255)
    (fits : ∀ field ∈ fields, FieldFits field) (fits' : ∀ field ∈ fields', FieldFits field)
    (equal : (records domain fields : List β) = records domain' fields') :
    domain = domain' ∧ fields = fields' := by
  obtain ⟨domains, rest⟩ := prefixed_append_inj domainFits domainFits' equal
  exact ⟨domains, fields_inj fits fits' rest⟩

end Foundation

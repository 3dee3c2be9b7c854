import Mathlib.Data.List.TakeWhile
import ZkArche.Primitives.Transcript

namespace ZkArche.CImpl

open Foundation

/-- The bytes of a C string, up to its terminating zero. -/
def strBytes (string : List UInt8) : List UInt8 := string.takeWhile (· ≠ 0)

theorem strBytes_of_clean {string : List UInt8} (clean : 0 ∉ string) : strBytes string = string := by
  unfold strBytes
  rw [List.takeWhile_eq_self_iff]
  intro byte member
  exact decide_eq_true fun zero => clean (zero ▸ member)

def transcriptCapacity : Nat := 4096

structure Transcript where
  buf : List UInt8
  deriving DecidableEq

/-- Writing behind the first bytes of the buffer. Past its end the behaviour is undefined. -/
def Transcript.write (tr : Transcript) (bytes : List UInt8) : Option Transcript :=
  if tr.buf.length + bytes.length ≤ transcriptCapacity then some ⟨tr.buf ++ bytes⟩ else none

def trInit (domain : List UInt8) : Option Transcript := do
  let dlen := (strBytes domain).length
  let tr ← Transcript.write ⟨[]⟩ [UInt8.ofNat dlen]
  tr.write (strBytes domain)

/-- `vlen` is the number of bytes of `val`, passed as a `uint32_t`. -/
def trAppend (label val : List UInt8) (tr : Transcript) : Option Transcript := do
  let llen := (strBytes label).length
  let vlen := UInt32.ofNat val.length
  let tr ← tr.write [UInt8.ofNat llen]
  let tr ← tr.write (strBytes label)
  let tr ← tr.write [vlen.toUInt8]
  let tr ← tr.write [(vlen >>> 8).toUInt8]
  let tr ← tr.write [(vlen >>> 16).toUInt8]
  let tr ← tr.write [(vlen >>> 24).toUInt8]
  tr.write val

/-- `tr_init` and then `tr_append` for each field. -/
def trBuild (domain : List UInt8) (fields : List (List UInt8 × List UInt8)) : Option Transcript := do
  let tr ← trInit domain
  fields.foldlM (fun tr field => trAppend field.1 field.2 tr) tr

theorem write_of_fits {tr : Transcript} {bytes : List UInt8}
    (fits : (tr.buf ++ bytes).length ≤ transcriptCapacity) : tr.write bytes = some ⟨tr.buf ++ bytes⟩ := by
  rw [List.length_append] at fits
  rw [Transcript.write, if_pos fits]

theorem shifted_bytes {length : Nat} :
    [(UInt32.ofNat length).toUInt8, (UInt32.ofNat length >>> 8).toUInt8, (UInt32.ofNat length >>> 16).toUInt8,
      (UInt32.ofNat length >>> 24).toUInt8] = leBytes 4 length := by
  have low : (UInt32.ofNat length).toUInt8 = UInt8.ofNat (length % 256) := by
    apply UInt8.toNat_inj.mp
    simp
  have shifted : ∀ shift : UInt32, shift.toNat = 8 ∨ shift.toNat = 16 ∨ shift.toNat = 24 →
      (UInt32.ofNat length >>> shift).toUInt8 = UInt8.ofNat (length / 2 ^ shift.toNat % 256) := by
    intro shift small
    apply UInt8.toNat_inj.mp
    rcases small with eight | sixteen | twentyFour
    · simp [Nat.shiftRight_eq_div_pow, eight]
      omega
    · simp [Nat.shiftRight_eq_div_pow, sixteen]
      omega
    · simp [Nat.shiftRight_eq_div_pow, twentyFour]
      omega
  rw [low, shifted 8 (by decide), shifted 16 (by decide), shifted 24 (by decide)]
  simp only [leBytes, Nat.div_div_eq_div_mul]
  rfl

theorem trInit_eq {domain : List UInt8} (clean : 0 ∉ domain)
    (fits : (CompatTranscript.new domain : CompatTranscript UInt8).buf.length ≤ transcriptCapacity) :
    trInit domain = some ⟨(CompatTranscript.new domain : CompatTranscript UInt8).buf⟩ := by
  simp only [CompatTranscript.new, List.length_cons, lits_length] at fits
  have first : Transcript.write ⟨[]⟩ [UInt8.ofNat domain.length] = some ⟨[UInt8.ofNat domain.length]⟩ :=
    write_of_fits (by simp [transcriptCapacity])
  have second : Transcript.write ⟨[UInt8.ofNat domain.length]⟩ domain = some ⟨[UInt8.ofNat domain.length] ++ domain⟩ :=
    write_of_fits (by simp; omega)
  simp only [trInit, strBytes_of_clean clean, first, Option.bind_eq_bind, Option.bind_some, second]
  simp [CompatTranscript.new, lits, Octet.lit]

/-- Appending a field has the bytes of the other implementation as long as they fit the buffer. -/
theorem trAppend_eq {label val : List UInt8} {tr : CompatTranscript UInt8} (clean : 0 ∉ label)
    (fits : (tr.appendMessage label val).buf.length ≤ transcriptCapacity) :
    trAppend label val ⟨tr.buf⟩ = some ⟨(tr.appendMessage label val).buf⟩ := by
  have whole : (tr.appendMessage label val).buf =
      tr.buf ++ [UInt8.ofNat label.length] ++ label ++ leBytes 4 val.length ++ val := by
    simp [CompatTranscript.appendMessage, lits, Octet.lit]
  rw [whole, ← shifted_bytes] at fits ⊢
  simp only [List.length_append, List.length_cons, List.length_nil] at fits
  simp only [trAppend, strBytes_of_clean clean, Option.bind_eq_bind]
  rw [write_of_fits (by simp; omega), Option.bind_some, write_of_fits (by simp; omega), Option.bind_some,
    write_of_fits (by simp; omega), Option.bind_some, write_of_fits (by simp; omega), Option.bind_some,
    write_of_fits (by simp; omega), Option.bind_some, write_of_fits (by simp; omega), Option.bind_some,
    write_of_fits (by simp; omega)]
  simp

theorem length_le_foldl (fields : List (List UInt8 × List UInt8)) (tr : CompatTranscript UInt8) :
    tr.buf.length ≤ (fields.foldl (fun tr field => tr.appendMessage field.1 field.2) tr).buf.length := by
  induction fields generalizing tr with
  | nil => exact Nat.le_refl _
  | cons field fields ih =>
    have grown := ih (tr.appendMessage field.1 field.2)
    rw [appendMessage_buf, List.length_append] at grown
    rw [List.foldl_cons]
    omega

theorem trBuild_eq {domain : List UInt8} {fields : List (List UInt8 × List UInt8)} (cleanDomain : 0 ∉ domain)
    (cleanLabels : ∀ field ∈ fields, 0 ∉ field.1)
    (fits : (CompatTranscript.ofFields domain fields).buf.length ≤ transcriptCapacity) :
    trBuild domain fields = some ⟨(CompatTranscript.ofFields domain fields).buf⟩ := by
  have loop : ∀ (fields : List (List UInt8 × List UInt8)) (tr : CompatTranscript UInt8),
      (∀ field ∈ fields, 0 ∉ field.1) →
      (fields.foldl (fun tr field => tr.appendMessage field.1 field.2) tr).buf.length ≤ transcriptCapacity →
      fields.foldlM (fun tr field => trAppend field.1 field.2 tr) (Transcript.mk tr.buf) =
        some ⟨(fields.foldl (fun tr field => tr.appendMessage field.1 field.2) tr).buf⟩ := by
    intro fields
    induction fields with
    | nil => intro tr _ _; rfl
    | cons field fields ih =>
      intro tr clean fits
      rw [List.foldl_cons] at fits
      have here := trAppend_eq (clean field List.mem_cons_self) ((length_le_foldl fields _).trans fits)
      rw [List.foldlM_cons, here, List.foldl_cons]
      exact ih _ (fun other member => clean other (List.mem_cons_of_mem _ member)) fits
  have start := trInit_eq cleanDomain ((length_le_foldl fields _).trans fits)
  rw [trBuild, start]
  exact loop fields _ cleanLabels fits

@[simp] theorem lits_bytes (bytes : List UInt8) : (lits bytes : List UInt8) = bytes := List.map_id _

def Writable (domain : List UInt8) (fields : List (List UInt8 × List UInt8)) : Prop :=
  0 ∉ domain ∧ (∀ label ∈ fields.map (·.1), 0 ∉ label) ∧
    1 + domain.length + (fields.map fun field => 5 + field.1.length + field.2.length).sum ≤ transcriptCapacity

theorem trBuild_of_writable {domain : List UInt8} {fields : List (List UInt8 × List UInt8)}
    (writable : Writable domain fields) :
    trBuild domain fields = some ⟨(CompatTranscript.ofFields domain fields).buf⟩ := by
  obtain ⟨cleanDomain, cleanLabels, fits⟩ := writable
  apply trBuild_eq cleanDomain
  · intro field member
    exact cleanLabels _ (List.mem_map_of_mem member)
  · rw [ofFields_length]
    exact fits

/-- A transcript determines its domain and its fields, the C code writes the same bytes while
    they fit its buffer, and transcripts of two protocol domains are never the same. -/
theorem transcript_encoding_injective {β : Type} [Octet β] :
    (∀ (domain domain' : List UInt8) (fields fields' : List (List UInt8 × List β)),
      domain.length ≤ 255 → domain'.length ≤ 255 → (∀ field ∈ fields, FieldFits field) →
      (∀ field ∈ fields', FieldFits field) →
      (CompatTranscript.ofFields domain fields).buf = (CompatTranscript.ofFields domain' fields').buf →
      domain = domain' ∧ fields = fields') ∧
    (∀ (domain : List UInt8) (fields : List (List UInt8 × List UInt8)), 0 ∉ domain →
      (∀ field ∈ fields, 0 ∉ field.1) →
      (CompatTranscript.ofFields domain fields).buf.length ≤ transcriptCapacity →
      trBuild domain fields = some ⟨(CompatTranscript.ofFields domain fields).buf⟩) ∧
    transcriptDomains.Pairwise fun domain domain' => ∀ fields fields' : List (List UInt8 × List β),
      (CompatTranscript.ofFields domain fields).buf ≠ (CompatTranscript.ofFields domain' fields').buf := by
  refine ⟨?_, ?_, ?_⟩
  · intro domain domain' fields fields' domainFits domainFits' fits fits' equal
    exact ofFields_inj domainFits domainFits' fits fits' equal
  · intro domain fields cleanDomain cleanLabels fits
    exact trBuild_eq cleanDomain cleanLabels fits
  · have distinct : transcriptDomains.Pairwise fun domain domain' => domain ≠ domain' := by decide
    apply List.Pairwise.imp_of_mem _ distinct
    intro domain domain' member member' different fields fields' equal
    exact different (domain_of_ofFields (transcriptDomains_fit domain member)
      (transcriptDomains_fit domain' member') equal)

theorem transcript_encoding_injective_pid :
    trBuild tKcV2 [(ascii "pid", [7])] = some ⟨(CompatTranscript.ofFields tKcV2 [(ascii "pid", [7])]).buf⟩ ∧
      (CompatTranscript.ofFields tKcV2 [(ascii "pid", [(7 : UInt8)])]).buf ≠
        (CompatTranscript.ofFields tKcV2 [(ascii "pid", [8])]).buf := by
  obtain ⟨injective, written, _⟩ := transcript_encoding_injective (β := UInt8)
  constructor
  · exact written tKcV2 [(ascii "pid", [7])] (by decide) (by decide) (by decide)
  · intro equal
    have same := injective _ _ _ _ (by decide) (by decide) (by decide) (by decide) equal
    exact absurd same (by decide)

end ZkArche.CImpl

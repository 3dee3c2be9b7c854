import ZkArche.Foundation.Records
import ZkArche.Primitives.Suite

namespace ZkArche

open Foundation

variable {β S P : Type} [Octet β] [Field S] [AddCommGroup P] [Module S P]

/-- Builds a deterministic, C-compatible transcript buffer that is later hashed into
    protocol challenges. The client and the server carry the same copy of it. -/
structure CompatTranscript (β : Type) where
  buf : List β

def CompatTranscript.new (domain : List UInt8) : CompatTranscript β :=
  ⟨Octet.lit (UInt8.ofNat domain.length) :: lits domain⟩

def CompatTranscript.appendMessage (t : CompatTranscript β) (label : List UInt8) (msg : List β) :
    CompatTranscript β :=
  ⟨t.buf ++ Octet.lit (UInt8.ofNat label.length) :: lits label ++ lits (leBytes 4 msg.length) ++ msg⟩

/-- A new transcript and then one message after the other. -/
def CompatTranscript.ofFields (domain : List UInt8) (fields : List (List UInt8 × List β)) : CompatTranscript β :=
  fields.foldl (fun t field => t.appendMessage field.1 field.2) (.new domain)

def CompatTranscript.challengeScalar (G : Suite β S P) (t : CompatTranscript β) : S :=
  G.fromBytesModOrderWide (G.sha512 t.buf)

/-- Wraps the supported value types that can be appended into a compatibility transcript. -/
inductive TranscriptValue (β P : Type) where
  | bytes (b : List β)
  | u64 (n : UInt64)
  | u8 (n : UInt8)
  | point (p : P)

def TranscriptValue.serialize (G : Suite β S P) : TranscriptValue β P → List β
  | .bytes b => b
  | .u64 n => lits (leBytes 8 n.toNat)
  | .u8 n => lits [n]
  | .point p => (G.compress p).bytes

def appendTv (G : Suite β S P) (t : CompatTranscript β) (label : List UInt8)
    (v : TranscriptValue β P) : CompatTranscript β :=
  t.appendMessage label (v.serialize G)

/-- Constructs a transcript from a domain separator and an ordered list of labeled fields. -/
def buildTranscript (G : Suite β S P) (domain : List UInt8)
    (fields : List (List UInt8 × TranscriptValue β P)) : CompatTranscript β :=
  fields.foldl (fun t field => appendTv G t field.1 field.2) (.new domain)

theorem new_buf (domain : List UInt8) :
    (CompatTranscript.new domain : CompatTranscript β).buf = records domain [] := by
  simp [CompatTranscript.new, records, prefixed]

theorem appendMessage_buf (t : CompatTranscript β) (label : List UInt8) (msg : List β) :
    (t.appendMessage label msg).buf = t.buf ++ record label msg := by
  simp [CompatTranscript.appendMessage, record, prefixed]

theorem appendMessage_records {t : CompatTranscript β} {domain : List UInt8}
    {fields : List (List UInt8 × List β)} (encoded : t.buf = records domain fields)
    (label : List UInt8) (msg : List β) :
    (t.appendMessage label msg).buf = records domain (fields ++ [(label, msg)]) := by
  rw [appendMessage_buf, encoded]
  simp [records]

theorem foldl_appendMessage_buf {α : Type} {t : CompatTranscript β} {domain : List UInt8}
    {fields : List (List UInt8 × List β)} (encoded : t.buf = records domain fields)
    (items : List α) (entry : α → List UInt8 × List β) :
    (items.foldl (fun t item => t.appendMessage (entry item).1 (entry item).2) t).buf =
      records domain (fields ++ items.map entry) := by
  induction items generalizing t fields with
  | nil => simpa using encoded
  | cons item items ih =>
    rw [List.foldl_cons, ih (appendMessage_records encoded _ _)]
    simp

theorem ofFields_buf (domain : List UInt8) (fields : List (List UInt8 × List β)) :
    (CompatTranscript.ofFields domain fields).buf = records domain fields := by
  have encoded := foldl_appendMessage_buf (new_buf (β := β) domain) fields id
  rw [List.nil_append, List.map_id] at encoded
  exact encoded

/-- A transcript has a length byte for its domain, and five bytes beside each label and message. -/
theorem ofFields_length (domain : List UInt8) (fields : List (List UInt8 × List β)) :
    (CompatTranscript.ofFields domain fields).buf.length =
      1 + domain.length + (fields.map fun field => 5 + field.1.length + field.2.length).sum := by
  rw [ofFields_buf, records]
  simp only [prefixed, List.length_append, List.length_cons, lits_length, List.length_flatMap, record,
    leBytes_length]
  have sizes : (fun field : List UInt8 × List β => field.1.length + 1 + 4 + field.2.length) =
      fun field => 5 + field.1.length + field.2.length := by
    funext field
    omega
  rw [sizes]
  omega

theorem ofFields_inj {domain domain' : List UInt8} {fields fields' : List (List UInt8 × List β)}
    (domainFits : domain.length ≤ 255) (domainFits' : domain'.length ≤ 255)
    (fits : ∀ field ∈ fields, FieldFits field) (fits' : ∀ field ∈ fields', FieldFits field)
    (equal : (CompatTranscript.ofFields domain fields).buf = (CompatTranscript.ofFields domain' fields').buf) :
    domain = domain' ∧ fields = fields' := by
  rw [ofFields_buf, ofFields_buf] at equal
  exact records_inj domainFits domainFits' fits fits' equal

theorem domain_of_ofFields {domain domain' : List UInt8} {fields fields' : List (List UInt8 × List β)}
    (domainFits : domain.length ≤ 255) (domainFits' : domain'.length ≤ 255)
    (equal : (CompatTranscript.ofFields domain fields).buf = (CompatTranscript.ofFields domain' fields').buf) :
    domain = domain' := by
  rw [ofFields_buf, ofFields_buf] at equal
  exact (prefixed_append_inj domainFits domainFits' equal).1

theorem buildTranscript_buf (G : Suite β S P) (domain : List UInt8)
    (fields : List (List UInt8 × TranscriptValue β P)) :
    (buildTranscript G domain fields).buf =
      records domain (fields.map fun field => (field.1, field.2.serialize G)) := by
  have encoded := foldl_appendMessage_buf (new_buf (β := β) domain) fields
    fun field => (field.1, field.2.serialize G)
  rw [List.nil_append] at encoded
  exact encoded

theorem buildTranscript_eq_ofFields (G : Suite β S P) (domain : List UInt8)
    (fields : List (List UInt8 × TranscriptValue β P)) :
    (buildTranscript G domain fields).buf =
      (CompatTranscript.ofFields domain (fields.map fun field => (field.1, field.2.serialize G))).buf := by
  rw [buildTranscript_buf, ofFields_buf]

theorem buildTranscript_inj {G : Suite β S P} {domain domain' : List UInt8}
    {fields fields' : List (List UInt8 × TranscriptValue β P)}
    (domainFits : domain.length ≤ 255) (domainFits' : domain'.length ≤ 255)
    (fits : ∀ field ∈ fields, FieldFits (field.1, field.2.serialize G))
    (fits' : ∀ field ∈ fields', FieldFits (field.1, field.2.serialize G))
    (equal : (buildTranscript G domain fields).buf = (buildTranscript G domain' fields').buf) :
    domain = domain' ∧
      (fields.map fun field => (field.1, field.2.serialize G)) =
        fields'.map fun field => (field.1, field.2.serialize G) := by
  rw [buildTranscript_buf, buildTranscript_buf] at equal
  exact records_inj domainFits domainFits' (List.forall_mem_map.mpr fits)
    (List.forall_mem_map.mpr fits') equal

-- Enrollment (setup) domain separators, unchanged from v1.
def tSetup : List UInt8 := ascii "setup_client_schnorr_v1"
def tSetupServer : List UInt8 := ascii "setup_server_schnorr_v1"
def tServer : List UInt8 := ascii "server_schnorr_v1"

-- Online-auth domain separators of v2, which bind to the per-session pseudonym `pid`.
def tPid : List UInt8 := ascii "iot-auth/pid/v1"
def tClientV2 : List UInt8 := ascii "client_schnorr_v2"
def tKcV2 : List UInt8 := ascii "kc_v2"
def tRoleSet : List UInt8 := ascii "client_role_set_v1"
def tRoleRerand : List UInt8 := ascii "client_role_rerand_v1"

/-- The domains that a challenge or a confirmation tag is computed under. The pseudonym domain
    starts no transcript. -/
def transcriptDomains : List (List UInt8) :=
  [tSetup, tSetupServer, tServer, tClientV2, tKcV2, tRoleSet, tRoleRerand]

theorem transcriptDomains_fit : ∀ domain ∈ transcriptDomains, domain.length ≤ 255 := by decide

end ZkArche

import ZkArche.CServer.SetupDialogue
import ZkArche.Protocol.DeviceTurns

namespace ZkArche.CClient

open Foundation CImpl

/-- The part of `do_setup` that sends the pairing token. Its length goes through a `uint8_t`. -/
def sendPairingToken (pairingToken : Option (List UInt8)) : Effect Unit (Conn UInt8) Unit := do
  let token := pairingToken.getD []
  let tlen := UInt8.ofNat (strBytes token).length
  CImpl.sendAll [tlen]
  if tlen ≠ 0 then CImpl.sendAll (token.take tlen.toNat) else pure ()

theorem take_of_strBytes {token : List UInt8} {size : Nat} (inside : size ≤ (strBytes token).length) :
    token.take size = (strBytes token).take size := by
  have front : strBytes token <+: token := List.takeWhile_prefix _
  obtain ⟨rest, whole⟩ := front
  calc token.take size
      = (strBytes token ++ rest).take size := by rw [whole]
    _ = (strBytes token).take size := List.take_append_of_le_length inside

theorem writes_sendPairingToken (token : List UInt8) :
    Writes (sendPairingToken (some token)) (UInt8.ofNat (strBytes token).length ::
      (strBytes token).take (UInt8.ofNat (strBytes token).length).toNat) () := by
  have inside : (UInt8.ofNat (strBytes token).length).toNat ≤ (strBytes token).length := by
    rw [UInt8.toNat_ofNat']
    exact Nat.mod_le _ _
  refine (writes_sendAll [UInt8.ofNat (strBytes token).length]).bind ?_
  by_cases zero : UInt8.ofNat (strBytes token).length = 0
  · simp only [Option.getD_some, zero, ne_eq, not_true_eq_false, if_false, UInt8.toNat_zero, List.take_zero]
    exact Writes.pure ()
  · simp only [Option.getD_some, ne_eq, zero, not_false_eq_true, if_true, take_of_strBytes inside]
    exact writes_sendAll _

end ZkArche.CClient

namespace ZkArche.Protocol

open Foundation

variable {token : String}

/-- The client stops before it sends a token, or the server reads the one that it is configured with and lets it pass. -/
def TokenPasses {ε τ : Type} (send : Effect ε (Conn UInt8) Unit) (receive : Effect ε (Conn UInt8) τ)
    (allows : Nat → τ → Bool) (configured : τ) : Prop :=
  ∀ (client server : Conn UInt8) (rest : List UInt8) (now : Nat), client.writeFault = (fun _ => none) →
    (∃ error client', send client = (.error error, client') ∧ client'.output = client.output) ∨
    ∃ client' written server', send client = (.ok (), client') ∧ client'.output = client.output ++ written ∧
      receive { server with input := written ++ rest } = (.ok configured, server') ∧ allows now configured = true

/-- The two Rust programs, with the token on both command lines. -/
def RustTokenPasses (token : String) : Prop :=
  TokenPasses (Client.sendPairingToken (some token)) Server.recvPairingToken
    (Server.PairingPolicy.allowsZtpSetup ⟨true, some token, none⟩) (some token)

def CTokenPasses (token : List UInt8) : Prop :=
  TokenPasses (CClient.sendPairingToken (some token)) CServer.recvPairingToken
    (CServer.PairingPolicy.allowsSetup ⟨true, some token, 0⟩) (CImpl.strBytes token)

section General

variable {ε τ : Type} {send : Effect ε (Conn UInt8) Unit} {receive : Effect ε (Conn UInt8) τ} {allows : Nat → τ → Bool}
  {configured : τ} {bytes : List UInt8}

theorem tokenPasses_of_reads (writes : Writes send bytes ()) (reads : Reads receive bytes configured)
    (allowed : ∀ now, allows now configured = true) : TokenPasses send receive allows configured := by
  intro client server rest now quiet
  exact .inr ⟨_, bytes, _, writes client quiet, rfl, reads { server with input := bytes ++ rest } rest rfl, allowed now⟩

/-- A client that sends its token is in trouble when the server does not find the configured one in the bytes. -/
theorem not_tokenPasses (writes : Writes send bytes ())
    (differs : ∀ server after : Conn UInt8, server.input = bytes → receive server ≠ (.ok configured, after)) :
    ¬ TokenPasses send receive allows configured := by
  intro passes
  have run := writes (.opened []) rfl
  rcases passes (.opened []) (.opened []) [] 0 rfl with ⟨error, client', stops, _⟩ | ⟨client', written, server', sends, sent, reads, _⟩
  · rw [run] at stops
    cases stops
  · rw [run] at sends
    cases sends
    have same : bytes = written := List.append_cancel_left sent
    exact differs _ server' (by rw [same]; exact List.append_nil _) reads

end General

theorem not_rustTokenPasses_empty : ¬ RustTokenPasses "" := by
  have short : ∀ text ∈ some "", (utf8Bytes text).length ≤ 128 := by decide
  refine not_tokenPasses (Client.writes_sendPairingToken short) ?_
  intro server after input reads
  rw [Server.reads_recvPairingToken short server [] (by rw [input, List.append_nil])] at reads
  have nothing : Server.presentedToken (some "") = none := by decide
  rw [nothing] at reads
  cases reads

theorem rustTokenPasses_of_nonempty (nonempty : token ≠ "") : RustTokenPasses token := by
  by_cases short : (utf8Bytes token).length ≤ 128
  · have limit : ∀ text ∈ some token, (utf8Bytes text).length ≤ 128 := by
      intro text same
      cases same
      exact short
    have nonblank : utf8Bytes token ≠ [] := by
      intro blank
      exact nonempty (utf8Bytes_inj.mp (blank.trans (by decide)))
    have presented : Server.presentedToken (some token) = some token := by simp [Server.presentedToken, nonblank]
    refine tokenPasses_of_reads (Client.writes_sendPairingToken limit) ?_ ?_
    · have reads := Server.reads_recvPairingToken (β := UInt8) limit
      rwa [presented] at reads
    · intro now
      simp [Server.PairingPolicy.allowsZtpSetup]
  · intro client server rest now quiet
    have long : decide ((utf8Bytes token).length > 128) = true := by simpa using short
    let error : Failure := .io ⟨.invalidInput, "pairing token too long (max 128 bytes)"⟩
    have stops : Effect.failIf (decide ((utf8Bytes token).length > 128)) error client = (.error error, client) := by
      rw [long]
      rfl
    exact .inl ⟨error, client, Effect.bind_of_error stops, rfl⟩

theorem cTokenPasses_of_short {token : List UInt8} (short : (CImpl.strBytes token).length ≤ 128) :
    CTokenPasses token := by
  have announced : (UInt8.ofNat (CImpl.strBytes token).length).toNat = (CImpl.strBytes token).length := by
    rw [UInt8.toNat_ofNat']
    omega
  have writes := CClient.writes_sendPairingToken token
  rw [announced, List.take_length] at writes
  refine tokenPasses_of_reads writes (CServer.reads_recvPairingToken short) ?_
  intro now
  simp [CServer.PairingPolicy.allowsSetup]

/-- The server never decodes a token of more than 128 bytes, whatever is left of it on the wire. -/
theorem not_cTokenPasses_of_long {token : List UInt8} (long : 128 < (CImpl.strBytes token).length) :
    ¬ CTokenPasses token := by
  refine not_tokenPasses (CClient.writes_sendPairingToken token) ?_
  intro server after _ reads
  have short := CServer.recvPairingToken_short reads
  omega

/-- A token gets through unless it is empty in Rust, and unless it has more than 128 bytes in C. -/
theorem pairing_token_passes_iff (token : String) (cToken : List UInt8) :
    (RustTokenPasses token ↔ token ≠ "") ∧ (CTokenPasses cToken ↔ (CImpl.strBytes cToken).length ≤ 128) := by
  constructor
  · constructor
    · intro passes empty
      rw [empty] at passes
      exact not_rustTokenPasses_empty passes
    · exact rustTokenPasses_of_nonempty
  · constructor
    · intro passes
      by_contra long
      exact not_cTokenPasses_of_long (Nat.lt_of_not_le long) passes
    · exact cTokenPasses_of_short

/-- The empty token, and a token of 300 bytes of which 44 are sent. -/
theorem pairing_tokens_lost :
    ¬ RustTokenPasses "" ∧ ¬ CTokenPasses (List.replicate 300 97) := by
  have clean : (0 : UInt8) ∉ List.replicate 300 97 := by
    intro member
    exact absurd (List.eq_of_mem_replicate member) (by decide)
  have long : 128 < (CImpl.strBytes (List.replicate 300 97)).length := by
    rw [CImpl.strBytes_of_clean clean, List.length_replicate]
    decide
  exact ⟨not_rustTokenPasses_empty, not_cTokenPasses_of_long long⟩

end ZkArche.Protocol

import ZkArche.Primitives.Decimal
import ZkArche.Server.SetupDialogue

namespace ZkArche.Server

open Foundation

structure Options where
  bindAddr : String
  pairing : Bool
  pairingToken : Option String
  pairingSeconds : Option Nat
  printPubkey : Bool

def Options.default : Options :=
  { bindAddr := "0.0.0.0:4000", pairing := false, pairingToken := none, pairingSeconds := none, printPubkey := false }

def invalidInput (message : String) : Failure := .io ⟨.invalidInput, message⟩

/-- The loop over the arguments behind the program's name. -/
def parseArgs : List String → Options → Except Failure Options
  | [], options => .ok options
  | arg :: rest, options =>
    if arg = "--bind" then
      match rest with
      | [] => .error (invalidInput "--bind missing value")
      | value :: rest => parseArgs rest { options with bindAddr := value }
    else if arg = "--pairing" then parseArgs rest { options with pairing := true }
    else if arg = "--pairing-token" then
      match rest with
      | [] => .error (invalidInput "--pairing-token missing value")
      | value :: rest => parseArgs rest { options with pairingToken := some value }
    else if arg = "--pairing-seconds" then
      match rest with
      | [] => .error (invalidInput "--pairing-seconds missing value")
      | value :: rest =>
        match parseU64 (utf8Bytes value) with
        | some seconds => parseArgs rest { options with pairingSeconds := some seconds }
        | none => .error (invalidInput "bad --pairing-seconds")
    else if arg = "--print-pubkey" then parseArgs rest { options with printPubkey := true }
    else .error (invalidInput ("unknown argument: " ++ arg))

/-- An `Instant` counts its seconds below `2 ^ 63`. -/
def instantLimit : Nat := seconds 9223372036854775808

/-- The policy of a server that starts at the instant `now`. -/
def Options.policy (options : Options) (now : Nat) : Except Failure PairingPolicy :=
  match options.pairingSeconds with
  | none => .ok { enabled := options.pairing, token := options.pairingToken, deadline := none }
  | some s =>
    if now + seconds s < instantLimit then
      .ok { enabled := options.pairing, token := options.pairingToken, deadline := some (now + seconds s) }
    else .error (.panic "overflow when adding duration to instant")

theorem allowsZtpSetup_iff (policy : PairingPolicy) (now : Nat) (provided : Option String) :
    policy.allowsZtpSetup now provided = true ↔
      policy.enabled = true ∧ (∀ dl ∈ policy.deadline, now ≤ dl) ∧ ∀ expected ∈ policy.token, provided = some expected := by
  obtain ⟨enabled, token, deadline⟩ := policy
  unfold PairingPolicy.allowsZtpSetup
  cases enabled with
  | false => simp
  | true =>
    cases deadline with
    | none => cases token <;> cases provided <;> simp [utf8Bytes_inj, eq_comm]
    | some dl =>
      by_cases late : now > dl
      · simp [late]
      · cases token <;> cases provided <;> simp [late, utf8Bytes_inj, eq_comm] <;> omega

end ZkArche.Server

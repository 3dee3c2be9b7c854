import ZkArche.CServer.SetupDialogue
import ZkArche.Primitives.Decimal

namespace ZkArche.CServer

open Foundation CImpl

/-- What the command line of the server sets; without `--pairing-seconds` their number is zero. -/
structure Options where
  bindAddr : List UInt8
  pairing : Bool
  pairingToken : Option (List UInt8)
  pairingSeconds : Nat
  printPubkey : Bool

def Options.default : Options :=
  { bindAddr := utf8Bytes "0.0.0.0:4000", pairing := false, pairingToken := none, pairingSeconds := 0,
    printPubkey := false }

/-- The loop over the arguments behind the program's name. An option whose value is missing ends in the usage. -/
def parseArgs : List (List UInt8) → Options → Option Options
  | [], options => some options
  | arg :: rest, options =>
    if arg = utf8Bytes "--bind" then
      match rest with
      | [] => none
      | value :: rest => parseArgs rest { options with bindAddr := value }
    else if arg = utf8Bytes "--pairing" then parseArgs rest { options with pairing := true }
    else if arg = utf8Bytes "--pairing-token" then
      match rest with
      | [] => none
      | value :: rest => parseArgs rest { options with pairingToken := some value }
    else if arg = utf8Bytes "--pairing-seconds" then
      match rest with
      | [] => none
      | value :: rest => parseArgs rest { options with pairingSeconds := strtoull value }
    else if arg = utf8Bytes "--print-pubkey" then parseArgs rest { options with printPubkey := true }
    else none

section Flags

variable (rest : List (List UInt8)) (options : Options)

@[simp] theorem parseArgs_pairing :
    parseArgs (utf8Bytes "--pairing" :: rest) options = parseArgs rest { options with pairing := true } := by
  rw [parseArgs.eq_def]
  simp [utf8Bytes_inj]

@[simp] theorem parseArgs_printPubkey :
    parseArgs (utf8Bytes "--print-pubkey" :: rest) options = parseArgs rest { options with printPubkey := true } := by
  rw [parseArgs.eq_def]
  simp [utf8Bytes_inj]

end Flags

/-- A `time_t` is below `2 ^ 63`. -/
def timeLimit : Nat := 9223372036854775808

/-- The policy of a server that starts when `time(NULL)` is `now`; a `time_t` that overflows is undefined. -/
def Options.policy (options : Options) (now : Nat) : Option PairingPolicy :=
  if options.pairingSeconds = 0 then some { enabled := options.pairing, token := options.pairingToken, deadline := 0 }
  else if now + options.pairingSeconds < timeLimit then
    some { enabled := options.pairing, token := options.pairingToken, deadline := now + options.pairingSeconds }
  else none

theorem allowsSetup_iff (policy : PairingPolicy) (now : Nat) (provided : List UInt8) :
    policy.allowsSetup now provided = true ↔
      policy.enabled = true ∧ (policy.deadline = 0 ∨ now ≤ policy.deadline) ∧
        ∀ expected ∈ policy.token, provided = strBytes expected := by
  obtain ⟨enabled, token, deadline⟩ := policy
  unfold PairingPolicy.allowsSetup
  cases enabled with
  | false => simp
  | true =>
    by_cases late : deadline ≠ 0 ∧ now > deadline
    · simp [late]
    · have opened : deadline = 0 ∨ now ≤ deadline := by omega
      cases token <;> simp [late, opened]

end ZkArche.CServer

import ZkArche.CServer.Options
import ZkArche.Protocol.PairingTokens
import ZkArche.Server.Options

namespace ZkArche.Protocol

open Foundation

variable {args : List String} {options : Server.Options} {cOptions : CServer.Options} {presented : String}
  {monotonic wall elapsed : Nat}

structure SameOptions (options : Server.Options) (cOptions : CServer.Options) : Prop where
  bindAddr : cOptions.bindAddr = utf8Bytes options.bindAddr
  pairing : cOptions.pairing = options.pairing
  pairingToken : cOptions.pairingToken = options.pairingToken.map utf8Bytes
  pairingSeconds : cOptions.pairingSeconds = options.pairingSeconds.getD 0
  printPubkey : cOptions.printPubkey = options.printPubkey

/-- The C server takes every command line that the Rust server takes, and reads the same from it. -/
theorem parseArgs_same {start final : Server.Options} (parsed : Server.parseArgs args start = .ok final)
    (same : SameOptions start cOptions) :
    ∃ cFinal, CServer.parseArgs (args.map utf8Bytes) cOptions = some cFinal ∧ SameOptions final cFinal := by
  fun_induction Server.parseArgs args start generalizing cOptions with
  | case1 options =>
    cases parsed
    exact ⟨cOptions, rfl, same⟩
  | case3 options value rest ih =>
    have moved : SameOptions { options with bindAddr := value } { cOptions with bindAddr := utf8Bytes value } :=
      ⟨rfl, same.pairing, same.pairingToken, same.pairingSeconds, same.printPubkey⟩
    obtain ⟨cFinal, cParsed, agrees⟩ := ih parsed moved
    exact ⟨cFinal, by simpa [CServer.parseArgs] using cParsed, agrees⟩
  | case4 rest options _ ih =>
    have moved : SameOptions { options with pairing := true } { cOptions with pairing := true } :=
      ⟨same.bindAddr, rfl, same.pairingToken, same.pairingSeconds, same.printPubkey⟩
    obtain ⟨cFinal, cParsed, agrees⟩ := ih parsed moved
    exact ⟨cFinal, by simpa using cParsed, agrees⟩
  | case6 options value rest _ _ ih =>
    have moved : SameOptions { options with pairingToken := some value }
        { cOptions with pairingToken := some (utf8Bytes value) } :=
      ⟨same.bindAddr, same.pairing, rfl, same.pairingSeconds, same.printPubkey⟩
    obtain ⟨cFinal, cParsed, agrees⟩ := ih parsed moved
    exact ⟨cFinal, by simpa [CServer.parseArgs, utf8Bytes_inj] using cParsed, agrees⟩
  | case8 options value rest seconds number _ _ _ ih =>
    have moved : SameOptions { options with pairingSeconds := some seconds }
        { cOptions with pairingSeconds := strtoull (utf8Bytes value) } :=
      ⟨same.bindAddr, same.pairing, same.pairingToken, strtoull_of_parseU64 number, same.printPubkey⟩
    obtain ⟨cFinal, cParsed, agrees⟩ := ih parsed moved
    exact ⟨cFinal, by simpa [CServer.parseArgs, utf8Bytes_inj] using cParsed, agrees⟩
  | case10 rest options _ _ _ _ ih =>
    have moved : SameOptions { options with printPubkey := true } { cOptions with printPubkey := true } :=
      ⟨same.bindAddr, same.pairing, same.pairingToken, same.pairingSeconds, rfl⟩
    obtain ⟨cFinal, cParsed, agrees⟩ := ih parsed moved
    exact ⟨cFinal, by simpa using cParsed, agrees⟩
  -- The other cases are the errors of the Rust server.
  | _ => cases parsed

def admits {ε : Type} (check : Effect ε (Conn UInt8) Unit) (token : List UInt8) : Bool :=
  (check (.opened (CServer.tokenBytes token))).1.toBool

theorem admits_of_reads {ε τ : Type} {receive : Effect ε (Conn UInt8) τ} {allows : τ → Bool} {failure : ε} {value : τ}
    {token : List UInt8} (reads : Reads receive (CServer.tokenBytes token) value) :
    admits (receive >>= fun got => Effect.failIf (!allows got) failure) token = allows value := by
  have run := reads (.opened (CServer.tokenBytes token)) [] (List.append_nil _).symm
  rw [admits, Effect.bind_of_ok run, Effect.failIf_apply]
  cases allows value <;> rfl

theorem admits_rust (short : (utf8Bytes presented).length ≤ 128) (policy : Server.PairingPolicy) (now : Nat) :
    admits (Server.admitSetup policy now) (utf8Bytes presented) =
      policy.allowsZtpSetup now (Server.presentedToken (some presented)) := by
  have limit : ∀ text ∈ some presented, (utf8Bytes text).length ≤ 128 := by
    intro text same
    cases same
    exact short
  have bytes : (Server.tokenBytes (some presented) : List UInt8) = CServer.tokenBytes (utf8Bytes presented) :=
    List.map_id _
  have reads : Reads Server.recvPairingToken (Server.tokenBytes (some presented) : List UInt8)
    (Server.presentedToken (some presented)) := Server.reads_recvPairingToken limit
  rw [bytes] at reads
  exact admits_of_reads reads

theorem admits_c (short : (utf8Bytes presented).length ≤ 128) (policy : CServer.PairingPolicy) (now : Nat) :
    admits (CServer.admitSetup policy now) (utf8Bytes presented) = policy.allowsSetup now (utf8Bytes presented) :=
  admits_of_reads (CServer.reads_recvPairingToken short)

/-- The servers that the same command line starts decide alike about a token that is presented `elapsed` later, and
    refuse it when `--pairing-seconds` have passed. All clocks count nanoseconds, but C reads whole seconds. -/
def PairingEnforced (args : List String) (monotonic wall elapsed : Nat) (presented : String) : Prop :=
  ∃ options cOptions policy cPolicy,
    Server.parseArgs args .default = .ok options ∧ options.policy monotonic = .ok policy ∧
    CServer.parseArgs (args.map utf8Bytes) .default = some cOptions ∧ cOptions.policy (wall / seconds 1) = some cPolicy ∧
    admits (Server.admitSetup policy (monotonic + elapsed)) (utf8Bytes presented) =
      admits (CServer.admitSetup cPolicy ((wall + elapsed) / seconds 1)) (utf8Bytes presented) ∧
    ∀ window ∈ options.pairingSeconds, elapsed > seconds window →
      admits (Server.admitSetup policy (monotonic + elapsed)) (utf8Bytes presented) = false ∧
      admits (CServer.admitSetup cPolicy ((wall + elapsed) / seconds 1)) (utf8Bytes presented) = false

/-- The whole-second clock of the C server has not passed the window; a window of zero seconds never ends. -/
def COpen (options : Server.Options) (wall elapsed : Nat) : Prop :=
  ∀ window ∈ options.pairingSeconds, window = 0 ∨ (wall + elapsed) / seconds 1 ≤ wall / seconds 1 + window

theorem rust_admits_iff (elapsed : Nat) (short : (utf8Bytes presented).length ≤ 128) {policy : Server.PairingPolicy}
    (started : options.policy monotonic = .ok policy) :
    admits (Server.admitSetup policy (monotonic + elapsed)) (utf8Bytes presented) = true ↔
      options.pairing = true ∧ (∀ window ∈ options.pairingSeconds, elapsed ≤ seconds window) ∧
        ∀ token ∈ options.pairingToken, token = presented ∧ token ≠ "" := by
  have blank : utf8Bytes presented = [] ↔ presented = "" :=
    ⟨fun empty => utf8Bytes_inj.mp (empty.trans (by decide)), fun empty => by rw [empty]; decide⟩
  have token : ∀ expected, Server.presentedToken (some presented) = some expected ↔
      expected = presented ∧ expected ≠ "" := by
    intro expected
    simp only [Server.presentedToken, Option.filter_some, ne_eq, blank, decide_not, Bool.not_eq_true',
      decide_eq_false_iff_not, Option.ite_none_right_eq_some, Option.some.injEq]
    constructor
    · rintro ⟨nonempty, rfl⟩
      exact ⟨rfl, nonempty⟩
    · rintro ⟨rfl, nonempty⟩
      exact ⟨nonempty, rfl⟩
  rw [admits_rust short, Server.allowsZtpSetup_iff]
  unfold Server.Options.policy at started
  split at started
  case h_1 none =>
    cases started
    simp only [none, token, Option.not_mem_none, false_implies, implies_true, true_and]
  case h_2 window given =>
    split at started
    case isTrue =>
      cases started
      simp only [given, token, Option.mem_some_iff, forall_eq', Nat.add_le_add_iff_left]
    case isFalse => cases started

theorem c_admits_iff (elapsed : Nat) (short : (utf8Bytes presented).length ≤ 128) (same : SameOptions options cOptions)
    (clean : ∀ token ∈ options.pairingToken, 0 ∉ utf8Bytes token) {cPolicy : CServer.PairingPolicy}
    (started : cOptions.policy (wall / seconds 1) = some cPolicy) :
    admits (CServer.admitSetup cPolicy ((wall + elapsed) / seconds 1)) (utf8Bytes presented) = true ↔
      options.pairing = true ∧ COpen options wall elapsed ∧ ∀ token ∈ options.pairingToken, token = presented := by
  have token : (∀ expected ∈ cOptions.pairingToken, utf8Bytes presented = CImpl.strBytes expected) ↔
      ∀ token ∈ options.pairingToken, token = presented := by
    rw [same.pairingToken]
    cases given : options.pairingToken with
    | none => simp
    | some text =>
      have whole := CImpl.strBytes_of_clean (clean text given)
      rw [Option.map_some]
      simp only [Option.mem_some_iff, forall_eq', whole, utf8Bytes_inj]
      exact eq_comm
  rw [admits_c short, CServer.allowsSetup_iff]
  unfold CServer.Options.policy at started
  split at started
  case isTrue never =>
    cases started
    have opened : COpen options wall elapsed := by
      intro window given
      rw [same.pairingSeconds, Option.mem_def.mp given] at never
      exact .inl never
    simp only [true_or, opened, true_and, token, same.pairing]
  case isFalse limited =>
    split at started
    case isTrue =>
      cases started
      obtain ⟨window, given⟩ : ∃ window, options.pairingSeconds = some window := by
        rw [same.pairingSeconds] at limited
        cases given : options.pairingSeconds with
        | none => simp [given] at limited
        | some window => exact ⟨window, rfl⟩
      have value : cOptions.pairingSeconds = window := by rw [same.pairingSeconds, given]; rfl
      rw [value] at limited
      have nonzero : wall / seconds 1 + window ≠ 0 :=
        Nat.ne_of_gt (Nat.lt_of_lt_of_le (Nat.pos_of_ne_zero limited) (Nat.le_add_left _ _))
      simp only [value, nonzero, false_or, token, same.pairing, COpen, given, Option.mem_some_iff, forall_eq', limited]
    case isFalse => cases started

theorem cOpen_of_inTime (inTime : ∀ window ∈ options.pairingSeconds, elapsed ≤ seconds window) :
    COpen options wall elapsed := by
  intro window given
  have bound := inTime window given
  have unit : seconds 1 = 1000000000 := rfl
  have width : seconds window = window * 1000000000 := rfl
  right
  rw [unit]
  omega

theorem pairingEnforced_started {policy : Server.PairingPolicy} {cPolicy : CServer.PairingPolicy}
    (parsed : Server.parseArgs args .default = .ok options) (started : options.policy monotonic = .ok policy)
    (cParsed : CServer.parseArgs (args.map utf8Bytes) .default = some cOptions)
    (cStarted : cOptions.policy (wall / seconds 1) = some cPolicy) :
    PairingEnforced args monotonic wall elapsed presented ↔
      admits (Server.admitSetup policy (monotonic + elapsed)) (utf8Bytes presented) =
        admits (CServer.admitSetup cPolicy ((wall + elapsed) / seconds 1)) (utf8Bytes presented) ∧
      ∀ window ∈ options.pairingSeconds, elapsed > seconds window →
        admits (Server.admitSetup policy (monotonic + elapsed)) (utf8Bytes presented) = false ∧
        admits (CServer.admitSetup cPolicy ((wall + elapsed) / seconds 1)) (utf8Bytes presented) = false := by
  constructor
  · rintro ⟨options', cOptions', policy', cPolicy', parsed', started', cParsed', cStarted', enforced⟩
    cases parsed.symm.trans parsed'
    cases cParsed.symm.trans cParsed'
    cases started.symm.trans started'
    cases cStarted.symm.trans cStarted'
    exact enforced
  · intro enforced
    exact ⟨options, cOptions, policy, cPolicy, parsed, started, cParsed, cStarted, enforced⟩

theorem policy_total (representable : ∀ window ∈ options.pairingSeconds, monotonic + seconds window < Server.instantLimit) :
    ∃ policy, options.policy monotonic = .ok policy := by
  unfold Server.Options.policy
  split
  case h_1 => exact ⟨_, rfl⟩
  case h_2 window given => exact ⟨_, if_pos (representable window given)⟩

theorem cPolicy_total (same : SameOptions options cOptions)
    (representable : ∀ window ∈ options.pairingSeconds, wall / seconds 1 + window < CServer.timeLimit) :
    ∃ cPolicy, cOptions.policy (wall / seconds 1) = some cPolicy := by
  unfold CServer.Options.policy
  split
  case isTrue => exact ⟨_, rfl⟩
  case isFalse limited =>
    rw [same.pairingSeconds] at limited ⊢
    cases given : options.pairingSeconds with
    | none => simp [given] at limited
    | some window => exact ⟨_, if_pos (representable window given)⟩

/-- The two decisions differ, or come too late, when the C server lets a setup through that is late or shows an empty
    token. -/
theorem pairing_enforced_iff (parsed : Server.parseArgs args .default = .ok options)
    (clean : ∀ token ∈ options.pairingToken, 0 ∉ utf8Bytes token)
    (representable : ∀ window ∈ options.pairingSeconds,
      monotonic + seconds window < Server.instantLimit ∧ wall / seconds 1 + window < CServer.timeLimit)
    (short : (utf8Bytes presented).length ≤ 128) :
    PairingEnforced args monotonic wall elapsed presented ↔
      ¬ (options.pairing = true ∧ COpen options wall elapsed ∧ (∀ token ∈ options.pairingToken, token = presented) ∧
        ((∃ window ∈ options.pairingSeconds, elapsed > seconds window) ∨ options.pairingToken = some "")) := by
  obtain ⟨cOptions, cParsed, same⟩ : ∃ cOptions, CServer.parseArgs (args.map utf8Bytes) .default = some cOptions ∧
      SameOptions options cOptions := parseArgs_same parsed ⟨rfl, rfl, rfl, rfl, rfl⟩
  obtain ⟨policy, started⟩ := policy_total fun window given => (representable window given).1
  obtain ⟨cPolicy, cStarted⟩ := cPolicy_total same fun window given => (representable window given).2
  have rust := rust_admits_iff elapsed short started
  have c := c_admits_iff elapsed short same clean cStarted
  have inTime : (∀ window ∈ options.pairingSeconds, elapsed ≤ seconds window) ↔
      ¬ ∃ window ∈ options.pairingSeconds, elapsed > seconds window := by simp only [not_exists, not_and, Nat.not_lt]
  have nonempty : (∀ token ∈ options.pairingToken, token = presented ∧ token ≠ "") ↔
      (∀ token ∈ options.pairingToken, token = presented) ∧ options.pairingToken ≠ some "" := by
    cases options.pairingToken <;> simp
  have opened : (∀ window ∈ options.pairingSeconds, elapsed ≤ seconds window) → COpen options wall elapsed := cOpen_of_inTime
  have closed : (∀ window ∈ options.pairingSeconds, elapsed > seconds window →
      admits (Server.admitSetup policy (monotonic + elapsed)) (utf8Bytes presented) = false ∧
      admits (CServer.admitSetup cPolicy ((wall + elapsed) / seconds 1)) (utf8Bytes presented) = false) ↔
      ((∃ window ∈ options.pairingSeconds, elapsed > seconds window) →
      ¬ admits (Server.admitSetup policy (monotonic + elapsed)) (utf8Bytes presented) = true ∧
      ¬ admits (CServer.admitSetup cPolicy ((wall + elapsed) / seconds 1)) (utf8Bytes presented) = true) := by
    simp only [Bool.not_eq_true, forall_exists_index, and_imp]
  rw [pairingEnforced_started parsed started cParsed cStarted, closed, Bool.eq_iff_iff, rust, c, nonempty]
  rw [inTime] at opened ⊢
  by_cases late : ∃ window ∈ options.pairingSeconds, elapsed > seconds window
  · simp only [late, not_true_eq_false, false_and, and_false, true_or, and_true, not_false_eq_true, true_and, false_iff,
      true_implies, and_self]
  · simp only [late, opened late, not_false_eq_true, true_and, false_or, false_implies, and_true]
    by_cases empty : options.pairingToken = some ""
    · simp [empty]
    · simp [empty]

/-- A window of zero seconds an hour ago, and an empty token: the C server lets the setup through. -/
theorem pairing_not_enforced :
    ¬ PairingEnforced ["--pairing", "--pairing-seconds", "0"] 0 0 (seconds 3600) "" ∧
    ¬ PairingEnforced ["--pairing", "--pairing-token", ""] 0 0 0 "" := by
  have short : (utf8Bytes "").length ≤ 128 := by decide
  constructor
  · let options : Server.Options := ⟨"0.0.0.0:4000", true, none, some 0, false⟩
    have zero : ∀ window ∈ options.pairingSeconds, window = 0 := fun _ given => (Option.some.inj given).symm
    obtain ⟨policy, started⟩ : ∃ policy, options.policy 0 = .ok policy :=
      policy_total fun window given => by rw [zero window given]; decide +kernel
    rw [pairingEnforced_started rfl started rfl rfl]
    intro enforced
    have refused : ¬ admits (Server.admitSetup policy (0 + seconds 3600)) (utf8Bytes "") = true := by
      rw [rust_admits_iff (seconds 3600) short started]
      intro admitted
      exact absurd (admitted.2.1 0 rfl) (by decide +kernel)
    rw [enforced.1] at refused
    exact refused (by decide +kernel)
  · rw [pairingEnforced_started rfl rfl rfl rfl]
    intro enforced
    exact absurd enforced.1 (by decide +kernel)

/-- A window of one minute is over after 61 seconds. -/
theorem pairing_enforced_iff_minute :
    PairingEnforced ["--pairing", "--pairing-seconds", "60"] 0 0 (seconds 61) "" := by
  have parsed : Server.parseArgs ["--pairing", "--pairing-seconds", "60"] .default =
      .ok ⟨"0.0.0.0:4000", true, none, some 60, false⟩ := rfl
  refine (pairing_enforced_iff parsed (fun _ given => by cases given) ?_ (by decide)).mpr ?_
  · intro window given
    cases given
    decide +kernel
  · rintro ⟨_, opened, _⟩
    exact absurd (opened 60 rfl) (by decide +kernel)

end ZkArche.Protocol

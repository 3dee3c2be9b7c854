import ZkArche.Benchmarks.ClientMetrics

namespace ZkArche.Benchmarks

open Foundation Foundation.Pattern Python

variable {F : Type}

/-- How `subprocess.run` ends. -/
structure CompletedProcess where
  returncode : Int
  stdout : List Char
  stderr : List Char

structure ClientResult (F : Type) where
  iteration : Nat
  clientId : Nat
  success : Bool
  durationMs : Option F
  sentBytes : Option Int
  recvBytes : Option Int
  stderrTail : List Char
  elapsedWallS : F

/-- `text[-count:]`. -/
def tail (count : Nat) (text : List Char) : List Char := text.drop (text.length - count)

def runClientOnce (floats : Floats F) (timeout : List Char) (iteration clientId : Nat) (elapsed : F) :
    Option CompletedProcess → Except ValueError (ClientResult F)
  | none => .ok { iteration, clientId, success := false, durationMs := none, sentBytes := none, recvBytes := none,
                  stderrTail := "TIMEOUT after ".toList ++ timeout ++ "s".toList, elapsedWallS := elapsed }
  | some cp => do
    let metrics ← firstClientMetrics floats cp.stdout
    if cp.returncode ≠ 0 ∨ metrics.isNone then
      pure { iteration, clientId, success := false, durationMs := metrics.map (·.durationMs),
             sentBytes := metrics.map (·.sentBytes), recvBytes := metrics.map (·.recvBytes),
             stderrTail := tail 500 (if cp.stderr.isEmpty then cp.stdout else cp.stderr), elapsedWallS := elapsed }
    else
      pure { iteration, clientId, success := true, durationMs := metrics.map (·.durationMs),
             sentBytes := metrics.map (·.sentBytes), recvBytes := metrics.map (·.recvBytes), stderrTail := [],
             elapsedWallS := elapsed }

section Lines

variable {floats : Floats F} {first second rest : List (List Char)} {before text : List Char} {result : MetricsLine F}
  {client : Client}

theorem firstClient_ok {ln : List Char} {m : Option (MetricsLine F)} (parsed : parseLine floats ln = .ok m)
    (lines : List (List Char)) : firstClient floats (ln :: lines) =
      if m.any fun found => found.role = "CLIENT".toList then .ok m else firstClient floats lines := by
  rw [firstClient, parsed]
  rfl

theorem firstClient_error {ln : List Char} {error : ValueError} (parsed : parseLine floats ln = .error error)
    (lines : List (List Char)) : firstClient floats (ln :: lines) = .error error := by
  rw [firstClient, parsed]
  rfl

theorem firstClient_append_none (unfound : firstClient floats first = .ok none) (second : List (List Char)) :
    firstClient floats (first ++ second) = firstClient floats second := by
  induction first with
  | nil => rfl
  | cons ln lines ih =>
    rw [List.cons_append]
    cases parsed : parseLine floats ln with
    | error error =>
      rw [firstClient_error parsed] at unfound
      cases unfound
    | ok m =>
      rw [firstClient_ok parsed] at unfound ⊢
      split at unfound
      case isTrue found =>
        cases unfound
        cases found
      case isFalse other => rw [if_neg other, ih unfound]

theorem firstClient_append_some (found : firstClient floats first = .ok (some result)) (second : List (List Char)) :
    firstClient floats (first ++ second) = .ok (some result) := by
  induction first with
  | nil => cases found
  | cons ln lines ih =>
    rw [List.cons_append]
    cases parsed : parseLine floats ln with
    | error error =>
      rw [firstClient_error parsed] at found
      cases found
    | ok m =>
      rw [firstClient_ok parsed] at found ⊢
      split at found
      case isTrue same => rw [if_pos same, found]
      case isFalse other => rw [if_neg other, ih found]

def Whole (text : List Char) : Prop := text = [] ∨ ∃ lines, text = lines ++ ['\n']

theorem splitlines_whole (whole : Whole before) (text : List Char) :
    splitlines (before ++ text) = splitlines before ++ splitlines text := by
  rcases whole with rfl | ⟨lines, rfl⟩
  · rfl
  · rw [List.append_assoc, List.singleton_append]
    exact splitLines_feed_append rfl lines text

theorem parseLine_line (other : client ≠ .zkarche) (elapsed : Duration) (sent recv : UInt64) (rest : List Char) :
    parseLine floats (client.opening ++ (figuresText elapsed sent recv ++ (client.sizes ++ rest))) =
      parseLine floats rest := by
  rw [parseLine, parseLine, search_line other]

end Lines

section Figures

variable {floats : Floats F} {elapsed : Duration} {sent recv : UInt64} {rest : List Char}

def units : List ℚ := [1 / 1000000, 1 / 1000, 1, 1000]

/-- The metrics of a run: the product of the floats of a number and a unit that make up the duration, and the counts. -/
structure SameFigures (floats : Floats F) (elapsed : Duration) (sent recv : UInt64) (metrics : MetricsLine F) : Prop where
  role : metrics.role = "CLIENT".toList
  durationMs : ∃ number unit, unit ∈ units ∧ number * unit = elapsed.millis ∧
    metrics.durationMs = floats.mul (floats.nearest number) (floats.nearest unit)
  sentBytes : metrics.sentBytes = sent.toNat
  recvBytes : metrics.recvBytes = recv.toNat

theorem unitMillis_mem (unit : List Char) : unitMillis unit ∈ units := by
  unfold unitMillis units
  split_ifs <;> simp

theorem takes_zkarche (elapsed : Duration) (sent recv : UInt64) (rest : List Char) :
    Takes metricsRe ("CLIENT METRICS -> ".toList ++ (figuresText elapsed sent recv ++ rest))
      (("role", "CLIENT".toList) :: figureGroups elapsed sent recv) rest := by
  have opening : "CLIENT METRICS -> ".toList =
      "CLIENT".toList ++ ([' '] ++ ("METRICS".toList ++ ([' '] ++ ("->".toList ++ [' '])))) := rfl
  have named : Takes (.group "role" (.either (exactly "CLIENT") (exactly "SERVER"))) ("CLIENT".toList ++ _) _ _ :=
    Takes.group (takes_text "CLIENT".toList (' ' :: ("METRICS".toList ++ (' ' :: ("->".toList ++ (' ' ::
      (figuresText elapsed sent recv ++ rest))))))).left
  have figures : ∀ char ∈ (figuresText elapsed sent recv ++ rest).head?, isSpace char = false := by
    unfold figuresText Duration.debug
    rw [metricsText_append]
    exact stops (by decide)
  rw [opening]
  simp only [List.append_assoc, List.singleton_append]
  refine Takes.capture named ?_
  refine Takes.skip (takes_blank (Nat.le_refl 1) (stops (by decide))) ?_
  refine Takes.skip (takes_text _ _) ?_
  refine Takes.skip (takes_spaces_one (stops (by decide))) ?_
  refine Takes.skip (takes_text _ _) ?_
  refine Takes.skip (Takes.left (Takes.skip (takes_spaces_one figures) (Takes.skip (takes_few _) (takes_chain_nil _)))) ?_
  exact takes_figures elapsed sent recv rest

theorem parseLine_zkarche (floats : Floats F) (elapsed : Duration) (sent recv : UInt64) :
    parseLine floats ("CLIENT METRICS -> ".toList ++ (figuresText elapsed sent recv ++ [])) =
      .ok (some ⟨"CLIENT".toList, floats.mul (floats.nearest elapsed.amount) (floats.nearest (unitMillis elapsed.unit)),
        sent.toNat, recv.toNat⟩) := by
  obtain ⟨eaten, found⟩ := (takes_zkarche elapsed sent recv []).search
  have number : floats.float elapsed.number = .ok (floats.nearest elapsed.amount) := by
    rw [Floats.float, Duration.number, decimalValue_fmtDecimal elapsed.part_lt]
    rfl
  have sentBytes : int (decimal sent.toNat) = .ok (sent.toNat : Int) := int_decimal sent.toNat_lt
  have recvBytes : int (decimal recv.toNat) = .ok (recv.toNat : Int) := int_decimal recv.toNat_lt
  unfold parseLine
  rw [found]
  show (floats.float elapsed.number >>= fun dur => int (decimal sent.toNat) >>= fun sentBytes =>
    int (decimal recv.toNat) >>= fun recvBytes => _) = _
  rw [number, sentBytes, recvBytes]
  rfl

end Figures

section Printed

variable {floats : Floats F} {client : Client} {elapsed : Duration} {sent recv : UInt64} {front back : List Char}

theorem unbroken_opening (client : Client) : Unbroken client.opening := by
  cases client with
  | zkarche => exact every (by decide : ("CLIENT METRICS -> ".toList.all fun char => decide (isLineEnd char = false)) = true)
  | edhoc _ _ _ => exact every (by decide : ("CLIENT METRICS -> Protocol: EDHOC/TCP, ".toList.all fun char => decide (isLineEnd char = false)) = true)
  | mtls _ _ _ _ => exact every (by decide : ("CLIENT METRICS -> Protocol: mTLS/TCP, ".toList.all fun char => decide (isLineEnd char = false)) = true)

theorem unbroken_sizes (client : Client) : Unbroken client.sizes := by
  have last : Unbroken ", DeviceID: ".toList := every (by decide)
  cases client with
  | zkarche => exact fun _ member => absurd member List.not_mem_nil
  | edhoc requestBytes responseBytes _ =>
    have first : Unbroken ", RequestBytes: ".toList := every (by decide)
    have second : Unbroken ", ResponseBytes: ".toList := every (by decide)
    exact (((first.append (unbroken_decimal _)).append second).append (unbroken_decimal _)).append last
  | mtls _ _ _ _ => exact last

theorem splitlines_line {piece : List Char} {pieces : List (List Char)} (client : Client) (elapsed : Duration)
    (sent recv : UInt64) (first : splitlines (client.identity ++ ['\n']) = piece :: pieces) :
    splitlines (client.line elapsed sent recv ++ ['\n']) =
      (client.opening ++ (figuresText elapsed sent recv ++ (client.sizes ++ piece))) :: pieces := by
  have unbroken : Unbroken (client.opening ++ (figuresText elapsed sent recv ++ client.sizes)) :=
    (unbroken_opening client).append ((unbroken_figures elapsed sent recv).append (unbroken_sizes client))
  have split : client.line elapsed sent recv ++ ['\n'] =
      (client.opening ++ (figuresText elapsed sent recv ++ client.sizes)) ++ (client.identity ++ ['\n']) := by
    simp only [Client.line, List.append_assoc]
  rw [split, splitlines, splitLines_plain_append unbroken rfl first]
  simp only [List.append_assoc]

/-- The line of another client, with what its device id adds to it, is read as the text from the device id on. -/
theorem firstClientMetrics_line (other : client ≠ .zkarche) (elapsed : Duration) (sent recv : UInt64) :
    firstClientMetrics floats (client.line elapsed sent recv ++ ['\n']) =
      firstClientMetrics floats (client.identity ++ ['\n']) := by
  have nonempty : splitlines (client.identity ++ ['\n']) ≠ [] := splitLines_ne_nil (by simp)
  obtain ⟨piece, pieces, first⟩ := List.exists_cons_of_ne_nil nonempty
  rw [firstClientMetrics, firstClientMetrics, splitlines_line client elapsed sent recv first, first, firstClient,
    firstClient, parseLine_line other]

end Printed

section Recorded

variable {floats : Floats F} {client : Client} {elapsed : Duration} {sent recv : UInt64} {metrics : MetricsLine F}

/-- The metrics line of the run is parsed into the figures of the run, an output in which it is the first line of its kind
    has these as its metrics, and a run with this output that exits with 0 is a success. -/
def Recorded (floats : Floats F) (client : Client) (elapsed : Duration) (sent recv : UInt64) : Prop :=
  ∃ metrics, SameFigures floats elapsed sent recv metrics ∧
    parseLine floats (client.line elapsed sent recv) = .ok (some metrics) ∧
    ∀ before after, Whole before → firstClientMetrics floats before = .ok none →
      firstClientMetrics floats (before ++ (client.line elapsed sent recv ++ '\n' :: after)) = .ok (some metrics) ∧
      ∀ timeout iteration clientId elapsedWallS stderr,
        runClientOnce floats timeout iteration clientId elapsedWallS
            (some ⟨0, before ++ (client.line elapsed sent recv ++ '\n' :: after), stderr⟩) =
          .ok { iteration, clientId, success := true, durationMs := some metrics.durationMs,
                sentBytes := some metrics.sentBytes, recvBytes := some metrics.recvBytes, stderrTail := [],
                elapsedWallS }

/-- The text itself is read as a metrics line with the figures of the run. -/
def Spells (floats : Floats F) (text : List Char) (elapsed : Duration) (sent recv : UInt64) : Prop :=
  ∃ metrics, SameFigures floats elapsed sent recv metrics ∧ parseLine floats text = .ok (some metrics) ∧
    firstClientMetrics floats (text ++ ['\n']) = .ok (some metrics)

theorem runClientOnce_success {stdout : List Char} (found : firstClientMetrics floats stdout = .ok (some metrics))
    (timeout : List Char) (iteration clientId : Nat) (elapsedWallS : F) (stderr : List Char) :
    runClientOnce floats timeout iteration clientId elapsedWallS (some ⟨0, stdout, stderr⟩) =
      .ok { iteration, clientId, success := true, durationMs := some metrics.durationMs,
            sentBytes := some metrics.sentBytes, recvBytes := some metrics.recvBytes, stderrTail := [],
            elapsedWallS } := by
  rw [runClientOnce, found]
  rfl

theorem recorded_of_reads (figures : SameFigures floats elapsed sent recv metrics)
    (parsed : parseLine floats (client.line elapsed sent recv) = .ok (some metrics))
    (found : firstClientMetrics floats (client.line elapsed sent recv ++ ['\n']) = .ok (some metrics)) :
    Recorded floats client elapsed sent recv := by
  refine ⟨metrics, figures, parsed, fun before after whole unfound => ?_⟩
  have lines : splitlines (before ++ (client.line elapsed sent recv ++ '\n' :: after)) = splitlines before ++
      (splitlines (client.line elapsed sent recv ++ ['\n']) ++ splitlines after) := by
    rw [splitlines_whole whole]
    exact congrArg (splitlines before ++ ·) (splitLines_feed_append rfl _ after)
  have selected : firstClientMetrics floats (before ++ (client.line elapsed sent recv ++ '\n' :: after)) =
      .ok (some metrics) := by
    rw [firstClientMetrics, lines, firstClient_append_none unfound]
    exact firstClient_append_some found _
  exact ⟨selected, runClientOnce_success selected⟩

theorem reads_of_recorded (recorded : Recorded floats client elapsed sent recv) :
    ∃ metrics, SameFigures floats elapsed sent recv metrics ∧
      parseLine floats (client.line elapsed sent recv) = .ok (some metrics) ∧
      firstClientMetrics floats (client.line elapsed sent recv ++ ['\n']) = .ok (some metrics) := by
  obtain ⟨metrics, figures, parsed, selected⟩ := recorded
  exact ⟨metrics, figures, parsed, (selected [] [] (.inl rfl) rfl).1⟩

theorem zkarche_recorded (floats : Floats F) (elapsed : Duration) (sent recv : UInt64) :
    Recorded floats .zkarche elapsed sent recv := by
  have parsed : parseLine floats (Client.zkarche.line elapsed sent recv) = _ := parseLine_zkarche floats elapsed sent recv
  have lines : splitlines (Client.zkarche.line elapsed sent recv ++ ['\n']) = [Client.zkarche.line elapsed sent recv] :=
    splitlines_line .zkarche elapsed sent recv rfl
  refine recorded_of_reads ⟨rfl, ⟨_, _, unitMillis_mem elapsed.unit, elapsed.millis_eq, rfl⟩, rfl, rfl⟩ parsed ?_
  rw [firstClientMetrics, lines, firstClient_ok parsed]
  rfl

theorem recorded_iff_spells (other : client ≠ .zkarche) (elapsed : Duration) (sent recv : UInt64) :
    Recorded floats client elapsed sent recv ↔ Spells floats client.identity elapsed sent recv := by
  have line : parseLine floats (client.line elapsed sent recv) = parseLine floats client.identity :=
    parseLine_line other elapsed sent recv client.identity
  constructor
  case mp =>
    intro recorded
    obtain ⟨metrics, figures, parsed, found⟩ := reads_of_recorded recorded
    rw [line] at parsed
    rw [firstClientMetrics_line other] at found
    exact ⟨metrics, figures, parsed, found⟩
  case mpr =>
    rintro ⟨metrics, figures, parsed, found⟩
    rw [← line] at parsed
    rw [← firstClientMetrics_line other elapsed sent recv] at found
    exact recorded_of_reads figures parsed found

/-- Every run of `zkarche_client` is recorded. A run of another client is recorded only when the text from its device id on
    spells the figures of the run itself, which no text does for all runs. -/
theorem client_metrics_recorded_iff (floats : Floats F) (client : Client) :
    (∀ elapsed sent recv, Recorded floats client elapsed sent recv ↔
      client = .zkarche ∨ Spells floats client.identity elapsed sent recv) ∧
    ((∀ elapsed sent recv, Recorded floats client elapsed sent recv) ↔ client = .zkarche) := by
  by_cases same : client = .zkarche
  case pos =>
    rw [same]
    exact ⟨fun elapsed sent recv => iff_of_true (zkarche_recorded floats elapsed sent recv) (.inl rfl),
      iff_of_true (zkarche_recorded floats) rfl⟩
  case neg =>
    refine ⟨fun elapsed sent recv => ?_, iff_of_false (fun all => ?_) same⟩
    · rw [recorded_iff_spells same, or_iff_right same]
    · -- Two runs that sent differently many bytes have the same device id.
      obtain ⟨first, firstFigures, firstParsed, _⟩ := (recorded_iff_spells same _ _ _).mp (all ⟨0, 0⟩ 0 0)
      obtain ⟨second, secondFigures, secondParsed, _⟩ := (recorded_iff_spells same _ _ _).mp (all ⟨0, 0⟩ 1 0)
      rw [firstParsed] at secondParsed
      cases secondParsed
      have counts : ((0 : UInt64).toNat : Int) = (1 : UInt64).toNat := firstFigures.sentBytes.symm.trans secondFigures.sentBytes
      exact absurd counts (by decide)

/-- The comma behind the protocol ends the part in front of the duration. -/
theorem edhoc_metrics_unread :
    ¬ ∃ floats : Floats ℚ, Recorded floats (.edhoc 119 50 "edhoc-device".toList) ⟨0, 1234567⟩ 471 196 := by
  rintro ⟨floats, metrics, _, parsed, _⟩
  have unread : parseLine floats (Client.line (.edhoc 119 50 "edhoc-device".toList) ⟨0, 1234567⟩ 471 196) = .ok none := by
    rw [parseLine, Client.line, search_line (by simp)]
    rfl
  rw [unread] at parsed
  cases parsed

end Recorded

end ZkArche.Benchmarks

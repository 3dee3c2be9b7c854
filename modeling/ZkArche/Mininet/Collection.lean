import ZkArche.Mininet.FullSessions

namespace ZkArche.Mininet

open Foundation Python

/-- How the bytes of a log come back as a text. What is read while the log is written is a glimpse of what is read later. -/
structure Decoder where
  decode : List UInt8 → List Char
  glimpse : ∀ bytes count, Glimpse isLineEnd (decode bytes) (decode (bytes.take count))

variable {F : Type}

def seenLines (decoder : Decoder) (log : List UInt8) (cut : Nat) : List (List Char) :=
  splitlines (decoder.decode (log.take cut))

/-- The rows of one read after the other, each from the line on at which the one before ended. -/
def collectAll (floats : Floats F) (labels : RowLabels) (decoder : Decoder) (log : List UInt8) :
    List Nat → Nat → Except ValueError (List (ServerMetricRow F))
  | [], _ => .ok []
  | cut :: cuts, line => do
    let read ← parseServerMetricsLog floats labels (decoder.decode (log.take cut)) line
    let rows ← collectAll floats labels decoder log cuts read.2
    pure (read.1 ++ rows)

def lineAfter (decoder : Decoder) (log : List UInt8) : List Nat → Nat → Nat
  | [], line => line
  | cut :: cuts, _ => lineAfter decoder log cuts (seenLines decoder log cut).length

/-- How much of a log is written when it is read, up to the whole of it. -/
structure Reads (log : List UInt8) where
  cuts : List Nat
  increasing : cuts.Pairwise (· ≤ ·)
  whole : cuts.getLast? = some log.length

/-- A read that is the first to reach a line finds in what there is of it the rows of the line. -/
def Alike (floats : Floats F) (labels : RowLabels) (lines pieces : List (List Char)) (reached : Nat) : Prop :=
  reached < pieces.length → ∀ piece line, pieces.getLast? = some piece → lines[pieces.length - 1]? = some line →
    parseLines floats labels [piece] = parseLines floats labels [line]

def AllAlike (floats : Floats F) (labels : RowLabels) (decoder : Decoder) (log : List UInt8) : List Nat → Nat → Prop
  | [], _ => True
  | cut :: cuts, line =>
    Alike floats labels (splitlines (decoder.decode log)) (seenLines decoder log cut) line ∧
      AllAlike floats labels decoder log cuts (seenLines decoder log cut).length

variable {floats : Floats F} {labels : RowLabels} {decoder : Decoder} {log : List UInt8} {lines pieces : List (List Char)}
  {cuts : List Nat} {cut other line reached : Nat}

theorem parseLines_append (first second : List (List Char)) : parseLines floats labels (first ++ second) =
    (parseLines floats labels first >>= fun rows => parseLines floats labels second >>= fun more => .ok (rows ++ more)) := by
  induction first with
  | nil =>
    cases parsed : parseLines floats labels second <;> simp [parseLines, parsed, bind, Except.bind]
  | cons line first ih =>
    rw [List.cons_append, parseLines, parseLines, ih]
    cases parseServerMetricsLine floats labels line with
    | error error => rfl
    | ok row =>
      cases parseLines floats labels first with
      | error error => rfl
      | ok rows =>
        cases parseLines floats labels second with
        | error error => rfl
        | ok more => exact congrArg Except.ok (List.append_assoc _ _ _).symm

theorem firstLines_seen (ordered : cut ≤ other) :
    FirstLines (seenLines decoder log other) (seenLines decoder log cut) := by
  have part : log.take cut = (log.take other).take cut := by rw [List.take_take, Nat.min_eq_left ordered]
  rw [seenLines, seenLines, part]
  exact (decoder.glimpse (log.take other) cut).firstLines rfl rfl

theorem firstLines_whole (cut : Nat) : FirstLines (splitlines (decoder.decode log)) (seenLines decoder log cut) :=
  (decoder.glimpse log cut).firstLines rfl rfl

theorem parseLines_read (first : FirstLines lines pieces) (reach : reached ≤ pieces.length)
    (alike : Alike floats labels lines pieces reached) :
    parseLines floats labels (pieces.drop reached) = parseLines floats labels ((lines.take pieces.length).drop reached) := by
  rcases Nat.eq_or_lt_of_le reach with ended | further
  · have none : (lines.take pieces.length).drop pieces.length = [] := List.drop_eq_nil_of_le (List.length_take_le _ _)
    rw [ended, List.drop_length, none]
  · have nonempty : pieces ≠ [] := fun empty => by simp [empty] at further
    obtain ⟨tail, split⟩ := first.complete
    have size : pieces.dropLast.length = pieces.length - 1 := List.length_dropLast
    have inside : reached ≤ pieces.dropLast.length := by omega
    cases tail with
    | nil =>
      have shorter := first.shorter
      rw [← split, List.append_nil, size] at shorter
      omega
    | cons line tail =>
      have found : lines[pieces.length - 1]? = some line := by
        rw [← split, ← size, List.getElem?_append_right (Nat.le_refl _), Nat.sub_self]
        rfl
      have same := alike further (pieces.getLast nonempty) line (List.getLast?_eq_some_getLast nonempty) found
      have taken : lines.take pieces.length = pieces.dropLast ++ [line] := by
        have count : pieces.length = pieces.dropLast.length + 1 := by omega
        rw [← split, count, List.take_length_add_append]
        rfl
      have read : pieces.drop reached = pieces.dropLast.drop reached ++ [pieces.getLast nonempty] := by
        conv_lhs => rw [← List.dropLast_append_getLast nonempty]
        exact List.drop_append_of_le_length inside
      rw [taken, read, List.drop_append_of_le_length inside, parseLines_append, parseLines_append, same]

theorem le_lineAfter (increasing : (cut :: cuts).Pairwise (· ≤ ·)) :
    (seenLines decoder log cut).length ≤ lineAfter decoder log cuts (seenLines decoder log cut).length := by
  induction cuts generalizing cut with
  | nil => exact Nat.le_refl _
  | cons next cuts ih =>
    obtain ⟨ordered, increasing⟩ := List.pairwise_cons.mp increasing
    exact Nat.le_trans (firstLines_seen (ordered next List.mem_cons_self)).shorter (ih increasing)

theorem drop_append_drop (lines : List (List Char)) {start middle stop : Nat} (first : start ≤ middle) (second : middle ≤ stop) :
    (lines.take middle).drop start ++ (lines.take stop).drop middle = (lines.take stop).drop start := by
  have front : lines.take middle = (lines.take stop).take middle := by rw [List.take_take, Nat.min_eq_left second]
  have back : (lines.take stop).drop middle = ((lines.take stop).drop start).drop (middle - start) := by
    rw [List.drop_drop, Nat.add_sub_cancel' first]
  rw [front, List.drop_take, back, List.take_append_drop]

theorem collectAll_cons (cut : Nat) (cuts : List Nat) (line : Nat) :
    collectAll floats labels decoder log (cut :: cuts) line =
      (parseLines floats labels ((seenLines decoder log cut).drop line) >>= fun rows =>
        collectAll floats labels decoder log cuts (seenLines decoder log cut).length >>= fun more => .ok (rows ++ more)) := by
  rw [collectAll, parseServerMetricsLog]
  show ((parseLines floats labels ((seenLines decoder log cut).drop line) >>= fun rows => _) >>= fun read => _) = _
  cases parseLines floats labels ((seenLines decoder log cut).drop line) with
  | error error => rfl
  | ok rows => rfl

/-- In every run the rows collected are those of the lines that are reached, when all reads find the rows of the lines. -/
theorem collectAll_alike (increasing : cuts.Pairwise (· ≤ ·))
    (reach : ∀ cut ∈ cuts, line ≤ (seenLines decoder log cut).length)
    (alike : AllAlike floats labels decoder log cuts line) : collectAll floats labels decoder log cuts line =
      parseLines floats labels (((splitlines (decoder.decode log)).take (lineAfter decoder log cuts line)).drop line) := by
  induction cuts generalizing line with
  | nil =>
    have none : ((splitlines (decoder.decode log)).take line).drop line = [] :=
      List.drop_eq_nil_of_le (List.length_take_le _ _)
    rw [lineAfter, none]
    rfl
  | cons cut cuts ih =>
    obtain ⟨here, later⟩ := alike
    obtain ⟨ordered, rest⟩ := List.pairwise_cons.mp increasing
    have reached := reach cut List.mem_cons_self
    have others := ih rest (fun next member => (firstLines_seen (ordered next member)).shorter) later
    have meet := drop_append_drop (splitlines (decoder.decode log)) reached (le_lineAfter increasing)
    rw [collectAll_cons, lineAfter, ← meet, parseLines_append, ← others,
      ← parseLines_read (firstLines_whole cut) reached here]

theorem seenLines_whole : seenLines decoder log log.length = splitlines (decoder.decode log) := by
  rw [seenLines, List.take_length]

theorem lineAfter_last (last : cuts.getLast? = some cut) (line : Nat) :
    lineAfter decoder log cuts line = (seenLines decoder log cut).length := by
  induction cuts generalizing line with
  | nil => cases last
  | cons first cuts ih =>
    cases cuts with
    | nil =>
      cases last
      rfl
    | cons next cuts =>
      rw [List.getLast?_cons_cons] at last
      exact ih last (seenLines decoder log first).length

theorem AllAlike.take (alike : AllAlike floats labels decoder log cuts line) (count : Nat) :
    AllAlike floats labels decoder log (cuts.take count) line := by
  induction cuts generalizing line count with
  | nil =>
    rw [List.take_nil]
    exact alike
  | cons cut cuts ih =>
    cases count with
    | zero => exact trivial
    | succ count => exact ⟨alike.1, ih alike.2 count⟩

theorem alike_of_lines (ended : pieces <+: lines) (reached : Nat) : Alike floats labels lines pieces reached := by
  intro _ piece line last found
  have nonempty : pieces ≠ [] := fun empty => by simp [empty] at last
  have inside : pieces.length - 1 < pieces.length := Nat.sub_lt (List.length_pos_iff.mpr nonempty) Nat.one_pos
  rw [List.getLast?_eq_getElem?] at last
  obtain ⟨tail, split⟩ := ended
  rw [← split, List.getElem?_append_left inside, last] at found
  cases found
  rfl

/-- When all reads find the rows of the lines that they are the first to reach, the rows after each of them are those of the
    lines up to there, and in the end those of the log. -/
theorem collection_complete (floats : Floats F) (labels : RowLabels) (decoder : Decoder) (log : List UInt8)
    (reads : Reads log) (alike : AllAlike floats labels decoder log reads.cuts 0) :
    (∀ count, collectAll floats labels decoder log (reads.cuts.take count) 0 =
      parseLines floats labels
        ((splitlines (decoder.decode log)).take (lineAfter decoder log (reads.cuts.take count) 0))) ∧
    collectAll floats labels decoder log reads.cuts 0 =
      (parseServerMetricsLog floats labels (decoder.decode log) 0).map Prod.fst := by
  have run : ∀ count, collectAll floats labels decoder log (reads.cuts.take count) 0 =
      parseLines floats labels
        ((splitlines (decoder.decode log)).take (lineAfter decoder log (reads.cuts.take count) 0)) := fun count =>
    collectAll_alike (reads.increasing.sublist (List.take_sublist _ _)) (fun _ _ => Nat.zero_le _) (alike.take count)
  refine ⟨run, ?_⟩
  have all := run reads.cuts.length
  rw [List.take_length, lineAfter_last reads.whole, seenLines_whole, List.take_length] at all
  rw [all, parseServerMetricsLog, List.drop_zero]
  cases parseLines floats labels (splitlines (decoder.decode log)) with
  | error error => rfl
  | ok rows => rfl

def octetChar (octet : UInt8) : Char := Char.ofNat octet.toNat

theorem glimpse_octets (bytes : List UInt8) (count : Nat) :
    Glimpse isLineEnd (bytes.map octetChar) ((bytes.take count).map octetChar) := by
  refine ⟨(bytes.take count).map octetChar, (bytes.drop count).map octetChar, [], ?_, ?_, ?_, ?_⟩
  · rw [← List.map_append, List.take_append_drop]
  · rw [List.append_nil]
  · exact fun _ member => absurd member List.not_mem_nil
  · exact fun nonempty => absurd rfl nonempty

def octetDecoder : Decoder := ⟨List.map octetChar, glimpse_octets⟩

def singleBytes : List UInt8 := (logText [singleSetup, singleAuth]).map fun char => UInt8.ofNat char.toNat

def onlineLabels : RowLabels := ⟨"zkarche".toList, "1".toList, "concurrent".toList, 1⟩

theorem decode_singleBytes : octetDecoder.decode singleBytes = logText [singleSetup, singleAuth] := by
  decide +kernel

theorem splitlines_singleBytes :
    splitlines (octetDecoder.decode singleBytes) = [singleSetup.line, singleAuth.line] := by
  rw [decode_singleBytes, splitlines_logText]
  rfl

theorem singleReads_increasing : [93, singleBytes.length].Pairwise (· ≤ ·) := by
  decide +kernel

def singleReads : Reads singleBytes := ⟨[93, singleBytes.length], singleReads_increasing, rfl⟩

theorem seenLines_setup : seenLines octetDecoder singleBytes 93 = [singleSetup.line] := by
  decide +kernel

theorem singleReads_alike (floats : Floats F) :
    AllAlike floats onlineLabels octetDecoder singleBytes singleReads.cuts 0 := by
  have whole : seenLines octetDecoder singleBytes singleBytes.length ++ [] = splitlines (octetDecoder.decode singleBytes) := by
    rw [List.append_nil, seenLines_whole]
  refine ⟨alike_of_lines ?_ _, alike_of_lines ⟨[], whole⟩ _, trivial⟩
  rw [seenLines_setup, splitlines_singleBytes]
  exact ⟨[singleAuth.line], rfl⟩

def exactFloats : Floats ℚ := ⟨id, (· + ·), (· * ·), (· / ·), fun value => (value * 10000 + 1 / 2).floor / 10000⟩

theorem parse_singleBytes (floats : Floats F) :
    (parseServerMetricsLog floats onlineLabels (octetDecoder.decode singleBytes) 0).map Prod.fst =
      .ok [sessionRow floats onlineLabels singleSetup, sessionRow floats onlineLabels singleAuth] := by
  have rows := parseLines_lines floats onlineLabels [singleSetup, singleAuth]
  rw [parseServerMetricsLog, splitlines_singleBytes, List.drop_zero]
  rw [List.map_cons, List.map_cons, List.map_nil] at rows
  rw [rows]
  rfl

theorem collection_complete_single :
    collectAll exactFloats onlineLabels octetDecoder singleBytes singleReads.cuts 0 =
      .ok [sessionRow exactFloats onlineLabels singleSetup, sessionRow exactFloats onlineLabels singleAuth] :=
  (collection_complete exactFloats onlineLabels octetDecoder singleBytes singleReads (singleReads_alike _)).2.trans
    (parse_singleBytes _)

theorem tornReads_increasing : [40, singleBytes.length].Pairwise (· ≤ ·) := by
  decide +kernel

def tornReads : Reads singleBytes := ⟨[40, singleBytes.length], tornReads_increasing, rfl⟩

theorem seenLines_torn :
    seenLines octetDecoder singleBytes 40 = ["SERVER METRICS -> Some(10.0.0.2:40001) D".toList] := by
  decide +kernel

theorem parseLines_torn (floats : Floats F) :
    parseLines floats onlineLabels ["SERVER METRICS -> Some(10.0.0.2:40001) D".toList] = .ok [] := by
  have unmatched : (peerRe.search "SERVER METRICS -> Some(10.0.0.2:40001) D".toList).or
      (compactRe.search "SERVER METRICS -> Some(10.0.0.2:40001) D".toList) = none := by decide +kernel
  have none : parseServerMetricsLine floats onlineLabels "SERVER METRICS -> Some(10.0.0.2:40001) D".toList = .ok none := by
    rw [parseServerMetricsLine, unmatched]
    split <;> rfl
  rw [parseLines, none]
  rfl

/-- The row of a line that is read in two pieces is lost. -/
theorem torn_row_lost : ¬ ∃ floats : Floats ℚ,
    collectAll floats onlineLabels octetDecoder singleBytes tornReads.cuts 0 =
      (parseServerMetricsLog floats onlineLabels (octetDecoder.decode singleBytes) 0).map Prod.fst := by
  rintro ⟨floats, same⟩
  have second : parseLines floats onlineLabels [singleAuth.line] = .ok [sessionRow floats onlineLabels singleAuth] :=
    parseLines_lines floats onlineLabels [singleAuth]
  have collected : collectAll floats onlineLabels octetDecoder singleBytes tornReads.cuts 0 =
      .ok [sessionRow floats onlineLabels singleAuth] := by
    show collectAll floats onlineLabels octetDecoder singleBytes [40, singleBytes.length] 0 = _
    rw [collectAll_cons, collectAll_cons, seenLines_torn, seenLines_whole, splitlines_singleBytes, List.drop_zero,
      parseLines_torn]
    have left : [singleSetup.line, singleAuth.line].drop ["SERVER METRICS -> Some(10.0.0.2:40001) D".toList].length =
        [singleAuth.line] := rfl
    rw [left, second]
    rfl
  rw [collected, parse_singleBytes] at same
  cases same

end ZkArche.Mininet

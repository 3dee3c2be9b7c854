import ZkArche.Mininet.Peers
import ZkArche.Mininet.ServerMetrics

namespace ZkArche.Mininet

open Foundation Foundation.Pattern Python Benchmarks

/-- A connection of `zkarche_server`: its peer, how long it took and the bytes counted. -/
structure Session where
  peer : SocketAddr
  elapsed : Duration
  sent : UInt64
  recv : UInt64

def Session.line (session : Session) : List Char :=
  "SERVER METRICS -> ".toList ++ (peerText (some session.peer) ++
    (' ' :: figuresText session.elapsed session.sent session.recv))

def logText (sessions : List Session) : List Char := sessions.flatMap fun session => session.line ++ ['\n']

variable {F : Type}

def durationMs (floats : Floats F) (duration : Duration) : F :=
  let value := floats.nearest duration.amount
  if duration.unit = "ns".toList then floats.div value (floats.nearest 1000000)
  else if duration.unit = "µs".toList ∨ duration.unit = "us".toList then floats.div value (floats.nearest 1000)
  else if duration.unit = "ms".toList then value
  else floats.mul value (floats.nearest 1000)

section Characters

variable {char : Char} {addr : SocketAddr} {session : Session}

theorem isAddressChar_cases (allowed : isAddressChar char = true) :
    char.isDigit = true ∨ char ∈ "abcdef.:[]%".toList := by
  rw [isAddressChar, Bool.or_eq_true, List.contains_iff_mem] at allowed
  exact allowed

theorem isSpace_address (allowed : isAddressChar char = true) : isSpace char = false := by
  have others : ∀ char ∈ "abcdef.:[]%".toList, isSpace char = false := every (by decide)
  rcases isAddressChar_cases allowed with ascii | member
  · exact isSpace_digit ascii
  · exact others char member

theorem isLineEnd_address (allowed : isAddressChar char = true) : isLineEnd char = false := by
  have others : ∀ char ∈ "abcdef.:[]%".toList, isLineEnd char = false := every (by decide)
  rcases isAddressChar_cases allowed with ascii | member
  · exact isLineEnd_digit ascii
  · exact others char member

theorem not_mem_address {other : Char} (outside : isAddressChar other = false) : other ∉ addr.text := by
  intro member
  have allowed := addressText_socket addr other member
  rw [outside] at allowed
  cases allowed

theorem peer_chars {holds : Char → Prop} (address : ∀ char, isAddressChar char = true → holds char)
    (around : ∀ char ∈ "Some()".toList, holds char) : ∀ char ∈ peerText (some addr), holds char := by
  intro char member
  rcases List.mem_append.mp member with member | member
  · exact around char (List.mem_of_mem_take (i := 5) member)
  · rcases List.mem_append.mp member with member | member
    · exact address char (addressText_socket addr char member)
    · exact around char (List.mem_of_mem_drop (i := 5) member)

theorem isSpace_peer : ∀ char ∈ peerText (some addr), isSpace char = false :=
  peer_chars (fun _ allowed => isSpace_address allowed) (every (by decide))

theorem isFree_peer : ∀ char ∈ peerText (some addr), isFree char = true := by
  refine peer_chars (fun char allowed => decide_eq_true ?_) (every (by decide))
  rintro rfl
  cases allowed

theorem unquoted_peer : ∀ char ∈ peerText (some addr), decide (char = '"') = false := by
  refine peer_chars (fun char allowed => decide_eq_false ?_) (every (by decide))
  rintro rfl
  cases allowed

theorem unbroken_peer : Unbroken (peerText (some addr)) :=
  peer_chars (fun _ allowed => isLineEnd_address allowed) (every (by decide))

theorem unbroken_line (session : Session) : Unbroken session.line := by
  have opening : Unbroken "SERVER METRICS -> ".toList := every (by decide)
  have blank : Unbroken [' '] := every (by decide)
  exact opening.append (unbroken_peer.append (blank.append (unbroken_figures _ _ _)))

theorem splitlines_logText (sessions : List Session) : splitlines (logText sessions) = sessions.map Session.line := by
  induction sessions with
  | nil => rfl
  | cons session sessions ih =>
    rw [logText, List.flatMap_cons, List.append_assoc, List.singleton_append, splitlines_feed (unbroken_line session),
      List.map_cons, ← ih, logText]

end Characters

section Durations

variable {floats : Floats F} {duration : Duration}

theorem takes_duration (duration : Duration) :
    Takes durationRe (duration.number ++ (duration.unit ++ [])) [("1", duration.number), ("2", duration.unit)] [] := by
  have number : ∀ char ∈ duration.number, (char.isDigit || decide (char = '.')) = true := by
    intro char member
    rcases duration.number_char char member with ascii | rfl
    · rw [ascii, Bool.true_or]
    · rfl
  have stop : ∀ char ∈ (duration.unit ++ []).head?, (char.isDigit || decide (char = '.')) = false := by
    rcases duration.unit_cases with unit | unit | unit | unit
    all_goals
      rw [unit]
      exact stops (by decide)
  have blank : ∀ char ∈ (duration.unit ++ []).head?, isSpace char = false := by
    rcases duration.unit_cases with unit | unit | unit | unit
    all_goals
      rw [unit]
      exact stops (by decide)
  have filled : 1 ≤ duration.number.length := by
    refine List.length_pos_iff.mpr (List.append_ne_nil_of_left_ne_nil decimal_ne_nil _)
  refine Takes.capture (Takes.group (takes_many number stop filled)) ?_
  refine Takes.skip (takes_none blank) ?_
  exact Takes.capture (Takes.group (takes_unit duration [])) (takes_chain_nil [])

theorem isSpace_debug (duration : Duration) : ∀ char ∈ duration.debug, isSpace char = false := by
  have others : ∀ char ∈ ['.', 's', 'm', 'µ', 'n'], isSpace char = false := every (by decide)
  intro char member
  rcases duration.debug_char char member with ascii | member
  · exact isSpace_digit ascii
  · exact others char member

theorem parseDurationToMs_debug (floats : Floats F) (duration : Duration) :
    parseDurationToMs floats duration.debug = .ok (some (durationMs floats duration)) := by
  obtain ⟨eaten, found⟩ := takes_duration duration
  rw [List.append_nil] at found
  have filled : duration.debug ≠ [] :=
    List.append_ne_nil_of_left_ne_nil (List.append_ne_nil_of_left_ne_nil decimal_ne_nil _) _
  have number : floats.float duration.number = .ok (floats.nearest duration.amount) := by
    rw [Floats.float, Duration.number, decimalValue_fmtDecimal duration.part_lt]
    rfl
  rw [parseDurationToMs, if_neg filled, strip_eq_self (isSpace_debug duration), Duration.debug, found]
  show (floats.float duration.number >>= fun value => _) = _
  rw [number]
  show (if duration.unit = "ns".toList then _ else if duration.unit = "µs".toList ∨ duration.unit = "us".toList then _
    else if duration.unit = "ms".toList then _ else if duration.unit = "s".toList then _ else _) = _
  rw [durationMs]
  rcases duration.unit_cases with unit | unit | unit | unit
  all_goals
    rw [unit]
    rfl

end Durations

section Parsing

variable {floats : Floats F} {labels : RowLabels}

def countsText (sent recv : List Char) : List Char :=
  ",".toList ++ (' ' :: ("Sent:".toList ++ (' ' :: (sent ++ (' ' :: ("bytes,".toList ++ (' ' :: ("Received:".toList ++
    (' ' :: (recv ++ (' ' :: ("bytes".toList ++ []))))))))))))

theorem figuresText_eq (duration : Duration) (sent recv : UInt64) : figuresText duration sent recv =
    "Duration:".toList ++ (' ' :: (duration.debug ++ countsText (decimal sent.toNat) (decimal recv.toNat))) := by
  have first : "Duration: ".toList = "Duration:".toList ++ [' '] := rfl
  have second : ", Sent: ".toList = ",".toList ++ (' ' :: ("Sent:".toList ++ [' '])) := rfl
  have third : " bytes, Received: ".toList = ' ' :: ("bytes,".toList ++ (' ' :: ("Received:".toList ++ [' ']))) := rfl
  have last : " bytes".toList = ' ' :: ("bytes".toList ++ []) := rfl
  unfold figuresText metricsText countsText
  rw [first, second, third, last]
  simp only [List.append_assoc, List.cons_append, List.nil_append]

theorem takes_counts (duration : Duration) (sent recv : UInt64) :
    Takes (chain (countsRe "2" "3" "4"))
      (' ' :: (duration.debug ++ countsText (decimal sent.toNat) (decimal recv.toNat)))
      [("2", duration.debug), ("3", decimal sent.toNat), ("4", decimal recv.toNat)] [] := by
  have free : ∀ char ∈ duration.debug, isFree char = true := fun char member =>
    decide_eq_true fun comma => duration.debug_ne (by decide) (by decide) (comma ▸ member)
  have filled : 1 ≤ duration.debug.length := List.length_pos_iff.mpr
    (List.append_ne_nil_of_left_ne_nil (List.append_ne_nil_of_left_ne_nil decimal_ne_nil _) _)
  have digits : ∀ char ∈ (duration.debug ++ countsText (decimal sent.toNat) (decimal recv.toNat)).head?,
      isSpace char = false := by
    rw [Duration.debug, List.append_assoc]
    exact isSpace_number_head duration _
  refine Takes.skip (takes_spaces_one digits) ?_
  refine Takes.capture (Takes.group (takes_many free (stops (by decide)) filled)) ?_
  refine Takes.skip (takes_text _ _) ?_
  refine Takes.skip (takes_spaces_one (stops (by decide))) ?_
  refine Takes.skip (takes_text _ _) ?_
  refine Takes.skip (takes_spaces_one (isSpace_decimal_head _ _)) ?_
  refine Takes.capture (takes_digits (stops (by decide)) _) ?_
  refine Takes.skip (takes_spaces_one (stops (by decide))) ?_
  refine Takes.skip (takes_text _ _) ?_
  refine Takes.skip (takes_spaces_one (stops (by decide))) ?_
  refine Takes.skip (takes_text _ _) ?_
  refine Takes.skip (takes_spaces_one (isSpace_decimal_head _ _)) ?_
  refine Takes.capture (takes_digits (stops (by decide)) _) ?_
  refine Takes.skip (takes_spaces_one (stops (by decide))) ?_
  exact Takes.skip (takes_text _ _) (takes_chain_nil [])

theorem takes_compact (session : Session) : Takes compactRe session.line
    [("1", peerText (some session.peer)), ("2", session.elapsed.debug), ("3", decimal session.sent.toNat),
      ("4", decimal session.recv.toNat)] [] := by
  have opening : "SERVER METRICS -> ".toList = "SERVER METRICS".toList ++ (' ' :: ("->".toList ++ [' '])) := rfl
  have filled : peerText (some session.peer) ≠ [] := List.cons_ne_nil _ _
  have early : ∀ front back rest : List Char, peerText (some session.peer) = front ++ back → back ≠ [] →
      (chain (.many 1 isSpace :: exactly "Duration:" :: countsRe "2" "3" "4")).ways (back ++ rest) = [] := by
    intro front back rest split nonempty
    obtain ⟨char, back, rfl⟩ := List.exists_cons_of_ne_nil nonempty
    have member : char ∈ peerText (some session.peer) := by simp [split]
    exact chain_fails (many_fails (isSpace_peer char member))
  unfold Session.line compactRe
  rw [opening, figuresText_eq]
  simp only [List.append_assoc, List.cons_append, List.nil_append]
  refine Takes.skip (takes_text _ _) ?_
  refine Takes.skip (takes_spaces_one (stops (by decide))) ?_
  refine Takes.skip (takes_text _ _) ?_
  refine Takes.skip (takes_spaces_one (stops (by decide))) ?_
  refine Takes.lazily filled isFree_peer (fun front back => early front back _) ?_
  refine Takes.skip (takes_blank (Nat.le_refl 1) (stops (by decide))) ?_
  exact Takes.skip (takes_text _ _) (takes_counts _ _ _)

theorem peerRe_fails (rest : List Char) :
    peerRe.ways ("SERVER METRICS".toList ++ (' ' :: ("->".toList ++ (' ' :: 'S' :: rest)))) = [] := by
  have arrow : (exactly "->").ways (' ' :: ("->".toList ++ (' ' :: 'S' :: rest))) = [] := exactly_fails '-' rfl (by simp)
  have blank : (exactly "Peer:").ways (' ' :: 'S' :: rest) = [] := exactly_fails 'P' rfl (by simp)
  have word : (exactly "Peer:").ways ('S' :: rest) = [] := exactly_fails 'P' rfl (by simp)
  refine chain_text_fails (spaces_fail (stops (by decide)) (chain_fails arrow) (chain_text_fails ?_))
  exact spaces_fail (stops (by decide)) (chain_fails blank) (chain_fails word)

theorem search_peerRe (session : Session) : peerRe.search session.line = none := by
  have needs : ∀ input, (∀ word ∈ ["SERVER METRICS".toList], spell word input = []) → peerRe.ways input = [] := by
    intro input fails
    have word : (exactly "SERVER METRICS").ways input = [] := fails _ List.mem_cons_self
    exact chain_fails word
  have pass : ∀ {chars}, clear ["SERVER METRICS".toList] chars = true → ∀ rest,
      peerRe.search (chars ++ rest) = peerRe.search rest := fun none rest => search_clear needs none rest
  have unstarted : ∀ {chars : List Char}, 'S' ∉ chars → clear ["SERVER METRICS".toList] chars = true := fun absent =>
    clear_of_heads fun word member => ⟨'S', by rw [List.mem_singleton.mp member]; rfl, absent⟩
  have digits : ∀ number, 'S' ∉ decimal number := fun number member =>
    ne_of_isDigit (isDigit_decimal 'S' member) (by decide) rfl
  have counts : peerRe.search (figuresText session.elapsed session.sent session.recv ++ []) = none := by
    unfold figuresText metricsText
    simp only [List.append_assoc]
    rw [pass (by decide), pass (unstarted (session.elapsed.debug_ne (by decide) (by decide))), pass (by decide),
      pass (unstarted (digits _)), pass (by decide), pass (unstarted (digits _)), pass (by decide)]
    rfl
  have behind : peerRe.search ("ERVER METRICS -> Some(".toList ++ (session.peer.text ++ (")".toList ++ ([' '] ++
      (figuresText session.elapsed session.sent session.recv ++ []))))) = none := by
    rw [pass (by decide), pass (unstarted (not_mem_address (by decide))), pass (by decide), pass (by decide), counts]
  have opening : "SERVER METRICS -> ".toList = 'S' :: "ERVER METRICS -> ".toList := rfl
  have words : "SERVER METRICS -> ".toList = "SERVER METRICS".toList ++ (' ' :: ("->".toList ++ [' '])) := rfl
  have joined : "ERVER METRICS -> Some(".toList = "ERVER METRICS -> ".toList ++ "Some(".toList := rfl
  have peer : "Some(".toList = 'S' :: "ome(".toList := rfl
  have line : session.line = 'S' :: ("ERVER METRICS -> Some(".toList ++ (session.peer.text ++ (")".toList ++ ([' '] ++
      (figuresText session.elapsed session.sent session.recv ++ []))))) := by
    unfold Session.line peerText
    rw [opening, joined]
    simp only [List.append_assoc, List.cons_append, List.nil_append, List.append_nil]
  have fails : peerRe.ways session.line = [] := by
    unfold Session.line peerText
    rw [words, peer]
    simp only [List.append_assoc, List.cons_append, List.nil_append]
    exact peerRe_fails _
  rw [line] at fails
  rw [line, search_cons fails, behind]

def sessionRow (floats : Floats F) (labels : RowLabels) (session : Session) : ServerMetricRow F :=
  filledRow labels session.line (peerText (some session.peer)) (some (floats.round4 (durationMs floats session.elapsed)))
    session.sent.toNat session.recv.toNat

theorem line_has_marker (session : Session) : occursIn "SERVER METRICS ->".toList session.line = true := by
  have opening : "SERVER METRICS -> ".toList = "SERVER METRICS ->".toList ++ [' '] := rfl
  unfold Session.line
  rw [opening, List.append_assoc]
  exact occursIn_append _ _

theorem parseServerMetricsLine_line (floats : Floats F) (labels : RowLabels) (session : Session) :
    parseServerMetricsLine floats labels session.line = .ok (some (sessionRow floats labels session)) := by
  obtain ⟨eaten, found⟩ := (takes_compact session).search
  have peer : strip (fun char => decide (char = '"')) (strip isSpace (peerText (some session.peer))) =
      peerText (some session.peer) := by
    rw [strip_eq_self isSpace_peer, strip_eq_self unquoted_peer]
  have sentBytes : int (decimal session.sent.toNat) = .ok (session.sent.toNat : Int) := int_decimal session.sent.toNat_lt
  have recvBytes : int (decimal session.recv.toNat) = .ok (session.recv.toNat : Int) := int_decimal session.recv.toNat_lt
  have marked : ¬ occursIn "SERVER METRICS ->".toList session.line = false := by
    rw [line_has_marker]
    exact Bool.noConfusion
  rw [parseServerMetricsLine, if_neg marked, search_peerRe, Option.none_or, found]
  show (parseDurationToMs floats session.elapsed.debug >>= fun parsed => int (decimal session.sent.toNat) >>= fun sent =>
    int (decimal session.recv.toNat) >>= fun received => pure (some (filledRow labels session.line
      (strip (fun char => decide (char = '"')) (strip isSpace (peerText (some session.peer)))) (parsed.map floats.round4)
      sent received))) = _
  rw [parseDurationToMs_debug, sentBytes, recvBytes, peer]
  rfl

theorem parseLines_lines (floats : Floats F) (labels : RowLabels) (sessions : List Session) :
    parseLines floats labels (sessions.map Session.line) = .ok (sessions.map (sessionRow floats labels)) := by
  induction sessions with
  | nil => rfl
  | cons session sessions ih =>
    rw [List.map_cons, parseLines, parseServerMetricsLine_line, ih]
    rfl

end Parsing

end ZkArche.Mininet

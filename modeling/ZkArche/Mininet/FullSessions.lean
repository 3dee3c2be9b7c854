import ZkArche.Mininet.ServerLines

namespace ZkArche.Mininet

open Foundation Python Benchmarks

/-- A client of an experiment, with the server's figures of its setup. -/
structure Assignment (F : Type) where
  clientIp : List Char
  serverSetupDurationMs : Option F
  serverSetupSentBytes : Option Int
  serverSetupReceivedBytes : Option Int

structure FullSessionRow (F : Type) where
  metrics : ServerMetricRow F
  serverSetupDurationMs : Option F
  serverSetupSentBytes : Option Int
  serverSetupReceivedBytes : Option Int
  serverFullSessionDurationMs : Option F
  serverFullSessionSentBytes : Option Int
  serverFullSessionReceivedBytes : Option Int
  serverFullSessionTotalBytes : Option Int

def peerIp (peer : Option (List Char)) : List Char :=
  strip (fun char => decide (char = '"')) (strip isSpace ((peer.getD []).takeWhile fun char => decide (char ≠ ':')))

variable {F : Type}

def byIp (assignments : List (Assignment F)) (ip : List Char) : Option Nat :=
  (assignments.zipIdx.reverse.find? fun entry => decide (entry.1.clientIp = ip)).map Prod.snd

def clearSetup (a : Assignment F) : Assignment F :=
  { a with serverSetupDurationMs := none, serverSetupSentBytes := none, serverSetupReceivedBytes := none }

def setSetup (sr : ServerMetricRow F) (a : Assignment F) : Assignment F :=
  { a with
    serverSetupDurationMs := sr.serverAuthDurationMs
    serverSetupSentBytes := sr.serverSentBytes
    serverSetupReceivedBytes := sr.serverReceivedBytes }

def matchSetups (ips : List Char → Option Nat) : List (ServerMetricRow F) → List (Assignment F) → List (Assignment F)
  | [], assignments => assignments
  | sr :: setupRows, assignments =>
    match ips (peerIp sr.serverPeer) with
    | none => matchSetups ips setupRows assignments
    | some place => matchSetups ips setupRows (assignments.modify place (setSetup sr))

def setupLabels : RowLabels := ⟨"zkarche".toList, "setup".toList, "setup".toList, 0⟩

/-- What `prepare_zkarche_state` makes of the log that it reads before the setups and last after them. -/
def prepareZkarcheState (floats : Floats F) (assignments : List (Assignment F)) (before after : List Char) :
    Except ValueError (List (Assignment F)) := do
  let setup ← parseServerMetricsLog floats setupLabels after (splitlines before).length
  pure (matchSetups (byIp assignments) setup.1 (assignments.map clearSetup))

def fullValue {V : Type} (add : V → V → V) : Option V → Option V → Option V
  | some setup, some auth => some (add setup auth)
  | _, auth => auth

def totalBytes : Option Int → Option Int → Option Int
  | some sent, some received => some (sent + received)
  | _, _ => none

def fullSessionRow (floats : Floats F) (assignments : List (Assignment F)) (row : ServerMetricRow F) : FullSessionRow F :=
  let a := (byIp assignments (peerIp row.serverPeer)).bind fun place => assignments[place]?
  let setupMs := a.bind Assignment.serverSetupDurationMs
  let setupSent := a.bind Assignment.serverSetupSentBytes
  let setupRecv := a.bind Assignment.serverSetupReceivedBytes
  let fullSent := fullValue (· + ·) setupSent row.serverSentBytes
  let fullRecv := fullValue (· + ·) setupRecv row.serverReceivedBytes
  { metrics := row
    serverSetupDurationMs := setupMs
    serverSetupSentBytes := setupSent
    serverSetupReceivedBytes := setupRecv
    serverFullSessionDurationMs :=
      fullValue (fun setup auth => floats.round4 (floats.add setup auth)) setupMs row.serverAuthDurationMs
    serverFullSessionSentBytes := fullSent
    serverFullSessionReceivedBytes := fullRecv
    serverFullSessionTotalBytes := totalBytes fullSent fullRecv }

def addZkarcheServerFullSessionFields (floats : Floats F) (serverRows : List (ServerMetricRow F))
    (assignments : List (Assignment F)) : List (FullSessionRow F) :=
  serverRows.map (fullSessionRow floats assignments)

def Session.ip (session : Session) : List Char := session.peer.ip.text

/-- One setup of each client, and then authentications of these clients. -/
structure ServerLog (assignments : List (Assignment F)) where
  setups : List Session
  auths : List Session
  distinct : (assignments.map Assignment.clientIp).Nodup
  once : (setups.map Session.ip).Perm (assignments.map Assignment.clientIp)
  theirs : ∀ auth ∈ auths, auth.ip ∈ assignments.map Assignment.clientIp

/-- An assignment has the figures of a connection as its setup. -/
structure Carries (floats : Floats F) (a : Assignment F) (setup : Session) : Prop where
  durationMs : a.serverSetupDurationMs = some (floats.round4 (durationMs floats setup.elapsed))
  sentBytes : a.serverSetupSentBytes = some setup.sent.toNat
  receivedBytes : a.serverSetupReceivedBytes = some setup.recv.toNat

structure Sums (floats : Floats F) (row : FullSessionRow F) (setup auth : Session) : Prop where
  durationMs : row.serverFullSessionDurationMs = some (floats.round4 (floats.add
    (floats.round4 (Mininet.durationMs floats setup.elapsed)) (floats.round4 (Mininet.durationMs floats auth.elapsed))))
  sentBytes : row.serverFullSessionSentBytes = some (setup.sent.toNat + auth.sent.toNat : Int)
  receivedBytes : row.serverFullSessionReceivedBytes = some (setup.recv.toNat + auth.recv.toNat : Int)

/-- Every assignment carries the figures of its own setup, and every authentication has a row with those of the setup of its
    client added. -/
def SetupIncluded (floats : Floats F) (labels : RowLabels) (assignments : List (Assignment F))
    (log : ServerLog assignments) : Prop :=
  ∃ prepared rows, prepareZkarcheState floats assignments [] (logText log.setups) = .ok prepared ∧
    parseServerMetricsLog floats labels (logText (log.setups ++ log.auths)) (splitlines (logText log.setups)).length =
      .ok (rows, log.setups.length + log.auths.length) ∧
    (∀ a ∈ prepared, ∃ setup ∈ log.setups, setup.ip = a.clientIp ∧ Carries floats a setup) ∧
    List.Forall₂ (fun auth row => ∃ setup ∈ log.setups, setup.ip = auth.ip ∧ Sums floats row setup auth) log.auths
      (addZkarcheServerFullSessionFields floats rows prepared)

section Unmatched

variable {floats : Floats F} {assignments : List (Assignment F)} {setupRows : List (ServerMetricRow F)}
  {ips : List Char → Option Nat} {ip : List Char} {row : ServerMetricRow F}

theorem byIp_none (other : ∀ a ∈ assignments, a.clientIp ≠ ip) : byIp assignments ip = none := by
  rw [byIp, Option.map_eq_none_iff, List.find?_eq_none]
  intro entry member
  have listed : entry.1 ∈ assignments := List.fst_mem_of_mem_zipIdx (List.mem_reverse.mp member)
  rw [decide_eq_true_eq]
  exact other entry.1 listed

theorem matchSetups_unmatched (unmatched : ∀ sr ∈ setupRows, ips (peerIp sr.serverPeer) = none)
    (assignments : List (Assignment F)) : matchSetups ips setupRows assignments = assignments := by
  induction setupRows with
  | nil => rfl
  | cons sr setupRows ih =>
    rw [matchSetups, unmatched sr List.mem_cons_self]
    exact ih fun other member => unmatched other (List.mem_cons_of_mem _ member)

theorem peerIp_peer (addr : SocketAddr) : ∃ rest, peerIp (some (peerText (some addr))) = 'S' :: rest := by
  have kept : ∀ char ∈ "Some(".toList, decide (char ≠ ':') = true := every (by decide)
  have part : (peerText (some addr)).takeWhile (fun char => decide (char ≠ ':')) =
      "Some(".toList ++ (addr.text ++ ")".toList).takeWhile fun char => decide (char ≠ ':') :=
    List.takeWhile_append_of_pos kept
  have member : ∀ char ∈ (peerText (some addr)).takeWhile (fun char => decide (char ≠ ':')),
      char ∈ peerText (some addr) := fun char member => (List.takeWhile_sublist _).mem member
  have same : peerIp (some (peerText (some addr))) = (peerText (some addr)).takeWhile fun char => decide (char ≠ ':') := by
    rw [peerIp, Option.getD_some, strip_eq_self fun char inside => isSpace_peer char (member char inside),
      strip_eq_self fun char inside => unquoted_peer char (member char inside)]
  rw [same, part]
  exact ⟨_, rfl⟩

theorem ServerLog.unmatched (log : ServerLog assignments) (addr : SocketAddr) :
    ∀ a ∈ assignments, a.clientIp ≠ peerIp (some (peerText (some addr))) := by
  intro a member same
  obtain ⟨rest, peer⟩ := peerIp_peer addr
  obtain ⟨setup, _, ip⟩ := List.mem_map.mp (log.once.mem_iff.mpr (List.mem_map_of_mem member))
  have address : isAddressChar 'S' = true := by
    refine addressText_ip setup.peer.ip 'S' ?_
    rw [show setup.peer.ip.text = a.clientIp from ip, same, peer]
    exact List.mem_cons_self
  exact absurd address (by decide)

theorem prepareZkarcheState_log (floats : Floats F) (log : ServerLog assignments) :
    prepareZkarcheState floats assignments [] (logText log.setups) = .ok (assignments.map clearSetup) := by
  have rows : parseServerMetricsLog floats setupLabels (logText log.setups) (splitlines []).length =
      .ok (log.setups.map (sessionRow floats setupLabels), (log.setups.map Session.line).length) := by
    rw [parseServerMetricsLog, splitlines_logText]
    show (parseLines floats setupLabels (log.setups.map Session.line) >>= fun rows => _) = _
    rw [parseLines_lines]
    rfl
  have unmatched : ∀ sr ∈ log.setups.map (sessionRow floats setupLabels),
      byIp assignments (peerIp sr.serverPeer) = none := by
    intro sr member
    obtain ⟨setup, _, rfl⟩ := List.mem_map.mp member
    exact byIp_none (log.unmatched setup.peer)
  rw [prepareZkarcheState, rows]
  exact congrArg Except.ok (matchSetups_unmatched unmatched _)

end Unmatched

/-- The setups are included only where there is no client. -/
theorem setup_included_iff (floats : Floats F) (labels : RowLabels) (assignments : List (Assignment F))
    (log : ServerLog assignments) : SetupIncluded floats labels assignments log ↔ assignments = [] := by
  constructor
  case mp =>
    rintro ⟨prepared, _, found, _, carried, _⟩
    rw [prepareZkarcheState_log] at found
    cases found
    cases assignments with
    | nil => rfl
    | cons a assignments =>
      obtain ⟨_, _, _, carries⟩ := carried (clearSetup a) List.mem_cons_self
      have captured : none = some _ := carries.sentBytes
      cases captured
  case mpr =>
    rintro rfl
    have setups : log.setups = [] := List.map_eq_nil_iff.mp log.once.eq_nil
    have auths : log.auths = [] := by
      refine List.eq_nil_iff_forall_not_mem.mpr fun auth member => ?_
      exact absurd (log.theirs auth member) List.not_mem_nil
    refine ⟨[], [], ?_, ?_, fun a member => absurd member List.not_mem_nil, ?_⟩
    · exact prepareZkarcheState_log floats log
    · rw [setups, auths]
      rfl
    · rw [auths]
      exact .nil

def singleAssignment : Assignment ℚ := ⟨"10.0.0.2".toList, none, none, none⟩

def singleSetup : Session := ⟨⟨.v4 10 0 0 2, 40001, 0⟩, ⟨0, 2500000⟩, 210, 340⟩

def singleAuth : Session := ⟨⟨.v4 10 0 0 2, 40002, 0⟩, ⟨0, 1250000⟩, 190, 420⟩

theorem single_distinct : ([singleAssignment].map Assignment.clientIp).Nodup := List.pairwise_singleton _ _

theorem single_once : ([singleSetup].map Session.ip).Perm ([singleAssignment].map Assignment.clientIp) := .refl _

theorem single_theirs : ∀ auth ∈ [singleAuth], auth.ip ∈ [singleAssignment].map Assignment.clientIp := by
  intro auth member
  rw [List.mem_singleton.mp member]
  exact List.mem_cons_self

def singleLog : ServerLog [singleAssignment] :=
  ⟨[singleSetup], [singleAuth], single_distinct, single_once, single_theirs⟩

/-- The setup of a single client is not captured. -/
theorem single_setup_missing : ¬ ∃ floats : Floats ℚ,
    SetupIncluded floats ⟨"zkarche".toList, "1".toList, "concurrent".toList, 1⟩ _ singleLog := by
  rintro ⟨floats, prepared, _, found, _, carried, _⟩
  rw [prepareZkarcheState_log] at found
  cases found
  obtain ⟨_, _, _, carries⟩ := carried _ List.mem_cons_self
  have captured : none = some _ := carries.sentBytes
  cases captured

end ZkArche.Mininet

import ZkArche.Benchmarks.Parse

namespace ZkArche.Mininet

open Foundation Foundation.Pattern Python Benchmarks

def isFree (char : Char) : Bool := decide (char ≠ ',')

def freeNamed (name : String) : Pattern := .group name (.many 1 isFree)

/-- `([0-9.]+)\s*(ns|µs|us|ms|s)`. -/
def durationRe : Pattern :=
  chain [.group "1" (.many 1 fun char => char.isDigit || decide (char = '.')), spaces, .group "2" unitRe]

variable {F : Type}

def parseDurationToMs (floats : Floats F) (durationText : List Char) : Except ValueError (Option F) :=
  if durationText = [] then .ok none
  else
    match durationRe.matchAt (strip isSpace durationText) with
    | none => .ok none
    | some m => do
      let value ← floats.float (m.group "1")
      if m.group "2" = "ns".toList then pure (some (floats.div value (floats.nearest 1000000)))
      else if m.group "2" = "µs".toList ∨ m.group "2" = "us".toList then
        pure (some (floats.div value (floats.nearest 1000)))
      else if m.group "2" = "ms".toList then pure (some value)
      else if m.group "2" = "s".toList then pure (some (floats.mul value (floats.nearest 1000)))
      else pure none

/-- The columns that say where a row comes from. -/
structure RowLabels where
  protocol : List Char
  testId : List Char
  workload : List Char
  roundIndex : Int

structure ServerMetricRow (F : Type) where
  labels : RowLabels
  serverPeer : Option (List Char)
  serverAuthDurationMs : Option F
  serverSentBytes : Option Int
  serverReceivedBytes : Option Int
  serverDeviceId : Option (List Char)
  serverClientCertSha256 : Option (List Char)
  serverRequestBytes : Option Int
  serverResponseBytes : Option Int
  serverPayloadBytes : Option Int
  serverTimestampMs : Option Int
  serverStatus : List Char
  serverStdoutTail : Option (List Char)

def emptyServerMetricRow (labels : RowLabels) : ServerMetricRow F where
  labels := labels
  serverPeer := none
  serverAuthDurationMs := none
  serverSentBytes := none
  serverReceivedBytes := none
  serverDeviceId := none
  serverClientCertSha256 := none
  serverRequestBytes := none
  serverResponseBytes := none
  serverPayloadBytes := none
  serverTimestampMs := none
  serverStatus := "SERVER_METRIC".toList
  serverStdoutTail := none

/-- `Sent:\s*(\d+)\s*bytes,\s*Received:\s*(\d+)\s*bytes`, behind a duration that a comma ends. -/
def countsRe (duration : String) (sent received : String) : List Pattern :=
  [spaces, freeNamed duration, exactly ",", spaces, exactly "Sent:", spaces, digitsNamed sent, spaces, exactly "bytes,", spaces,
    exactly "Received:", spaces, digitsNamed received, spaces, exactly "bytes"]

def peerRe : Pattern :=
  chain ([exactly "SERVER METRICS", spaces, exactly "->", spaces, exactly "Peer:", spaces, freeNamed "1", exactly ",", spaces,
    exactly "Protocol:", spaces, .many 1 isFree, exactly ",", spaces, exactly "Duration:"] ++ countsRe "2" "3" "4")

def compactRe : Pattern :=
  chain ([exactly "SERVER METRICS", spaces, exactly "->", spaces, .group "1" (.few 1 isFree), .many 1 isSpace,
    exactly "Duration:"] ++ countsRe "2" "3" "4")

def labelled (label : String) (line : List Char) : Option (List Char) :=
  (search (chain [exactly label, spaces, freeNamed "1"]) line).map fun km => strip isSpace (km.group "1")

def labelledInt (label : String) (line : List Char) : Option Int :=
  (labelled label line).bind fun val => (int val).toOption

/-- `line[-300:].replace("\n", " | ")`. -/
def stdoutTail (line : List Char) : List Char :=
  (line.drop (line.length - 300)).flatMap fun char => if char = '\n' then " | ".toList else [char]

def filledRow (labels : RowLabels) (line peer : List Char) (authMs : Option F) (sent received : Int) : ServerMetricRow F :=
  { (emptyServerMetricRow labels : ServerMetricRow F) with
    serverPeer := some peer
    serverAuthDurationMs := authMs
    serverSentBytes := some sent
    serverReceivedBytes := some received
    serverDeviceId := labelled "DeviceID:" line
    serverClientCertSha256 := labelled "ClientCertSHA256:" line
    serverRequestBytes := labelledInt "RequestBytes:" line
    serverResponseBytes := labelledInt "ResponseBytes:" line
    serverPayloadBytes := labelledInt "PayloadBytes:" line
    serverTimestampMs := labelledInt "TimestampMs:" line
    serverStdoutTail := some (stdoutTail line) }

def parseServerMetricsLine (floats : Floats F) (labels : RowLabels) (line : List Char) :
    Except ValueError (Option (ServerMetricRow F)) :=
  if occursIn "SERVER METRICS ->".toList line = false then .ok none
  else
    match (peerRe.search line).or (compactRe.search line) with
    | none => .ok none
    | some m => do
      let peer := strip (fun char => decide (char = '"')) (strip isSpace (m.group "1"))
      let parsed ← parseDurationToMs floats (m.group "2")
      let sent ← int (m.group "3")
      let received ← int (m.group "4")
      pure (some (filledRow labels line peer (parsed.map floats.round4) sent received))

def parseLines (floats : Floats F) (labels : RowLabels) : List (List Char) → Except ValueError (List (ServerMetricRow F))
  | [] => .ok []
  | line :: lines => do
    let row ← parseServerMetricsLine floats labels line
    let rows ← parseLines floats labels lines
    pure ((row.filter fun found => found.serverAuthDurationMs.isSome).toList ++ rows)

/-- The rows of the lines from the start line on, and how many lines there are. -/
def parseServerMetricsLog (floats : Floats F) (labels : RowLabels) (logText : List Char) (startLine : Nat) :
    Except ValueError (List (ServerMetricRow F) × Nat) := do
  let rows ← parseLines floats labels ((splitlines logText).drop startLine)
  pure (rows, (splitlines logText).length)

end ZkArche.Mininet

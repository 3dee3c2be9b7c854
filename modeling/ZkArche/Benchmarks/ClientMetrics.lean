import ZkArche.Benchmarks.Parse

namespace ZkArche.Benchmarks

open Foundation Foundation.Pattern Python

/-- The Rust clients, with what they print behind the figures of a run. -/
inductive Client where
  | zkarche
  | edhoc (requestBytes responseBytes : UInt64) (deviceId : List Char)
  | mtls (deviceId clientLeafFp : List Char) (requestBytes responseBytes : UInt64)

def Client.opening : Client → List Char
  | .zkarche => "CLIENT METRICS -> ".toList
  | .edhoc _ _ _ => "CLIENT METRICS -> Protocol: EDHOC/TCP, ".toList
  | .mtls _ _ _ _ => "CLIENT METRICS -> Protocol: mTLS/TCP, ".toList

def Client.sizes : Client → List Char
  | .zkarche => []
  | .edhoc requestBytes responseBytes _ =>
    ", RequestBytes: ".toList ++ decimal requestBytes.toNat ++ ", ResponseBytes: ".toList ++ decimal responseBytes.toNat ++
      ", DeviceID: ".toList
  | .mtls _ _ _ _ => ", DeviceID: ".toList

def Client.identity : Client → List Char
  | .zkarche => []
  | .edhoc _ _ deviceId => deviceId
  | .mtls deviceId clientLeafFp requestBytes responseBytes =>
    deviceId ++ ", ClientCertSHA256: ".toList ++ clientLeafFp ++ ", RequestBytes: ".toList ++ decimal requestBytes.toNat ++
      ", ResponseBytes: ".toList ++ decimal responseBytes.toNat

def Client.line (client : Client) (elapsed : Duration) (sent recv : UInt64) : List Char :=
  client.opening ++ (figuresText elapsed sent recv ++ (client.sizes ++ client.identity))

section Search

variable {rest : List Char}

theorem search_figures (elapsed : Duration) (sent recv : UInt64) (rest : List Char) :
    metricsRe.search (figuresText elapsed sent recv ++ rest) = metricsRe.search rest := by
  unfold figuresText metricsText
  simp only [List.append_assoc]
  rw [search_roleless (by decide), search_roleless (roleless_debug elapsed), search_roleless (by decide),
    search_roleless (roleless_decimal _), search_roleless (by decide), search_roleless (roleless_decimal _),
    search_roleless (by decide)]

/-- The parts of the expression in front of `Duration:`. -/
def openingRe : List Pattern :=
  [.group "role" (.either (exactly "CLIENT") (exactly "SERVER")), .many 1 isSpace, exactly "METRICS", spaces,
    exactly "->", .either (chain [spaces, .few 0 (· ≠ ',')]) (exactly ""), spaces]

theorem eats_openingRe : Eats (fun char => decide (char ≠ ',')) (chain openingRe) := by
  have spaced : ∀ char, isSpace char = true → decide (char ≠ ',') = true := by
    intro char space
    refine decide_eq_true ?_
    rintro rfl
    exact absurd space (by decide)
  refine eats_chain fun pattern member => ?_
  simp only [openingRe, List.mem_cons, List.not_mem_nil, or_false] at member
  rcases member with rfl | rfl | rfl | rfl | rfl | rfl | rfl
  · exact ((eats_text (every (by decide))).either (eats_text (every (by decide)))).group "role"
  · exact eats_many spaced 1
  · exact eats_text (every (by decide))
  · exact eats_many spaced 0
  · exact eats_text (every (by decide))
  · refine Eats.either (eats_chain fun pattern member => ?_) (eats_text (every (by decide)))
    simp only [List.mem_cons, List.not_mem_nil, or_false] at member
    rcases member with rfl | rfl
    · exact eats_many spaced 0
    · exact eats_few (fun _ allowed => allowed) 0
  · exact eats_many spaced 0

theorem metrics_fails_at_comma {chars : List Char} (absent : ¬ "Duration:".toList <:+: chars) (rest : List Char) :
    metricsRe.ways (chars ++ ',' :: rest) = [] := by
  show (chain (openingRe ++ text "Duration:".toList :: _)).ways (chars ++ ',' :: rest) = []
  exact fails_at_barrier eats_openingRe (every (by decide)) (by decide) absent rest

theorem search_behind_comma {char : Char} {chars : List Char} (absent : ¬ "Duration:".toList <:+: char :: chars)
    (clear : roleless chars = true) (rest : List Char) :
    metricsRe.search (char :: (chars ++ ',' :: rest)) = metricsRe.search (',' :: rest) := by
  have fails : metricsRe.ways (char :: (chars ++ ',' :: rest)) = [] := metrics_fails_at_comma absent rest
  rw [search_cons fails, search_roleless clear]

theorem search_opening {client : Client} (other : client ≠ .zkarche) (rest : List Char) :
    metricsRe.search (client.opening ++ rest) = metricsRe.search rest := by
  have behind : metricsRe.search (',' :: ([' '] ++ rest)) = metricsRe.search rest :=
    search_roleless (by decide : roleless [',', ' '] = true) rest
  cases client with
  | zkarche => exact absurd rfl other
  | edhoc requestBytes responseBytes deviceId =>
    have opening : (Client.edhoc requestBytes responseBytes deviceId).opening =
        'C' :: "LIENT METRICS -> Protocol: EDHOC/TCP".toList ++ [',', ' '] := rfl
    rw [opening, List.append_assoc, List.cons_append, List.cons_append, search_behind_comma (by decide +kernel) (by decide), behind]
  | mtls deviceId clientLeafFp requestBytes responseBytes =>
    have opening : (Client.mtls deviceId clientLeafFp requestBytes responseBytes).opening =
        'C' :: "LIENT METRICS -> Protocol: mTLS/TCP".toList ++ [',', ' '] := rfl
    rw [opening, List.append_assoc, List.cons_append, List.cons_append, search_behind_comma (by decide +kernel) (by decide), behind]

theorem search_sizes {client : Client} (rest : List Char) :
    metricsRe.search (client.sizes ++ rest) = metricsRe.search rest := by
  cases client with
  | zkarche => rfl
  | edhoc requestBytes responseBytes deviceId =>
    unfold Client.sizes
    simp only [List.append_assoc]
    rw [search_roleless (by decide), search_roleless (roleless_decimal _), search_roleless (by decide),
      search_roleless (roleless_decimal _), search_roleless (by decide)]
  | mtls deviceId clientLeafFp requestBytes responseBytes =>
    exact search_roleless (by decide : roleless ", DeviceID: ".toList = true) rest

theorem search_line {client : Client} (other : client ≠ .zkarche) (elapsed : Duration) (sent recv : UInt64)
    (rest : List Char) : metricsRe.search (client.opening ++ (figuresText elapsed sent recv ++ (client.sizes ++ rest))) =
      metricsRe.search rest := by
  rw [search_opening other, search_figures, search_sizes]

end Search

end ZkArche.Benchmarks

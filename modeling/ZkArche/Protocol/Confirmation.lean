import ZkArche.Client.Auth
import ZkArche.Server.Persistence

namespace ZkArche.Protocol

open Foundation

variable {β S P : Type} [Octet β] [Field S] [AddCommGroup P] [Module S P]

structure Agrees (device : Client.AuthSession β S P) (server : Server.AuthSession β S P) : Prop where
  pid : device.pid = server.pid
  aC : device.aC = server.aC
  sC : device.sC = server.sC
  nonceC : device.nonceC = server.nonceC
  ephC : device.ephC = server.ephC
  serverPub : device.serverPub = server.serverPub
  aS : device.aS = server.aS
  sS : device.sS = server.sS
  nonceS : device.nonceS = server.nonceS
  ephS : device.ephS = server.ephS
  sessionKey : device.sessionKey = server.sessionKey
  th : device.th = server.th

/-- The key-confirmation transcripts of the two ends. -/
def deviceTranscript (G : Suite β S P) (session : Client.AuthSession β S P) : CompatTranscript β :=
  Client.kcTranscript G session.pid session.aC session.sC session.nonceC session.ephC session.serverPub session.aS
    session.sS session.nonceS session.ephS

def serverTranscript (G : Suite β S P) (session : Server.AuthSession β S P) : CompatTranscript β :=
  Server.kcTranscript G session.pid session.aC session.sC session.nonceC session.ephC session.serverPub session.aS
    session.sS session.nonceS session.ephS

section Transcript

variable (G : Suite β S P) (pid : Block β 32) (aC : P) (sC : S) (nonceC : Block β 32) (ephC serverPub aS : P)
variable (sS : S) (nonceS : Block β 32) (ephS : P)

theorem client_kcTranscript : Client.kcTranscript G pid aC sC nonceC ephC serverPub aS sS nonceS ephS =
    Server.kcTranscript G pid aC sC nonceC ephC serverPub aS sS nonceS ephS := rfl

def kcFields : List (List UInt8 × List β) :=
  [(ascii "pid", pid.bytes), (ascii "a_c", (G.compress aC).bytes), (ascii "s_c", (G.toBytes sC).bytes),
    (ascii "nonce_c", nonceC.bytes), (ascii "eph_c", (G.compress ephC).bytes),
    (ascii "server_pub", (G.compress serverPub).bytes), (ascii "a_s", (G.compress aS).bytes),
    (ascii "s_s", (G.toBytes sS).bytes), (ascii "nonce_s", nonceS.bytes), (ascii "eph_s", (G.compress ephS).bytes)]

theorem kcTranscript_buf : (Server.kcTranscript G pid aC sC nonceC ephC serverPub aS sS nonceS ephS).buf =
    records tKcV2 (kcFields G pid aC sC nonceC ephC serverPub aS sS nonceS ephS) := by
  have start := new_buf (β := β) tKcV2
  have pid := appendMessage_records start (ascii "pid") pid.bytes
  have aC := appendMessage_records pid (ascii "a_c") (G.compress aC).bytes
  have sC := appendMessage_records aC (ascii "s_c") (G.toBytes sC).bytes
  have nonceC := appendMessage_records sC (ascii "nonce_c") nonceC.bytes
  have ephC := appendMessage_records nonceC (ascii "eph_c") (G.compress ephC).bytes
  have serverPub := appendMessage_records ephC (ascii "server_pub") (G.compress serverPub).bytes
  have aS := appendMessage_records serverPub (ascii "a_s") (G.compress aS).bytes
  have sS := appendMessage_records aS (ascii "s_s") (G.toBytes sS).bytes
  have nonceS := appendMessage_records sS (ascii "nonce_s") nonceS.bytes
  exact appendMessage_records nonceS (ascii "eph_s") (G.compress ephS).bytes

omit [Octet β] in
theorem kcFields_fit : ∀ field ∈ kcFields G pid aC sC nonceC ephC serverPub aS sS nonceS ephS, FieldFits field := by
  intro field member
  simp only [kcFields, List.mem_cons, List.not_mem_nil, or_false] at member
  rcases member with rfl | rfl | rfl | rfl | rfl | rfl | rfl | rfl | rfl | rfl
  all_goals exact ⟨by dsimp only; decide, by simp⟩

end Transcript

theorem agrees_of_transcripts {G : Suite β S P} {device : Client.AuthSession β S P} {server : Server.AuthSession β S P}
    (same : (deviceTranscript G device).buf = (serverTranscript G server).buf)
    (sessionKey : device.sessionKey = server.sessionKey) (th : device.th = server.th) : Agrees device server := by
  rw [deviceTranscript, client_kcTranscript, kcTranscript_buf, serverTranscript, kcTranscript_buf] at same
  obtain ⟨_, fields⟩ := records_inj (by decide) (by decide) (kcFields_fit G _ _ _ _ _ _ _ _ _ _)
    (kcFields_fit G _ _ _ _ _ _ _ _ _ _) same
  simp only [kcFields, List.cons.injEq, Prod.mk.injEq, true_and, and_true, Block.bytes_inj] at fields
  obtain ⟨pid, aC, sC, nonceC, ephC, serverPub, aS, sS, nonceS, ephS⟩ := fields
  exact ⟨pid, G.compress_injective aC, G.toBytes_injective sC, nonceC, G.compress_injective ephC,
    G.compress_injective serverPub, G.compress_injective aS, G.toBytes_injective sS, nonceS,
    G.compress_injective ephS, sessionKey, th⟩

variable [DecidableEq β] [DecidableEq P]

theorem finishAuth_th {G : Suite β S P} {ephSecret : S} {hello : Client.AuthHello β S P} {conn after : Conn β}
    {session : Client.AuthSession β S P} (run : Client.finishAuth G ephSecret hello conn = (.ok session, after)) :
    session.th = G.sha256 (deviceTranscript G session).buf := by
  simp only [Client.finishAuth, Effect.bind_ok] at run
  obtain ⟨_, _, _, reply, _, _, _, _, _, _, _, _, _, _, _, _, _, _, done⟩ := run
  cases done
  rfl

theorem doAuthV2Session_th {G : Suite β S P} {allowedRoles : List UInt64} {vars : Vars} {x : S}
    {faults : Client.AuthFaults} {random : Client.AuthRandom β S} {state after : Client.Connected β}
    {session : Client.AuthSession β S P}
    (run : Client.doAuthV2Session G allowedRoles vars x faults random state = (.ok session, after)) :
    session.th = G.sha256 (deviceTranscript G session).buf := by
  obtain ⟨hello, requested, _, finish⟩ := Effect.bind_ok.mp run
  rw [Client.onConn, Effect.zoom_apply] at finish
  exact finishAuth_th (Prod.ext (Prod.mk.inj finish).1 rfl)

/-- The values of a request that reach the transcript. -/
structure SameHello (left right : Server.AuthRequest β S P) : Prop where
  pid : left.pid = right.pid
  aC : left.aC = right.aC
  sC : left.sC = right.sC
  nonceC : left.nonceC = right.nonceC
  ephC : left.ephC = right.ephC

omit [DecidableEq β] [DecidableEq P] in
theorem establish_congr (G : Suite β S P) (secret : S) {left right : Server.AuthRequest β S P}
    (same : SameHello left right) (random : Server.AuthRandom β S) :
    Server.establish G secret left random = Server.establish G secret right random := by
  obtain ⟨pid, aC, sC, nonceC, ephC⟩ := same
  simp only [Server.establish, pid, aC, sC, nonceC, ephC]

variable [DecidableEq S]

/-- What two ends with one transcript hash agree on, and what they do not: every request with the
    same five values has the same reply. The role proofs are left out only on request of a flag that
    the server's environment allows. -/
theorem confirmed_sessions_agree_but_for_mode {G : Suite β S P} {allowedRoles : List UInt64} {vars : Vars} {x : S}
    {faults : Client.AuthFaults} {deviceRandom : Client.AuthRandom β S} {state state' : Client.Connected β}
    {device : Client.AuthSession β S P} {ctx : Server.ServerContext S} {moments : Server.AuthMoments β P}
    {random : Server.AuthRandom β S} {v3 : Bool} {before after : Server.Connected β P}
    {record : Server.DeviceRecord P} {session : Server.AuthSession β S P}
    (deviceRun : Client.doAuthV2Session G allowedRoles vars x faults deviceRandom state = (.ok device, state'))
    (serverRun : Server.handleAuthCommon G ctx moments random v3 before = (.ok (record, session), after))
    (sameKey : device.sessionKey = session.sessionKey) (sameTh : device.th = session.th)
    (collisionFree : G.sha256 (deviceTranscript G device).buf = G.sha256 (serverTranscript G session).buf →
      (deviceTranscript G device).buf = (serverTranscript G session).buf) :
    Agrees device session ∧
    ∃ request bytes, Server.Accepted G ctx v3 before after record session request bytes ∧
      (∀ other, SameHello other request → Server.establish G ctx.serverStaticSecret other random = session) ∧
      (request.deviceOnly = true → Server.allowsDeviceOnly ctx.vars = true) ∧
      (request.deviceOnly = false →
        ∃ proofs, Server.RoleProofsHold G ctx.allowedRoles record request proofs) := by
  obtain ⟨request, bytes, established, accepted⟩ := Server.handleAuthCommon_ok serverRun
  have hashes : G.sha256 (deviceTranscript G device).buf = G.sha256 (serverTranscript G session).buf := by
    rw [← doAuthV2Session_th deviceRun, sameTh, established]
    rfl
  refine ⟨agrees_of_transcripts (collisionFree hashes) sameKey sameTh, request, bytes, accepted, ?_,
    accepted.read.gate, accepted.proofs.roles⟩
  intro other same
  rw [established, establish_congr G _ same random]

instance (device : Client.AuthSession β S P) (server : Server.AuthSession β S P) : Decidable (Agrees device server) :=
  decidable_of_iff (device.pid = server.pid ∧ device.aC = server.aC ∧ device.sC = server.sC ∧
      device.nonceC = server.nonceC ∧ device.ephC = server.ephC ∧ device.serverPub = server.serverPub ∧
      device.aS = server.aS ∧ device.sS = server.sS ∧ device.nonceS = server.nonceS ∧ device.ephS = server.ephS ∧
      device.sessionKey = server.sessionKey ∧ device.th = server.th)
    ⟨fun ⟨pid, aC, sC, nonceC, ephC, serverPub, aS, sS, nonceS, ephS, sessionKey, th⟩ =>
        ⟨pid, aC, sC, nonceC, ephC, serverPub, aS, sS, nonceS, ephS, sessionKey, th⟩,
      fun ⟨pid, aC, sC, nonceC, ephC, serverPub, aS, sS, nonceS, ephS, sessionKey, th⟩ =>
        ⟨pid, aC, sC, nonceC, ephC, serverPub, aS, sS, nonceS, ephS, sessionKey, th⟩⟩

open Server

def toyDeviceRandom : Client.AuthRandom UInt8 (ZMod 5) :=
  { nonceC := zeros, ephSecret := 1, r := 1, blind := 0, delta := 1, rerandR := 1, orProof := ⟨1, fun _ => (1, 1)⟩ }

/-- The device with the key 1, enrolled with role 1, about to read a reply of the server with the key 1. -/
def toyDevice : Client.Connected UInt8 where
  files := {
    deviceRoot := .absent
    serverPub := .present (encodeResidue (1 : ZMod 5)).bytes 0o600
    devicePub := .present (encodeResidue (1 : ZMod 5)).bytes 0o600
    roleCred := .present (Client.roleCredBytes toySuite ⟨1, 1, 0, 1⟩) 0o600 }
  conn := .opened ((encodeResidue (1 : ZMod 5)).bytes ++ (encodeResidue (1 : ZMod 5)).bytes ++
    (encodeResidue (1 : ZMod 5)).bytes ++ zeros.bytes ++ (encodeResidue (1 : ZMod 5)).bytes ++ zeros.bytes)

def toyDeviceRun : Except Failure (Client.AuthSession UInt8 (ZMod 5) (ZMod 5)) × Client.Connected UInt8 :=
  Client.doAuthV2Session toySuite [1, 2] (fun _ => none) 1 .none toyDeviceRandom toyDevice

noncomputable def toyServerRun :
    Except Failure (DeviceRecord (ZMod 5) × AuthSession UInt8 (ZMod 5) (ZMod 5)) × Connected UInt8 (ZMod 5) :=
  handleAuthCommon toySuite deviceOnlyContext .quiet toyRandom true deviceOnlyRun

def agreeing : Except Failure (Client.AuthSession UInt8 (ZMod 5) (ZMod 5)) →
    Except Failure (DeviceRecord (ZMod 5) × AuthSession UInt8 (ZMod 5) (ZMod 5)) → Bool
  | .ok device, .ok (_, session) => decide (Agrees device session)
  | _, _ => false

theorem exists_of_agreeing {σ τ : Type} {device : Except Failure (Client.AuthSession UInt8 (ZMod 5) (ZMod 5)) × σ}
    {server : Except Failure (DeviceRecord (ZMod 5) × AuthSession UInt8 (ZMod 5) (ZMod 5)) × τ}
    (both : agreeing device.1 server.1 = true) :
    ∃ session record session', device = (.ok session, device.2) ∧ server = (.ok (record, session'), server.2) ∧
      Agrees session session' := by
  obtain ⟨result, state⟩ := device
  obtain ⟨result', state'⟩ := server
  unfold agreeing at both
  split at both
  case h_1 _ _ session record session' ours theirs =>
    exact ⟨session, record, session', Prod.ext ours rfl, Prod.ext theirs rfl, of_decide_eq_true both⟩
  case h_2 => cases both

set_option maxRecDepth 100000 in
theorem toyRuns_agree : agreeing toyDeviceRun.1 toyServerRun.1 = true := by
  decide

theorem confirmed_sessions_agree_but_for_mode_toy :
    ∃ device record session, toyDeviceRun = (.ok device, toyDeviceRun.2) ∧
      toyServerRun = (.ok (record, session), toyServerRun.2) ∧ Agrees device session := by
  obtain ⟨device, record, session, deviceRun, serverRun, agrees⟩ := exists_of_agreeing toyRuns_agree
  have transcripts : (deviceTranscript toySuite device).buf = (serverTranscript toySuite session).buf := by
    obtain ⟨pid, aC, sC, nonceC, ephC, serverPub, aS, sS, nonceS, ephS, _, _⟩ := agrees
    rw [deviceTranscript, pid, aC, sC, nonceC, ephC, serverPub, aS, sS, nonceS, ephS]
    rfl
  exact ⟨device, record, session, deviceRun, serverRun,
    (confirmed_sessions_agree_but_for_mode deviceRun serverRun agrees.sessionKey agrees.th fun _ => transcripts).1⟩

set_option maxRecDepth 100000 in
/-- The first 160 bytes of a full request, sent on behind a device-only flag: both ends return `Ok`
    and agree on the whole session, one in full mode and the other without the role proofs. -/
theorem mode_downgraded :
    ∃ device record session, toyDeviceRun = (.ok device, toyDeviceRun.2) ∧
      toyServerRun = (.ok (record, session), toyServerRun.2) ∧ Agrees device session ∧
      toyDevice.conn.input = toyServerRun.2.conn.output ∧
      deviceOnlyRun.conn.input = [0x01] ++ (toyDeviceRun.2.conn.output.drop 1).take 160 ++
        toyDeviceRun.2.conn.output.drop 449 ∧
      toyDeviceRun.2.conn.output.length = 481 ∧
      Client.authMode (fun _ => none) = { fastLookup := false, deviceOnly := false } ∧
      ((readAuthRequest toySuite deviceOnlyContext true deviceOnlyRun.conn).1.toOption.map (·.deviceOnly)) = some true := by
  obtain ⟨device, record, session, deviceRun, serverRun, agrees⟩ := exists_of_agreeing toyRuns_agree
  exact ⟨device, record, session, deviceRun, serverRun, agrees, by decide, by decide, by decide, by decide, by decide⟩

end ZkArche.Protocol

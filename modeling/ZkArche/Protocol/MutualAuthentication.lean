import ZkArche.Protocol.NetworkSessions

namespace ZkArche.Protocol

open Foundation Foundation.Symbolic
open Server (DeviceRecord)

variable {S P : Type} [Field S] [AddCommGroup P] [Module S P] [DecidableEq P]

namespace Net

variable {sys : System S P} {net start : Net S P}

section Keys

variable (fresh : sys.Fresh) (sound : net.Sound sys)
include sound

theorem Sound.unseen {s : SymByte S P} (seen : s ∈ net.seen) : ¬ sys.Guards s := by
  rcases sound.seen s seen with plain | tag
  · exact plain.not_guards
  · cases tag with
    | server noted member => exact System.not_guards_hmac s member
    | device confirmed member => exact System.not_guards_hmac s member

theorem Sound.secret {s : SymByte S P} (guards : sys.Guards s) : ¬ net.Knows sys s :=
  guards.not_derives (fun _ => sound.unseen) fun _ free kept => kept free

theorem Sound.tag_sent {sessionKey th : Block (SymByte S P) 32} {direction label : List UInt8} {s : SymByte S P}
    (guards : ∀ s ∈ sessionKey.bytes, sys.Guards s) (member : s ∈ (kcTag sys.suite sessionKey th direction label).bytes)
    (known : net.Knows sys s) : net.Tag sys s := by
  have derived : ∀ s ∈ (sys.suite.hkdf th.bytes sessionKey.bytes (lits direction)).bytes, sys.Guards s :=
    System.guards_hkdf (System.exists_guards guards)
  obtain ⟨key, inside, guarded⟩ := System.exists_guards derived
  obtain ⟨i, _, rfl⟩ := Letter.mem_output.mp member
  have seen : _ ∈ net.seen := guarded.seen_of_call List.mem_cons_self inside (fun _ => sound.unseen)
    (fun _ free kept => kept free) known
  rcases sound.seen _ seen with plain | tag
  · cases plain.hashed with
    | hash _ noTag => exact absurd rfl noTag
  · exact tag

end Keys

end Net

section Transcripts

variable {sys : System S P} {net : Net S P}

omit [DecidableEq P] in
theorem buildTranscript_domain {G : Suite (SymByte S P) S P} {domain domain' : List UInt8}
    {fields fields' : List (List UInt8 × TranscriptValue (SymByte S P) P)} (fits : domain.length ≤ 255)
    (fits' : domain'.length ≤ 255) (same : buildTranscript G domain fields = buildTranscript G domain' fields') :
    domain = domain' := by
  have bytes := congrArg CompatTranscript.buf same
  rw [buildTranscript_eq_ofFields, buildTranscript_eq_ofFields] at bytes
  exact domain_of_ofFields fits fits' bytes

omit [DecidableEq P] in
theorem clientTranscript_inj {G : Suite (SymByte S P) S P} {pubkey pubkey' a a' ephC ephC' : P}
    {pid pid' nonceC nonceC' : Block (SymByte S P) 32}
    (same : Client.clientTranscript G pubkey pid a nonceC ephC = Server.clientTranscript G pubkey' pid' a' nonceC' ephC') :
    pid = pid' ∧ nonceC = nonceC' ∧ ephC = ephC' := by
  have fields := (buildTranscript_inj (by decide) (by decide) ?_ ?_ (congrArg CompatTranscript.buf same)).2
  · simp only [List.map_cons, List.map_nil, List.cons.injEq, Prod.mk.injEq, true_and, and_true,
      TranscriptValue.serialize, Block.bytes_inj] at fields
    obtain ⟨pid, _, _, nonceC, ephC⟩ := fields
    exact ⟨pid, nonceC, G.compress_injective ephC⟩
  all_goals
    intro field member
    simp only [List.mem_cons, List.not_mem_nil, or_false] at member
    rcases member with rfl | rfl | rfl | rfl | rfl
    all_goals exact ⟨by dsimp only; decide, by simp [TranscriptValue.serialize]⟩

omit [DecidableEq P] in
theorem serverTranscript_inj {G : Suite (SymByte S P) S P} {pubkey pubkey' a a' ephS ephS' : P}
    {nonceS nonceS' : Block (SymByte S P) 32}
    (same : Server.serverTranscript G pubkey a nonceS ephS = Client.serverTranscript G pubkey' a' nonceS' ephS') :
    ephS = ephS' := by
  have fields := (buildTranscript_inj (by decide) (by decide) ?_ ?_ (congrArg CompatTranscript.buf same)).2
  · simp only [List.map_cons, List.map_nil, List.cons.injEq, Prod.mk.injEq, true_and, and_true,
      TranscriptValue.serialize, Block.bytes_inj] at fields
    exact G.compress_injective fields.2.2.2
  all_goals
    intro field member
    simp only [List.mem_cons, List.not_mem_nil, or_false] at member
    rcases member with rfl | rfl | rfl | rfl
    all_goals exact ⟨by dsimp only; decide, by simp [TranscriptValue.serialize]⟩

omit [DecidableEq P] in
theorem computePid_key {pub pub' ephC ephC' serverPub serverPub' : P} {nonceC nonceC' : Block (SymByte S P) 32}
    (same : Client.computePid sys.suite pub nonceC ephC serverPub = Server.computePid sys.suite pub' nonceC' ephC' serverPub') :
    pub = pub' := by
  have bytes := sha256_inj same
  simp only [List.append_assoc, List.append_cancel_left_eq] at bytes
  exact sys.suite.compress_injective (Block.ext (List.append_inj bytes (by simp)).1)

end Transcripts

section Hello

variable {sys : System S P} {net : Net S P}

theorem loadOrComputeDevicePub_own {G : Suite (SymByte S P) S P} {fault : Option IoError} {x : S}
    {file final : StateFile (SymByte S P)} {pub : P}
    (own : ∀ data mode, file = .present data mode → data = (G.compress (x • G.basepoint)).bytes)
    (run : Client.loadOrComputeDevicePub G fault x file = (.ok pub, final)) : pub = x • G.basepoint := by
  rw [Client.loadOrComputeDevicePub, Effect.bind_of_ok (Effect.get_apply _)] at run
  obtain ⟨cached, _, loads, run⟩ := Effect.bind_ok.mp run
  rw [Effect.lift_apply, Prod.mk.injEq] at loads
  cases cached with
  | none =>
    obtain ⟨_, _, _, run⟩ := Effect.bind_ok.mp run
    obtain ⟨_, _, _, done⟩ := Effect.bind_ok.mp run
    cases done
    rfl
  | some point =>
    cases run
    have loaded := loads.1
    cases file with
    | absent => cases loaded
    | unreadable error => cases loaded
    | present data mode =>
      rw [Client.loadCachedDevicePub, if_neg (by exact Bool.noConfusion)] at loaded
      obtain ⟨_, _, loaded⟩ := Except.bind_ok_iff.mp loaded
      obtain ⟨read, reads, loaded⟩ := Except.bind_ok_iff.mp loaded
      obtain ⟨block, exact, loaded⟩ := Except.bind_ok_iff.mp loaded
      obtain ⟨p, decoded, loaded⟩ := Except.bind_ok_iff.mp loaded
      obtain ⟨_, _, loaded⟩ := Except.bind_ok_iff.mp loaded
      cases loaded
      cases reads
      rw [decompressOr_ok] at decoded
      have bytes : block.bytes = data := by
        unfold Client.exactly copyFromSlice at exact
        split at exact
        · cases exact
        · split at exact
          · cases exact
            rfl
          · cases exact
      rw [own data mode rfl, decoded, Block.bytes_inj] at bytes
      exact G.compress_injective bytes

theorem requestAuth_hello {G : Suite (SymByte S P) S P} {allowedRoles : List UInt64} {mode : Client.AuthMode} {x : S}
    {faults : Client.AuthFaults} {random : Client.AuthRandom (SymByte S P) S} {state after : Client.Connected (SymByte S P)}
    {hello : Client.AuthHello (SymByte S P) S P}
    (run : Client.requestAuth G allowedRoles mode x faults random state = (.ok hello, after)) :
    ∃ pub pinned final, Client.loadOrComputeDevicePub G faults.devicePub x state.files.devicePub = (.ok pub, final) ∧
      hello = Client.makeHello G x pub pinned random := by
  obtain ⟨pinned, first, pins, run⟩ := Effect.bind_ok.mp run
  obtain ⟨_, second, modes, run⟩ := Effect.bind_ok.mp run
  obtain ⟨pub, third, loads, run⟩ := Effect.bind_ok.mp run
  obtain ⟨_, _, _, run⟩ := Effect.bind_ok.mp run
  obtain ⟨_, _, _, run⟩ := Effect.bind_ok.mp run
  obtain ⟨_, _, _, run⟩ := Effect.bind_ok.mp run
  obtain ⟨_, _, _, done⟩ := Effect.bind_ok.mp run
  cases done
  have untouched : first = state := by
    obtain ⟨_, _, reads, pins⟩ := Effect.bind_ok.mp pins
    obtain ⟨found, _, lifts, pins⟩ := Effect.bind_ok.mp pins
    cases reads
    rw [Effect.lift_apply, Prod.mk.injEq] at lifts
    cases found with
    | none => cases pins
    | some pub =>
      cases pins
      exact lifts.2.symm
  have files : second.files = state.files := by
    rw [Client.onConn, Effect.zoom_eq_iff] at modes
    obtain ⟨_, _, same⟩ := modes
    rw [same, untouched]
  rw [Client.onDevicePub, Effect.zoom_eq_iff, files] at loads
  obtain ⟨final, loads, _⟩ := loads
  exact ⟨pub, pinned, final, loads, rfl⟩

theorem asked_values {j : Nat} {vars : Vars} {faults : Client.AuthFaults} {random : Client.AuthRandom (SymByte S P) S}
    {input : List (SymByte S P)} {hello : Client.AuthHello (SymByte S P) S P} {after : Client.Connected (SymByte S P)}
    (asked : sys.requestAuth j vars faults random (sys.before j input) = (.ok hello, after)) :
    hello.nonceC = random.nonceC ∧ hello.ephC = random.ephSecret • sys.suite.basepoint := by
  obtain ⟨pub, pinned, _, _, rfl⟩ := requestAuth_hello asked
  exact ⟨rfl, rfl⟩

end Hello

section Proofs

variable {sys : System S P} {net : Net S P} {pub : P} {transcript : CompatTranscript (SymByte S P)}

theorem proved_client {a ephC : P} {pid nonceC : Block (SymByte S P) 32} (proved : net.Proved sys pub transcript)
    (same : transcript = Server.clientTranscript sys.suite pub pid a nonceC ephC) :
    ∃ j vars faults random, (sys.runs j).task = .auth vars faults random ∧ sys.key (sys.runs j).root = pub ∧
      nonceC = random.nonceC ∧ ephC = random.ephSecret • sys.suite.basepoint := by
  cases proved with
  | session started front task asked =>
    obtain ⟨_, nonce, eph⟩ := clientTranscript_inj same
    obtain ⟨nonceC, ephC⟩ := asked_values asked
    exact ⟨_, _, _, _, task, rfl, by rw [← nonce, nonceC], by rw [← eph, ephC]⟩
  | setup started front task signs => exact absurd (buildTranscript_domain (by decide) (by decide) same) (by decide)
  | reply noted => exact absurd (buildTranscript_domain (by decide) (by decide) same) (by decide)
  | challenge noted => exact absurd (buildTranscript_domain (by decide) (by decide) same) (by decide)

theorem proved_server {a ephS : P} {nonceS : Block (SymByte S P) 32} (proved : net.Proved sys pub transcript)
    (same : transcript = Client.serverTranscript sys.suite pub a nonceS ephS) :
    ∃ i, ephS = (sys.draws i).auth.ephSecret • sys.suite.basepoint := by
  cases proved with
  | reply noted => exact ⟨_, (serverTranscript_inj same).symm⟩
  | session started front task asked => exact absurd (buildTranscript_domain (by decide) (by decide) same) (by decide)
  | setup started front task signs => exact absurd (buildTranscript_domain (by decide) (by decide) same) (by decide)
  | challenge noted => exact absurd (buildTranscript_domain (by decide) (by decide) same) (by decide)

end Proofs

/-- A cached device key belongs to the root beside it. -/
def System.OwnKeys (sys : System S P) : Prop :=
  ∀ j data mode, (sys.runs j).files.devicePub = .present data mode →
    data = (sys.suite.compress (sys.key (sys.runs j).root)).bytes

/-- Every session that one end holds with an honest other end is held by that end as well, by one run or thread of it
    alone, and its key is a secret of the two. -/
structure Net.MutuallyAuthenticated (sys : System S P) (net : Net S P) : Prop where
  server : ∀ i record session, .established i record session ∈ net.history →
    ∀ root ∈ sys.honest, record.pubkey = sys.key root → ∃ j mine, net.Confirmed sys j mine ∧
      sys.key (sys.runs j).root = record.pubkey ∧ Agrees mine session ∧
      ∀ s ∈ session.sessionKey.bytes, ¬ net.Knows sys s
  device : ∀ j mine, net.Confirmed sys j mine → mine.serverPub = sys.serverPub → ∃ i request record,
    .replied i request record ∈ net.history ∧ record.pubkey = sys.key (sys.runs j).root ∧
      Agrees mine (Net.theirs sys i request) ∧ ∀ s ∈ mine.sessionKey.bytes, ¬ net.Knows sys s
  oneThread : ∀ j mine i i' record record' session session', net.Confirmed sys j mine →
    .established i record session ∈ net.history → .established i' record' session' ∈ net.history →
      Agrees mine session → Agrees mine session' → i = i' ∧ record = record' ∧ session = session'
  oneRun : ∀ i request request' record record' j j' mine mine', .replied i request record ∈ net.history →
    .replied i request' record' ∈ net.history → net.Confirmed sys j mine → net.Confirmed sys j' mine' →
      Agrees mine (Net.theirs sys i request) → Agrees mine' (Net.theirs sys i request') → j = j'

section Agreement

variable {sys : System S P} {net start : Net S P} {j : Nat} {input : List (SymByte S P)}
  {mine : Client.AuthSession (SymByte S P) S P}

theorem hashed_nonces (fresh : sys.Fresh) (vars : Vars) (faults : Client.AuthFaults)
    (random : Client.AuthRandom (SymByte S P) S) (task : (sys.runs j).task = .auth vars faults random) :
    ∀ s ∈ random.nonceC.bytes, Hashed s := by
  rw [fresh.nonceC j vars faults random task]
  exact hashed_atoms

theorem confirmed_nonce (fresh : sys.Fresh) (confirmed : net.Confirmed sys j mine) :
    mine.nonceC = freshBlock .clientNonce j 32 := by
  obtain ⟨received, _, session⟩ := confirmed
  obtain ⟨vars, faults, random, hello, reply, confirms⟩ := session_confirms (hashed_nonces fresh) session
  obtain ⟨_, asked⟩ := confirms.asked
  rw [confirms.session, ← fresh.nonceC j vars faults random confirms.task, ← (asked_values asked).1]
  rfl

theorem agrees_of_th (fresh : sys.Fresh) (confirmed : net.Confirmed sys j mine) {i : Nat}
    {request : Server.AuthRequest (SymByte S P) S P} (sameKey : mine.sessionKey = (Net.theirs sys i request).sessionKey)
    (sameTh : mine.th = (Net.theirs sys i request).th) : Agrees mine (Net.theirs sys i request) := by
  obtain ⟨received, _, session⟩ := confirmed
  obtain ⟨vars, faults, random, hello, reply, confirms⟩ := session_confirms (hashed_nonces fresh) session
  have th : mine.th = sys.suite.sha256 (deviceTranscript sys.suite mine).buf := by
    rw [confirms.session]
    rfl
  exact agrees_of_transcripts (sha256_inj (th.symm.trans sameTh)) sameKey sameTh

omit [Field S] [AddCommGroup P] [Module S P] [DecidableEq P] in
theorem exists_letter (block : Block (SymByte S P) 32) : ∃ s, s ∈ block.bytes :=
  ⟨_, List.getElem_mem (l := block.bytes) (n := 0) (by rw [block.bytes_length]; decide)⟩

/-- A session that the server has established with the key of an honest device is that device's. -/
theorem established_agrees (fresh : sys.Fresh) (sound : net.Sound sys) {i : Nat} {record : DeviceRecord P}
    {session : Server.AuthSession (SymByte S P) S P} (noted : .established i record session ∈ net.history)
    {root : Block (SymByte S P) 32} (honest : root ∈ sys.honest) (key : record.pubkey = sys.key root) :
    (∃ j mine, net.Confirmed sys j mine ∧ sys.key (sys.runs j).root = record.pubkey ∧ Agrees mine session) ∧
      ∀ s ∈ session.sessionKey.bytes, sys.Guards s := by
  obtain ⟨⟨request, replied, rfl⟩, known⟩ := sound.history _ noted
  have verified : net.Verified sys request record := sound.history _ replied
  obtain ⟨j, vars, faults, random, task, owner, nonceC, ephC⟩ := proved_client (verified.proved root honest key) rfl
  have shared : sys.Shared ((sys.draws i).auth.ephSecret • request.ephC) := by
    refine ⟨i, j, random.ephSecret, ?_, ?_⟩
    · rw [task]
      rfl
    · rw [ephC]
      rfl
  have guards : ∀ s ∈ (Net.theirs sys i request).sessionKey.bytes, sys.Guards s := System.guards_sessionKey shared
  obtain ⟨letter, inside⟩ := exists_letter ((Net.theirs sys i request).tagC sys.suite)
  refine ⟨?_, guards⟩
  cases sound.tag_sent guards inside (known letter inside) with
  | server noted' member => exact absurd (kcTag_inj inside member).2.2 (by decide)
  | device confirmed member =>
    rename_i j' mine
    obtain ⟨sameKey, sameTh, _⟩ := kcTag_inj inside member
    have agrees := agrees_of_th fresh confirmed sameKey.symm sameTh.symm
    have nonces := (confirmed_nonce fresh confirmed).symm.trans agrees.nonceC
    have run : j' = j := freshBlock_inj (by decide)
      (nonces.trans (nonceC.trans (fresh.nonceC j vars faults random task)))
    exact ⟨j', mine, confirmed, by rw [run, owner, key], agrees⟩

theorem confirmed_agrees (fresh : sys.Fresh) (ownKeys : sys.OwnKeys) (sound : net.Sound sys)
    (confirmed : net.Confirmed sys j mine) (pinned : mine.serverPub = sys.serverPub) :
    (∃ i request record, .replied i request record ∈ net.history ∧ record.pubkey = sys.key (sys.runs j).root ∧
      Agrees mine (Net.theirs sys i request)) ∧ ∀ s ∈ mine.sessionKey.bytes, sys.Guards s := by
  have whole := confirmed
  obtain ⟨received, present, session⟩ := confirmed
  obtain ⟨vars, faults, random, hello, reply, confirms⟩ := session_confirms (hashed_nonces fresh) session
  obtain ⟨_, asked⟩ := confirms.asked
  have accepted : Server.vartimeSchnorrCheck sys.suite.basepoint sys.serverPub mine.aS
      ((Client.serverTranscript sys.suite sys.serverPub mine.aS mine.nonceS mine.ephS).challengeScalar sys.suite)
      mine.sS = true := by
    have verifies := confirms.satisfying.verifies
    rw [Client.schnorrVerifyServer, decide_eq_true_iff] at verifies
    rw [Server.vartimeSchnorrCheck_iff, ← pinned, confirms.session]
    exact verifies
  obtain ⟨i, ephS⟩ := proved_server (sound.genuine j mine whole accepted) rfl
  have shared : sys.Shared (random.ephSecret • reply.ephS) := by
    refine ⟨i, j, random.ephSecret, ?_, ?_⟩
    · rw [confirms.task]
      rfl
    · rw [confirms.session] at ephS
      change reply.ephS = _ at ephS
      rw [ephS, smul_comm]
      rfl
  have guards : ∀ s ∈ mine.sessionKey.bytes, sys.Guards s := by
    rw [confirms.session]
    exact System.guards_sessionKey shared
  obtain ⟨letter, inside⟩ := exists_letter (mine.tagS sys.suite)
  refine ⟨?_, guards⟩
  have known : net.Knows sys letter := by
    apply sound.received j received present
    apply confirms.read
    rw [← confirms.satisfying.tag, ← confirms.session]
    exact inside
  cases sound.tag_sent guards inside known with
  | device other member => exact absurd (kcTag_inj inside member).2.2 (by decide)
  | server noted member =>
    rename_i i' request record
    obtain ⟨sameKey, sameTh, _⟩ := kcTag_inj inside member
    have agrees := agrees_of_th fresh whole sameKey sameTh
    refine ⟨i', request, record, noted, ?_, agrees⟩
    have verified : net.Verified sys request record := sound.history _ noted
    obtain ⟨pub, pinnedPub, _, loads, isHello⟩ := requestAuth_hello asked
    have own : pub = sys.key (sys.runs j).root :=
      loadOrComputeDevicePub_own (fun data mode file => ownKeys j data mode file) loads
    have pids : mine.pid = request.pid := agrees.pid
    rw [confirms.session, isHello, ← verified.pid] at pids
    rw [← own]
    exact (computePid_key pids).symm

/-- The server and its devices authenticate each other, in any order of steps on a network that an attacker runs. -/
theorem mutual_authentication [DecidableEq S] (fresh : sys.Fresh) (ownKeys : sys.OwnKeys) (quiet : start.Quiet)
    (run : Run sys.step sys.Admits start net) : net.MutuallyAuthenticated sys := by
  have sound : net.Sound sys := Net.sound_of_run fresh quiet run
  have orderly : net.Orderly := Net.orderly_of_run quiet run
  constructor
  · intro i record session noted root honest key
    obtain ⟨⟨j, mine, confirmed, owner, agrees⟩, guards⟩ := established_agrees fresh sound noted honest key
    exact ⟨j, mine, confirmed, owner, agrees, fun s member => sound.secret (guards s member)⟩
  · intro j mine confirmed pinned
    obtain ⟨⟨i, request, record, noted, owner, agrees⟩, guards⟩ := confirmed_agrees fresh ownKeys sound confirmed pinned
    exact ⟨i, request, record, noted, owner, agrees, fun s member => sound.secret (guards s member)⟩
  · intro j mine i i' record record' session session' confirmed noted noted' agrees agrees'
    obtain ⟨⟨request, _, rfl⟩, _⟩ := sound.history _ noted
    obtain ⟨⟨request', _, rfl⟩, _⟩ := sound.history _ noted'
    have nonces : (sys.draws i).auth.nonceS = (sys.draws i').auth.nonceS := agrees.nonceS.symm.trans agrees'.nonceS
    rw [fresh.nonceS, fresh.nonceS] at nonces
    obtain rfl := freshBlock_inj (by decide) nonces
    have same := orderly.once _ noted _ noted' rfl rfl
    simp only [Note.established.injEq] at same
    exact ⟨rfl, same.2⟩
  · intro i request request' record record' j j' mine mine' noted noted' confirmed confirmed' agrees agrees'
    have same := orderly.once _ noted _ noted' rfl rfl
    simp only [Note.replied.injEq] at same
    obtain ⟨_, rfl, _⟩ := same
    have nonces : freshBlock .clientNonce j 32 = (freshBlock .clientNonce j' 32 : Block (SymByte S P) 32) := by
      rw [← confirmed_nonce fresh confirmed, ← confirmed_nonce fresh confirmed', agrees.nonceC, agrees'.nonceC]
    exact freshBlock_inj (by decide) nonces

end Agreement

section Example

open Client
open Server (ServerState)

noncomputable def unitSuite : Suite (SymByte (ZMod 5) (ZMod 5)) (ZMod 5) (ZMod 5) :=
  symbolicSuite 1 one_ne_zero_five (fun _ => 1) fun _ => 1

def unitDevice : Device (SymByte (ZMod 5) (ZMod 5)) (ZMod 5) := ⟨encodeScalar 0, 1, 1⟩

noncomputable def unitFiles : Files (SymByte (ZMod 5) (ZMod 5)) where
  deviceRoot := .absent
  serverPub := .present (unitSuite.compress (Server.deviceOnlyContext.staticPub unitSuite)).bytes 0o600
  devicePub := .absent
  roleCred := .present (roleCredBytes unitSuite (unitDevice.cred unitSuite)) 0o600

def unitRandom (j : Nat) : Client.AuthRandom (SymByte (ZMod 5) (ZMod 5)) (ZMod 5) :=
  ⟨freshBlock .clientNonce j 32, 1 + 1, 1, 0, 1, 1, ⟨1, fun _ => (1, 1)⟩⟩

def everySet : Vars := fun _ => some "1"

/-- One device that authenticates over and over, and a server that draws anew each time. -/
noncomputable def unitSystem : System (ZMod 5) (ZMod 5) where
  basepoint := 1
  basepoint_ne_zero := one_ne_zero_five
  fromBytesModOrderWide := fun _ => 1
  fromUniformBytes := fun _ => 1
  ctx := Server.deviceOnlyContext
  word := 64
  honest := {unitDevice.root}
  runs := fun j => ⟨unitDevice.root, unitFiles, fun _ => none, .auth everySet .none (unitRandom j)⟩
  draws := fun i => ⟨⟨freshBlock .setupServerNonce i 32, freshBlock .setupChallenge i 16, 1⟩,
    ⟨freshBlock .serverNonce i 32, 1 + 1, 1⟩⟩

noncomputable def unitServer : ServerState (SymByte (ZMod 5) (ZMod 5)) (ZMod 5) where
  reg := (∅ : Server.Registry _ _).insert (unitDevice.id unitSuite) (deviceRecord unitSuite unitDevice)
  handleIndex := (∅ : Server.HandleIndex _ _).insert (Client.computeDeviceHandle unitSuite (unitDevice.pub unitSuite))
    (unitDevice.id unitSuite, deviceRecord unitSuite unitDevice)
  replay := .empty
  failures := .empty
  registryFile := .absent
  replayFile := .absent

noncomputable def unitStart : Net (ZMod 5) (ZMod 5) where
  world := ⟨unitServer, fun _ => none⟩
  opened := ∅
  history := ∅
  devices := fun _ => none
  seen := ∅

theorem unitStart_quiet : unitStart.Quiet where
  threads := fun _ => rfl
  history := rfl
  devices := fun _ => rfl
  seen := rfl

theorem unit_proper {x : ZMod 5} (nonzero : x ≠ 0) : x • unitSuite.basepoint ≠ 0 := by
  change x * 1 ≠ 0
  rw [mul_one]
  exact nonzero

theorem unit_sent : RoleSent unitSuite Server.deviceOnlyContext.allowedRoles unitDevice
    (unitDevice.hello unitSuite (Server.deviceOnlyContext.staticPub unitSuite) (unitRandom 0)) (unitRandom 0)
    (authMode everySet).deviceOnly none := .deviceOnly

theorem unit_admissible : Server.Admissible unitSuite Server.deviceOnlyContext .quiet (usesV3 (authMode everySet))
    unitServer (headerBytes (authMode everySet) (Client.computeDeviceHandle unitSuite (unitDevice.pub unitSuite)) ++
      (honestRequest unitSuite Server.deviceOnlyContext unitDevice (authMode everySet) (unitRandom 0)
        none).toAuthPayload.encode unitSuite)
    (honestRequest unitSuite Server.deviceOnlyContext unitDevice (authMode everySet) (unitRandom 0) none)
    (unitDevice.id unitSuite) (deviceRecord unitSuite unitDevice) where
  accepted := by
    have gate : Server.allowsDeviceOnly Server.deviceOnlyContext.vars = true := by decide
    exact sentRequest_accepted unit_sent (fun _ => gate) (unit_proper one_ne_zero_five) (unit_proper (by decide))
  fresh := Finset.notMem_empty _
  found := by
    have indexed : unitServer.handleIndex.lookup (Client.computeDeviceHandle unitSuite (unitDevice.pub unitSuite)) =
      some (unitDevice.id unitSuite, deviceRecord unitSuite unitDevice) := AList.lookup_insert _
    have handle : (honestRequest unitSuite Server.deviceOnlyContext unitDevice (authMode everySet) (unitRandom 0)
      none).handleOpt = some (Client.computeDeviceHandle unitSuite (unitDevice.pub unitSuite)) := rfl
    have pid : Server.computePid unitSuite (deviceRecord unitSuite unitDevice).pubkey (unitRandom 0).nonceC
      ((unitRandom 0).ephSecret • unitSuite.basepoint) (Server.deviceOnlyContext.staticPub unitSuite) =
        (honestRequest unitSuite Server.deviceOnlyContext unitDevice (authMode everySet) (unitRandom 0) none).pid := rfl
    rw [handle, Server.findRecord]
    simp only [indexed]
    exact if_neg (not_not_intro pid)
  verified := sentRequest_verified unit_sent (unit_proper one_ne_zero_five) (unit_proper (by decide))
  writes := rfl
  writesLast := rfl

theorem unit_meets : unitSystem.Meets unitStart 0 0 unitDevice everySet (unitRandom 0) none (unitDevice.id unitSuite)
    .quiet where
  root := rfl
  task := rfl
  writable := rfl
  own := ⟨.inl rfl, rfl⟩
  pinned := rfl
  proper := by
    refine ⟨unit_proper one_ne_zero_five, ?_⟩
    change (((1 : UInt64).toNat : ZMod 5) • (1 : ZMod 5) + (1 : ZMod 5) • (1 : ZMod 5)) ≠ 0
    decide
  serverProper := unit_proper one_ne_zero_five
  serverProof := unit_proper one_ne_zero_five
  serverEph := unit_proper (by decide)
  sent := unit_sent
  admissible := unit_admissible
  notStarted := rfl
  vacant := rfl
  unopened := fun member => member.elim
  alone := by
    intro root honest _
    rw [Set.mem_singleton_iff.mp honest]
    rfl

theorem unit_shared {p : ZMod 5} (shared : unitSystem.Shared p) : p = (1 + 1) * (1 + 1) := by
  obtain ⟨i, j, ephSecret, drawn, rfl⟩ := shared
  cases drawn
  rfl

theorem unit_apart {x : ZMod 5} (other : x ≠ (1 + 1) * (1 + 1)) :
    ¬ unitSystem.Shared (x • unitSystem.suite.basepoint) := by
  intro shared
  have same : x * 1 = (1 + 1) * (1 + 1) := unit_shared shared
  rw [mul_one] at same
  exact other same

theorem unit_one : (1 : ZMod 5) ≠ (1 + 1) * (1 + 1) := by decide

theorem unit_two : (1 + 1 : ZMod 5) ≠ (1 + 1) * (1 + 1) := by decide

omit [DecidableEq P] in
theorem plain_sha256 {sys : System S P} {message : List (SymByte S P)} :
    ∀ s ∈ (sys.suite.sha256 message).bytes, sys.Plain s := by
  intro s member
  obtain ⟨i, _, rfl⟩ := Letter.mem_output.mp member
  exact ⟨.hash (by decide) (by decide), fun a same => by cases same⟩

theorem unit_request (j : Nat) : ∀ s ∈ requestSent unitSuite unitDevice (authMode everySet)
    (Server.deviceOnlyContext.staticPub unitSuite) (unitRandom j) [], unitSystem.Plain s := by
  have opening : ∀ s ∈ modeBytes (authMode everySet), unitSystem.Plain s :=
    forall_mem_append (System.plain_lits [msgAuthV3]) (System.plain_lits [(authMode everySet).flags])
  have handle : ∀ s ∈ handleBytes unitSuite (authMode everySet) unitDevice, unitSystem.Plain s :=
    fun s member => plain_sha256 s (List.mem_of_mem_take member)
  have hello : ∀ s ∈ helloBytes unitSuite (unitDevice.hello unitSuite (Server.deviceOnlyContext.staticPub unitSuite)
      (unitRandom j)), unitSystem.Plain s :=
    forall_mem_append (forall_mem_append (forall_mem_append (forall_mem_append plain_sha256
      (System.plain_point (unit_apart unit_one))) (System.plain_scalar _)) System.plain_fresh)
      (System.plain_point (unit_apart unit_two))
  exact forall_mem_append opening (forall_mem_append handle (forall_mem_append hello fun s member => by cases member))

theorem unit_written (j : Nat) (input : List (SymByte (ZMod 5) (ZMod 5))) : ∀ s ∈ unitSystem.written j input,
    unitSystem.Plain s ∨ ∃ mine : Client.AuthSession (SymByte (ZMod 5) (ZMod 5)) (ZMod 5) (ZMod 5),
      s ∈ (mine.tagC unitSuite).bytes := by
  have carries : unitDevice.Roles unitSuite Server.deviceOnlyContext.allowedRoles
    (Server.deviceOnlyContext.staticPub unitSuite) (unitRandom j) (authMode everySet).deviceOnly [] := .deviceOnly
  have asks : Client.requestAuth unitSuite Server.deviceOnlyContext.allowedRoles (authMode everySet)
      (unitDevice.x unitSuite) .none (unitRandom j) ⟨unitFiles, .opened input⟩ =
        (.ok (unitDevice.hello unitSuite (Server.deviceOnlyContext.staticPub unitSuite) (unitRandom j)),
          ⟨unitFiles.cached unitSuite unitDevice, (Conn.opened input).moved input [] (requestSent unitSuite unitDevice
            (authMode everySet) (Server.deviceOnlyContext.staticPub unitSuite) (unitRandom j) [])⟩) :=
    turn_requestAuth unit_meets.proper unit_meets.serverProper unit_meets.own unit_meets.pinned carries _ _ rfl rfl
  intro s member
  change s ∈ (doAuthV2Session unitSuite Server.deviceOnlyContext.allowedRoles everySet (unitDevice.x unitSuite) .none
    (unitRandom j) ⟨unitFiles, .opened input⟩).2.conn.output at member
  rw [doAuthV2Session, Effect.bind_of_ok asks, Client.onConn, Effect.zoom_apply] at member
  rcases finished : finishAuth unitSuite (unitRandom j).ephSecret (unitDevice.hello unitSuite
    (Server.deviceOnlyContext.staticPub unitSuite) (unitRandom j)) ((Conn.opened input).moved input [] (requestSent
      unitSuite unitDevice (authMode everySet) (Server.deviceOnlyContext.staticPub unitSuite) (unitRandom j) []))
    with ⟨failure | mine, inner⟩
  · rw [finished] at member
    have sent : s ∈ inner.output := member
    rw [finishAuth_refused finished] at sent
    exact .inl (unit_request j s sent)
  · rw [finished] at member
    obtain ⟨_, _, _, _, _, output⟩ := finishAuth_ok finished
    have sent : s ∈ inner.output := member
    rw [output] at sent
    exact (List.mem_append.mp sent).imp (unit_request j s) fun tag => ⟨mine, tag⟩

theorem unit_fresh : unitSystem.Fresh where
  nonceS := fun _ => rfl
  serverNonce := fun _ => rfl
  setupChallenge := fun _ => rfl
  nonceC := by
    intro j vars faults random task
    cases task
    rfl
  clientNonce := by
    intro j token tofu faults random task
    cases task
  serverPub := unit_apart unit_one
  replies := fun i => ⟨unit_apart unit_one, unit_apart unit_two⟩
  challenges := fun i => unit_apart unit_one
  devices := by
    intro j input a member
    rcases unit_written j input _ member with plain | ⟨mine, tag⟩
    · exact plain.free a rfl
    · obtain ⟨i, _, same⟩ := Letter.mem_output.mp tag
      cases same

theorem unit_ownKeys : unitSystem.OwnKeys := by
  intro j data mode present
  cases present

/-- Where the attacker passes everything on, both ends hold the session, and the network keeps its promise. -/
theorem mutual_authentication_unit : ∃ net mine session, Run unitSystem.step unitSystem.Admits unitStart net ∧
    .established 0 (deviceRecord unitSuite unitDevice) session ∈ net.history ∧ net.Confirmed unitSystem 0 mine ∧
    net.MutuallyAuthenticated unitSystem := by
  obtain ⟨net, run, noted, confirmed⟩ := unit_meets.established
  exact ⟨net, _, _, run, noted, confirmed, mutual_authentication unit_fresh unit_ownKeys unitStart_quiet run⟩

end Example

end ZkArche.Protocol

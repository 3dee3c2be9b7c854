import ZkArche.Protocol.DeviceTurns
import ZkArche.Protocol.Network
import ZkArche.Protocol.Traffic

namespace ZkArche.Protocol

open Foundation Foundation.Symbolic

variable {S P : Type} [Field S] [AddCommGroup P] [Module S P]

inductive Hashed : SymByte S P → Prop where
  | atom (a : Atom S P) : Hashed (.atom a)
  | hash {function : Primitive} {inputs : List (List (SymByte S P))} {index : Nat} (noKey : function ≠ .hkdf)
      (noTag : function ≠ .hmac) : Hashed (.call function inputs index)

omit [Field S] [AddCommGroup P] [Module S P] in
theorem hashed_atoms {name : Nat → Atom S P} {size : Nat} : ∀ s ∈ (Letter.atoms name size).bytes, Hashed s := by
  intro s member
  obtain ⟨i, _, rfl⟩ := Letter.mem_atoms.mp member
  exact .atom _

omit [Field S] [AddCommGroup P] [Module S P] in
theorem hashed_output {function : Primitive} {inputs : List (List (SymByte S P))} {size : Nat}
    (noKey : function ≠ .hkdf) (noTag : function ≠ .hmac) :
    ∀ s ∈ (Letter.output function inputs size).bytes, Hashed s := by
  intro s member
  obtain ⟨i, _, rfl⟩ := Letter.mem_output.mp member
  exact .hash noKey noTag

namespace System

variable {sys : System S P}

theorem harmless_hashed (sys : System S P) : Harmless sys.suite Hashed where
  lit := fun byte => .atom (.byte byte)
  point := fun _ => hashed_atoms
  scalar := fun _ => hashed_atoms
  sha256 := fun _ => hashed_output (by decide) (by decide)
  blake2b256 := fun _ => hashed_output (by decide) (by decide)

structure Plain (sys : System S P) (s : SymByte S P) : Prop where
  hashed : Hashed s
  free : ∀ a, s = .atom a → sys.Free a

theorem plain_lits (bytes : List UInt8) : ∀ s ∈ (lits bytes : List (SymByte S P)), sys.Plain s := by
  intro s member
  obtain ⟨byte, _, rfl⟩ := List.mem_map.mp member
  refine ⟨.atom _, fun a same p index point => ?_⟩
  rw [point] at same
  cases same

theorem plain_fresh {purpose : Purpose} {owner size : Nat} :
    ∀ s ∈ (freshBlock purpose owner size : Block (SymByte S P) size).bytes, sys.Plain s := by
  intro s member
  obtain ⟨i, _, rfl⟩ := Letter.mem_atoms.mp member
  refine ⟨.atom _, fun a same p index point => ?_⟩
  rw [point] at same
  cases same

theorem plain_scalar (x : S) : ∀ s ∈ (sys.suite.toBytes x).bytes, sys.Plain s := by
  intro s member
  obtain ⟨i, _, rfl⟩ := Letter.mem_atoms.mp member
  refine ⟨.atom _, fun a same p index point => ?_⟩
  rw [point] at same
  cases same

theorem plain_point {p : P} (apart : ¬ sys.Shared p) : ∀ s ∈ (sys.suite.compress p).bytes, sys.Plain s := by
  intro s member
  obtain ⟨i, _, rfl⟩ := Letter.mem_atoms.mp member
  refine ⟨.atom _, fun a same q index point => ?_⟩
  rw [point] at same
  cases same
  exact apart

/-- Everybody draws a new value every time, and nobody happens to send a shared point. -/
structure Fresh [DecidableEq P] (sys : System S P) : Prop where
  nonceS : ∀ i, (sys.draws i).auth.nonceS = freshBlock .serverNonce i 32
  serverNonce : ∀ i, (sys.draws i).setup.serverNonce = freshBlock .setupServerNonce i 32
  setupChallenge : ∀ i, (sys.draws i).setup.setupChallenge = freshBlock .setupChallenge i 16
  nonceC : ∀ j vars faults random, (sys.runs j).task = .auth vars faults random →
    random.nonceC = freshBlock .clientNonce j 32
  clientNonce : ∀ j token tofu faults random, (sys.runs j).task = .setup token tofu faults random →
    random.clientNonce = freshBlock .setupClientNonce j 32
  serverPub : ¬ sys.Shared sys.serverPub
  replies : ∀ i, ¬ sys.Shared ((sys.draws i).auth.r • sys.suite.basepoint) ∧
    ¬ sys.Shared ((sys.draws i).auth.ephSecret • sys.suite.basepoint)
  challenges : ∀ i, ¬ sys.Shared ((sys.draws i).setup.r • sys.suite.basepoint)
  devices : ∀ j input a, .atom a ∈ sys.written j input → sys.Free a

def Guards (sys : System S P) : SymByte S P → Prop := Guarded (fun a => ¬ sys.Free a) (· = Primitive.hkdf)

theorem Plain.not_guards {s : SymByte S P} (plain : sys.Plain s) : ¬ sys.Guards s := by
  obtain ⟨hashed, free⟩ := plain
  intro guards
  cases guards with
  | atom isSecret => exact isSecret (free _ rfl)
  | call isSilent =>
    cases hashed with
    | hash noKey => exact noKey isSilent

theorem not_guards_hmac {key message : List (SymByte S P)} :
    ∀ s ∈ (sys.suite.hmac key message).bytes, ¬ sys.Guards s := by
  intro s member guards
  obtain ⟨i, _, rfl⟩ := Letter.mem_output.mp member
  cases guards with
  | call isSilent => cases isSilent

theorem guards_hkdf {salt ikm info : List (SymByte S P)} (some : ∃ s ∈ ikm, sys.Guards s) :
    ∀ s ∈ (sys.suite.hkdf salt ikm info).bytes, sys.Guards s := by
  obtain ⟨inner, inside, guards⟩ := some
  intro s member
  obtain ⟨i, _, rfl⟩ := Letter.mem_output.mp member
  exact .call rfl (List.mem_cons_of_mem _ List.mem_cons_self) inside guards

theorem exists_guards {block : Block (SymByte S P) 32} (each : ∀ s ∈ block.bytes, sys.Guards s) :
    ∃ s ∈ block.bytes, sys.Guards s := by
  have first := List.getElem_mem (l := block.bytes) (n := 0) (by rw [block.bytes_length]; decide)
  exact ⟨_, first, each _ first⟩

theorem guards_point {p : P} (shared : sys.Shared p) : ∀ s ∈ (sys.suite.compress p).bytes, sys.Guards s := by
  intro s member
  obtain ⟨i, _, rfl⟩ := Letter.mem_atoms.mp member
  exact .atom fun free => free p i rfl shared

theorem guards_sessionKey {ephSecret : S} {peer ephC ephS : P} {nonceC nonceS pid : Block (SymByte S P) 32}
    (shared : sys.Shared (ephSecret • peer)) :
    ∀ s ∈ (Server.deriveSessionKey sys.suite ephSecret peer nonceC nonceS pid ephC ephS).bytes, sys.Guards s :=
  guards_hkdf (exists_guards (guards_point shared))

end System

def kcTag (G : Suite (SymByte S P) S P) (sessionKey th : Block (SymByte S P) 32) (direction label : List UInt8) :
    Block (SymByte S P) 32 :=
  G.hmac (G.hkdf th.bytes sessionKey.bytes (lits direction)).bytes (lits label ++ th.bytes)

variable {sys : System S P}

theorem kcTag_inj {sessionKey sessionKey' th th' : Block (SymByte S P) 32} {direction direction' label label' : List UInt8}
    {s : SymByte S P} (here : s ∈ (kcTag sys.suite sessionKey th direction label).bytes)
    (there : s ∈ (kcTag sys.suite sessionKey' th' direction' label').bytes) :
    sessionKey = sessionKey' ∧ th = th' ∧ direction = direction' := by
  obtain ⟨i, _, rfl⟩ := Letter.mem_output.mp here
  obtain ⟨i', _, same⟩ := Letter.mem_output.mp there
  injection same with _ inputs _
  injection inputs with key _
  obtain ⟨_, derived⟩ := Letter.output_inj (by decide) (Block.bytes_inj.mp key)
  simp only [List.cons.injEq, Block.bytes_inj, lits_inj, and_true] at derived
  exact ⟨derived.2.1, derived.1, derived.2.2⟩

theorem sha256_inj {message message' : List (SymByte S P)} (same : sys.suite.sha256 message = sys.suite.sha256 message') :
    message = message' := by
  obtain ⟨_, inputs⟩ := Letter.output_inj (by decide) same
  exact (List.cons.inj inputs).1

variable [DecidableEq P]

section Devices

variable {j : Nat} {input : List (SymByte S P)} {mine : Client.AuthSession (SymByte S P) S P}

/-- A session that a run confirms: its request, and the satisfying reply that it has read. -/
structure Confirms (sys : System S P) (j : Nat) (input : List (SymByte S P))
    (mine : Client.AuthSession (SymByte S P) S P) (vars : Vars) (faults : Client.AuthFaults)
    (random : Client.AuthRandom (SymByte S P) S) (hello : Client.AuthHello (SymByte S P) S P)
    (reply : Client.AuthReply (SymByte S P) S P) : Prop where
  task : (sys.runs j).task = .auth vars faults random
  asked : ∃ after, sys.requestAuth j vars faults random (sys.before j input) = (.ok hello, after)
  read : ∀ s ∈ reply.tagS.bytes, s ∈ input
  satisfying : Client.Satisfying sys.suite random.ephSecret hello reply
  session : mine = Client.conclude sys.suite random.ephSecret hello reply

theorem toOption_eq_some {α ε : Type} {result : Except ε α} {value : α} (same : result.toOption = some value) :
    result = .ok value := by
  cases result with
  | error failure => cases same
  | ok other =>
    cases same
    rfl

theorem keeps_request {holds : Conn (SymByte S P) → Prop} {vars : Vars} {faults : Client.AuthFaults}
    {random : Client.AuthRandom (SymByte S P) S} (nonce : ∀ s ∈ random.nonceC.bytes, Hashed s)
    (sendable : ∀ buf, (∀ s ∈ buf, Hashed s) → SendStable holds buf) (start : holds (sys.before j input).conn) :
    holds (sys.requestAuth j vars faults random (sys.before j input)).2.conn :=
  keeps_requestAuth sys.harmless_hashed sendable nonce (sys.before j input) start

theorem hashed_request {vars : Vars} {faults : Client.AuthFaults} {random : Client.AuthRandom (SymByte S P) S}
    (nonce : ∀ s ∈ random.nonceC.bytes, Hashed s) :
    ∀ s ∈ (sys.requestAuth j vars faults random (sys.before j input)).2.conn.output, Hashed s := by
  have sendable : ∀ buf, (∀ s ∈ buf, Hashed s) →
      SendStable (fun conn : Conn (SymByte S P) => ∀ s ∈ conn.output, Hashed s) buf :=
    fun buf each conn told => ⟨told, forall_mem_append told each⟩
  exact keeps_request nonce sendable fun s member => absurd member List.not_mem_nil

theorem requestAuth_input {vars : Vars} {faults : Client.AuthFaults} {random : Client.AuthRandom (SymByte S P) S}
    (nonce : ∀ s ∈ random.nonceC.bytes, Hashed s) :
    (sys.requestAuth j vars faults random (sys.before j input)).2.conn.input = input := by
  have sendable : ∀ buf, (∀ s ∈ buf, Hashed s) → SendStable (fun conn : Conn (SymByte S P) => conn.input = input) buf :=
    fun buf each conn same => ⟨same, same⟩
  exact keeps_request nonce sendable rfl

theorem session_confirms (nonce : ∀ vars faults random, (sys.runs j).task = .auth vars faults random →
    ∀ s ∈ random.nonceC.bytes, Hashed s) (confirmed : sys.session j input = some mine) :
    ∃ vars faults random hello reply, Confirms sys j input mine vars faults random hello reply := by
  unfold System.session at confirmed
  split at confirmed
  case h_1 vars faults random task =>
    have run := toOption_eq_some confirmed
    rcases outcome : sys.doAuth j vars faults random (sys.before j input) with ⟨result, final⟩
    rw [outcome] at run
    subst run
    obtain ⟨hello, middle, asked, finishes⟩ := Effect.bind_ok.mp outcome
    rw [Client.onConn, Effect.zoom_eq_iff] at finishes
    obtain ⟨inner, finishes, _⟩ := finishes
    obtain ⟨reply, rest, read, satisfying, session, _⟩ := Client.finishAuth_ok finishes
    have untouched : middle.conn.input = input := by
      have same : (sys.requestAuth j vars faults random (sys.before j input)).2.conn.input = input :=
        requestAuth_input (nonce vars faults random task)
      rw [System.requestAuth, asked] at same
      exact same
    rw [untouched] at read
    refine ⟨vars, faults, random, hello, reply, task, ⟨middle, asked⟩, ?_, satisfying, session⟩
    intro s member
    rw [read]
    exact List.mem_append_left _ (List.mem_append_right _ member)
  case h_2 => cases confirmed

/-- What a run sends, whatever it is told: harmless letters, and the tag of the session that it confirms. -/
theorem written_cases (fresh : sys.Fresh) : ∀ s ∈ sys.written j input, sys.Plain s ∨
    ∃ mine, sys.session j input = some mine ∧ s ∈ (mine.tagC sys.suite).bytes := by
  have plain : ∀ s ∈ sys.written j input, Hashed s → sys.Plain s := by
    intro s member hashed
    refine ⟨hashed, fun a same => fresh.devices j input a ?_⟩
    rw [← same]
    exact member
  intro s member
  have inside := member
  unfold System.written at inside
  split at inside
  case h_1 vars faults random task =>
    have nonce : ∀ s ∈ random.nonceC.bytes, Hashed s := by
      rw [fresh.nonceC j vars faults random task]
      exact hashed_atoms
    have requested : ∀ s ∈ (sys.requestAuth j vars faults random (sys.before j input)).2.conn.output, Hashed s :=
      hashed_request nonce
    have session : sys.session j input = (sys.doAuth j vars faults random (sys.before j input)).1.toOption := by
      rw [System.session, task]
    rw [System.doAuth, Client.doAuthV2Session] at inside session
    rw [System.requestAuth] at requested
    rcases asked : Client.requestAuth sys.suite sys.ctx.allowedRoles (Client.authMode vars)
      (sys.secret (sys.runs j).root) faults random (sys.before j input) with ⟨failure | hello, middle⟩
    · rw [asked] at requested
      rw [Effect.bind_of_error asked] at inside
      exact .inl (plain s member (requested s inside))
    · rw [asked] at requested
      rw [Effect.bind_of_ok asked, Client.onConn, Effect.zoom_apply] at inside session
      rcases finished : Client.finishAuth sys.suite random.ephSecret hello middle.conn with ⟨failure | mine, inner⟩
      · rw [finished] at inside
        have output : inner.output = middle.conn.output := Client.finishAuth_refused finished
        exact .inl (plain s member (requested s (output ▸ inside)))
      · rw [finished] at inside session
        obtain ⟨_, _, _, _, _, output⟩ := Client.finishAuth_ok finished
        have either : s ∈ middle.conn.output ++ (mine.tagC sys.suite).bytes := output ▸ inside
        rcases List.mem_append.mp either with before | tag
        · exact .inl (plain s member (requested s before))
        · exact .inr ⟨mine, session, tag⟩
  case h_2 token tofu faults random task =>
    have nonce : ∀ s ∈ (sys.setupRun j token tofu faults random input).random.clientNonce.bytes, Hashed s := by
      rw [System.setupRun, fresh.clientNonce j token tofu faults random task]
      exact hashed_atoms
    have deviceId : ∀ s ∈ (sys.setupRun j token tofu faults random input).call.deviceId.bytes, Hashed s :=
      sys.harmless_hashed.blake2b256 _
    have sendable : ∀ buf, (∀ s ∈ buf, Hashed s) →
        SendStable (fun conn : Conn (SymByte S P) => ∀ s ∈ conn.output, Hashed s) buf :=
      fun buf each conn told => ⟨told, forall_mem_append told each⟩
    have told : ∀ s ∈ (Client.doSetup sys.suite (sys.setupRun j token tofu faults random input).call faults random
        (sys.before j input)).2.conn.output, Hashed s :=
      keeps_doSetup sys.harmless_hashed sendable (fun _ _ _ _ told => told) deviceId nonce (sys.before j input)
        fun s member => absurd member List.not_mem_nil
    exact .inl (plain s member (told s inside))

end Devices

end ZkArche.Protocol

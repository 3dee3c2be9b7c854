import ZkArche.Protocol.NetworkLetters

namespace ZkArche.Protocol

open Foundation Foundation.Symbolic
open Server (DeviceRecord Pc Thread establish)

variable {S P : Type} [Field S] [AddCommGroup P] [Module S P] [DecidableEq P]

namespace Net

section Definitions

variable (sys : System S P) (net : Net S P)

def Confirmed (j : Nat) (mine : Client.AuthSession (SymByte S P) S P) : Prop :=
  ∃ received, net.devices j = some received ∧ sys.session j received = some mine

noncomputable def theirs (sys : System S P) (i : Nat) (request : Server.AuthRequest (SymByte S P) S P) :
    Server.AuthSession (SymByte S P) S P :=
  establish sys.suite sys.ctx.serverStaticSecret request (sys.draws i).auth

inductive Tag : SymByte S P → Prop where
  | server {i : Nat} {request : Server.AuthRequest (SymByte S P) S P} {record : DeviceRecord P} {s : SymByte S P}
      (noted : .replied i request record ∈ net.history) (member : s ∈ ((theirs sys i request).tagS sys.suite).bytes) : Tag s
  | device {j : Nat} {mine : Client.AuthSession (SymByte S P) S P} {s : SymByte S P} (confirmed : net.Confirmed sys j mine)
      (member : s ∈ (mine.tagC sys.suite).bytes) : Tag s

structure Verified (request : Server.AuthRequest (SymByte S P) S P) (record : DeviceRecord P) : Prop where
  pid : Server.computePid sys.suite record.pubkey request.nonceC request.ephC sys.serverPub = request.pid
  proved : ∀ root ∈ sys.honest, record.pubkey = sys.key root → net.Proved sys (sys.key root)
    (Server.clientTranscript sys.suite (sys.key root) request.pid request.aC request.nonceC request.ephC)

def Replied (i : Nat) (record : DeviceRecord P) (session : Server.AuthSession (SymByte S P) S P) : Prop :=
  ∃ request, .replied i request record ∈ net.history ∧ session = theirs sys i request

structure Completed (i : Nat) (record : DeviceRecord P) (session : Server.AuthSession (SymByte S P) S P) : Prop where
  replied : net.Replied sys i record session
  tag : ∀ s ∈ (session.tagC sys.suite).bytes, net.Knows sys s

def Stage (i : Nat) : Pc (SymByte S P) S P → Prop
  | .authVerified request record => net.Verified sys request record
  | .authReplied record session => net.Replied sys i record session
  | .authConfirmed record session => net.Completed sys i record session
  | .authCompleted record session _ => net.Completed sys i record session
  | _ => True

def Grounded : Note S P → Prop
  | .challenged _ _ => True
  | .replied _ request record => net.Verified sys request record
  | .established i record session => net.Completed sys i record session

structure Served (i : Nat) (thread : Thread (SymByte S P) S P) : Prop where
  random : thread.random = sys.draws i
  input : ∀ s ∈ thread.conn.input, net.Knows sys s
  output : ∀ s ∈ thread.conn.output, sys.Plain s ∨ net.Tag sys s
  stage : net.Stage sys i thread.pc

structure Sound : Prop where
  seen : ∀ s ∈ net.seen, sys.Plain s ∨ net.Tag sys s
  threads : ∀ i thread, net.world.threads i = some thread → net.Served sys i thread
  history : ∀ note ∈ net.history, net.Grounded sys note
  received : ∀ j received, net.devices j = some received → ∀ s ∈ received, net.Knows sys s
  genuine : ∀ j mine, net.Confirmed sys j mine → net.Genuine sys sys.serverPub
    (Client.serverTranscript sys.suite sys.serverPub mine.aS mine.nonceS mine.ephS) mine.aS mine.sS

structure Grows (next : Net S P) : Prop where
  history : net.history ⊆ next.history
  seen : net.seen ⊆ next.seen
  devices : ∀ j received, net.devices j = some received → ∃ more, next.devices j = some (received ++ more) ∧
    ((sys.session j received).isSome = true → more = [])

end Definitions

variable {sys : System S P} {net next : Net S P}

namespace Grows

variable (grows : net.Grows sys next)
include grows

theorem knows {s : SymByte S P} (known : net.Knows sys s) : next.Knows sys s :=
  known.mono fun _ member => grows.seen member

theorem confirmed {j : Nat} {mine : Client.AuthSession (SymByte S P) S P} (confirmed : net.Confirmed sys j mine) :
    next.Confirmed sys j mine := by
  obtain ⟨received, present, session⟩ := confirmed
  obtain ⟨more, later, finished⟩ := grows.devices j received present
  rw [finished (by rw [session]; rfl), List.append_nil] at later
  exact ⟨received, later, session⟩

theorem tag {s : SymByte S P} (tag : net.Tag sys s) : next.Tag sys s := by
  cases tag with
  | server noted member => exact .server (grows.history noted) member
  | device confirmed member => exact .device (grows.confirmed confirmed) member

theorem proved {pub : P} {transcript : CompatTranscript (SymByte S P)} (proved : net.Proved sys pub transcript) :
    next.Proved sys pub transcript := by
  cases proved with
  | session started front task asked =>
    obtain ⟨more, later, _⟩ := grows.devices _ _ started
    exact .session later (front.trans (List.prefix_append _ _)) task asked
  | setup started front task signs =>
    obtain ⟨more, later, _⟩ := grows.devices _ _ started
    exact .setup later (front.trans (List.prefix_append _ _)) task signs
  | reply noted => exact .reply (grows.history noted)
  | challenge noted => exact .challenge (grows.history noted)

theorem verified {request : Server.AuthRequest (SymByte S P) S P} {record : DeviceRecord P}
    (verified : net.Verified sys request record) : next.Verified sys request record :=
  ⟨verified.pid, fun root member key => grows.proved (verified.proved root member key)⟩

theorem replied {i : Nat} {record : DeviceRecord P} {session : Server.AuthSession (SymByte S P) S P}
    (replied : net.Replied sys i record session) : next.Replied sys i record session := by
  obtain ⟨request, noted, same⟩ := replied
  exact ⟨request, grows.history noted, same⟩

theorem completed {i : Nat} {record : DeviceRecord P} {session : Server.AuthSession (SymByte S P) S P}
    (completed : net.Completed sys i record session) : next.Completed sys i record session :=
  ⟨grows.replied completed.replied, fun s member => grows.knows (completed.tag s member)⟩

theorem stage {i : Nat} {pc : Pc (SymByte S P) S P} (stage : net.Stage sys i pc) : next.Stage sys i pc := by
  cases pc with
  | authVerified request record => exact grows.verified stage
  | authReplied record session => exact grows.replied stage
  | authConfirmed record session => exact grows.completed stage
  | authCompleted record session blob => exact grows.completed stage
  | _ => exact trivial

theorem grounded {note : Note S P} (grounded : net.Grounded sys note) : next.Grounded sys note := by
  cases note with
  | challenged i checked => exact trivial
  | replied i request record => exact grows.verified grounded
  | established i record session => exact grows.completed grounded

theorem served {i : Nat} {thread : Thread (SymByte S P) S P} (served : net.Served sys i thread) :
    next.Served sys i thread where
  random := served.random
  input := fun s member => grows.knows (served.input s member)
  output := fun s member => (served.output s member).imp_right grows.tag
  stage := grows.stage served.stage

end Grows

theorem grows_served (world : Server.World (SymByte S P) S P) : net.Grows sys (net.served world) where
  history := Set.subset_union_left
  seen := Set.subset_union_left
  devices := fun j received present => ⟨[], by rw [List.append_nil]; exact present, fun _ => rfl⟩

theorem fed_self (sys : System S P) (net : Net S P) (j : Nat) (input : List (SymByte S P)) :
    (net.fed sys j input).devices j = some input := Function.update_self _ _ _

theorem fed_of_ne {j j' : Nat} (other : j' ≠ j) (input : List (SymByte S P)) :
    (net.fed sys j input).devices j' = net.devices j' := Function.update_of_ne other _ _

section Feeding

variable {j : Nat} {before : Option (List (SymByte S P))} {bytes : List (SymByte S P)} (here : net.devices j = before)
  (unfinished : ∀ received ∈ before, (sys.session j received).isSome = false)
include here unfinished

theorem grows_fed : net.Grows sys (net.fed sys j (before.getD [] ++ bytes)) where
  history := fun _ member => member
  seen := Set.subset_union_left
  devices := by
    intro j' received present
    by_cases same : j' = j
    · subst same
      rw [here] at present
      refine ⟨bytes, ?_, fun finished => ?_⟩
      · rw [fed_self, present]
        rfl
      · rw [unfinished received present] at finished
        cases finished
    · refine ⟨[], ?_, fun _ => rfl⟩
      rw [fed_of_ne same, List.append_nil]
      exact present

theorem sound_fed (fresh : sys.Fresh) (sound : net.Sound sys) (known : ∀ s ∈ bytes, net.Knows sys s)
    (genuine : ∀ mine, sys.session j (before.getD [] ++ bytes) = some mine → net.Genuine sys sys.serverPub
      (Client.serverTranscript sys.suite sys.serverPub mine.aS mine.nonceS mine.ephS) mine.aS mine.sS) :
    (net.fed sys j (before.getD [] ++ bytes)).Sound sys := by
  have grows : net.Grows sys (net.fed sys j (before.getD [] ++ bytes)) := grows_fed here unfinished
  constructor
  · intro s member
    rcases member with member | member
    · exact (sound.seen s member).imp_right grows.tag
    · rcases written_cases fresh s member with plain | ⟨mine, session, tag⟩
      · exact .inl plain
      · exact .inr (.device ⟨_, fed_self sys net j _, session⟩ tag)
  · exact fun i thread present => grows.served (sound.threads i thread present)
  · exact fun note member => grows.grounded (sound.history note member)
  · intro j' received present s member
    apply grows.knows
    by_cases same : j' = j
    · subst same
      rw [fed_self] at present
      cases present
      rcases List.mem_append.mp member with old | new
      · cases before with
        | none => cases old
        | some received => exact sound.received j' received here s old
      · exact known s new
    · rw [fed_of_ne same] at present
      exact sound.received j' received present s member
  · rintro j' mine ⟨received, present, session⟩ accepted
    apply grows.proved
    by_cases same : j' = j
    · subst same
      rw [fed_self] at present
      cases present
      exact genuine mine session accepted
    · rw [fed_of_ne same] at present
      exact sound.genuine j' mine ⟨received, present, session⟩ accepted

end Feeding

theorem session_nil (fresh : sys.Fresh) (j : Nat) : sys.session j [] = none := by
  cases confirmed : sys.session j [] with
  | none => rfl
  | some mine =>
    have nonce : ∀ vars faults random, (sys.runs j).task = .auth vars faults random →
        ∀ s ∈ random.nonceC.bytes, Hashed s := by
      intro vars faults random task
      rw [fresh.nonceC j vars faults random task]
      exact hashed_atoms
    obtain ⟨_, _, _, _, reply, confirms⟩ := session_confirms nonce confirmed
    have first := List.getElem_mem (l := reply.tagS.bytes) (n := 0) (by rw [reply.tagS.bytes_length]; decide)
    exact absurd (confirms.read _ first) List.not_mem_nil

section Serving

variable {i : Nat} {thread : Thread (SymByte S P) S P} {world : Server.World (SymByte S P) S P}

theorem plain_sends (fresh : sys.Fresh) {pc : Pc (SymByte S P) S P}
    (noReply : ∀ request record, pc ≠ .authVerified request record) :
    ∀ buf ∈ sends sys.suite sys.ctx (sys.draws i) pc, ∀ s ∈ buf, sys.Plain s := by
  intro buf member
  cases pc with
  | setupChecked checked =>
    simp only [sends, List.mem_cons, List.not_mem_nil, or_false] at member
    rcases member with rfl | rfl | rfl | rfl | rfl
    · rw [fresh.serverNonce]
      exact System.plain_fresh
    · rw [fresh.setupChallenge]
      exact System.plain_fresh
    · exact System.plain_point fresh.serverPub
    · exact System.plain_point (fresh.challenges i)
    · exact System.plain_scalar _
  | setupInserted checked =>
    rw [List.mem_singleton.mp member]
    exact System.plain_lits _
  | authVerified request record => exact absurd rfl (noReply request record)
  | _ => cases member

theorem plain_payload2 (fresh : sys.Fresh) (i : Nat) (request : Server.AuthRequest (SymByte S P) S P) :
    ∀ s ∈ (theirs sys i request).payload2 sys.suite,
      sys.Plain s ∨ s ∈ ((theirs sys i request).tagS sys.suite).bytes := by
  have nonce : ∀ s ∈ (theirs sys i request).nonceS.bytes, sys.Plain s := by
    change ∀ s ∈ (sys.draws i).auth.nonceS.bytes, sys.Plain s
    rw [fresh.nonceS]
    exact System.plain_fresh
  intro s member
  rcases List.mem_append.mp member with front | tag
  · left
    exact forall_mem_append (forall_mem_append (forall_mem_append (forall_mem_append
      (System.plain_point fresh.serverPub) (System.plain_point (fresh.replies i).1)) (System.plain_scalar _)) nonce)
      (System.plain_point (fresh.replies i).2) s front
  · exact .inr tag

variable {moment : Server.Moment (SymByte S P) P} {result : Except Failure (Pc (SymByte S P) S P)}
  {after : Server.Connected (SymByte S P) P}

theorem conn_resume [DecidableEq S] (fresh : sys.Fresh) (served : net.Served sys i thread)
    (grows : net.Grows sys next)
    (noted : ∀ note, Notes i thread.pc (thread.pc.next result) note → note ∈ next.history)
    (run : Server.resume sys.suite sys.ctx moment thread.peerKey thread.random thread.pc ⟨net.world.server, thread.conn⟩ =
      (result, after)) :
    (∀ s ∈ after.conn.input, net.Knows sys s) ∧ ∀ s ∈ after.conn.output, sys.Plain s ∨ next.Tag sys s := by
  have told : ∀ s ∈ thread.conn.output, sys.Plain s ∨ next.Tag sys s :=
    fun s member => (served.output s member).imp_right grows.tag
  rw [served.random] at run
  by_cases replies : ∃ request record, thread.pc = .authVerified request record
  · obtain ⟨request, record, here⟩ := replies
    rw [here] at run noted
    rcases sent : sendAll ((theirs sys i request).payload2 sys.suite) thread.conn with ⟨failure | _, conn⟩
    · have whole : Server.onConn (sendAll ((theirs sys i request).payload2 sys.suite)) ⟨net.world.server, thread.conn⟩ =
          (.error failure, ⟨net.world.server, conn⟩) := by rw [Server.onConn_apply, sent]
      have output : conn.output = thread.conn.output := sendAll_error sent
      have input : conn.input = thread.conn.input := by
        have stable : SendStable (fun conn : Conn (SymByte S P) => conn.input = thread.conn.input)
            ((theirs sys i request).payload2 sys.suite) := fun _ same => ⟨same, same⟩
        have kept := keeps_sendAll stable thread.conn rfl
        rw [sent] at kept
        exact kept
      rw [Server.resume] at run
      change (Server.onConn (sendAll ((theirs sys i request).payload2 sys.suite)) >>= _) _ = _ at run
      rw [Effect.bind_of_error whole] at run
      cases run
      exact ⟨fun s member => served.input s (input ▸ member), fun s member => told s (output ▸ member)⟩
    · have whole : Server.onConn (sendAll ((theirs sys i request).payload2 sys.suite)) ⟨net.world.server, thread.conn⟩ =
          (.ok (), ⟨net.world.server, conn⟩) := by rw [Server.onConn_apply, sent]
      rw [Server.resume] at run
      change (Server.onConn (sendAll ((theirs sys i request).payload2 sys.suite)) >>= _) _ = _ at run
      rw [Effect.bind_of_ok whole] at run
      cases run
      have replied : .replied i request record ∈ next.history := noted _ (.replied request record _)
      rw [sendAll_ok sent]
      refine ⟨served.input, forall_mem_append told fun s member => ?_⟩
      exact (plain_payload2 fresh i request s member).imp_right (.server replied)
  · have stable : ReadStable (fun conn : Conn (SymByte S P) => (∀ s ∈ conn.input, net.Knows sys s) ∧
        ∀ s ∈ conn.output, sys.Plain s ∨ next.Tag sys s) :=
      fun conn input recv fewer holds => ⟨fun s member => holds.1 s (fewer s member), holds.2⟩
    have sendable : ∀ buf ∈ sends sys.suite sys.ctx (sys.draws i) thread.pc,
        SendStable (fun conn : Conn (SymByte S P) => (∀ s ∈ conn.input, net.Knows sys s) ∧
          ∀ s ∈ conn.output, sys.Plain s ∨ next.Tag sys s) buf := by
      intro buf member conn holds
      have plain := plain_sends fresh (fun request record here => replies ⟨request, record, here⟩) buf member
      exact ⟨holds, holds.1, forall_mem_append holds.2 fun s inside => .inl (plain s inside)⟩
    have kept := keeps_resume stable sendable moment thread.peerKey ⟨net.world.server, thread.conn⟩ ⟨served.input, told⟩
    rw [run] at kept
    exact kept

theorem stage_resume [DecidableEq S] (served : net.Served sys i thread) (grows : net.Grows sys next)
    (noted : ∀ note, Notes i thread.pc (thread.pc.next result) note → note ∈ next.history)
    (genuine : ∀ request, thread.pc = .authPersisted request → ∀ root ∈ sys.honest, net.Genuine sys (sys.key root)
      (Server.clientTranscript sys.suite (sys.key root) request.pid request.aC request.nonceC request.ephC)
      request.aC request.sC)
    (run : Server.resume sys.suite sys.ctx moment thread.peerKey thread.random thread.pc ⟨net.world.server, thread.conn⟩ =
      (result, after)) : next.Stage sys i (thread.pc.next result) := by
  have stage := grows.stage served.stage
  rw [served.random] at run
  rcases result with failure | pc
  · cases thread.pc <;> exact trivial
  · change next.Stage sys i pc
    have leads := Server.resume_leads run
    rcases place : thread.pc
    all_goals rw [place] at leads stage run noted
    case accepted =>
      rcases leads with rfl | ⟨_, rfl⟩ | ⟨_, rfl⟩ <;> exact trivial
    case setupRequested request =>
      obtain ⟨_, _, rfl⟩ := leads
      exact trivial
    case setupAdmitted | setupChallenged | authAccepted | authRequested =>
      obtain ⟨_, rfl⟩ := leads
      exact trivial
    case authPersisted request =>
      obtain ⟨record, rfl⟩ := leads
      simp only [Server.resume, Effect.bind_ok, Server.readShared_ok, Effect.lift_apply, Prod.mk.injEq] at run
      obtain ⟨state, _, ⟨rfl, rfl⟩, ⟨id, record'⟩, _, ⟨found, rfl⟩, _, _, ⟨verified, rfl⟩, done⟩ := run
      cases done
      obtain ⟨_, pid⟩ := Server.findRecord_ok found
      obtain ⟨_, accepted, _⟩ := Except.bind_ok_iff.mp verified
      refine ⟨pid, fun root member key => grows.proved (genuine request place root member ?_)⟩
      rw [Server.require_ok, key] at accepted
      exact accepted
    case authVerified request record =>
      cases leads
      exact ⟨request, noted _ (.replied request record _), rfl⟩
    case authReplied record session =>
      cases leads
      obtain ⟨_, middle, confirmed, _⟩ := Effect.bind_ok.mp run
      obtain ⟨confirms, _⟩ := Server.onConn_ok.mp confirmed
      obtain ⟨input, _⟩ := Server.confirm_ok confirms
      refine ⟨stage, fun s member => grows.knows (served.input s ?_)⟩
      rw [input]
      exact List.mem_append_left _ member
    case authConfirmed record session =>
      obtain ⟨_, rfl⟩ := leads
      exact stage
    all_goals
      cases leads
      exact trivial

theorem grounded_notes {pc : Pc (SymByte S P) S P} {note : Note S P} (stage : net.Stage sys i thread.pc)
    (notes : Notes i thread.pc pc note) : net.Grounded sys note := by
  generalize thread.pc = place at stage notes
  cases notes with
  | challenged checked => exact trivial
  | replied request record session => exact stage
  | established record session blob => exact stage

theorem sound_served (sound : net.Sound sys)
    (threads : ∀ i thread, world.threads i = some thread → (net.served world).Served sys i thread) :
    (net.served world).Sound sys := by
  have grows : net.Grows sys (net.served world) := grows_served world
  constructor
  · intro s member
    rcases member with old | ⟨i, thread, present, told⟩
    · exact (sound.seen s old).imp_right grows.tag
    · exact (threads i thread present).output s told
  · exact threads
  · intro note member
    rcases member with old | ⟨i, before, after, present, _, notes⟩
    · exact grows.grounded (sound.history note old)
    · exact grows.grounded (grounded_notes (sound.threads i before present).stage notes)
  · exact fun j received present s member => grows.knows (sound.received j received present s member)
  · exact fun j mine confirmed accepted => grows.proved (sound.genuine j mine confirmed accepted)

theorem sound_put (sound : net.Sound sys) {server : Server.ServerState (SymByte S P) P}
    (own : (net.served (Server.World.put { net.world with server } i thread)).Served sys i thread) :
    (net.served (Server.World.put { net.world with server } i thread)).Sound sys := by
  apply sound_served sound
  intro i' thread' present
  by_cases same : i' = i
  · subst same
    have here : thread = thread' := Option.some.inj ((Function.update_self i' _ net.world.threads).symm.trans present)
    rw [← here]
    exact own
  · have old : net.world.threads i' = some thread' := (Function.update_of_ne same _ _).symm.trans present
    exact (grows_served _).served (sound.threads i' thread' old)

theorem sound_advance [DecidableEq S] (fresh : sys.Fresh) (sound : net.Sound sys)
    (present : net.world.threads i = some thread)
    (genuine : ∀ request, thread.pc = .authPersisted request → ∀ root ∈ sys.honest, net.Genuine sys (sys.key root)
      (Server.clientTranscript sys.suite (sys.key root) request.pid request.aC request.nonceC request.ephC)
      request.aC request.sC) :
    (net.served (net.world.advance sys.suite sys.ctx i thread moment)).Sound sys := by
  rcases run : Server.resume sys.suite sys.ctx moment thread.peerKey thread.random thread.pc
    ⟨net.world.server, thread.conn⟩ with ⟨result, after⟩
  rw [Server.advance_of_eq run]
  have grows : net.Grows sys (net.served (Server.World.put { net.world with server := after.server } i
    { thread with conn := after.conn, pc := thread.pc.next result })) := grows_served _
  have served := sound.threads i thread present
  have noted : ∀ note, Notes i thread.pc (thread.pc.next result) note →
      note ∈ (net.served (Server.World.put { net.world with server := after.server } i
        { thread with conn := after.conn, pc := thread.pc.next result })).history :=
    fun note notes => .inr ⟨i, thread, _, present, Function.update_self _ _ _, notes⟩
  obtain ⟨input, output⟩ := conn_resume fresh served grows noted run
  exact sound_put sound ⟨served.random, fun s member => grows.knows (input s member), output,
    stage_resume served grows noted genuine run⟩

end Serving

theorem sound_step [DecidableEq S] (fresh : sys.Fresh) (sound : net.Sound sys) {event : NetEvent S P}
    (admitted : sys.Admits net event)
    (taken : sys.step net event = some next) : next.Sound sys := by
  cases event with
  | server event =>
    obtain ⟨world, occurs, rfl⟩ := Option.map_eq_some_iff.mp taken
    have grows : net.Grows sys (net.served world) := grows_served world
    cases event with
    | restart moment =>
      cases occurs
      apply sound_served sound
      intro i thread present
      cases present
    | act action =>
      rcases Server.perform_cases occurs with ⟨i, peerKey, random, writeFault, rfl, vacant, rfl⟩ |
        ⟨i, bytes, thread, rfl, present, rfl⟩ | ⟨i, moment, thread, rfl, present, rfl⟩
      · exact sound_put sound ⟨admitted.2, fun s member => absurd member List.not_mem_nil,
          fun s member => absurd member List.not_mem_nil, trivial⟩
      · have served := grows.served (sound.threads i thread present)
        refine sound_put sound ⟨served.random, ?_, served.output, served.stage⟩
        exact forall_mem_append served.input fun s member => grows.knows (admitted s member)
      · exact sound_advance fresh sound present fun request place => admitted thread request present place
  | start j =>
    simp only [System.step] at taken
    split at taken
    case h_1 absent =>
      cases taken
      change (net.fed sys j ((none : Option (List (SymByte S P))).getD [] ++ [])).Sound sys
      refine sound_fed absent ?_ fresh sound (fun s member => absurd member List.not_mem_nil) ?_
      · intro received here
        cases here
      · intro mine session
        rw [Option.getD_none, List.append_nil, session_nil fresh] at session
        cases session
    case h_2 => cases taken
  | feed j bytes =>
    obtain ⟨input, present, taken⟩ := Option.bind_eq_some_iff.mp taken
    split at taken
    case isTrue => cases taken
    case isFalse unfinished =>
      cases taken
      refine sound_fed present ?_ fresh sound admitted.1 fun mine session => admitted.2 input mine present session
      intro received here
      cases here
      exact Bool.eq_false_of_not_eq_true unfinished

/-- A network on which nothing has happened yet. -/
structure Quiet (net : Net S P) : Prop where
  threads : ∀ i, net.world.threads i = none
  history : net.history = ∅
  devices : ∀ j, net.devices j = none
  seen : net.seen = ∅

theorem Quiet.sound (quiet : net.Quiet) : net.Sound sys where
  seen := by
    rw [quiet.seen]
    exact fun s member => member.elim
  threads := fun i thread present => by
    rw [quiet.threads] at present
    cases present
  history := by
    rw [quiet.history]
    exact fun note member => member.elim
  received := fun j received present => by
    rw [quiet.devices] at present
    cases present
  genuine := by
    rintro j mine ⟨received, present, _⟩
    rw [quiet.devices] at present
    cases present

theorem sound_of_run [DecidableEq S] (fresh : sys.Fresh) (quiet : net.Quiet)
    (run : Run sys.step sys.Admits net next) : next.Sound sys :=
  run.invariant (Sound sys) quiet.sound fun _ _ _ sound admitted taken => sound_step fresh sound admitted taken

end Net

section Order

def rank : Pc (SymByte S P) S P → Nat
  | .accepted => 0
  | .setupAccepted => 1
  | .setupAdmitted => 2
  | .setupRequested _ => 3
  | .setupChecked _ => 4
  | .setupChallenged _ => 5
  | .setupVerified _ _ => 6
  | .setupInserted _ => 7
  | .authAccepted _ => 1
  | .authRequested _ => 2
  | .authAdmitted _ _ => 3
  | .authPersisted _ => 4
  | .authVerified _ _ => 5
  | .authReplied _ _ => 6
  | .authConfirmed _ _ => 7
  | .authCompleted _ _ _ => 8
  | .answered _ => 9
  | .closed _ => 10

def Note.thread : Note S P → Nat
  | .challenged i _ => i
  | .replied i _ _ => i
  | .established i _ _ => i

def Note.rank : Note S P → Nat
  | .challenged _ _ => 5
  | .replied _ _ _ => 6
  | .established _ _ _ => 9

variable {sys : System S P} {net next : Net S P} {i : Nat} {before after : Pc (SymByte S P) S P} {note note' : Note S P}

omit [Field S] [AddCommGroup P] [Module S P] [DecidableEq P] in
theorem Notes.thread_eq (notes : Notes i before after note) : note.thread = i := by
  cases notes <;> rfl

omit [Field S] [AddCommGroup P] [Module S P] [DecidableEq P] in
theorem Notes.rank_before (notes : Notes i before after note) : rank before < note.rank := by
  cases notes <;> exact Nat.le_of_ble_eq_true rfl

omit [Field S] [AddCommGroup P] [Module S P] [DecidableEq P] in
theorem Notes.rank_after (notes : Notes i before after note) : note.rank = rank after := by
  cases notes <;> rfl

omit [Field S] [AddCommGroup P] [Module S P] [DecidableEq P] in
theorem Notes.unique (notes : Notes i before after note) (notes' : Notes i before after note') : note = note' := by
  cases notes <;> cases notes' <;> rfl

variable [DecidableEq S]

theorem rank_resume {ctx : Server.ServerContext S} {moment : Server.Moment (SymByte S P) P} {peerKey : String}
    {random : Server.ClientRandom (SymByte S P) S} {pc : Pc (SymByte S P) S P}
    {state after : Server.Connected (SymByte S P) P} {result : Except Failure (Pc (SymByte S P) S P)}
    (run : Server.resume sys.suite ctx moment peerKey random pc state = (result, after)) :
    rank pc ≤ rank (pc.next result) := by
  rcases result with failure | place
  · cases pc with
    | closed res => cases run
    | _ => exact Nat.le_of_ble_eq_true rfl
  · change rank pc ≤ rank place
    have leads := Server.resume_leads run
    cases pc with
    | accepted => exact Nat.zero_le _
    | setupAdmitted | setupChallenged | authAccepted | authRequested | authPersisted | authConfirmed =>
      obtain ⟨_, rfl⟩ := leads
      exact Nat.le_of_ble_eq_true rfl
    | setupRequested request =>
      obtain ⟨_, _, rfl⟩ := leads
      exact Nat.le_of_ble_eq_true rfl
    | _ =>
      cases leads
      exact Nat.le_of_ble_eq_true rfl

structure Net.Orderly (net : Net S P) : Prop where
  opened : ∀ i thread, net.world.threads i = some thread → i ∈ net.opened
  noted : ∀ note ∈ net.history, note.thread ∈ net.opened
  past : ∀ note ∈ net.history, ∀ thread, net.world.threads note.thread = some thread → note.rank ≤ rank thread.pc
  once : ∀ note ∈ net.history, ∀ note' ∈ net.history, note.thread = note'.thread → note.rank = note'.rank → note = note'

omit [Field S] [AddCommGroup P] [Module S P] [DecidableEq S] [DecidableEq P] in
/-- A step that takes no thread back, and opens threads that have not been there, keeps the order. -/
theorem Net.Orderly.served (orderly : net.Orderly) {world : Server.World (SymByte S P) S P}
    (moves : ∀ i before after, net.world.threads i = some before → world.threads i = some after →
      rank before.pc ≤ rank after.pc)
    (opens : ∀ i after, world.threads i = some after → net.world.threads i = none → i ∉ net.opened) :
    (net.served world).Orderly where
  opened := fun i thread present => .inr (Option.isSome_iff_exists.mpr ⟨_, present⟩)
  noted := by
    intro note member
    rcases member with old | ⟨i, before, after, _, present, notes⟩
    · exact .inl (orderly.noted note old)
    · rw [notes.thread_eq]
      exact .inr (Option.isSome_iff_exists.mpr ⟨_, present⟩)
  past := by
    intro note member thread present
    rcases member with old | ⟨i, before, after, _, here, notes⟩
    · cases there : net.world.threads note.thread with
      | none => exact absurd (orderly.noted note old) (opens _ thread present there)
      | some before => exact (orderly.past note old before there).trans (moves _ before thread there present)
    · rw [notes.thread_eq] at present
      obtain rfl := Option.some.inj (here.symm.trans present)
      exact Nat.le_of_eq notes.rank_after
  once := by
    have apart : ∀ old ∈ net.history, ∀ i before after note, net.world.threads i = some before →
        Notes i before.pc after note → old.thread = i → old.rank = note.rank → False := by
      intro old member i before after note present notes thread rank
      have far := orderly.past old member before (by rw [thread]; exact present)
      have near := notes.rank_before
      omega
    intro note member note' member' thread rank
    rcases member with old | ⟨i, before, after, present, here, notes⟩
    · rcases member' with old' | ⟨i', before', after', present', here', notes'⟩
      · exact orderly.once note old note' old' thread rank
      · exact (apart note old i' before' _ note' present' notes' (thread.trans notes'.thread_eq) rank).elim
    · rcases member' with old' | ⟨i', before', after', present', here', notes'⟩
      · exact (apart note' old' i before _ note present notes (thread.symm.trans notes.thread_eq) rank.symm).elim
      · obtain rfl : i = i' := notes.thread_eq.symm.trans (thread.trans notes'.thread_eq)
        obtain rfl := Option.some.inj (present.symm.trans present')
        obtain rfl := Option.some.inj (here.symm.trans here')
        exact notes.unique notes'

theorem Net.Orderly.step (orderly : net.Orderly) {event : NetEvent S P} (admitted : sys.Admits net event)
    (taken : sys.step net event = some next) : next.Orderly := by
  cases event with
  | server event =>
    obtain ⟨world, occurs, rfl⟩ := Option.map_eq_some_iff.mp taken
    cases event with
    | restart moment =>
      cases occurs
      refine orderly.served (fun i before after _ present => ?_) fun i after present => ?_
      · cases present
      · cases present
    | act action =>
      -- Every action puts one thread in its place.
      have put : ∀ server i thread, (∀ before, net.world.threads i = some before → rank before.pc ≤ rank thread.pc) →
          (net.world.threads i = none → i ∉ net.opened) →
          (net.served (Server.World.put { net.world with server } i thread)).Orderly := by
        intro server i thread moves opens
        refine orderly.served (fun i' before after here present => ?_) fun i' after present vacant => ?_
        · by_cases same : i' = i
          · subst same
            obtain rfl := Option.some.inj ((Function.update_self i' _ net.world.threads).symm.trans present)
            exact moves before here
          · obtain rfl := Option.some.inj (here.symm.trans ((Function.update_of_ne same _ _).symm.trans present))
            exact Nat.le_refl _
        · by_cases same : i' = i
          · subst same
            exact opens vacant
          · have gone := (Function.update_of_ne same _ _).symm.trans present
            rw [vacant] at gone
            cases gone
      rcases Server.perform_cases occurs with ⟨i, peerKey, random, writeFault, rfl, vacant, rfl⟩ |
        ⟨i, bytes, thread, rfl, present, rfl⟩ | ⟨i, moment, thread, rfl, present, rfl⟩
      · refine put _ i _ (fun before here => ?_) fun _ => admitted.1
        rw [vacant] at here
        cases here
      · refine put _ i _ (fun before here => ?_) fun vacant => ?_
        · rw [present] at here
          cases here
          exact Nat.le_refl _
        · rw [present] at vacant
          cases vacant
      · rcases run : Server.resume sys.suite sys.ctx moment thread.peerKey thread.random thread.pc
          ⟨net.world.server, thread.conn⟩ with ⟨result, after⟩
        rw [Server.advance_of_eq run]
        refine put _ i _ (fun before here => ?_) fun vacant => ?_
        · rw [present] at here
          cases here
          exact rank_resume run
        · rw [present] at vacant
          cases vacant
  | start j =>
    simp only [System.step] at taken
    split at taken
    case h_1 =>
      cases taken
      exact ⟨orderly.opened, orderly.noted, orderly.past, orderly.once⟩
    case h_2 => cases taken
  | feed j bytes =>
    obtain ⟨input, _, taken⟩ := Option.bind_eq_some_iff.mp taken
    split at taken
    case isTrue => cases taken
    case isFalse =>
      cases taken
      exact ⟨orderly.opened, orderly.noted, orderly.past, orderly.once⟩

theorem Net.orderly_of_run (quiet : net.Quiet) (run : Run sys.step sys.Admits net next) : next.Orderly := by
  have start : net.Orderly := by
    refine ⟨fun i thread present => ?_, ?_, ?_, ?_⟩
    · rw [quiet.threads] at present
      cases present
    all_goals
      rw [quiet.history]
      exact fun note member => member.elim
  exact run.invariant Net.Orderly start fun _ _ _ orderly admitted taken => orderly.step admitted taken

end Order

end ZkArche.Protocol

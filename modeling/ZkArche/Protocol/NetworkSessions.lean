import ZkArche.Protocol.HonestSessions
import ZkArche.Protocol.NetworkInvariant
import ZkArche.Protocol.ServerTurns

namespace ZkArche.Protocol

open Foundation Foundation.Symbolic Client
open Server (DeviceRecord Pc Moment ServerState)

variable {S P : Type} [Field S] [AddCommGroup P] [Module S P] [DecidableEq S] [DecidableEq P]

namespace Net

variable (sys : System S P)

/-- A network that is reached without a step of a device. -/
structure Serves (net later : Net S P) : Prop where
  run : Run sys.step sys.Admits net later
  devices : later.devices = net.devices
  history : net.history ⊆ later.history
  seen : net.seen ⊆ later.seen

/-- Thread `i` of the server stands at `pc`, with this input still to be read and this output written. -/
structure Stands (net : Net S P) (i : Nat) (server : ServerState (SymByte S P) P) (input output : List (SymByte S P))
    (pc : Pc (SymByte S P) S P) : Prop where
  server : net.world.server = server
  thread : ∃ thread, net.world.threads i = some thread ∧ thread.random = sys.draws i ∧ thread.pc = pc ∧
    thread.conn.Stands input output
  told : ∀ s ∈ output, s ∈ net.seen

variable {sys} {net middle later : Net S P} {i : Nat} {server after : ServerState (SymByte S P) P}
  {consumed rest written input output bytes : List (SymByte S P)} {pc next : Pc (SymByte S P) S P}
  {moment : Moment (SymByte S P) P}

theorem Serves.trans (first : net.Serves sys middle) (second : middle.Serves sys later) : net.Serves sys later where
  run := first.run.trans second.run
  devices := second.devices.trans first.devices
  history := first.history.trans second.history
  seen := first.seen.trans second.seen

theorem serves_of_occur {event : Server.Event (SymByte S P) S P} {world : Server.World (SymByte S P) S P}
    (admitted : sys.Admits net (.server event)) (occurs : net.world.occur sys.suite sys.ctx sys.word event = some world) :
    net.Serves sys (net.served world) where
  run := .step _ .refl admitted (by rw [System.step, occurs]; rfl)
  devices := rfl
  history := Set.subset_union_left
  seen := Set.subset_union_left

omit [DecidableEq S] [DecidableEq P] in
theorem stands_put {thread : Server.Thread (SymByte S P) S P} (random : thread.random = sys.draws i)
    (stands : thread.conn.Stands input output) :
    (net.served (Server.World.put { net.world with server } i thread)).Stands sys i server input output thread.pc where
  server := rfl
  thread := ⟨thread, Function.update_self _ _ _, random, rfl, stands⟩
  told := fun _ member => .inr ⟨i, thread, Function.update_self _ _ _, stands.output ▸ member⟩

theorem stands_accept (vacant : net.world.threads i = none) (unopened : i ∉ net.opened) :
    ∃ later, net.Serves sys later ∧ later.Stands sys i net.world.server [] [] .accepted := by
  have occurs : net.world.occur sys.suite sys.ctx sys.word (.act (.accept i "peer" (sys.draws i) fun _ => none)) =
      some (net.world.put i (.opened "peer" (sys.draws i) fun _ => none)) := by
    rw [Server.World.occur, Server.World.perform, vacant]
  have admitted : sys.Admits net (.server (.act (.accept i "peer" (sys.draws i) fun _ => none))) := ⟨unopened, rfl⟩
  exact ⟨_, serves_of_occur admitted occurs, stands_put rfl ⟨rfl, rfl, rfl⟩⟩

namespace Stands

theorem deliver (stands : net.Stands sys i server input output pc) (known : ∀ s ∈ bytes, net.Knows sys s) :
    ∃ later, net.Serves sys later ∧ later.Stands sys i server (input ++ bytes) output pc := by
  obtain ⟨rfl, ⟨thread, present, random, rfl, conn⟩, _⟩ := stands
  have occurs : net.world.occur sys.suite sys.ctx sys.word (.act (.deliver i bytes)) = some (net.world.put i
      { thread with conn := { thread.conn with input := thread.conn.input ++ bytes } }) := by
    rw [Server.World.occur, Server.World.perform, present]
    rfl
  have admitted : sys.Admits net (.server (.act (.deliver i bytes))) := known
  refine ⟨_, serves_of_occur admitted occurs, stands_put random ?_⟩
  exact ⟨congrArg (· ++ bytes) conn.input, conn.output, conn.quiet⟩

theorem advance (stands : net.Stands sys i server (consumed ++ rest) output pc)
    (turn : ∀ peerKey, Turn Server.Connected.mk (Server.resume sys.suite sys.ctx moment peerKey (sys.draws i) pc) server
      consumed written after next)
    (genuine : ∀ request, pc = .authPersisted request → ∀ root ∈ sys.honest, net.Genuine sys (sys.key root)
      (Server.clientTranscript sys.suite (sys.key root) request.pid request.aC request.nonceC request.ephC)
      request.aC request.sC) :
    ∃ later, net.Serves sys later ∧ later.Stands sys i after rest (output ++ written) next ∧
      ∀ note, Notes i pc next note → note ∈ later.history := by
  obtain ⟨rfl, ⟨thread, present, random, rfl, conn⟩, _⟩ := stands
  have run := turn thread.peerKey thread.conn rest conn.quiet conn.input
  rw [← random] at run
  have occurs : net.world.occur sys.suite sys.ctx sys.word (.act (.advance i moment)) = some (Server.World.put
      { net.world with server := after } i
      { thread with conn := thread.conn.moved rest consumed written, pc := next }) := by
    rw [Server.World.occur, Server.World.perform, present, Option.map_some, Server.advance_of_eq run]
    rfl
  have admitted : sys.Admits net (.server (.act (.advance i moment))) := by
    intro other request here place
    rw [present] at here
    cases here
    exact genuine request place
  refine ⟨_, serves_of_occur admitted occurs, stands_put random ⟨rfl, ?_, conn.quiet⟩, fun note notes => .inr ?_⟩
  · exact congrArg (· ++ written) conn.output
  · exact ⟨i, thread, _, present, Function.update_self _ _ _, notes⟩

variable (elsewhere : ∀ request, pc ≠ .authPersisted request)
include elsewhere

theorem hear (stands : net.Stands sys i server (consumed ++ rest) output pc)
    (turn : ∀ peerKey, Turn Server.Connected.mk (Server.resume sys.suite sys.ctx moment peerKey (sys.draws i) pc) server
      consumed [] after next) : ∃ later, net.Serves sys later ∧ later.Stands sys i after rest output next := by
  obtain ⟨later, serves, stands, _⟩ := stands.advance turn fun request here => absurd here (elsewhere request)
  rw [List.append_nil] at stands
  exact ⟨later, serves, stands⟩

theorem pass (stands : net.Stands sys i server input output pc)
    (turn : ∀ peerKey, Turn Server.Connected.mk (Server.resume sys.suite sys.ctx moment peerKey (sys.draws i) pc) server
      [] [] after next) :
    ∃ later, net.Serves sys later ∧ later.Stands sys i after input output next ∧
      ∀ note, Notes i pc next note → note ∈ later.history := by
  have front : net.Stands sys i server ([] ++ input) output pc := stands
  obtain ⟨later, serves, stands, notes⟩ := front.advance turn fun request here => absurd here (elsewhere request)
  rw [List.append_nil] at stands
  exact ⟨later, serves, stands, notes⟩

end Stands

end Net

section Steps

variable {β : Type} [Octet β] [DecidableEq β] {G : Suite β S P} {ctx : Server.ServerContext S} {moment : Moment β P}
  {peerKey : String} {random : Server.ClientRandom β S} {server admitted : ServerState β P} {v3 : Bool}
  {request : Server.AuthRequest β S P} {record : DeviceRecord P} {session : Server.AuthSession β S P}
  {blob : Option (List β)}

variable (moment) in
theorem turn_accepted : Turn Server.Connected.mk (Server.resume G ctx moment peerKey random .accepted) server
    (lits [Server.msgAuth v3]) [] server (.authAccepted v3) := by
  refine (Server.turn_onConn (Server.reads_msgType _).turn _).last fun conn => ?_
  cases v3 <;> rfl

variable (moment) in
theorem turn_authAccepted {bytes : List β} (accepted : request.Accepted G ctx v3 bytes) :
    Turn Server.Connected.mk (Server.resume G ctx moment peerKey random (.authAccepted v3)) server bytes [] server
      (.authRequested request) :=
  (Server.turn_onConn (Server.reads_readAuthRequest accepted).turn _).last fun _ => rfl

theorem turn_authRequested
    (admits : Server.admitSession ctx.vars moment request.pid request.nonceC server = (.ok blob, admitted)) :
    Turn Server.Connected.mk (Server.resume G ctx moment peerKey random (.authRequested request)) server [] [] admitted
      (.authAdmitted request blob) :=
  Turn.skip (Server.silent_onServer admits) (Turn.pure _)

theorem turn_authAdmitted (persists : Server.persistReplay moment blob server = (.ok (), admitted)) :
    Turn Server.Connected.mk (Server.resume G ctx moment peerKey random (.authAdmitted request blob)) server [] []
      admitted (.authPersisted request) :=
  Turn.skip (Server.silent_onServer persists) (Turn.pure _)

theorem turn_authPersisted {id : Block β 32} (found : Server.findRecord G moment (ctx.staticPub G) server
    request.handleOpt request.pid request.nonceC request.ephC = .ok (id, record))
    (verified : Server.verifyProofs G ctx.allowedRoles request record = .ok ()) :
    Turn Server.Connected.mk (Server.resume G ctx moment peerKey random (.authPersisted request)) server [] [] server
      (.authVerified request record) := by
  refine Turn.skip (fun _ => rfl) ?_
  refine Turn.skip (fun _ => Effect.lift_of_ok found) ?_
  exact Turn.skip (fun _ => Effect.lift_of_ok verified) (Turn.pure _)

variable (moment) in
theorem turn_authVerified : Turn Server.Connected.mk
    (Server.resume G ctx moment peerKey random (.authVerified request record)) server []
    ((Server.establish G ctx.serverStaticSecret request random.auth).payload2 G) server
    (.authReplied record (Server.establish G ctx.serverStaticSecret request random.auth)) :=
  (Server.turn_onConn (Writes.sendAll _).turn _).last fun _ => rfl

variable (moment) in
theorem turn_authReplied : Turn Server.Connected.mk
    (Server.resume G ctx moment peerKey random (.authReplied record session)) server (session.tagC G).bytes [] server
    (.authConfirmed record session) :=
  (Server.turn_onConn (Server.reads_confirm G session).turn _).last fun _ => rfl

theorem turn_authConfirmed (takes : Server.takeFinalBlob ctx.vars moment server = (.ok blob, admitted)) :
    Turn Server.Connected.mk (Server.resume G ctx moment peerKey random (.authConfirmed record session)) server [] []
      admitted (.authCompleted record session blob) :=
  Turn.skip (Server.silent_onServer takes) (Turn.pure _)

theorem turn_authCompleted (persists : Server.persistReplay moment blob server = (.ok (), admitted)) :
    Turn Server.Connected.mk (Server.resume G ctx moment peerKey random (.authCompleted record session blob)) server []
      [] admitted (.answered (.ok (.established record session))) :=
  Turn.skip (Server.silent_onServer persists) (Turn.pure _)

end Steps

section Meeting

variable {sys : System S P} {net : Net S P} {i j : Nat} {device : Device (SymByte S P) S} {vars : Vars}
  {random : Client.AuthRandom (SymByte S P) S} {roles : Option (RoleProof S P)} {id : Block (SymByte S P) 32}
  {moments : Server.AuthMoments (SymByte S P) P}

/-- The request that a device sends to the server of the system. -/
noncomputable abbrev System.request (sys : System S P) (device : Device (SymByte S P) S) (vars : Vars)
    (random : Client.AuthRandom (SymByte S P) S) (roles : Option (RoleProof S P)) :
    Server.AuthRequest (SymByte S P) S P :=
  honestRequest sys.suite sys.ctx device (authMode vars) random roles

/-- The bytes of a request behind the message type. -/
noncomputable def System.asked (sys : System S P) (device : Device (SymByte S P) S) (vars : Vars)
    (random : Client.AuthRandom (SymByte S P) S) (roles : Option (RoleProof S P)) : List (SymByte S P) :=
  headerBytes (authMode vars) (Client.computeDeviceHandle sys.suite (device.pub sys.suite)) ++
    (sys.request device vars random roles).toAuthPayload.encode sys.suite

noncomputable abbrev System.theirs (sys : System S P) (i : Nat) (device : Device (SymByte S P) S) (vars : Vars)
    (random : Client.AuthRandom (SymByte S P) S) (roles : Option (RoleProof S P)) :
    Server.AuthSession (SymByte S P) S P :=
  Net.theirs sys i (sys.request device vars random roles)

noncomputable abbrev System.mine (sys : System S P) (i : Nat) (device : Device (SymByte S P) S) (vars : Vars)
    (random : Client.AuthRandom (SymByte S P) S) (roles : Option (RoleProof S P)) :
    Client.AuthSession (SymByte S P) S P :=
  device.session sys.suite sys.serverPub random (replyOf sys.suite (sys.theirs i device vars random roles))

/-- A run of a device with a pinned server key, and a new thread of the server that admits its request. -/
structure System.Meets (sys : System S P) (net : Net S P) (i j : Nat) (device : Device (SymByte S P) S) (vars : Vars)
    (random : Client.AuthRandom (SymByte S P) S) (roles : Option (RoleProof S P)) (id : Block (SymByte S P) 32)
    (moments : Server.AuthMoments (SymByte S P) P) : Prop where
  root : (sys.runs j).root = device.root
  task : (sys.runs j).task = .auth vars .none random
  writable : (sys.runs j).writeFault = fun _ => none
  own : (sys.runs j).files.Of sys.suite device
  pinned : (sys.runs j).files.serverPub = .present (sys.suite.compress sys.serverPub).bytes 0o600
  proper : device.Proper sys.suite
  serverProper : sys.serverPub ≠ 0
  serverProof : (sys.draws i).auth.r • sys.suite.basepoint ≠ 0
  serverEph : (sys.draws i).auth.ephSecret • sys.suite.basepoint ≠ 0
  sent : RoleSent sys.suite sys.ctx.allowedRoles device (device.hello sys.suite sys.serverPub random) random
    (authMode vars).deviceOnly roles
  admissible : Server.Admissible sys.suite sys.ctx moments (usesV3 (authMode vars)) net.world.server
    (sys.asked device vars random roles) (sys.request device vars random roles) id (deviceRecord sys.suite device)
  notStarted : net.devices j = none
  vacant : net.world.threads i = none
  unopened : i ∉ net.opened
  alone : ∀ root ∈ sys.honest, Server.vartimeSchnorrCheck sys.suite.basepoint (sys.key root)
    (sys.request device vars random roles).aC ((Server.clientTranscript sys.suite (sys.key root)
      (sys.request device vars random roles).pid (sys.request device vars random roles).aC
      (sys.request device vars random roles).nonceC (sys.request device vars random roles).ephC).challengeScalar sys.suite)
    (sys.request device vars random roles).sC = true → sys.key root = device.pub sys.suite

namespace System.Meets

variable (meets : sys.Meets net i j device vars random roles id moments)
include meets

theorem carries : device.Roles sys.suite sys.ctx.allowedRoles sys.serverPub random (authMode vars).deviceOnly
    (rolesBytes sys.suite roles) := RoleSent.roles meets.sent

theorem before_eq (input : List (SymByte S P)) : sys.before j input = ⟨(sys.runs j).files, .opened input⟩ := by
  rw [System.before, meets.writable]
  rfl

theorem doAuth_eq : sys.doAuth j vars .none random =
    doAuthV2Session sys.suite sys.ctx.allowedRoles vars (device.x sys.suite) .none random := by
  rw [System.doAuth, meets.root]
  rfl

theorem written_nil : sys.written j [] =
    lits [Server.msgAuth (usesV3 (authMode vars))] ++ sys.asked device vars random roles := by
  obtain ⟨failure, after, later, run, output⟩ :=
    (waits_doAuthV2Session meets.proper meets.serverProper meets.own meets.pinned meets.carries).opened
  have sent : sys.written j [] = (sys.doAuth j vars .none random (sys.before j [])).2.conn.output := by
    rw [System.written, meets.task]
  rw [sent, meets.doAuth_eq, meets.before_eq, run]
  exact output.trans requestSent_eq

theorem satisfying : Satisfying sys.suite random.ephSecret (device.hello sys.suite sys.serverPub random)
    (replyOf sys.suite (sys.theirs i device vars random roles)) :=
  satisfying_replyOf meets.serverProper meets.serverProof meets.serverEph

theorem doAuth_reply : sys.doAuth j vars .none random
    (sys.before j ((sys.theirs i device vars random roles).payload2 sys.suite)) =
      (.ok (sys.mine i device vars random roles), ⟨(sys.runs j).files.cached sys.suite device,
        Conn.talked ((sys.theirs i device vars random roles).payload2 sys.suite)
          (sessionSent sys.suite device (authMode vars) sys.serverPub random (rolesBytes sys.suite roles)
            (replyOf sys.suite (sys.theirs i device vars random roles)))⟩) := by
  have turn := turn_doAuthV2Session meets.proper meets.serverProper meets.own meets.pinned meets.carries meets.satisfying
  rw [meets.doAuth_eq, meets.before_eq, ← replyBytes_replyOf]
  exact turn.opened

theorem session_reply : sys.session j ((sys.theirs i device vars random roles).payload2 sys.suite) =
    some (sys.mine i device vars random roles) := by
  have same : ∀ input, sys.session j input = (sys.doAuth j vars .none random (sys.before j input)).1.toOption := by
    intro input
    rw [System.session, meets.task]
  rw [same, meets.doAuth_reply]
  rfl

theorem session_nil : sys.session j [] = none := by
  obtain ⟨failure, after, later, run, _⟩ :=
    (waits_doAuthV2Session meets.proper meets.serverProper meets.own meets.pinned meets.carries).opened
  have same : sys.session j [] = (sys.doAuth j vars .none random (sys.before j [])).1.toOption := by
    rw [System.session, meets.task]
  rw [same, meets.doAuth_eq, meets.before_eq, run]
  rfl

theorem tagC_written : ∀ s ∈ ((sys.theirs i device vars random roles).tagC sys.suite).bytes,
    s ∈ sys.written j ((sys.theirs i device vars random roles).payload2 sys.suite) := by
  have agrees : Agrees (sys.mine i device vars random roles) (sys.theirs i device vars random roles) := sessions_agree
  have sent : sys.written j ((sys.theirs i device vars random roles).payload2 sys.suite) =
      (sys.doAuth j vars .none random (sys.before j ((sys.theirs i device vars random roles).payload2
        sys.suite))).2.conn.output := by
    rw [System.written, meets.task]
  intro s member
  rw [sent, meets.doAuth_reply]
  apply List.mem_append_right
  rw [← agrees.tagC] at member
  exact member

theorem asks : ∃ after, sys.requestAuth j vars .none random (sys.before j []) =
    (.ok (device.hello sys.suite sys.serverPub random), after) := by
  have turn := turn_requestAuth meets.proper meets.serverProper meets.own meets.pinned meets.carries
  have same : sys.requestAuth j vars .none random =
      Client.requestAuth sys.suite sys.ctx.allowedRoles (authMode vars) (device.x sys.suite) .none random := by
    rw [System.requestAuth, meets.root]
    rfl
  rw [same, meets.before_eq, turn.opened]
  exact ⟨_, rfl⟩

theorem genuine {later : Net S P} {received : List (SymByte S P)} (started : later.devices j = some received) :
    ∀ root ∈ sys.honest, later.Genuine sys (sys.key root)
      (Server.clientTranscript sys.suite (sys.key root) (sys.request device vars random roles).pid
        (sys.request device vars random roles).aC (sys.request device vars random roles).nonceC
        (sys.request device vars random roles).ephC)
      (sys.request device vars random roles).aC (sys.request device vars random roles).sC := by
  intro root honest accepted
  have own : sys.key root = sys.key (sys.runs j).root := by
    rw [meets.alone root honest accepted, meets.root]
    rfl
  obtain ⟨after, asked⟩ := meets.asks
  rw [own]
  exact .session started List.nil_prefix meets.task asked

theorem replies {first : Net S P} {received : List (SymByte S P)} (server : first.world.server = net.world.server)
    (started : first.devices j = some received) (vacant : first.world.threads i = none) (unopened : i ∉ first.opened)
    (known : ∀ s ∈ sys.written j [], first.Knows sys s) :
    ∃ later after, first.Serves sys later ∧ later.Stands sys i after []
      ((sys.theirs i device vars random roles).payload2 sys.suite)
      (.authReplied (deviceRecord sys.suite device) (sys.theirs i device vars random roles)) ∧
      .replied i (sys.request device vars random roles) (deviceRecord sys.suite device) ∈ later.history := by
  obtain ⟨blob, admitted, replayFile, admits, persists, found, _⟩ := Server.admitted_session meets.admissible
  obtain ⟨net₁, serves, stands⟩ := Net.stands_accept vacant unopened
  rw [server] at stands
  obtain ⟨net₂, serves₂, stands⟩ := stands.deliver fun s member => (known s member).mono fun _ seen => serves.seen seen
  rw [List.nil_append, meets.written_nil] at stands
  obtain ⟨net₃, serves₃, stands⟩ := stands.hear (by simp) fun peerKey => turn_accepted moments.lookup
  rw [← List.append_nil (sys.asked device vars random roles)] at stands
  obtain ⟨net₄, serves₄, stands⟩ := stands.hear (by simp) fun peerKey =>
    turn_authAccepted moments.lookup meets.admissible.accepted
  obtain ⟨net₅, serves₅, stands, _⟩ := stands.pass (by simp) fun peerKey => turn_authRequested admits
  obtain ⟨net₆, serves₆, stands, _⟩ := stands.pass (by simp) fun peerKey => turn_authAdmitted persists
  have whole := serves.trans (serves₂.trans (serves₃.trans (serves₄.trans (serves₅.trans serves₆))))
  have front : net₆.Stands sys i _ ([] ++ []) [] (.authPersisted (sys.request device vars random roles)) := stands
  obtain ⟨net₇, serves₇, stands, _⟩ := front.advance
    (fun peerKey => turn_authPersisted found meets.admissible.verified) fun request same => by
      cases same
      exact meets.genuine (whole.devices ▸ started)
  have front : net₇.Stands sys i _ ([] ++ []) ([] ++ []) (.authVerified (sys.request device vars random roles)
    (deviceRecord sys.suite device)) := stands
  obtain ⟨net₈, serves₈, stands, notes⟩ := front.advance (fun peerKey => turn_authVerified moments.lookup)
    fun request same => by cases same
  exact ⟨net₈, _, whole.trans (serves₇.trans serves₈), stands, notes _ (.replied _ _ _)⟩

theorem completes {middle : Net S P} {server : ServerState (SymByte S P) P} {output : List (SymByte S P)}
    (stands : middle.Stands sys i server [] output
      (.authReplied (deviceRecord sys.suite device) (sys.theirs i device vars random roles)))
    (known : ∀ s ∈ ((sys.theirs i device vars random roles).tagC sys.suite).bytes, middle.Knows sys s) :
    ∃ later, middle.Serves sys later ∧
      .established i (deviceRecord sys.suite device) (sys.theirs i device vars random roles) ∈ later.history := by
  obtain ⟨net₁, serves₁, stands⟩ := stands.deliver known
  rw [List.nil_append, ← List.append_nil (Block.bytes _)] at stands
  obtain ⟨net₂, serves₂, stands⟩ := stands.hear (by simp) fun peerKey => turn_authReplied moments.lookup
  obtain ⟨blob, replay, takes, _⟩ := Server.takeFinalBlob_apply sys.ctx.vars moments.completion server
  obtain ⟨replayFile, persists⟩ := Server.persistReplay_apply meets.admissible.writesLast blob { server with replay }
  obtain ⟨net₃, serves₃, stands, _⟩ := stands.pass (by simp) fun peerKey => turn_authConfirmed takes
  obtain ⟨net₄, serves₄, _, notes⟩ := stands.pass (by simp) fun peerKey => turn_authCompleted persists
  exact ⟨net₄, serves₁.trans (serves₂.trans (serves₃.trans serves₄)), notes _ (.established _ _ _)⟩

theorem established : ∃ last, Run sys.step sys.Admits net last ∧
    .established i (deviceRecord sys.suite device) (sys.theirs i device vars random roles) ∈ last.history ∧
    last.Confirmed sys j (sys.mine i device vars random roles) := by
  have starts : sys.step net (.start j) = some (net.fed sys j []) := by
    rw [System.step, meets.notStarted]
  have begun : Run sys.step sys.Admits net (net.fed sys j []) := .step (.start j) .refl trivial starts
  have told : ∀ s ∈ sys.written j [], (net.fed sys j []).Knows sys s := fun s member => .observed (.inr member)
  have sameServer : (net.fed sys j []).world.server = net.world.server := rfl
  obtain ⟨middle, server, serves, stands, replied⟩ :=
    meets.replies sameServer (Net.fed_self sys net j []) meets.vacant meets.unopened told
  have here : middle.devices j = some [] := serves.devices ▸ Net.fed_self sys net j []
  have feeds : sys.step middle (.feed j ((sys.theirs i device vars random roles).payload2 sys.suite)) =
      some (middle.fed sys j ((sys.theirs i device vars random roles).payload2 sys.suite)) := by
    rw [System.step, here, Option.bind_some, meets.session_nil]
    rfl
  have admitted : sys.Admits middle (.feed j ((sys.theirs i device vars random roles).payload2 sys.suite)) := by
    refine ⟨fun s member => .observed (stands.told s member), fun input mine received confirmed _ => ?_⟩
    rw [here] at received
    cases received
    rw [List.nil_append, meets.session_reply] at confirmed
    cases confirmed
    exact .reply replied
  have fed : Run sys.step sys.Admits net (middle.fed sys j _) := .step _ (begun.trans serves.run) admitted feeds
  have heard : ∀ s ∈ ((sys.theirs i device vars random roles).tagC sys.suite).bytes,
      (middle.fed sys j ((sys.theirs i device vars random roles).payload2 sys.suite)).Knows sys s :=
    fun s member => .observed (.inr (meets.tagC_written s member))
  have still : (middle.fed sys j ((sys.theirs i device vars random roles).payload2 sys.suite)).Stands sys i server []
      ((sys.theirs i device vars random roles).payload2 sys.suite)
      (.authReplied (deviceRecord sys.suite device) (sys.theirs i device vars random roles)) :=
    ⟨stands.server, stands.thread, fun s member => .inl (stands.told s member)⟩
  obtain ⟨last, serves', noted⟩ := meets.completes still heard
  refine ⟨last, fed.trans serves'.run, noted, _, ?_, meets.session_reply⟩
  rw [serves'.devices]
  exact Net.fed_self _ _ _ _

end System.Meets

end Meeting

end ZkArche.Protocol

import ZkArche.Interop.Answers
import ZkArche.Interop.Commands
import ZkArche.Protocol.HonestSessions
import ZkArche.Server.StartUp

namespace ZkArche.Interop

open Foundation Client Protocol

variable {ι S P : Type} [Field S] [AddCommGroup P] [Module S P]

inductive Program where
  | rust
  | c

structure Setting (ι S P : Type) [Field S] [AddCommGroup P] [Module S P] where
  G : Suite UInt8 S P
  so : CClient.ClientSodium
  word : Nat
  rust : Server.ServerContext S
  c : CServer.ServerContext
  device : ι → Device UInt8 S

/-- One session of a device with the server, with everything that either program draws and meets in it. -/
structure Meeting (ι S P : Type) extends Protocol.Session ι UInt8 S P where
  root : Block UInt8 32
  moment : CServer.Moment

structure Shared where
  hello : CClient.AuthHello
  session : CServer.AuthSession

inductive Outcome where
  | enrolled
  | established (shared : Shared)

structure End (τ : Type) where
  outcome : Option Outcome
  after : τ
  conn : Conn UInt8

inductive AnyServer (P : Type) where
  | rust (state : Server.ServerState UInt8 P)
  | c (state : CServer.ServerState)

def AnyServer.registryFile {P : Type} : AnyServer P → StateFile UInt8
  | .rust state => state.registryFile
  | .c state => state.registryFile

def AnyServer.replayFile {P : Type} : AnyServer P → StateFile UInt8
  | .rust state => state.replayFile
  | .c state => state.replayFile

abbrev World (ι P : Type) := Fleet ι UInt8 (AnyServer P)

structure Transcript where
  opening : List UInt8
  answer : List UInt8
  fromDevice : List UInt8
  fromServer : List UInt8
  outcome : Outcome

variable [DecidableEq P] [DecidableEq S]

/-- The map from device_id to (pubkey, role_commitment). -/
def AnyServer.bound (G : Suite UInt8 S P) : AnyServer P → Block UInt8 32 → Option (Block UInt8 32 × Block UInt8 32)
  | .rust state => rustBound G state.reg
  | .c state => cBound state.reg

section Shared

variable (G : Suite UInt8 S P)

def Shared.ofRustClient (session : Client.AuthSession UInt8 S P) : Shared where
  hello := ⟨session.pid, G.compress session.aC, G.toBytes session.sC, session.nonceC, G.compress session.ephC⟩
  session := ⟨G.compress session.serverPub, G.compress session.aS, G.toBytes session.sS, session.nonceS,
    G.compress session.ephS, session.sessionKey, session.th⟩

def Shared.ofCClient (session : CClient.AuthSession) : Shared where
  hello := session.hello
  session := ⟨session.reply.serverPub2, session.reply.aS, session.reply.sS, session.reply.nonceS, session.reply.ephS,
    session.sessionKey, session.th⟩

def Shared.ofRustServer (session : Server.AuthSession UInt8 S P) : Shared where
  hello := ⟨session.pid, G.compress session.aC, G.toBytes session.sC, session.nonceC, G.compress session.ephC⟩
  session := ⟨G.compress session.serverPub, G.compress session.aS, G.toBytes session.sS, session.nonceS,
    G.compress session.ephS, session.sessionKey, session.th⟩

def Shared.ofCServer (request : CServer.AuthRequest) (session : CServer.AuthSession) : Shared where
  hello := ⟨request.pid, request.aC, request.sC, request.nonceC, request.ephC⟩
  session := session

end Shared

def End.ofDevice {ε α : Type} (shows : α → Option Outcome) (run : Except ε α × Client.Connected UInt8) :
    End (Files UInt8) :=
  ⟨run.1.toOption.bind shows, run.2.files, run.2.conn⟩

variable (setting : Setting ι S P)

def deviceEnd (program : Program) (meeting : Meeting ι S P) (files : Files UInt8) (conn : Conn UInt8) : End (Files UInt8) :=
  match program, meeting.call with
  | .rust, .setup token allowTofu random => .ofDevice (fun _ => some .enrolled)
      (runSetup setting.G meeting.root token allowTofu random ⟨files, conn⟩)
  | .rust, .auth vars random => .ofDevice (Option.map fun session => .established (.ofRustClient setting.G session))
      (runAuth setting.G setting.rust.allowedRoles vars meeting.root random ⟨files, conn⟩)
  | .c, .setup token allowTofu random => .ofDevice (fun _ => some .enrolled)
      (CClient.doSetup setting.so (rawSetupCall token allowTofu) .none (rawSetupRandom setting.G meeting.root random)
        ⟨files, conn⟩)
  | .c, .auth vars random => .ofDevice (fun session => some (.established (.ofCClient session)))
      (CClient.doAuth setting.so vars true .none (rawAuthRandom setting.G meeting.root random) ⟨files, conn⟩)

def rustOutcome (G : Suite UInt8 S P) : Except Failure (Except Failure (Server.Completed UInt8 S P)) → Option Outcome
  | .ok (.ok (.enrolled _)) => some .enrolled
  | .ok (.ok (.established _ session)) => some (.established (.ofRustServer G session))
  | _ => none

def cOutcome : Except Unit (Option (CServer.AuthRequest × CServer.AuthSession)) → Option Outcome
  | .ok none => some .enrolled
  | .ok (some (request, session)) => some (.established (.ofCServer request session))
  | .error _ => none

def Meeting.cCall (G : Suite UInt8 S P) (meeting : Meeting ι S P) : CServer.ClientCall :=
  ⟨meeting.moment, true, rawSetupDrawn G meeting.drawn.setup, rawAuthDrawn G meeting.drawn.auth⟩

def serverEnd (meeting : Meeting ι S P) (server : AnyServer P) (conn : Conn UInt8) : End (AnyServer P) :=
  match server with
  | .rust state =>
    let run := Server.handleClient setting.G setting.rust meeting.moments meeting.peerKey meeting.drawn ⟨state, conn⟩
    ⟨rustOutcome setting.G run.1, .rust run.2.server, run.2.conn⟩
  | .c state =>
    let run := CServer.handleClient setting.so.toSodium setting.c (meeting.cCall setting.G) ⟨state, conn⟩
    ⟨cOutcome run.1, .c run.2.server, run.2.conn⟩

/-- A server of this program starts from the two state files. -/
def AnyServer.start (program : Program) (moment : Server.Moment UInt8 P) (registryFile replayFile : StateFile UInt8) :
    Option (AnyServer P) :=
  match program with
  | .rust =>
    match Server.loadState setting.G setting.word moment.now registryFile replayFile with
    | .ok _ => some (.rust (Server.boot setting.G setting.word moment registryFile replayFile).server)
    | .error _ => none
  | .c => (CServer.boot (true, true, true) moment.now registryFile replayFile).map .c

/-- A session that the two ends complete with the same outcome, each of which has read exactly what the other one
    wrote. -/
structure Succeeds (world : World ι P) (program : Program) (meeting : Meeting ι S P) (after : World ι P)
    (transcript : Transcript) : Prop where
  talks : Settles
    (fun received => (deviceEnd setting program meeting (world.files meeting.device) (.opened received)).conn.output)
    (fun received => (serverEnd setting meeting world.server (.opened received)).conn.output)
    transcript.fromDevice transcript.fromServer
  deviceRun : deviceEnd setting program meeting (world.files meeting.device) (.opened transcript.fromServer) =
    ⟨some transcript.outcome, after.files meeting.device, .talked transcript.fromServer transcript.fromDevice⟩
  serverRun : serverEnd setting meeting world.server (.opened transcript.fromDevice) =
    ⟨some transcript.outcome, after.server, .talked transcript.fromDevice transcript.fromServer⟩
  others : ∀ other, other ≠ meeting.device → after.files other = world.files other

/-- The server is stopped and started again, as this program, or a device runs this program for a session. -/
inductive Event (ι S P : Type) where
  | restart (program : Program) (moment : Server.Moment UInt8 P)
  | meeting (program : Program) (meeting : Meeting ι S P)

def Event.meeting? : Event ι S P → Option (Meeting ι S P)
  | .restart _ _ => none
  | .meeting _ held => some held

/-- A sequence of events in which every start and every session succeeds. -/
inductive Completes : World ι P → List (Event ι S P) → List Transcript → World ι P → Prop where
  | nil (world : World ι P) : Completes world [] [] world
  | restart {world last : World ι P} {program : Program} {moment : Server.Moment UInt8 P} {server : AnyServer P}
      {events : List (Event ι S P)} {transcripts : List Transcript}
      (starts : AnyServer.start setting program moment world.server.registryFile world.server.replayFile = some server)
      (rest : Completes ⟨world.files, server⟩ events transcripts last) :
      Completes world (.restart program moment :: events) transcripts last
  | meeting {world middle last : World ι P} {program : Program} {meeting : Meeting ι S P} {transcript : Transcript}
      {events : List (Event ι S P)} {transcripts : List Transcript}
      (succeeds : Succeeds setting world program meeting middle transcript)
      (rest : Completes middle events transcripts last) :
      Completes world (.meeting program meeting :: events) (transcript :: transcripts) last

end ZkArche.Interop

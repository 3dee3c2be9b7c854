import ZkArche.Foundation.Runs
import ZkArche.Primitives.SymbolicSuite
import ZkArche.Protocol.Confirmation
import ZkArche.Protocol.EnrolledValues

namespace ZkArche.Protocol

open Foundation Foundation.Symbolic
open Server (ClientRandom DeviceRecord CheckedSetup Pc ServerContext)

variable {S P : Type} [Field S] [AddCommGroup P] [Module S P] [DecidableEq S] [DecidableEq P]

inductive Task (S P : Type) where
  | auth (vars : Vars) (faults : Client.AuthFaults) (random : Client.AuthRandom (SymByte S P) S)
  | setup (pairingToken : Option String) (allowTofuSetup : Bool) (faults : Client.SetupFaults)
      (random : Client.SetupRandom (SymByte S P) S)

def Task.ephSecret : Task S P → Option S
  | .auth _ _ random => some random.ephSecret
  | .setup _ _ _ _ => none

/-- A run of a device's program: its root, its files at that time, which of its writes fail, and the task. -/
structure DeviceRun (S P : Type) where
  root : Block (SymByte S P) 32
  files : Client.Files (SymByte S P)
  writeFault : Nat → Option IoError
  task : Task S P

/-- The parties on a network over symbolic bytes: the server, all runs of devices, what each connection of the server
    draws, and the roots of which the attacker has none. -/
structure System (S P : Type) [Field S] [AddCommGroup P] [Module S P] where
  basepoint : P
  basepoint_ne_zero : basepoint ≠ 0
  fromBytesModOrderWide : Block (SymByte S P) 64 → S
  fromUniformBytes : Block (SymByte S P) 64 → P
  ctx : ServerContext S
  word : Nat
  honest : Set (Block (SymByte S P) 32)
  runs : Nat → DeviceRun S P
  draws : Nat → ClientRandom (SymByte S P) S

namespace System

noncomputable def suite (sys : System S P) : Suite (SymByte S P) S P :=
  symbolicSuite sys.basepoint sys.basepoint_ne_zero sys.fromBytesModOrderWide sys.fromUniformBytes

noncomputable def serverPub (sys : System S P) : P := sys.ctx.staticPub sys.suite

/-- The static scalar and the static key that belong to a root. -/
noncomputable def secret (sys : System S P) (root : Block (SymByte S P) 32) : S := Client.deriveDeviceScalar sys.suite root
noncomputable def key (sys : System S P) (root : Block (SymByte S P) 32) : P := sys.secret root • sys.suite.basepoint

/-- A device about to run, with these bytes on its connection. -/
def before (sys : System S P) (j : Nat) (input : List (SymByte S P)) : Client.Connected (SymByte S P) :=
  ⟨(sys.runs j).files, { Conn.opened input with writeFault := (sys.runs j).writeFault }⟩

noncomputable def setupRun (sys : System S P) (j : Nat) (pairingToken : Option String) (allowTofuSetup : Bool)
    (faults : Client.SetupFaults) (random : Client.SetupRandom (SymByte S P) S) (input : List (SymByte S P)) :
    Client.SetupRun (SymByte S P) S where
  call := ⟨Client.deriveDeviceId sys.suite (sys.runs j).root, sys.secret (sys.runs j).root, pairingToken, allowTofuSetup⟩
  faults := faults
  random := random
  before := sys.before j input

noncomputable def requestAuth (sys : System S P) (j : Nat) (vars : Vars) (faults : Client.AuthFaults)
    (random : Client.AuthRandom (SymByte S P) S) :
    Effect Failure (Client.Connected (SymByte S P)) (Client.AuthHello (SymByte S P) S P) :=
  Client.requestAuth sys.suite sys.ctx.allowedRoles (Client.authMode vars) (sys.secret (sys.runs j).root) faults random

noncomputable def doAuth (sys : System S P) (j : Nat) (vars : Vars) (faults : Client.AuthFaults)
    (random : Client.AuthRandom (SymByte S P) S) :
    Effect Failure (Client.Connected (SymByte S P)) (Client.AuthSession (SymByte S P) S P) :=
  Client.doAuthV2Session sys.suite sys.ctx.allowedRoles vars (sys.secret (sys.runs j).root) faults random

/-- The session that a run confirms on these bytes. -/
noncomputable def session (sys : System S P) (j : Nat) (input : List (SymByte S P)) :
    Option (Client.AuthSession (SymByte S P) S P) :=
  match (sys.runs j).task with
  | .auth vars faults random => (sys.doAuth j vars faults random (sys.before j input)).1.toOption
  | .setup _ _ _ _ => none

/-- Everything that a run has written by the time it needs more than these bytes. -/
noncomputable def written (sys : System S P) (j : Nat) (input : List (SymByte S P)) : List (SymByte S P) :=
  match (sys.runs j).task with
  | .auth vars faults random => (sys.doAuth j vars faults random (sys.before j input)).2.conn.output
  | .setup pairingToken allowTofuSetup faults random =>
    let run := sys.setupRun j pairingToken allowTofuSetup faults random input
    (Client.doSetup sys.suite run.call run.faults run.random run.before).2.conn.output

def Shared (sys : System S P) (p : P) : Prop :=
  ∃ i j, ∃ ephSecret ∈ (sys.runs j).task.ephSecret, p = (sys.draws i).auth.ephSecret • ephSecret • sys.basepoint

def Free (sys : System S P) (a : Atom S P) : Prop := ∀ p index, a = .point p index → ¬ sys.Shared p

end System

inductive Note (S P : Type) where
  | challenged (i : Nat) (checked : CheckedSetup (SymByte S P) P)
  | replied (i : Nat) (request : Server.AuthRequest (SymByte S P) S P) (record : DeviceRecord P)
  | established (i : Nat) (record : DeviceRecord P) (session : Server.AuthSession (SymByte S P) S P)

/-- What a step of thread `i` is remembered as. -/
inductive Notes (i : Nat) : Pc (SymByte S P) S P → Pc (SymByte S P) S P → Note S P → Prop where
  | challenged (checked : CheckedSetup (SymByte S P) P) :
      Notes i (.setupChecked checked) (.setupChallenged checked) (.challenged i checked)
  | replied (request : Server.AuthRequest (SymByte S P) S P) (record : DeviceRecord P)
      (session : Server.AuthSession (SymByte S P) S P) :
      Notes i (.authVerified request record) (.authReplied record session) (.replied i request record)
  | established (record : DeviceRecord P) (session : Server.AuthSession (SymByte S P) S P)
      (blob : Option (List (SymByte S P))) :
      Notes i (.authCompleted record session blob) (.answered (.ok (.established record session)))
        (.established i record session)

/-- The server process, the bytes that each started run of a device has received, what is remembered of the server
    over all its starts, and every byte that went over the network. -/
structure Net (S P : Type) where
  world : Server.World (SymByte S P) S P
  opened : Set Nat
  history : Set (Note S P)
  devices : Nat → Option (List (SymByte S P))
  seen : Set (SymByte S P)

namespace Net

variable (sys : System S P) (net : Net S P)

def Knows : SymByte S P → Prop := Derives (· ∈ net.seen) sys.Free

/-- The transcripts for which an honest party has made a proof under its key, a device on what it had received then. -/
inductive Proved : P → CompatTranscript (SymByte S P) → Prop where
  | session {j : Nat} {input received : List (SymByte S P)} {vars : Vars} {faults : Client.AuthFaults}
      {random : Client.AuthRandom (SymByte S P) S} {hello : Client.AuthHello (SymByte S P) S P}
      {after : Client.Connected (SymByte S P)} (started : net.devices j = some received) (front : input <+: received)
      (task : (sys.runs j).task = .auth vars faults random)
      (asked : sys.requestAuth j vars faults random (sys.before j input) = (.ok hello, after)) :
      Proved (sys.key (sys.runs j).root) (Client.clientTranscript sys.suite (sys.key (sys.runs j).root) hello.pid
        hello.aC hello.nonceC hello.ephC)
  | setup {j : Nat} {input received : List (SymByte S P)} {pairingToken : Option String} {allowTofuSetup : Bool}
      {faults : Client.SetupFaults} {random : Client.SetupRandom (SymByte S P) S} {enrollee : Client.Enrollee S P}
      {challenge : Client.SetupChallenge (SymByte S P) S P} (started : net.devices j = some received)
      (front : input <+: received) (task : (sys.runs j).task = .setup pairingToken allowTofuSetup faults random)
      (signs : (sys.setupRun j pairingToken allowTofuSetup faults random input).Signs sys.suite enrollee challenge) :
      Proved (sys.key (sys.runs j).root)
        ((sys.setupRun j pairingToken allowTofuSetup faults random input).transcript sys.suite enrollee challenge)
  | reply {i : Nat} {request : Server.AuthRequest (SymByte S P) S P} {record : DeviceRecord P}
      (noted : .replied i request record ∈ net.history) :
      Proved sys.serverPub (Server.serverTranscript sys.suite sys.serverPub
        ((sys.draws i).auth.r • sys.suite.basepoint) (sys.draws i).auth.nonceS
        ((sys.draws i).auth.ephSecret • sys.suite.basepoint))
  | challenge {i : Nat} {checked : CheckedSetup (SymByte S P) P} (noted : .challenged i checked ∈ net.history) :
      Proved sys.serverPub (Server.setupServerTranscript sys.suite sys.serverPub checked.deviceId
        checked.deviceStaticPub checked.clientNonce (sys.draws i).setup.serverNonce (sys.draws i).setup.setupChallenge
        ((sys.draws i).setup.r • sys.suite.basepoint))

/-- A pair that is accepted under the key for the transcript was made by the holder of the key's secret. -/
def Genuine (pub : P) (transcript : CompatTranscript (SymByte S P)) (a : P) (s : S) : Prop :=
  Server.vartimeSchnorrCheck sys.suite.basepoint pub a (transcript.challengeScalar sys.suite) s = true →
    net.Proved sys pub transcript

/-- The network after the server process has moved on to `world`. -/
def served (world : Server.World (SymByte S P) S P) : Net S P where
  world := world
  opened := net.opened ∪ {i | (world.threads i).isSome}
  history := net.history ∪ {note | ∃ i before after, net.world.threads i = some before ∧
    world.threads i = some after ∧ Notes i before.pc after.pc note}
  devices := net.devices
  seen := net.seen ∪ {s | ∃ i after, world.threads i = some after ∧ s ∈ after.conn.output}

/-- The network after run `j` has received these bytes altogether. -/
noncomputable def fed (j : Nat) (input : List (SymByte S P)) : Net S P :=
  { net with
    devices := Function.update net.devices j (some input)
    seen := net.seen ∪ {s | s ∈ sys.written j input} }

end Net

inductive NetEvent (S P : Type) where
  | server (event : Server.Event (SymByte S P) S P)
  | start (j : Nat)
  | feed (j : Nat) (bytes : List (SymByte S P))

/-- A run that has confirmed a session reads no more. -/
noncomputable def System.step (sys : System S P) (net : Net S P) : NetEvent S P → Option (Net S P)
  | .server event => (net.world.occur sys.suite sys.ctx sys.word event).map net.served
  | .start j =>
    match net.devices j with
    | none => some (net.fed sys j [])
    | some _ => none
  | .feed j bytes => (net.devices j).bind fun input =>
    if (sys.session j input).isSome then none else some (net.fed sys j (input ++ bytes))

/-- What may happen on the network: every connection draws for itself, what arrives is made by the attacker, and nobody
    else's proof is accepted under the key of an honest device or of the server. -/
def System.Admits (sys : System S P) (net : Net S P) : NetEvent S P → Prop
  | .server (.act (.accept i _ random _)) => i ∉ net.opened ∧ random = sys.draws i
  | .server (.act (.deliver _ bytes)) => ∀ s ∈ bytes, net.Knows sys s
  | .server (.act (.advance i _)) => ∀ thread request, net.world.threads i = some thread →
    thread.pc = .authPersisted request → ∀ root ∈ sys.honest, net.Genuine sys (sys.key root)
      (Server.clientTranscript sys.suite (sys.key root) request.pid request.aC request.nonceC request.ephC)
      request.aC request.sC
  | .server (.restart _) => True
  | .start _ => True
  | .feed j bytes => (∀ s ∈ bytes, net.Knows sys s) ∧ ∀ input session, net.devices j = some input →
    sys.session j (input ++ bytes) = some session → net.Genuine sys sys.serverPub
      (Client.serverTranscript sys.suite sys.serverPub session.aS session.nonceS session.ephS) session.aS session.sS

end ZkArche.Protocol

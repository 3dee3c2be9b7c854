import ZkArche.Server.Auth
import ZkArche.Server.Setup

namespace ZkArche.Server

open Foundation

variable {β S P : Type} [Octet β] [Field S] [AddCommGroup P] [Module S P]
variable [DecidableEq β] [DecidableEq P] [DecidableEq S]

def msgSetup : UInt8 := 0x01
def msgAuthV2 : UInt8 := 0x03
def msgAuthV3 : UInt8 := 0x04

inductive Completed (β S P : Type) where
  | enrolled (request : SetupRequest β P)
  | established (record : DeviceRecord P) (session : AuthSession β S P)

def unknownMsgType (msgType : UInt8) : Failure :=
  invalidData ("unknown msg_type: 0x" ++ hexByte msgType)

def noteOutcome (vars : Vars) (now : Nat) (peerKey : String) (res : Except Failure (Completed β S P))
    (state : ServerState β P) : ServerState β P :=
  if benchMode vars then state
  else match res with
    | .ok _ => { state with failures := state.failures.noteSuccess peerKey }
    | .error (.io _) => { state with failures := state.failures.noteFailure now peerKey }
    | .error (.panic _) => state

omit [Octet β] [Field S] [AddCommGroup P] [Module S P] [DecidableEq β] [DecidableEq P] [DecidableEq S] in
theorem noteOutcome_state (vars : Vars) (now : Nat) (peerKey : String) (res : Except Failure (Completed β S P))
    (state : ServerState β P) : ∃ failures, noteOutcome vars now peerKey res state = { state with failures } := by
  unfold noteOutcome
  split
  · exact ⟨state.failures, rfl⟩
  · split <;> exact ⟨_, rfl⟩

structure ClientMoments (β P : Type) where
  setup : SetupMoments β P
  auth : AuthMoments β P
  noted : Moment β P

structure ClientRandom (β S : Type) where
  setup : SetupRandom β S
  auth : AuthRandom β S

def dispatch (G : Suite β S P) (ctx : ServerContext S) (moments : ClientMoments β P) (peerKey : String)
    (random : ClientRandom β S) (msgType : UInt8) : Effect Failure (Connected β P) (Completed β S P) :=
  if msgType = msgSetup then do
    let request ← handleSetup G ctx moments.setup peerKey random.setup
    pure (.enrolled request)
  else if msgType = msgAuthV2 then do
    let (record, session) ← handleAuthV2 G ctx moments.auth random.auth
    pure (.established record session)
  else if msgType = msgAuthV3 then do
    let (record, session) ← handleAuthV3 G ctx moments.auth random.auth
    pure (.established record session)
  else Effect.fail (unknownMsgType msgType)

/-- Dispatches one inbound connection to the appropriate protocol handler. It stops early only
    when the message type cannot be read; the inner result is what is noted of the request. -/
def handleClient (G : Suite β S P) (ctx : ServerContext S) (moments : ClientMoments β P) (peerKey : String)
    (random : ClientRandom β S) : Effect Failure (Connected β P) (Except Failure (Completed β S P)) := do
  let msgType ← onConn recvU8
  let res ← fun state =>
    let (res, after) := dispatch G ctx moments peerKey random msgType state
    (.ok res, after)
  onServer (Effect.modify (noteOutcome ctx.vars moments.noted.now peerKey res))
  pure res

end ZkArche.Server

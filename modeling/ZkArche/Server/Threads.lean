import Mathlib.Logic.Function.Basic
import ZkArche.Foundation.Runs
import ZkArche.Server.Dispatch

namespace ZkArche.Server

open Foundation

variable {β S P : Type} [Octet β] [Field S] [AddCommGroup P] [Module S P]
variable [DecidableEq β] [DecidableEq P] [DecidableEq S]

/-- Where a connection thread stands between two of its steps. A step takes a lock at most
    once, and waits for the peer only at its start. -/
inductive Pc (β S P : Type) where
  | accepted
  | setupAccepted
  | setupAdmitted
  | setupRequested (request : SetupRequest β P)
  | setupChecked (checked : CheckedSetup β P)
  | setupChallenged (checked : CheckedSetup β P)
  | setupVerified (checked : CheckedSetup β P) (proof : P × S)
  | setupInserted (checked : CheckedSetup β P)
  | authAccepted (v3 : Bool)
  | authRequested (request : AuthRequest β S P)
  | authAdmitted (request : AuthRequest β S P) (blob : Option (List β))
  | authPersisted (request : AuthRequest β S P)
  | authVerified (request : AuthRequest β S P) (record : DeviceRecord P)
  | authReplied (record : DeviceRecord P) (session : AuthSession β S P)
  | authConfirmed (record : DeviceRecord P) (session : AuthSession β S P)
  | authCompleted (record : DeviceRecord P) (session : AuthSession β S P) (blob : Option (List β))
  | answered (res : Except Failure (Completed β S P))
  | closed (res : Except Failure (Completed β S P))

def resume (G : Suite β S P) (ctx : ServerContext S) (moment : Moment β P) (peerKey : String)
    (random : ClientRandom β S) : Pc β S P → Effect Failure (Connected β P) (Pc β S P)
  | .accepted => do
    let msgType ← onConn recvU8
    if msgType = msgSetup then pure .setupAccepted
    else if msgType = msgAuthV2 then pure (.authAccepted false)
    else if msgType = msgAuthV3 then pure (.authAccepted true)
    else pure (.answered (.error (unknownMsgType msgType)))
  | .setupAccepted => do
    checkRateLimit ctx.vars moment peerKey
    pure .setupAdmitted
  | .setupAdmitted => do
    let request ← onConn (readSetupRequest G ctx.policy moment.now)
    pure (.setupRequested request)
  | .setupRequested request => do
    let state ← readShared
    let checked ← Effect.lift (checkCollision G state.reg request)
    pure (.setupChecked checked)
  | .setupChecked checked => do
    onConn (challengeSetup G ctx checked.toSetupRequest random.setup)
    pure (.setupChallenged checked)
  | .setupChallenged checked => do
    let proof ← onConn (verifySetup G ctx checked.toSetupRequest random.setup)
    pure (.setupVerified checked proof)
  | .setupVerified checked _ => do
    onServer (enrollDevice G moment checked.toSetupRequest)
    pure (.setupInserted checked)
  | .setupInserted checked => do
    onConn acknowledge
    pure (.answered (.ok (.enrolled checked.toSetupRequest)))
  | .authAccepted v3 => do
    let request ← onConn (readAuthRequest G ctx v3)
    pure (.authRequested request)
  | .authRequested request => do
    let blob ← onServer (admitSession ctx.vars moment request.pid request.nonceC)
    pure (.authAdmitted request blob)
  | .authAdmitted request blob => do
    onServer (persistReplay moment blob)
    pure (.authPersisted request)
  | .authPersisted request => do
    let state ← readShared
    let (_, record) ← Effect.lift (findRecord G moment (ctx.staticPub G) state request.handleOpt request.pid
      request.nonceC request.ephC)
    Effect.lift (verifyProofs G ctx.allowedRoles request record)
    pure (.authVerified request record)
  | .authVerified request record => do
    let session := establish G ctx.serverStaticSecret request random.auth
    onConn (sendAll (session.payload2 G))
    pure (.authReplied record session)
  | .authReplied record session => do
    onConn (confirm G session)
    pure (.authConfirmed record session)
  | .authConfirmed record session => do
    let blob ← onServer (takeFinalBlob ctx.vars moment)
    pure (.authCompleted record session blob)
  | .authCompleted record session blob => do
    onServer (persistReplay moment blob)
    pure (.answered (.ok (.established record session)))
  | .answered res => do
    onServer (Effect.modify (noteOutcome ctx.vars moment.now peerKey res))
    pure (.closed res)
  | .closed res => pure (.closed res)

/-- Where a thread stands after a step; an error ends the request. -/
def Pc.next : Pc β S P → Except Failure (Pc β S P) → Pc β S P
  | _, .ok pc => pc
  | .accepted, .error failure => .closed (.error failure)
  | _, .error failure => .answered (.error failure)

structure Thread (β S P : Type) where
  peerKey : String
  random : ClientRandom β S
  conn : Conn β
  pc : Pc β S P

/-- The server process: what its threads share, and the threads. -/
structure World (β S P : Type) where
  server : ServerState β P
  threads : Nat → Option (Thread β S P)

inductive Action (β S P : Type) where
  | accept (i : Nat) (peerKey : String) (random : ClientRandom β S) (writeFault : Nat → Option IoError)
  | deliver (i : Nat) (bytes : List β)
  | advance (i : Nat) (moment : Moment β P)

def Thread.opened (peerKey : String) (random : ClientRandom β S) (writeFault : Nat → Option IoError) :
    Thread β S P :=
  { peerKey, random, conn := { Conn.opened [] with writeFault }, pc := .accepted }

def World.put (world : World β S P) (i : Nat) (thread : Thread β S P) : World β S P :=
  { world with threads := Function.update world.threads i (some thread) }

/-- The world after thread `i` has taken a step. -/
def World.advance (G : Suite β S P) (ctx : ServerContext S) (world : World β S P) (i : Nat)
    (thread : Thread β S P) (moment : Moment β P) : World β S P :=
  let (result, after) := resume G ctx moment thread.peerKey thread.random thread.pc ⟨world.server, thread.conn⟩
  World.put { world with server := after.server } i
    { thread with conn := after.conn, pc := thread.pc.next result }

def World.perform (G : Suite β S P) (ctx : ServerContext S) (world : World β S P) :
    Action β S P → Option (World β S P)
  | .accept i peerKey random writeFault =>
    match world.threads i with
    | none => some (world.put i (.opened peerKey random writeFault))
    | some _ => none
  | .deliver i bytes => (world.threads i).map fun thread =>
    world.put i { thread with conn := { thread.conn with input := thread.conn.input ++ bytes } }
  | .advance i moment => (world.threads i).map fun thread => world.advance G ctx i thread moment

/-- The server process after a start from the two state files, on a machine with `word`-bit
    sizes. A file that does not load counts as empty. -/
def boot (G : Suite β S P) (word : Nat) (moment : Moment β P) (registryFile replayFile : StateFile β) :
    World β S P :=
  let reg := (loadRegistry G registryFile).toOption.getD ∅
  { server := {
      reg
      handleIndex := buildHandleIndex G (moment.regOrder.list reg)
      replay := (ReplayCache.load word moment.now replayFile).toOption.getD .empty
      failures := .empty
      registryFile
      replayFile }
    threads := fun _ => none }

/-- A step of the process, or a crash of it and a new start from its files. -/
inductive Event (β S P : Type) where
  | act (action : Action β S P)
  | restart (moment : Moment β P)

def World.occur (G : Suite β S P) (ctx : ServerContext S) (word : Nat) (world : World β S P) :
    Event β S P → Option (World β S P)
  | .act action => world.perform G ctx action
  | .restart moment => some (boot G word moment world.server.registryFile world.server.replayFile)

def Pc.Changes (G : Suite β S P) : Pc β S P → ServerState β P → ServerState β P → Prop
  | .setupAccepted, before, after => ∃ failures, after = { before with failures }
  | .setupVerified checked _, before, after => ∃ registryFile, after = { before with
      reg := before.reg.insert checked.deviceId checked.record
      handleIndex := before.handleIndex.insert (computeDeviceHandle G checked.deviceStaticPub)
        (checked.deviceId, checked.record)
      registryFile }
  | .authRequested _, before, after => ∃ replay, after = { before with replay }
  | .authAdmitted _ _, before, after => ∃ replayFile, after = { before with replayFile }
  | .authConfirmed _ _, before, after => ∃ replay, after = { before with replay }
  | .authCompleted _ _ _, before, after => ∃ replayFile, after = { before with replayFile }
  | .answered _, before, after => ∃ failures, after = { before with failures }
  | _, before, after => after = before

theorem resume_changes (G : Suite β S P) (ctx : ServerContext S) (moment : Moment β P) (peerKey : String)
    (random : ClientRandom β S) (pc : Pc β S P) (state : Connected β P) :
    pc.Changes G state.server (resume G ctx moment peerKey random pc state).2.server := by
  cases pc with
  | accepted =>
    refine ((keeps_onConn _ (· = state.server)).bind fun msgType => ?_) state rfl
    intro middle same
    split
    · exact same
    · split
      · exact same
      · split <;> exact same
  | setupAccepted =>
    rw [resume, Effect.bind_pure_state]
    refine Effect.Keeps.bind (show Effect.Keeps (fun after : Connected β P =>
      ∃ failures, after.server = { state.server with failures }) _ from ?_) (fun _ => Effect.keeps_failIf _ _)
      state ⟨_, rfl⟩
    rintro middle ⟨failures, same⟩
    obtain ⟨failures', changed⟩ := isRateLimited_state ctx.vars moment peerKey middle.server
    exact ⟨failures', by rw [onServer_apply, changed, same]⟩
  | setupAdmitted => exact ((keeps_onConn _ (· = state.server)).bind fun _ => Effect.keeps_pure _) state rfl
  | setupRequested request =>
    exact ((keeps_readShared (· = state.server)).bind fun _ =>
      (Effect.keeps_lift _).bind fun _ => Effect.keeps_pure _) state rfl
  | setupChecked checked =>
    exact ((keeps_onConn _ (· = state.server)).bind fun _ => Effect.keeps_pure _) state rfl
  | setupChallenged checked =>
    exact ((keeps_onConn _ (· = state.server)).bind fun _ => Effect.keeps_pure _) state rfl
  | setupVerified checked proof =>
    rw [resume, Effect.bind_pure_state, onServer_apply]
    exact ⟨_, rfl⟩
  | setupInserted checked =>
    exact ((keeps_onConn _ (· = state.server)).bind fun _ => Effect.keeps_pure _) state rfl
  | authAccepted v3 =>
    exact ((keeps_onConn _ (· = state.server)).bind fun _ => Effect.keeps_pure _) state rfl
  | authRequested request =>
    rw [resume, Effect.bind_pure_state, onServer_apply]
    exact admitSession_state _ _ _ _ _
  | authAdmitted request blob =>
    rw [resume, Effect.bind_pure_state, onServer_apply]
    exact ⟨_, persistReplay_state _ _ _⟩
  | authPersisted request =>
    exact ((keeps_readShared (· = state.server)).bind fun _ =>
      (Effect.keeps_lift _).bind fun _ => (Effect.keeps_lift _).bind fun _ => Effect.keeps_pure _) state rfl
  | authVerified request record =>
    exact ((keeps_onConn _ (· = state.server)).bind fun _ => Effect.keeps_pure _) state rfl
  | authReplied record session =>
    exact ((keeps_onConn _ (· = state.server)).bind fun _ => Effect.keeps_pure _) state rfl
  | authConfirmed record session =>
    rw [resume, Effect.bind_pure_state, onServer_apply]
    obtain ⟨blob, replay, take, _⟩ := takeFinalBlob_apply ctx.vars moment state.server
    exact ⟨replay, by rw [take]⟩
  | authCompleted record session blob =>
    rw [resume, Effect.bind_pure_state, onServer_apply]
    exact ⟨_, persistReplay_state _ _ _⟩
  | answered res =>
    rw [resume, Effect.bind_pure_state, onServer_apply]
    exact noteOutcome_state _ _ _ _ _
  | closed res => exact rfl

def Pc.Leads (G : Suite β S P) (ctx : ServerContext S) (random : ClientRandom β S) : Pc β S P → Pc β S P → Prop
  | .accepted, next => next = .setupAccepted ∨ (∃ v3, next = .authAccepted v3) ∨
      ∃ failure, next = .answered (.error failure)
  | .setupAccepted, next => next = .setupAdmitted
  | .setupAdmitted, next => ∃ request, next = .setupRequested request
  | .setupRequested request, next => ∃ checked : CheckedSetup β P, checked.toSetupRequest = request ∧
      next = .setupChecked checked
  | .setupChecked checked, next => next = .setupChallenged checked
  | .setupChallenged checked, next => ∃ proof, next = .setupVerified checked proof
  | .setupVerified checked _, next => next = .setupInserted checked
  | .setupInserted checked, next => next = .answered (.ok (.enrolled checked.toSetupRequest))
  | .authAccepted _, next => ∃ request, next = .authRequested request
  | .authRequested request, next => ∃ blob, next = .authAdmitted request blob
  | .authAdmitted request _, next => next = .authPersisted request
  | .authPersisted request, next => ∃ record, next = .authVerified request record
  | .authVerified request record, next =>
      next = .authReplied record (establish G ctx.serverStaticSecret request random.auth)
  | .authReplied record session, next => next = .authConfirmed record session
  | .authConfirmed record session, next => ∃ blob, next = .authCompleted record session blob
  | .authCompleted record session _, next => next = .answered (.ok (.established record session))
  | .answered res, next => next = .closed res
  | .closed res, next => next = .closed res

theorem resume_leads {G : Suite β S P} {ctx : ServerContext S} {moment : Moment β P} {peerKey : String}
    {random : ClientRandom β S} {pc next : Pc β S P} {state after : Connected β P}
    (run : resume G ctx moment peerKey random pc state = (.ok next, after)) : pc.Leads G ctx random next := by
  cases pc with
  | accepted =>
    obtain ⟨msgType, middle, _, run⟩ := Effect.bind_ok.mp run
    split at run
    · cases run
      exact .inl rfl
    · split at run
      · cases run
        exact .inr (.inl ⟨_, rfl⟩)
      · split at run <;> cases run
        · exact .inr (.inl ⟨_, rfl⟩)
        · exact .inr (.inr ⟨_, rfl⟩)
  | setupAdmitted =>
    obtain ⟨request, _, _, done⟩ := Effect.bind_ok.mp run
    cases done
    exact ⟨request, rfl⟩
  | setupRequested request =>
    simp only [resume, Effect.bind_ok, readShared_ok, Effect.lift_apply, Prod.mk.injEq] at run
    obtain ⟨_, _, _, checked, _, ⟨collision, _⟩, done⟩ := run
    cases done
    exact ⟨checked, (checkCollision_ok collision).1, rfl⟩
  | setupChallenged checked =>
    obtain ⟨proof, _, _, done⟩ := Effect.bind_ok.mp run
    cases done
    exact ⟨proof, rfl⟩
  | authAccepted v3 =>
    obtain ⟨request, _, _, done⟩ := Effect.bind_ok.mp run
    cases done
    exact ⟨request, rfl⟩
  | authRequested request =>
    obtain ⟨blob, _, _, done⟩ := Effect.bind_ok.mp run
    cases done
    exact ⟨blob, rfl⟩
  | authPersisted request =>
    simp only [resume, Effect.bind_ok, readShared_ok, Effect.lift_apply, Prod.mk.injEq] at run
    obtain ⟨_, _, _, ⟨_, record⟩, _, _, _, _, _, done⟩ := run
    cases done
    exact ⟨record, rfl⟩
  | authConfirmed record session =>
    obtain ⟨blob, _, _, done⟩ := Effect.bind_ok.mp run
    cases done
    exact ⟨blob, rfl⟩
  | closed res =>
    cases run
    exact rfl
  | _ =>
    obtain ⟨_, _, _, done⟩ := Effect.bind_ok.mp run
    cases done
    exact rfl

theorem advance_of_eq {G : Suite β S P} {ctx : ServerContext S} {world : World β S P} {i : Nat}
    {thread : Thread β S P} {moment : Moment β P} {result : Except Failure (Pc β S P)} {after : Connected β P}
    (run : resume G ctx moment thread.peerKey thread.random thread.pc ⟨world.server, thread.conn⟩ = (result, after)) :
    world.advance G ctx i thread moment = World.put { world with server := after.server } i
      { thread with conn := after.conn, pc := thread.pc.next result } := by
  rw [World.advance, run]

theorem perform_cases {G : Suite β S P} {ctx : ServerContext S} {world after : World β S P}
    {action : Action β S P} (taken : world.perform G ctx action = some after) :
    (∃ i peerKey random writeFault, action = .accept i peerKey random writeFault ∧ world.threads i = none ∧
      after = world.put i (.opened peerKey random writeFault)) ∨
    (∃ i bytes thread, action = .deliver i bytes ∧ world.threads i = some thread ∧
      after = world.put i { thread with conn := { thread.conn with input := thread.conn.input ++ bytes } }) ∨
    (∃ i moment thread, action = .advance i moment ∧ world.threads i = some thread ∧
      after = world.advance G ctx i thread moment) := by
  cases action with
  | accept i peerKey random writeFault =>
    simp only [World.perform] at taken
    split at taken
    case h_1 vacant =>
      cases taken
      exact .inl ⟨i, peerKey, random, writeFault, rfl, vacant, rfl⟩
    case h_2 => cases taken
  | deliver i bytes =>
    obtain ⟨thread, present, rfl⟩ := Option.map_eq_some_iff.mp taken
    exact .inr (.inl ⟨i, bytes, thread, rfl, present, rfl⟩)
  | advance i moment =>
    obtain ⟨thread, present, rfl⟩ := Option.map_eq_some_iff.mp taken
    exact .inr (.inr ⟨i, moment, thread, rfl, present, rfl⟩)

theorem perform_changes {G : Suite β S P} {ctx : ServerContext S} {world after : World β S P}
    {action : Action β S P} (taken : world.perform G ctx action = some after) :
    after.server = world.server ∨
      ∃ i moment thread, action = .advance i moment ∧ world.threads i = some thread ∧
        thread.pc.Changes G world.server after.server := by
  rcases perform_cases taken with ⟨_, _, _, _, _, _, rfl⟩ | ⟨_, _, _, _, _, rfl⟩ | ⟨i, moment, thread, same, present, rfl⟩
  · exact .inl rfl
  · exact .inl rfl
  · exact .inr ⟨i, moment, thread, same, present, resume_changes G ctx moment _ _ _ ⟨world.server, thread.conn⟩⟩

end ZkArche.Server

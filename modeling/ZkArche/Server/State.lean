import ZkArche.Server.Policy
import ZkArche.Server.Registry
import ZkArche.Server.Replay

namespace ZkArche.Server

open Foundation

/-- What `main` shares between the connection threads, and the two state files. -/
structure ServerState (β P : Type) where
  reg : Registry β P
  handleIndex : HandleIndex β P
  replay : ReplayCache β
  failures : FailureTracker
  registryFile : StateFile β
  replayFile : StateFile β

def ServerState.fresh {β P : Type} : ServerState β P :=
  { reg := ∅, handleIndex := ∅, replay := .empty, failures := .empty, registryFile := .absent
    replayFile := .absent }

structure ServerContext (S : Type) where
  vars : Vars
  allowedRoles : List UInt64
  policy : PairingPolicy
  serverStaticSecret : S

def ServerContext.staticPub {β S P : Type} [Field S] [AddCommGroup P] [Module S P] (ctx : ServerContext S)
    (G : Suite β S P) : P :=
  ctx.serverStaticSecret • G.basepoint

/-- What a step of a handler meets: the clock, whether a file replacement fails, and the
    orders in which the hash tables are iterated. -/
structure Moment (β P : Type) where
  now : Nat
  diskFault : Option IoError
  regOrder : MapOrder (Block β 32) (DeviceRecord P)
  setOrder : SetOrder (ReplayKey β)

noncomputable def Moment.quiet {β P : Type} : Moment β P :=
  { now := 0, diskFault := none, regOrder := default, setOrder := default }

/-- A handler's view: the shared state and its own connection. -/
structure Connected (β P : Type) where
  server : ServerState β P
  conn : Conn β

variable {β S P α : Type}

def onConn (part : Effect Failure (Conn β) α) : Effect Failure (Connected β P) α :=
  Effect.zoom Connected.conn (fun conn state => { state with conn }) part

def onServer (part : Effect Failure (ServerState β P) α) : Effect Failure (Connected β P) α :=
  Effect.zoom Connected.server (fun server state => { state with server }) part

def readShared : Effect Failure (Connected β P) (ServerState β P) := fun state => (.ok state.server, state)

def onReplayFile (part : Effect Failure (StateFile β) α) : Effect Failure (ServerState β P) α :=
  Effect.zoom ServerState.replayFile (fun replayFile state => { state with replayFile }) part

def onRegistryFile (part : Effect Failure (StateFile β) α) : Effect Failure (ServerState β P) α :=
  Effect.zoom ServerState.registryFile (fun registryFile state => { state with registryFile }) part

theorem onConn_apply (part : Effect Failure (Conn β) α) (state : Connected β P) :
    onConn part state = ((part state.conn).1, { state with conn := (part state.conn).2 }) := rfl

theorem onServer_apply (part : Effect Failure (ServerState β P) α) (state : Connected β P) :
    onServer part state = ((part state.server).1, { state with server := (part state.server).2 }) := rfl

theorem onConn_ok {part : Effect Failure (Conn β) α} {state after : Connected β P} {value : α} :
    onConn part state = (.ok value, after) ↔
      part state.conn = (.ok value, after.conn) ∧ after.server = state.server := by
  obtain ⟨server, conn⟩ := after
  rw [onConn_apply, Prod.mk.injEq, Connected.mk.injEq]
  constructor
  · rintro ⟨result, same, rest⟩
    exact ⟨Prod.ext result rest, same.symm⟩
  · rintro ⟨run, same⟩
    rw [run]
    exact ⟨rfl, same.symm, rfl⟩

theorem onServer_ok {part : Effect Failure (ServerState β P) α} {state after : Connected β P} {value : α} :
    onServer part state = (.ok value, after) ↔
      part state.server = (.ok value, after.server) ∧ after.conn = state.conn := by
  obtain ⟨server, conn⟩ := after
  rw [onServer_apply, Prod.mk.injEq, Connected.mk.injEq]
  constructor
  · rintro ⟨result, rest, same⟩
    exact ⟨Prod.ext result rest, same.symm⟩
  · rintro ⟨run, same⟩
    rw [run]
    exact ⟨rfl, rfl, same.symm⟩

theorem onConn_of_eq {part : Effect Failure (Conn β) α} {state : Connected β P} {result : Except Failure α}
    {conn : Conn β} (run : part state.conn = (result, conn)) :
    onConn part state = (result, { state with conn }) := by
  rw [onConn_apply, run]

theorem onServer_of_eq {part : Effect Failure (ServerState β P) α} {state : Connected β P}
    {result : Except Failure α} {server : ServerState β P} (run : part state.server = (result, server)) :
    onServer part state = (result, { state with server }) := by
  rw [onServer_apply, run]

theorem readShared_apply (state : Connected β P) : readShared state = (.ok state.server, state) := rfl

theorem readShared_ok {state after : Connected β P} {value : ServerState β P} :
    readShared state = (.ok value, after) ↔ state.server = value ∧ state = after := by
  simp only [readShared_apply, Prod.mk.injEq, Except.ok.injEq]

theorem keeps_onConn (part : Effect Failure (Conn β) α) (holds : ServerState β P → Prop) :
    Effect.Keeps (fun state => holds state.server) (onConn part) :=
  Effect.keeps_zoom fun _ _ start => start

theorem keeps_onServer {part : Effect Failure (ServerState β P) α} {holds : ServerState β P → Prop}
    (keeps : Effect.Keeps holds part) : Effect.Keeps (fun state => holds state.server) (onServer part) :=
  fun state start => keeps state.server start

theorem keeps_readShared (holds : ServerState β P → Prop) :
    Effect.Keeps (fun state => holds state.server) readShared :=
  fun _ start => start

end ZkArche.Server

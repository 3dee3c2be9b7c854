import ZkArche.Interop.Honest
import ZkArche.Protocol.StateFiles

namespace ZkArche.Interop

open Foundation Client Protocol

variable {ι S P : Type} [Field S] [AddCommGroup P] [Module S P] [DecidableEq P]

def deviceEntry (G : Suite UInt8 S P) (own : Device UInt8 S) : Server.RegistryEntry UInt8 P :=
  ⟨own.id G, deviceRecord G own⟩

def Registered (setting : Setting ι S P) (before : List (Meeting ι S P)) (entry : Server.RegistryEntry UInt8 P) : Prop :=
  ∃ i, SetUpIn before i ∧ entry = deviceEntry setting.G (setting.device i)

structure Lists (setting : Setting ι S P) (before : List (Meeting ι S P)) (records : List (Server.RegistryEntry UInt8 P)) :
    Prop where
  names : (records.map Sigma.fst).Nodup
  complete : ∀ entry, entry ∈ records ↔ Registered setting before entry

inductive RegistersIn (setting : Setting ι S P) (before : List (Meeting ι S P)) : StateFile UInt8 → Prop where
  | absent (nobody : ∀ i, ¬ SetUpIn before i) : RegistersIn setting before .absent
  | present {records : List (Server.RegistryEntry UInt8 P)} {mode : Nat} (lists : Lists setting before records) :
      RegistersIn setting before (.present (Server.registryBytes setting.G records) mode)

section Registry

variable {setting : Setting ι S P} {before : List (Meeting ι S P)} {file : StateFile UInt8}

theorem rustLoads (devices : HonestDevices setting.G setting.rust setting.device)
    (registers : RegistersIn setting before file) : ∃ reg, Server.loadRegistry setting.G file = .ok reg ∧
      ∀ id record, reg.lookup id = some record ↔ Registered setting before ⟨id, record⟩ := by
  cases registers with
  | absent nobody =>
    refine ⟨∅, rfl, ?_⟩
    intro id record
    rw [AList.lookup_empty]
    constructor
    · intro found
      cases found
    · intro ⟨i, setUp, _⟩
      exact absurd setUp (nobody i)
  | present lists =>
    refine ⟨_, Server.loadRegistry_present.mpr ⟨_, rfl, rfl⟩, ?_⟩
    intro id record
    rw [Server.Registry.lookup_ofRecords lists.names, lists.complete]
    constructor
    · intro ⟨registered, _⟩
      exact registered
    · intro registered
      obtain ⟨i, setUp, same⟩ := registered
      have proper := devices.proper i
      cases same
      exact ⟨⟨i, setUp, rfl⟩, proper.pub, proper.commitment⟩

omit [DecidableEq P] in
theorem cLoads (registers : RegistersIn setting before file) : ∃ records,
    CServer.loadRegistry true file = some (records.map (entryOf setting.G)) ∧ Lists setting before records := by
  cases registers with
  | absent nobody =>
    refine ⟨[], rfl, List.nodup_nil, ?_⟩
    intro entry
    constructor
    · intro member
      cases member
    · intro ⟨i, setUp, _⟩
      exact absurd setUp (nobody i)
  | present lists => exact ⟨_, CServer.loadRegistry_present.mpr (registryBytes_entryOf _).symm, lists⟩

end Registry

structure Remembers (noted : CServer.ReplayKey → Prop) (cache : Cache) : Prop where
  small : cache.Small
  keys : ∀ key, key ∈ cache.current ∨ key ∈ cache.previous → noted key

def SavedOf (noted : CServer.ReplayKey → Prop) (data : List UInt8) : Prop := ∃ cache, Saves cache data ∧ Remembers noted cache

inductive RemembersIn (noted : CServer.ReplayKey → Prop) : StateFile UInt8 → Prop where
  | absent : RemembersIn noted .absent
  | present {data : List UInt8} {mode : Nat} (saved : SavedOf noted data) : RemembersIn noted (.present data mode)

section Replay

variable {noted more : CServer.ReplayKey → Prop} {cache : Cache} {file : StateFile UInt8} {word now : Nat}

theorem Remembers.mono (remembers : Remembers noted cache) (grows : ∀ key, noted key → more key) : Remembers more cache :=
  ⟨remembers.small, fun key member => grows key (remembers.keys key member)⟩

theorem RemembersIn.mono (remembers : RemembersIn noted file) (grows : ∀ key, noted key → more key) :
    RemembersIn more file := by
  cases remembers with
  | absent => exact .absent
  | present saved =>
    obtain ⟨cache, saves, remembers⟩ := saved
    exact .present ⟨cache, saves, remembers.mono grows⟩

theorem rustLoads_replay (large : 32 ≤ word) (remembers : RemembersIn noted file) (now : Nat) :
    ∃ loaded, Server.ReplayCache.load word now file = .ok loaded ∧ Remembers noted (.rust loaded) := by
  cases remembers with
  | absent =>
    refine ⟨.empty, rfl, ⟨Nat.zero_le _, Nat.zero_le _⟩, ?_⟩
    intro key member
    rcases member with young | old
    · exact absurd young (Finset.notMem_empty key)
    · exact absurd old (Finset.notMem_empty key)
  | present saved =>
    obtain ⟨cache, saves, remembers⟩ := saved
    obtain ⟨young, old, rfl, younger, older, current, previous⟩ := saves.lists remembers.small
    refine ⟨_, rustLoad_cacheFile large younger older now _, ⟨?_, ?_⟩, ?_⟩
    · exact (List.toFinset_card_le young).trans younger.small
    · exact (List.toFinset_card_le old).trans older.small
    · intro key member
      apply remembers.keys key
      rw [← current, ← previous]
      exact member

theorem cLoads_replay (remembers : RemembersIn noted file) (now : Nat) :
    ∃ loaded, CServer.replayCacheLoad (true, true) now file = some loaded ∧ Remembers noted (.c loaded) := by
  cases remembers with
  | absent =>
    refine ⟨_, rfl, ⟨smallGeneration_nil, smallGeneration_nil⟩, ?_⟩
    intro key member
    rcases member with young | old
    · exact absurd young (Finset.notMem_empty key)
    · exact absurd old (Finset.notMem_empty key)
  | present saved =>
    obtain ⟨cache, saves, remembers⟩ := saved
    obtain ⟨young, old, rfl, younger, older, current, previous⟩ := saves.lists remembers.small
    obtain ⟨loaded, loads⟩ := cLoad_of_memory younger older now _
    obtain ⟨_, _, sameYoung, sameOld⟩ := cLoad_cacheFile younger older loads
    refine ⟨loaded, loads, ⟨?_, ?_⟩, ?_⟩
    · rw [sameYoung]
      exact younger
    · rw [sameOld]
      exact older
    · intro key member
      apply remembers.keys key
      rw [← current, ← previous, ← sameYoung, ← sameOld]
      exact member

end Replay

def Noted (before : List (Meeting ι S P)) (key : CServer.ReplayKey) : Prop :=
  ∃ pid, ∃ nonce ∈ before.filterMap fun meeting => meeting.nonce, key = CServer.replayKey pid nonce

section Standing

variable (setting : Setting ι S P) (before : List (Meeting ι S P))

/-- A server of the Rust program with the devices that have been set up and no keys of sessions to come. -/
structure RustStands (state : Server.ServerState UInt8 P) : Prop where
  calm : state.failures = .empty
  indexed : state.Indexed setting.G
  registry : ∀ id record, state.reg.lookup id = some record ↔ Registered setting before ⟨id, record⟩
  registryFile : RegistersIn setting before state.registryFile
  replay : Remembers (Noted before) (.rust state.replay)
  replayFile : RemembersIn (Noted before) state.replayFile

structure CStands (state : CServer.ServerState) : Prop where
  registry : ∃ records, Lists setting before records ∧ state.reg = records.map (entryOf setting.G)
  registryFile : RegistersIn setting before state.registryFile
  replay : Remembers (Noted before) (.c state.replay)
  replayFile : RemembersIn (Noted before) state.replayFile

def AnyServer.Stands : AnyServer P → Prop
  | .rust state => RustStands setting before state
  | .c state => CStands setting before state

variable {setting before}

omit [DecidableEq P] in
theorem AnyServer.Stands.files {server : AnyServer P} (stands : server.Stands setting before) :
    RegistersIn setting before server.registryFile ∧ RemembersIn (Noted before) server.replayFile := by
  cases server with
  | rust state => exact ⟨stands.registryFile, stands.replayFile⟩
  | c state => exact ⟨stands.registryFile, stands.replayFile⟩

theorem start_stands (agrees : setting.Agrees) (program : Program) (moment : Server.Moment UInt8 P)
    {registryFile replayFile : StateFile UInt8} (registers : RegistersIn setting before registryFile)
    (remembers : RemembersIn (Noted before) replayFile) :
    ∃ server, AnyServer.start setting program moment registryFile replayFile = some server ∧
      server.Stands setting before := by
  cases program with
  | rust =>
    obtain ⟨reg, loads, registry⟩ := rustLoads agrees.devices registers
    obtain ⟨replay, loadsReplay, known⟩ := rustLoads_replay agrees.large remembers moment.now
    have starts : Server.loadState setting.G setting.word moment.now registryFile replayFile = .ok (reg, replay) := by
      rw [Server.loadState, loads, loadsReplay]
      rfl
    obtain ⟨sameReg, sameReplay⟩ := Server.boot_of_loadState starts
    refine ⟨.rust (Server.boot setting.G setting.word moment registryFile replayFile).server, ?_, ?_⟩
    · rw [AnyServer.start, starts]
    · refine ⟨rfl, Server.boot_indexed _ _ _ _ _, ?_, registers, ?_, remembers⟩
      · rw [sameReg]
        exact registry
      · rw [sameReplay]
        exact known
  | c =>
    obtain ⟨records, loads, lists⟩ := cLoads registers
    obtain ⟨replay, loadsReplay, known⟩ := cLoads_replay remembers moment.now
    refine ⟨.c ⟨records.map (entryOf setting.G), replay, registryFile, replayFile⟩, ?_,
      ⟨⟨records, lists, rfl⟩, registers, known, remembers⟩⟩
    rw [AnyServer.start, CServer.boot]
    simp only [loads, loadsReplay, Option.bind_eq_bind, Option.bind_some, Option.pure_def, Option.map_some]

end Standing

end ZkArche.Interop

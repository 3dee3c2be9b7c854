import ZkArche.Protocol.Requests
import ZkArche.Protocol.SameRegistry
import ZkArche.Server.HandleIndex

namespace ZkArche.Protocol

open Foundation

variable {S P : Type} [Field S] [AddCommGroup P] [Module S P]
variable {G : Suite UInt8 S P} {so : CImpl.Sodium} {record : Server.DeviceRecord P} {raw : CServer.AuthRequest}
  {request : Server.AuthRequest UInt8 S P}

def rawRecord (G : Suite UInt8 S P) (id : Block UInt8 32) (record : Server.DeviceRecord P) : CServer.RegEntry :=
  ⟨id, G.compress record.pubkey, G.compress record.roleCommitment⟩

theorem rawRecord_injective {id id' : Block UInt8 32} {other : Server.DeviceRecord P}
    (same : rawRecord G id record = rawRecord G id' other) : record = other := by
  simp only [rawRecord, CServer.RegEntry.mk.injEq, G.compress_injective.eq_iff] at same
  obtain ⟨pub, role⟩ := record
  obtain ⟨pub', role'⟩ := other
  obtain ⟨_, samePub, sameRole⟩ := same
  subst samePub sameRole
  rfl

/-- A server of each program with the same environment, key, roles and registry. -/
structure SameServers (G : Suite UInt8 S P) (rustCtx : Server.ServerContext S) (cCtx : CServer.ServerContext)
    (rust : Server.ServerState UInt8 P) (c : CServer.ServerState) : Prop where
  vars : cCtx.vars = rustCtx.vars
  roles : rustCtx.allowedRoles = CServer.allowedRoles
  serverSk : cCtx.serverSk = G.toBytes rustCtx.serverStaticSecret
  registry : ∀ id, cBound c.reg id = rustBound G rust.reg id
  enrolledOnce : (c.reg.map (·.id)).Nodup

def CFinds (G : Suite UInt8 S P) (so : CImpl.Sodium) (ctx : CServer.ServerContext) (server : CServer.ServerState)
    (raw : CServer.AuthRequest) (record : Server.DeviceRecord P) : Prop :=
  ∃ id, CServer.findRecord so (ctx.serverPub so) server.reg raw = some (rawRecord G id record)

def RustFinds (G : Suite UInt8 S P) (ctx : Server.ServerContext S) (moment : Server.Moment UInt8 P)
    (server : Server.ServerState UInt8 P) (request : Server.AuthRequest UInt8 S P) (record : Server.DeviceRecord P) :
    Prop :=
  ∃ id, Server.findRecord G moment (ctx.staticPub G) server request.handleOpt request.pid request.nonceC
    request.ephC = .ok (id, record)

variable {rustCtx : Server.ServerContext S} {cCtx : CServer.ServerContext} {rust : Server.ServerState UInt8 P}
  {c : CServer.ServerState} {moment : Server.Moment UInt8 P}

theorem regLookupRecord_of_mem {reg : List CServer.RegEntry} (once : (reg.map (·.id)).Nodup) {entry : CServer.RegEntry}
    (member : entry ∈ reg) : CServer.regLookupRecord reg entry.id = some entry := by
  rw [CServer.regLookupRecord]
  cases found : reg.find? fun other => other.id = entry.id with
  | none =>
    have nobody := List.find?_eq_none.mp found entry member
    exact absurd (decide_eq_true rfl) nobody
  | some other =>
    have same : other.id = entry.id := by simpa using List.find?_some found
    have inside := List.mem_of_find?_eq_some found
    rw [List.inj_on_of_nodup_map once inside member same]

theorem SameServers.entry (servers : SameServers G rustCtx cCtx rust c) {entry : CServer.RegEntry}
    (member : entry ∈ c.reg) : ∃ record, rust.reg.lookup entry.id = some record ∧ entry = rawRecord G entry.id record := by
  have bound := servers.registry entry.id
  rw [cBound, regLookupRecord_of_mem servers.enrolledOnce member, rustBound, Option.map_some, eq_comm,
    Option.map_eq_some_iff] at bound
  obtain ⟨record, stored, same⟩ := bound
  rw [Prod.mk.injEq] at same
  refine ⟨record, stored, ?_⟩
  rw [rawRecord, same.1, same.2]

theorem SameServers.rawRecord_mem (servers : SameServers G rustCtx cCtx rust c) {id : Block UInt8 32}
    (stored : rust.reg.lookup id = some record) : rawRecord G id record ∈ c.reg := by
  have bound := servers.registry id
  rw [rustBound, stored, Option.map_some, cBound, Option.map_eq_some_iff] at bound
  obtain ⟨entry, found, same⟩ := bound
  have inside := List.mem_of_find?_eq_some found
  have named : entry.id = id := by simpa using List.find?_some found
  rw [Prod.mk.injEq] at same
  have whole : entry = rawRecord G id record := by
    rw [rawRecord, ← same.1, ← same.2, ← named]
  rwa [whole] at inside

theorem SameServers.found (servers : SameServers G rustCtx cCtx rust c) {entry : CServer.RegEntry}
    (found : CServer.findRecord so (cCtx.serverPub so) c.reg raw = some entry) :
    ∃ record, rust.reg.lookup entry.id = some record ∧ entry = rawRecord G entry.id record := by
  apply servers.entry
  unfold CServer.findRecord at found
  split at found
  · obtain ⟨other, first, rest⟩ := Option.bind_eq_some_iff.mp found
    obtain ⟨_, _, same⟩ := Option.bind_eq_some_iff.mp rest
    cases same
    exact List.mem_of_find?_eq_some first
  · exact List.mem_of_find?_eq_some found

def HasPid (G : Suite UInt8 S P) (ctx : Server.ServerContext S) (request : Server.AuthRequest UInt8 S P)
    (record : Server.DeviceRecord P) : Prop :=
  Server.computePid G record.pubkey request.nonceC request.ephC (ctx.staticPub G) = request.pid

/-- The device has the handle of the request or, if there is none, its pid. -/
def Selected (G : Suite UInt8 S P) (ctx : Server.ServerContext S) (request : Server.AuthRequest UInt8 S P)
    (record : Server.DeviceRecord P) : Prop :=
  match request.handleOpt with
  | some handle => Server.computeDeviceHandle G record.pubkey = handle
  | none => Server.computePid G record.pubkey request.nonceC request.ephC (ctx.staticPub G) = request.pid

/-- The request selects at most one device of the registry. -/
def Alone (G : Suite UInt8 S P) (ctx : Server.ServerContext S) (server : Server.ServerState UInt8 P)
    (request : Server.AuthRequest UInt8 S P) : Prop :=
  ∀ id id' record record', server.reg.lookup id = some record → server.reg.lookup id' = some record' →
    Selected G ctx request record → Selected G ctx request record' → id = id'

def Selects (G : Suite UInt8 S P) (ctx : Server.ServerContext S) (server : Server.ServerState UInt8 P)
    (request : Server.AuthRequest UInt8 S P) (record : Server.DeviceRecord P) : Prop :=
  ∃ id, server.reg.lookup id = some record ∧ Selected G ctx request record ∧
    Server.computePid G record.pubkey request.nonceC request.ephC (ctx.staticPub G) = request.pid

/-- The handle of the request has an entry in the index exactly when an enrolled device has it, and then one of these. -/
def IndexAgrees (G : Suite UInt8 S P) (server : Server.ServerState UInt8 P) (request : Server.AuthRequest UInt8 S P) :
    Prop :=
  ∀ handle ∈ request.handleOpt,
    (∀ id record, server.handleIndex.lookup handle = some (id, record) →
      Server.computeDeviceHandle G record.pubkey = handle ∧ server.reg.lookup id = some record) ∧
    ∀ id record, server.reg.lookup id = some record → Server.computeDeviceHandle G record.pubkey = handle →
      ∃ entry, server.handleIndex.lookup handle = some entry

/-- The first selected device in the order of the C registry. -/
def FirstSelected (G : Suite UInt8 S P) (ctx : Server.ServerContext S) (server : CServer.ServerState)
    (request : Server.AuthRequest UInt8 S P) (record : Server.DeviceRecord P) : Prop :=
  ∃ id, FirstIn server.reg (fun entry => ∃ other, entry = rawRecord G entry.id other ∧ Selected G ctx request other)
    (rawRecord G id record)

/-- The device that the index has under the handle of the request, or the first one with its pid in the order in which
    the Rust server goes through its registry. -/
def Preferred (G : Suite UInt8 S P) (ctx : Server.ServerContext S) (moment : Server.Moment UInt8 P)
    (server : Server.ServerState UInt8 P) (request : Server.AuthRequest UInt8 S P) (record : Server.DeviceRecord P) :
    Prop :=
  match request.handleOpt with
  | some handle => ∃ id, server.handleIndex.lookup handle = some (id, record)
  | none => ∃ id, FirstIn (moment.regOrder.list server.reg) (fun entry => HasPid G ctx request entry.2) ⟨id, record⟩

theorem indexAgrees_of_indexed (indexed : rust.Indexed G) (request : Server.AuthRequest UInt8 S P) :
    IndexAgrees G rust request := by
  intro handle _
  refine ⟨fun id record found => indexed.sound found, ?_⟩
  intro id record stored own
  obtain ⟨entry, found⟩ := indexed.complete stored
  rw [Server.recordHandle, own] at found
  exact ⟨entry, found⟩

section Lookups

variable (m : so.Matches G)

include m

theorem computePid_eq (pub ephC serverPub : P) (nonceC : Block UInt8 32) :
    CImpl.computePid so (G.compress pub) nonceC (G.compress ephC) (G.compress serverPub) =
      Server.computePid G pub nonceC ephC serverPub := by
  rw [CImpl.computePid, m.sha256, Server.computePid, CImpl.lits_bytes, CImpl.lits_bytes]

theorem computeDeviceHandle_eq (pub : P) :
    CImpl.computeDeviceHandle so (G.compress pub) = Server.computeDeviceHandle G pub := by
  rw [CImpl.computeDeviceHandle, m.sha256, Server.computeDeviceHandle, CImpl.lits_bytes]

theorem SameServers.serverPub_eq (servers : SameServers G rustCtx cCtx rust c) :
    cCtx.serverPub so = G.compress (rustCtx.staticPub G) := by
  rw [CServer.ServerContext.serverPub, servers.serverSk, m.scalarmultBase, m.scalarBits_toBytes]
  rfl

omit m in
theorem SameServers.mem_reg_iff (servers : SameServers G rustCtx cCtx rust c) {id : Block UInt8 32} :
    rawRecord G id record ∈ c.reg ↔ rust.reg.lookup id = some record := by
  constructor
  · intro member
    obtain ⟨⟨pub, role⟩, stored, same⟩ := servers.entry member
    simp only [rawRecord, CServer.RegEntry.mk.injEq, G.compress_injective.eq_iff] at same
    obtain ⟨_, samePub, sameRole⟩ := same
    obtain ⟨pub', role'⟩ := record
    subst samePub sameRole
    exact stored
  · exact servers.rawRecord_mem

omit m in
theorem SameServers.find?_first (servers : SameServers G rustCtx cCtx rust c) {p : CServer.RegEntry → Bool}
    {has : Server.DeviceRecord P → Prop} (decides : ∀ id record, p (rawRecord G id record) = true ↔ has record)
    {entry : CServer.RegEntry} : c.reg.find? p = some entry ↔
      FirstIn c.reg (fun entry => ∃ record, entry = rawRecord G entry.id record ∧ has record) entry := by
  rw [find?_eq_some_iff_firstIn]
  apply FirstIn.congr
  intro entry member
  obtain ⟨record, _, same⟩ := servers.entry member
  constructor
  · intro holds
    rw [same, decides] at holds
    exact ⟨record, same, holds⟩
  · intro selected
    obtain ⟨other, same, holds⟩ := selected
    rw [same, decides]
    exact holds

/-- The C server takes the first device with the handle and then looks at its pid, or the first one with the pid. -/
theorem cFinds_first (servers : SameServers G rustCtx cCtx rust c) (shows : Shows G raw request) :
    CFinds G so cCtx c raw record ↔ FirstSelected G rustCtx c request record ∧ HasPid G rustCtx request record := by
  have sameHandle : raw.handle = request.handleOpt := congrArg Server.AuthHeader.handleOpt shows.header
  have pid : ∀ pub, CImpl.computePid so (G.compress pub) raw.nonceC raw.ephC (cCtx.serverPub so) =
      Server.computePid G pub request.nonceC request.ephC (rustCtx.staticPub G) := by
    intro pub
    rw [shows.nonceC, shows.ephC, servers.serverPub_eq m, computePid_eq m]
  unfold CFinds FirstSelected Selected HasPid CServer.findRecord
  rw [sameHandle, ← exists_and_right]
  apply exists_congr
  intro id
  cases handle : request.handleOpt with
  | none =>
    have decides : ∀ id record, decide (CImpl.computePid so (rawRecord G id record).pub raw.nonceC raw.ephC
        (cCtx.serverPub so) = raw.pid) = true ↔
        Server.computePid G record.pubkey request.nonceC request.ephC (rustCtx.staticPub G) = request.pid := by
      intro id record
      rw [decide_eq_true_iff, shows.pid]
      simp only [rawRecord, pid]
    simp only
    rw [CServer.lookupRecordByPid, servers.find?_first decides, iff_self_and]
    intro first
    obtain ⟨other, same, holds⟩ := first.holds
    rwa [rawRecord_injective same]
  | some wanted =>
    have decides : ∀ id record, decide (CImpl.computeDeviceHandle so (rawRecord G id record).pub = wanted) = true ↔
        Server.computeDeviceHandle G record.pubkey = wanted := by
      intro id record
      rw [decide_eq_true_iff]
      simp only [rawRecord, computeDeviceHandle_eq m]
    have searched : ∀ entry, c.reg.find? (fun entry => decide (CImpl.computeDeviceHandle so entry.pub = wanted)) = some entry ↔
        FirstIn c.reg (fun entry => ∃ other, entry = rawRecord G entry.id other ∧
          Server.computeDeviceHandle G other.pubkey = wanted) entry :=
      fun _ => servers.find?_first decides
    simp only [Option.bind_eq_bind, Option.bind_eq_some_iff, CServer.lookupRecordByHandle, Option.guard_eq_some',
      Option.pure_def, Option.some.injEq, searched]
    constructor
    · intro found
      obtain ⟨entry, first, _, matching, same⟩ := found
      subst same
      rw [rawRecord, pid, shows.pid] at matching
      exact ⟨first, matching⟩
    · intro found
      refine ⟨_, found.1, (), ?_, rfl⟩
      rw [rawRecord, pid, shows.pid]
      exact found.2

omit m in
theorem SameServers.firstSelected_iff (servers : SameServers G rustCtx cCtx rust c) (alone : Alone G rustCtx rust request) :
    FirstSelected G rustCtx c request record ↔
      ∃ id, rust.reg.lookup id = some record ∧ Selected G rustCtx request record := by
  unfold FirstSelected
  apply exists_congr
  intro id
  rw [firstIn_iff_of_alone, servers.mem_reg_iff]
  · apply and_congr_right
    intro _
    constructor
    · intro chosen
      obtain ⟨other, same, selected⟩ := chosen
      rwa [rawRecord_injective same]
    · intro selected
      exact ⟨record, rfl, selected⟩
  · intro a inA b inB chosenA chosenB
    obtain ⟨recordA, isA, selectedA⟩ := chosenA
    obtain ⟨recordB, isB, selectedB⟩ := chosenB
    rw [isA] at inA
    rw [isB] at inB
    have storedA := servers.mem_reg_iff.mp inA
    have storedB := servers.mem_reg_iff.mp inB
    have sameId := alone _ _ _ _ storedA storedB selectedA selectedB
    rw [sameId] at storedA
    have sameRecord : recordA = recordB := Option.some.inj (storedA.symm.trans storedB)
    rw [isA, isB, sameId, sameRecord]

theorem cFinds_iff (servers : SameServers G rustCtx cCtx rust c) (shows : Shows G raw request)
    (alone : Alone G rustCtx rust request) :
    CFinds G so cCtx c raw record ↔ Selects G rustCtx rust request record := by
  rw [cFinds_first m servers shows, servers.firstSelected_iff alone, ← exists_and_right]
  simp only [Selects, HasPid, and_assoc]

end Lookups

theorem rustFinds_preferred : RustFinds G rustCtx moment rust request record ↔
    Preferred G rustCtx moment rust request record ∧ HasPid G rustCtx request record := by
  unfold RustFinds Preferred Server.findRecord
  cases request.handleOpt with
  | none =>
    rw [← exists_and_right]
    apply exists_congr
    intro id
    have searched : ∀ entry, (moment.regOrder.list rust.reg).find? (fun entry => decide (Server.computePid G entry.2.pubkey
        request.nonceC request.ephC (rustCtx.staticPub G) = request.pid)) = some entry ↔
        FirstIn (moment.regOrder.list rust.reg) (fun entry => HasPid G rustCtx request entry.2) entry := by
      intro entry
      rw [find?_eq_some_iff_firstIn]
      exact FirstIn.congr fun _ _ => decide_eq_true_iff
    simp only
    rw [Server.lookupRecordByPid_eq_find?, ← searched]
    cases found : (moment.regOrder.list rust.reg).find? fun entry => decide (Server.computePid G entry.2.pubkey
        request.nonceC request.ephC (rustCtx.staticPub G) = request.pid) with
    | none => exact iff_of_false nofun fun both => by cases both.1
    | some entry =>
      obtain ⟨id', record'⟩ := entry
      have fits : HasPid G rustCtx request record' := ((searched _).mp found).holds
      simp only [Option.map_some, Except.ok.injEq, Option.some.injEq, Prod.mk.injEq, Sigma.mk.injEq, heq_eq_eq]
      constructor
      · intro here
        obtain ⟨rfl, rfl⟩ := here
        exact ⟨⟨rfl, rfl⟩, fits⟩
      · exact And.left
  | some handle =>
    rw [← exists_and_right]
    apply exists_congr
    intro id
    simp only
    cases found : rust.handleIndex.lookup handle with
    | none => exact iff_of_false nofun fun both => by cases both.1
    | some entry =>
      obtain ⟨id', record'⟩ := entry
      simp only [Option.some.injEq, Prod.mk.injEq]
      split
      case isTrue different =>
        refine iff_of_false nofun ?_
        intro both
        obtain ⟨⟨rfl, rfl⟩, fits⟩ := both
        exact different fits
      case isFalse same =>
        simp only [Except.ok.injEq, Prod.mk.injEq]
        constructor
        · intro here
          obtain ⟨rfl, rfl⟩ := here
          exact ⟨⟨rfl, rfl⟩, not_not.mp same⟩
        · exact And.left

theorem rustFinds_iff (agrees : IndexAgrees G rust request) (alone : Alone G rustCtx rust request) :
    RustFinds G rustCtx moment rust request record ↔ Selects G rustCtx rust request record := by
  rw [rustFinds_preferred]
  unfold Preferred Selects
  unfold Alone Selected at alone
  unfold Selected
  cases wanted : request.handleOpt with
  | none =>
    rw [wanted] at alone
    simp only at alone ⊢
    rw [← exists_and_right]
    apply exists_congr
    intro id
    rw [firstIn_iff_of_alone, moment.regOrder.mem_list]
    · simp only [HasPid, and_assoc]
    · intro a inA b inB pidA pidB
      obtain ⟨idA, recordA⟩ := a
      obtain ⟨idB, recordB⟩ := b
      have storedA := (moment.regOrder.mem_list _ _ _).mp inA
      have storedB := (moment.regOrder.mem_list _ _ _).mp inB
      have sameId := alone _ _ _ _ storedA storedB pidA pidB
      rw [sameId] at storedA
      have sameRecord : recordA = recordB := Option.some.inj (storedA.symm.trans storedB)
      rw [sameId, sameRecord]
  | some handle =>
    rw [wanted] at alone
    simp only at alone ⊢
    obtain ⟨sound, complete⟩ := agrees handle wanted
    rw [← exists_and_right]
    apply exists_congr
    intro id
    constructor
    · intro found
      obtain ⟨derived, stored⟩ := sound _ _ found.1
      exact ⟨stored, derived, found.2⟩
    · intro stands
      obtain ⟨stored, derived, pid⟩ := stands
      obtain ⟨⟨id', record'⟩, found⟩ := complete _ _ stored derived
      obtain ⟨derived', stored'⟩ := sound _ _ found
      have sameId := alone _ _ _ _ stored stored' derived derived'
      rw [← sameId] at stored'
      have sameRecord : record = record' := Option.some.inj (stored.symm.trans stored')
      rw [← sameId, ← sameRecord] at found
      exact ⟨found, pid⟩

/-- Both servers find the same record for a request that selects at most one enrolled device. -/
theorem finds_iff_of_alone (m : so.Matches G) (servers : SameServers G rustCtx cCtx rust c)
    (agrees : IndexAgrees G rust request) (shows : Shows G raw request) (alone : Alone G rustCtx rust request) :
    CFinds G so cCtx c raw record ↔ RustFinds G rustCtx moment rust request record := by
  rw [cFinds_iff m servers shows alone, rustFinds_iff agrees alone]

end ZkArche.Protocol

import ZkArche.CServer.Enrollment
import ZkArche.Protocol.RoleCredentials
import ZkArche.Protocol.SameDecisions
import ZkArche.Protocol.SameRegistry
import ZkArche.Server.RegistryFile

namespace ZkArche.Protocol

open Foundation

variable {S P : Type} [Field S] [AddCommGroup P] [Module S P]

/-- The states of a C server that was first started without files. -/
inductive Serves (so : CImpl.Sodium) : CServer.ServerState → Prop
  | starts {memory : Bool × Bool × Bool} {now : Nat} {server : CServer.ServerState}
    (booted : CServer.boot memory now .absent .absent = some server) : Serves so server
  | connects {server : CServer.ServerState} (ctx : CServer.ServerContext) (call : CServer.ClientCall)
    (conn : Conn UInt8) (before : Serves so server) :
    Serves so (CServer.handleClient so ctx call ⟨server, conn⟩).2.server
  | restarts {server next : CServer.ServerState} {memory : Bool × Bool × Bool} {now : Nat} (before : Serves so server)
    (booted : CServer.boot memory now server.registryFile server.replayFile = some next) : Serves so next

theorem Serves.sound {so : CImpl.Sodium} {server : CServer.ServerState} (serves : Serves so server) :
    server.Sound so := by
  induction serves with
  | starts booted =>
    apply CServer.sound_boot _ booted
    intro data mode impossible
    cases impossible
  | connects ctx call conn _ ih => exact CServer.keeps_handleClient call _ ih
  | restarts _ booted ih => exact CServer.sound_boot ih.file booted

def entryOf (G : Suite UInt8 S P) (record : Server.RegistryEntry UInt8 P) : CServer.RegEntry :=
  ⟨record.1, G.compress record.2.pubkey, G.compress record.2.roleCommitment⟩

section Registries

variable {G : Suite UInt8 S P} {so : CImpl.Sodium} {arr : List CServer.RegEntry}
  {records : List (Server.RegistryEntry UInt8 P)} {id pub roleCommitment : Block UInt8 32}

theorem registryBytes_entryOf (records : List (Server.RegistryEntry UInt8 P)) :
    CServer.registryBytes (records.map (entryOf G)) = Server.registryBytes G records := by
  rw [CServer.registryBytes, List.flatMap_def, List.map_map]
  rfl

theorem names_entryOf : (records.map (entryOf G)).map CServer.RegEntry.id = records.map Sigma.fst := by
  rw [List.map_map]
  rfl

theorem exists_records (same : so.Matches G) (checked : ∀ entry ∈ arr, entry.Checked so) :
    ∃ records : List (Server.RegistryEntry UInt8 P), arr = records.map (entryOf G) := by
  induction arr with
  | nil => exact ⟨[], rfl⟩
  | cons entry arr ih =>
    have own := checked entry List.mem_cons_self
    obtain ⟨pubkey, pub⟩ := (same.isValidPoint _).mp own.pub
    obtain ⟨roleCommitment, role⟩ := (same.isValidPoint _).mp own.roleCommitment
    obtain ⟨records, rest⟩ := ih fun other member => checked other (List.mem_cons_of_mem _ member)
    have first : entry = entryOf G ⟨entry.id, ⟨pubkey, roleCommitment⟩⟩ := by rw [entryOf, pub, role]
    exact ⟨⟨entry.id, ⟨pubkey, roleCommitment⟩⟩ :: records, by rw [List.map_cons, ← first, rest]⟩

theorem cBound_eq_some (names : (arr.map CServer.RegEntry.id).Nodup) :
    cBound arr id = some (pub, roleCommitment) ↔ (⟨id, pub, roleCommitment⟩ : CServer.RegEntry) ∈ arr := by
  unfold cBound CServer.regLookupRecord
  constructor
  · intro bound
    obtain ⟨entry, found, rest⟩ := Option.map_eq_some_iff.mp bound
    have named : entry.id = id := by simpa using List.find?_some found
    cases rest
    rw [← named]
    exact List.mem_of_find?_eq_some found
  · intro member
    cases found : arr.find? fun entry => entry.id = id with
    | none => exact absurd (decide_eq_true rfl) (List.find?_eq_none.mp found _ member)
    | some entry =>
      have named : entry.id = id := by simpa using List.find?_some found
      have own := List.inj_on_of_nodup_map names (List.mem_of_find?_eq_some found) member named
      rw [own]
      rfl

theorem rustBound_eq_some {reg : Server.Registry UInt8 P} :
    rustBound G reg id = some (pub, roleCommitment) ↔
      ∃ record, reg.lookup id = some record ∧ entryOf G ⟨id, record⟩ = ⟨id, pub, roleCommitment⟩ := by
  unfold rustBound entryOf
  rw [Option.map_eq_some_iff]
  simp only [Prod.mk.injEq, CServer.RegEntry.mk.injEq, true_and]

theorem cLoads_registry (reg : Server.Registry UInt8 P) (order : MapOrder (Block UInt8 32) (Server.DeviceRecord P))
    (mode : Nat) : ∃ loaded, CServer.loadRegistry true (.present (Server.registryBytes G (order.list reg)) mode) = some loaded ∧
      ∀ id, cBound loaded id = rustBound G reg id := by
  refine ⟨(order.list reg).map (entryOf G), ?_, ?_⟩
  · exact CServer.loadRegistry_present.mpr (registryBytes_entryOf _).symm
  · intro id
    have keys : ((order.list reg).map Sigma.fst).Nodup := by
      rw [((order.perm reg).map Sigma.fst).nodup_iff]
      exact reg.keys_nodup
    have names : (((order.list reg).map (entryOf G)).map CServer.RegEntry.id).Nodup := by rwa [names_entryOf]
    apply Option.ext
    intro ⟨pub, roleCommitment⟩
    rw [cBound_eq_some names, rustBound_eq_some, List.mem_map]
    constructor
    · intro ⟨record, listed, own⟩
      obtain ⟨name, record⟩ := record
      cases congrArg CServer.RegEntry.id own
      exact ⟨record, (order.mem_list reg _ _).mp listed, own⟩
    · intro ⟨record, found, own⟩
      exact ⟨⟨id, record⟩, (order.mem_list reg _ _).mpr found, own⟩

theorem pub_ne_identity (same : so.Matches G) {entry : CServer.RegEntry} (checked : entry.Checked so) :
    entry.pub ≠ G.compress 0 := by
  intro identity
  obtain ⟨c, cx, product⟩ := checked.proved
  rw [identity, same.scalarmult_zero c 0 (smul_zero _)] at product
  cases product

/-- The Rust loader reads a file of the C server into the same map exactly when no role commitment
    in it is the identity: it skips such a record. -/
theorem rustLoads_registry_iff [DecidableEq P] (same : so.Matches G) (sound : CServer.Sound so arr) (mode : Nat) :
    (∃ loaded, Server.loadRegistry G (.present (CServer.registryBytes arr) mode) = .ok loaded ∧
      ∀ id, rustBound G loaded id = cBound arr id) ↔
    ∀ entry ∈ arr, entry.roleCommitment ≠ G.compress 0 := by
  obtain ⟨records, rfl⟩ := exists_records same sound.checked
  have names := sound.names
  have keys : (records.map Sigma.fst).Nodup := by rwa [names_entryOf] at names
  have loads : Server.loadRegistry G (.present (CServer.registryBytes (records.map (entryOf G))) mode) =
      .ok (Server.Registry.ofRecords records) :=
    Server.loadRegistry_present.mpr ⟨records, registryBytes_entryOf records, rfl⟩
  constructor
  · intro ⟨loaded, run, agree⟩ entry member identity
    rw [loads] at run
    cases run
    have bound : cBound (records.map (entryOf G)) entry.id = some (entry.pub, entry.roleCommitment) :=
      (cBound_eq_some names).mpr member
    rw [← agree] at bound
    obtain ⟨record, found, own⟩ := rustBound_eq_some.mp bound
    have proper := ((Server.Registry.lookup_ofRecords keys).mp found).2.2
    have role : G.compress record.roleCommitment = entry.roleCommitment := congrArg CServer.RegEntry.roleCommitment own
    exact proper (G.compress_injective (role.trans identity))
  · intro proper
    refine ⟨_, loads, ?_⟩
    intro id
    apply Option.ext
    intro ⟨pub, roleCommitment⟩
    rw [cBound_eq_some names, rustBound_eq_some, List.mem_map]
    constructor
    · intro ⟨record, found, own⟩
      exact ⟨⟨id, record⟩, ((Server.Registry.lookup_ofRecords keys).mp found).1, own⟩
    · intro ⟨record, listed, own⟩
      obtain ⟨name, record⟩ := record
      cases congrArg CServer.RegEntry.id own
      have member : entryOf G ⟨id, record⟩ ∈ records.map (entryOf G) := List.mem_map_of_mem listed
      have keyed := pub_ne_identity same (sound.checked _ member)
      have committed := proper _ member
      refine ⟨record, (Server.Registry.lookup_ofRecords keys).mpr ⟨listed, ?_, ?_⟩, own⟩
      · intro zero
        exact keyed (by rw [entryOf, zero])
      · intro zero
        exact committed (by rw [entryOf, zero])

end Registries

variable [DecidableEq P]

def Cache.current : Cache → Finset CServer.ReplayKey
  | .c cache => cache.current.keys.toFinset
  | .rust cache => cache.current

def Cache.previous : Cache → Finset CServer.ReplayKey
  | .c cache => cache.previous.keys.toFinset
  | .rust cache => cache.previous

section Caches

variable {word : Nat} {saved : Cache} {data : List UInt8}

theorem Saves.lists (saves : Saves saved data) (small : saved.Small) :
    ∃ young old, data = Server.cacheFile young old ∧ SmallGeneration young ∧ SmallGeneration old ∧
      young.toFinset = saved.current ∧ old.toFinset = saved.previous := by
  cases saves with
  | c cache => exact ⟨_, _, bytes_eq cache, small.1, small.2, rfl, rfl⟩
  | rust cache order =>
    have younger : SmallGeneration (order.list cache.current) := by
      refine ⟨order.nodup _, ?_⟩
      rw [order.length_list]
      exact small.1
    have older : SmallGeneration (order.list cache.previous) := by
      refine ⟨order.nodup _, ?_⟩
      rw [order.length_list]
      exact small.2
    exact ⟨_, _, Server.serialize_eq order cache, younger, older, order.toFinset_list _, order.toFinset_list _⟩

theorem loads_cache (large : 32 ≤ word) (reached : Reached word saved) (saves : Saves saved data) (now mode : Nat) :
    (∃ loaded, CServer.replayCacheLoad (true, true) now (.present data mode) = some loaded ∧
      (Cache.c loaded).current = saved.current ∧ (Cache.c loaded).previous = saved.previous) ∧
    ∃ loaded, Server.ReplayCache.load word now (.present data mode) = .ok loaded ∧
      loaded.current = saved.current ∧ loaded.previous = saved.previous := by
  obtain ⟨young, old, rfl, younger, older, current, previous⟩ := saves.lists (reached.small large)
  constructor
  · obtain ⟨loaded, run⟩ := cLoad_of_memory younger older now mode
    obtain ⟨represents, represents', _, _⟩ := cLoad_cacheFile younger older run
    exact ⟨loaded, run, represents.toFinset.trans current, represents'.toFinset.trans previous⟩
  · exact ⟨_, rustLoad_cacheFile large younger older now mode, current, previous⟩

end Caches

/-- Each program reads the files that the other one saves, and makes the same of them: a registry of
    the C server, one of the Rust server, a replay cache of either, and the credentials that the two
    clients make with these blinds. -/
structure Interchangeable (G : Suite UInt8 S P) (so : CImpl.Sodium) (word : Nat) (cReg : List CServer.RegEntry)
    (rustReg : Server.Registry UInt8 P) (cache : Cache) (rustBlind cBlind : S) : Prop where
  cRegistry : ∀ file, ∃ loaded, Server.loadRegistry G (CServer.saveRegistry none cReg file).2 = .ok loaded ∧
    ∀ id, rustBound G loaded id = cBound cReg id
  rustRegistry : ∀ (order : MapOrder (Block UInt8 32) (Server.DeviceRecord P)) file, ∃ loaded,
    CServer.loadRegistry true (Server.saveRegistryAtomic G none (order.list rustReg) file).2 = some loaded ∧
    ∀ id, cBound loaded id = rustBound G rustReg id
  replayCache : ∀ data, Saves cache data → ∀ now mode,
    (∃ loaded, CServer.replayCacheLoad (true, true) now (.present data mode) = some loaded ∧
      (Cache.c loaded).current = cache.current ∧ (Cache.c loaded).previous = cache.previous) ∧
    ∃ loaded, Server.ReplayCache.load word now (.present data mode) = .ok loaded ∧
      loaded.current = cache.current ∧ loaded.previous = cache.previous
  rustCredential : CReadsCredential G so rustBlind
  cCredential : RustReadsCredential G so cBlind

section Files

variable {G : Suite UInt8 S P} {so : CImpl.Sodium} {word : Nat} {server : CServer.ServerState} {cache : Cache}

/-- The state files are interchangeable exactly when no device of the C server has the identity as
    its role commitment, and the credentials are not among the degenerate ones: the Rust client's
    with a blind that the C client cannot multiply, the C client's with the identity. -/
theorem state_files_interchangeable_iff (same : so.Matches G)
    (reduces : ∀ wide, G.fromBytesModOrderWide wide = (leNat wide.bytes : S)) (large : 32 ≤ word)
    (serves : Serves so server) (rustReg : Server.Registry UInt8 P) (reached : Reached word cache)
    (rustBlind cBlind : S) :
    Interchangeable G so word server.reg rustReg cache rustBlind cBlind ↔
      (∀ entry ∈ server.reg, entry.roleCommitment ≠ G.compress 0) ∧ rustBlind • attrH G ≠ 0 ∧
        Client.makeRoleCommitment G (Client.encodeRole 1) cBlind ≠ 0 := by
  have sound := serves.sound.reg
  constructor
  · intro interchangeable
    exact ⟨(rustLoads_registry_iff same sound 0o600).mp (interchangeable.cRegistry .absent),
      (cReadsCredential_iff same reduces).mp interchangeable.rustCredential,
      (rustReadsCredential_iff same reduces).mp interchangeable.cCredential⟩
  · intro ⟨committed, multiplies, proper⟩
    constructor
    · intro file
      exact (rustLoads_registry_iff same sound 0o600).mpr committed
    · intro order file
      exact cLoads_registry rustReg order 0o600
    · intro data saves now mode
      exact loads_cache large reached saves now mode
    · exact (cReadsCredential_iff same reduces).mpr multiplies
    · exact (rustReadsCredential_iff same reduces).mpr proper

end Files

theorem length_oneHash : ((1 : UInt8) :: List.replicate 63 0).length = 64 := rfl

def reducingHashes : Hashes 5 :=
  { constantHashes 5 (1 + 1) fun _ => Suite.untouched with
    fromBytesModOrderWide := fun wide => (leNat wide.bytes : ZMod 5)
    sha512 := fun _ => ⟨1 :: List.replicate 63 0, length_oneHash⟩ }

def reducingSuite : Suite UInt8 (ZMod 5) (ZMod 5) := smallSuite 5 primeFive_small reducingHashes

theorem reducingSuite_matches : reducingSuite.sodium.Matches reducingSuite := smallSuite_matches fun _ _ _ => rfl

theorem reducingSuite_reduces (wide : Block UInt8 64) :
    reducingSuite.fromBytesModOrderWide wide = (leNat wide.bytes : ZMod 5) := rfl

def enrollmentBytes (roleCommitment : ZMod 5) : List UInt8 :=
  CServer.msgSetup :: (CServer.setupRequestBytes [] (creenrollment roleCommitment) ++
    ((encodeResidue (1 : ZMod 5)).bytes ++ (encodeResidue (1 + 1 : ZMod 5)).bytes))

def enrollmentCall : CServer.ClientCall where
  moment := ⟨0, none⟩
  memory := true
  setup := ⟨Suite.untouched, zeroChallenge, encodeResidue (1 : ZMod 5)⟩
  auth := ⟨Suite.untouched, Suite.untouched, Suite.untouched⟩

def enrolledServer (roleCommitment : ZMod 5) : CServer.ServerState :=
  (CServer.handleClient reducingSuite.sodium openCContext enrollmentCall
    ⟨cFresh 0, .opened (enrollmentBytes roleCommitment)⟩).2.server

theorem enrolledServer_reg : ∀ roleCommitment ∈ [0, 1], (enrolledServer roleCommitment).reg =
    [⟨Suite.untouched, encodeResidue (1 : ZMod 5), encodeResidue roleCommitment⟩] := by
  decide +kernel

theorem enrolledServer_serves (roleCommitment : ZMod 5) :
    Serves reducingSuite.sodium (enrolledServer roleCommitment) := by
  have booted : CServer.boot (true, true, true) 0 .absent .absent = some (cFresh 0) := rfl
  exact .connects openCContext enrollmentCall _ (.starts booted)

theorem encodeResidue_one_ne_zero : encodeResidue (1 : ZMod 5) ≠ encodeResidue (0 : ZMod 5) := by decide

/-- A server with one device, a server with none and two credentials. -/
theorem state_files_interchangeable_iff_enrolled :
    Interchangeable reducingSuite reducingSuite.sodium 64 (enrolledServer 1).reg ∅ (.rust .empty) 1 1 := by
  refine (state_files_interchangeable_iff reducingSuite_matches reducingSuite_reduces (by decide)
    (enrolledServer_serves 1) ∅ .rustEmpty 1 1).mpr ⟨?_, by decide, by decide⟩
  rw [enrolledServer_reg 1 (by simp)]
  intro entry member
  rw [List.mem_singleton.mp member]
  exact encodeResidue_one_ne_zero

/-- A device is enrolled at the C server with the identity as its role commitment, and is unknown to
    a Rust server that goes on with the same file. -/
theorem identity_commitment_lost :
    Serves reducingSuite.sodium (enrolledServer 0) ∧
    ¬ ∃ loaded, Server.loadRegistry reducingSuite (CServer.saveRegistry none (enrolledServer 0).reg .absent).2 = .ok loaded ∧
      ∀ id, rustBound reducingSuite loaded id = cBound (enrolledServer 0).reg id := by
  have serves := enrolledServer_serves 0
  refine ⟨serves, ?_⟩
  intro restored
  have committed := (rustLoads_registry_iff reducingSuite_matches serves.sound.reg 0o600).mp restored
  rw [enrolledServer_reg 0 (by simp)] at committed
  exact committed _ (List.mem_singleton_self _) rfl

end ZkArche.Protocol

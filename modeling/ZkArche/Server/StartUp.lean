import ZkArche.Primitives.SmallSuite
import ZkArche.Server.RegistryFile
import ZkArche.Server.ReplayFile
import ZkArche.Server.Threads

namespace ZkArche.Server

open Foundation

variable {β S P : Type} [Octet β] [Field S] [AddCommGroup P] [Module S P]
variable [DecidableEq β] [DecidableEq P]

def unwrapOrDefault {α : Type} (default : α) : Except Failure α → Except Failure α
  | .ok value => .ok value
  | .error (.io _) => .ok default
  | .error (.panic message) => .error (.panic message)

/-- What `main` reads from the two state files before it listens. -/
def loadState (G : Suite β S P) (word now : Nat) (registryFile replayFile : StateFile β) :
    Except Failure (Registry β P × ReplayCache β) := do
  let reg ← unwrapOrDefault ∅ (loadRegistry G registryFile)
  let replay ← unwrapOrDefault .empty (ReplayCache.load word now replayFile)
  pure (reg, replay)

/-- What a registry file says. A file that does not exist says that no device is enrolled. -/
def RegistryDecodes (G : Suite β S P) : StateFile β → Registry β P → Prop
  | .absent, reg => reg = ∅
  | .unreadable _, _ => False
  | .present data _, reg => ∃ records, data = registryBytes G records ∧ reg = Registry.ofRecords records

def ReplayDecodes : StateFile β → ReplayCache β → Prop
  | .absent, cache => cache.current = ∅ ∧ cache.previous = ∅
  | .unreadable _, _ => False
  | .present data _, cache =>
    ∃ young old, HoldsKeys data young old ∧ cache.current = young.toFinset ∧ cache.previous = old.toFinset

/-- The file is absent or a sequence of records with two valid points each. -/
def WellFormedRegistry (G : Suite β S P) : StateFile β → Prop
  | .absent => True
  | .unreadable _ => False
  | .present data _ => ∃ records : List (RegistryEntry β P), data = registryBytes G records

/-- The file is absent or holds as many entries as its two counts say. -/
def WellFormedReplay : StateFile β → Prop
  | .absent => True
  | .unreadable _ => False
  | .present data _ => ∃ young old : List (ReplayKey β), HoldsKeys data young old

variable {G : Suite β S P} {word now : Nat} {registryFile replayFile : StateFile β} {reg : Registry β P}
  {replay : ReplayCache β}

theorem unwrapOrDefault_ok {α : Type} {default value : α} {result : Except Failure α}
    (run : unwrapOrDefault default result = .ok value) : value = result.toOption.getD default := by
  rcases result with (error | message) | value'
  · cases run
    rfl
  · cases run
  · cases run
    rfl

theorem unwrapOrDefault_noPanic {α : Type} {default value : α} {result : Except Failure α}
    (run : unwrapOrDefault default result = .ok value) : NoPanic result := by
  rcases result with (error | message) | value'
  · exact failsOnly_error id
  · cases run
  · exact failsOnly_ok _

theorem loadState_noPanic (started : loadState G word now registryFile replayFile = .ok (reg, replay)) :
    NoPanic (ReplayCache.load word now replayFile) := by
  obtain ⟨reg', ofReg, started⟩ := Except.bind_ok_iff.mp started
  obtain ⟨replay', ofReplay, done⟩ := Except.bind_ok_iff.mp started
  exact unwrapOrDefault_noPanic ofReplay

theorem loadState_ok (started : loadState G word now registryFile replayFile = .ok (reg, replay)) :
    reg = (loadRegistry G registryFile).toOption.getD ∅ ∧
      replay = (ReplayCache.load word now replayFile).toOption.getD .empty := by
  obtain ⟨reg', ofReg, started⟩ := Except.bind_ok_iff.mp started
  obtain ⟨replay', ofReplay, done⟩ := Except.bind_ok_iff.mp started
  cases done
  exact ⟨unwrapOrDefault_ok ofReg, unwrapOrDefault_ok ofReplay⟩

theorem boot_of_loadState {moment : Moment β P}
    (started : loadState G word moment.now registryFile replayFile = .ok (reg, replay)) :
    (boot G word moment registryFile replayFile).server.reg = reg ∧
      (boot G word moment registryFile replayFile).server.replay = replay := by
  obtain ⟨rfl, rfl⟩ := loadState_ok started
  exact ⟨rfl, rfl⟩

omit [Octet β] in
theorem registryDecodes_load (wellFormed : WellFormedRegistry G registryFile) :
    RegistryDecodes G registryFile ((loadRegistry G registryFile).toOption.getD ∅) := by
  cases registryFile with
  | absent => rfl
  | unreadable error => exact wellFormed
  | present data mode =>
    obtain ⟨records, bytes⟩ := wellFormed
    rw [loadRegistry_present.mpr ⟨records, bytes, rfl⟩]
    exact ⟨records, bytes, rfl⟩

theorem replayDecodes_load (fits : ∀ data mode, replayFile = .present data mode → data.length < 2 ^ word)
    (calm : NoPanic (ReplayCache.load word now replayFile)) (wellFormed : WellFormedReplay replayFile) :
    ReplayDecodes replayFile ((ReplayCache.load word now replayFile).toOption.getD .empty) := by
  cases replayFile with
  | absent => exact ⟨rfl, rfl⟩
  | unreadable error => exact wellFormed
  | present data mode =>
    obtain ⟨young, old, holds⟩ := wellFormed
    obtain ⟨younger, older⟩ := holds.tables (fits data mode rfl) calm
    rw [holds.load now (fits data mode rfl) younger older]
    exact ⟨young, old, holds, rfl, rfl⟩

omit [Octet β] in
theorem RegistryDecodes.wellFormed (decodes : RegistryDecodes G registryFile reg) :
    WellFormedRegistry G registryFile := by
  cases registryFile with
  | absent => trivial
  | unreadable error => exact decodes
  | present data mode =>
    obtain ⟨records, bytes, _⟩ := decodes
    exact ⟨records, bytes⟩

theorem ReplayDecodes.wellFormed (decodes : ReplayDecodes replayFile replay) : WellFormedReplay replayFile := by
  cases replayFile with
  | absent => trivial
  | unreadable error => exact decodes
  | present data mode =>
    obtain ⟨young, old, holds, _⟩ := decodes
    exact ⟨young, old, holds⟩

theorem malformed_serves_empty (started : loadState G word now registryFile replayFile = .ok (reg, replay)) :
    (¬ WellFormedRegistry G registryFile → reg = ∅) ∧ (¬ WellFormedReplay replayFile → replay = .empty) := by
  obtain ⟨ofReg, ofReplay⟩ := loadState_ok started
  constructor
  · intro malformed
    rw [ofReg]
    cases loaded : loadRegistry G registryFile with
    | error failure => rfl
    | ok loadedReg =>
      cases registryFile with
      | absent => exact absurd trivial malformed
      | unreadable error =>
        cases loaded
        rfl
      | present data mode =>
        obtain ⟨records, bytes, _⟩ := loadRegistry_present.mp loaded
        exact absurd ⟨records, bytes⟩ malformed
  · intro malformed
    rw [ofReplay]
    cases loaded : ReplayCache.load word now replayFile with
    | error failure => rfl
    | ok cache =>
      cases replayFile with
      | absent => exact absurd trivial malformed
      | unreadable error => cases loaded
      | present data mode =>
        obtain ⟨young, old, holds, _⟩ := holdsKeys_of_load loaded
        exact absurd ⟨young, old, holds⟩ malformed

/-- A server that starts holds what its files say exactly when both of them say something. -/
theorem serves_decoded_state_iff {moment : Moment β P} {state : Registry β P × ReplayCache β}
    (fits : ∀ data mode, replayFile = .present data mode → data.length < 2 ^ word)
    (started : loadState G word moment.now registryFile replayFile = .ok state) :
    (RegistryDecodes G registryFile (boot G word moment registryFile replayFile).server.reg ∧
      ReplayDecodes replayFile (boot G word moment registryFile replayFile).server.replay) ↔
    WellFormedRegistry G registryFile ∧ WellFormedReplay replayFile := by
  obtain ⟨sameReg, sameReplay⟩ := boot_of_loadState started
  obtain ⟨ofReg, ofReplay⟩ := loadState_ok started
  rw [sameReg, sameReplay]
  constructor
  · rintro ⟨registry, cache⟩
    exact ⟨registry.wellFormed, cache.wellFormed⟩
  · rintro ⟨registry, cache⟩
    rw [ofReg, ofReplay]
    exact ⟨registryDecodes_load registry, replayDecodes_load fits (loadState_noPanic started) cache⟩

def wholeRegistryFile : StateFile UInt8 := .present (registryBytes toySuite [⟨zeros, ⟨1, 1⟩⟩]) 0o600
def wholeReplayFile : StateFile UInt8 := .present (cacheFile [replayKey zeros zeros] []) 0o600

theorem whole_registry_loads :
    loadRegistry toySuite wholeRegistryFile = .ok (Registry.ofRecords [⟨zeros, ⟨1, 1⟩⟩]) :=
  loadRegistry_present.mpr ⟨_, rfl, rfl⟩

theorem whole_replay_loads : ReplayCache.load 64 0 wholeReplayFile =
    .ok { current := [replayKey zeros zeros].toFinset, previous := [].toFinset, dirty := false, pendingInserts := 0
          lastPersist := some 0 } :=
  load_cacheFile 0 (by decide) (by decide) (by decide) (withCapacity_ok (by decide) (by decide))
    (withCapacity_ok (by decide) (by decide))

/-- A server that starts from these files holds what they say. -/
theorem serves_decoded_state_iff_whole :
    (WellFormedRegistry toySuite wholeRegistryFile ∧ WellFormedReplay wholeReplayFile) ∧
    RegistryDecodes toySuite wholeRegistryFile (boot toySuite 64 .quiet wholeRegistryFile wholeReplayFile).server.reg ∧
    ReplayDecodes wholeReplayFile (boot toySuite 64 .quiet wholeRegistryFile wholeReplayFile).server.replay := by
  have fits : ∀ data mode, wholeReplayFile = .present data mode → data.length < 2 ^ 64 := by
    intro data mode same
    cases same
    rw [length_cacheFile]
    decide
  obtain ⟨state, started⟩ : ∃ state, loadState toySuite 64 0 wholeRegistryFile wholeReplayFile = .ok state := by
    rw [loadState, whole_registry_loads, whole_replay_loads]
    exact ⟨_, rfl⟩
  have wellFormed : WellFormedRegistry toySuite wholeRegistryFile ∧ WellFormedReplay wholeReplayFile :=
    ⟨⟨[⟨zeros, ⟨1, 1⟩⟩], rfl⟩, [replayKey zeros zeros], [], cacheFile_holdsKeys (by decide) (by decide)⟩
  refine ⟨wellFormed, ?_⟩
  apply (serves_decoded_state_iff fits _).mpr wellFormed
  · exact state
  · exact started

def truncatedRegistry : List UInt8 := (registryBytes toySuite [⟨zeros, ⟨1, 1⟩⟩]).dropLast

def truncatedRegistryFile : StateFile UInt8 := .present truncatedRegistry 0o600
def truncatedReplayFile : StateFile UInt8 := .present (List.replicate 7 0) 0o600

theorem truncatedRegistryFile_malformed : ¬ WellFormedRegistry toySuite truncatedRegistryFile := by
  intro wellFormed
  obtain ⟨records, bytes⟩ := wellFormed
  have lengths := congrArg List.length bytes
  rw [length_registryBytes] at lengths
  have truncated : truncatedRegistry.length = 95 := rfl
  omega

theorem truncatedReplayFile_malformed : ¬ WellFormedReplay truncatedReplayFile := by
  intro wellFormed
  obtain ⟨young, old, holds⟩ := wellFormed
  have header := holds.header
  rw [List.length_replicate] at header
  omega

theorem truncated_starts : ∃ state, loadState toySuite 64 0 truncatedRegistryFile truncatedReplayFile = .ok state := by
  have registry : loadRegistry toySuite truncatedRegistryFile = .error (invalidData
      "registry.bin corrupt length (v2 expects 96-byte chunks; re-enroll if upgrading from v1)") := rfl
  have cache : ReplayCache.load 64 0 truncatedReplayFile = .error (invalidData "replay cache truncated") := rfl
  rw [loadState, registry, cache]
  exact ⟨_, rfl⟩

/-- A server starts with no device and no key although both of its files held some. -/
theorem truncated_files_serve_empty :
    loadState toySuite 64 0 truncatedRegistryFile truncatedReplayFile = .ok (∅, .empty) ∧
    ¬ RegistryDecodes toySuite truncatedRegistryFile ∅ ∧
    ¬ ReplayDecodes truncatedReplayFile .empty := by
  obtain ⟨⟨reg, replay⟩, started⟩ := truncated_starts
  obtain ⟨noDevice, noKey⟩ := malformed_serves_empty started
  rw [started, noDevice truncatedRegistryFile_malformed, noKey truncatedReplayFile_malformed]
  exact ⟨rfl, fun decodes => truncatedRegistryFile_malformed decodes.wellFormed,
    fun decodes => truncatedReplayFile_malformed decodes.wellFormed⟩

end ZkArche.Server

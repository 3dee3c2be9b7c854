import ZkArche.CServer.RegistryFile
import ZkArche.Foundation.Runs
import ZkArche.Server.AtomicWrite

namespace ZkArche.CServer

open Foundation Foundation.Posix CImpl
open Server (tmpPath tmpPath_ne stateFile)

def registryBin : String := "state/server/registry.bin"
def registryBak : String := "state/server/registry.bak"

theorem registryBin_ne_bak : registryBin ≠ registryBak := by decide

/-- Where a call of `save_registry` stands. `accepted` bytes were given to `fwrite`, and the stream
    has let `flushed` of them out of its buffer. -/
inductive SavePc where
  | ready
  | moved
  | writing (fd accepted flushed : Nat)
  | flushed (fd flushed : Nat)
  | synced (fd flushed : Nat)
  | closed (flushed : Nat)
  | restricted (flushed : Nat)
  | returned (result : Int)

structure Saving where
  pc : SavePc
  volume : Volume UInt8

/-- The next call that `save_registry` makes succeeds or fails. On the way, or before it fails, the
    stream may write out this many of the bytes in its buffer. -/
inductive SaveAction where
  | succeed (amount : Nat)
  | fail (amount : Nat)

/-- Writes out the bytes of the stream behind the first `flushed` ones, up to `upto`. -/
def flushTo (data : List UInt8) (fd flushed upto : Nat) (volume : Volume UInt8) : Volume UInt8 :=
  volume.writeAt 0 fd flushed ((data.drop flushed).take (upto - flushed))

/-- One step of `save_registry`, with the results that it looks at and those that it does not. -/
def Saving.perform (new : List RegEntry) (saving : Saving) : SaveAction → Option Saving
  | .succeed amount =>
    let data := registryBytes new
    match saving.pc with
    | .ready =>
      -- rename is called only when `registry.bin` is there
      match saving.volume.rename registryBin registryBak registryBin_ne_bak with
      | some volume => some ⟨.moved, volume⟩
      | none => some ⟨.moved, saving.volume⟩
    | .moved =>
      let opening := saving.volume.openTruncate (tmpPath registryBin) 0o666
      some ⟨.writing opening.1 0 0, opening.2⟩
    | .writing fd accepted flushed =>
      if accepted < data.length then
        let upto := min (flushed + amount) (accepted + 32)
        some ⟨.writing fd (accepted + 32) upto, flushTo data fd flushed upto saving.volume⟩
      else some ⟨.flushed fd data.length, flushTo data fd flushed data.length saving.volume⟩
    | .flushed fd flushed => some ⟨.synced fd flushed, saving.volume.sync fd⟩
    | .synced fd flushed => some ⟨.closed data.length, flushTo data fd flushed data.length saving.volume⟩
    | .closed flushed => some ⟨.restricted flushed, (saving.volume.chmod (tmpPath registryBin) 0o600).getD saving.volume⟩
    | .restricted _ =>
      match saving.volume.rename (tmpPath registryBin) registryBin (tmpPath_ne registryBin) with
      | some volume => some ⟨.returned 0, volume⟩
      | none => some ⟨.returned (-1), saving.volume⟩
    | .returned _ => none
  | .fail amount =>
    let data := registryBytes new
    match saving.pc with
    | .ready => some ⟨.moved, saving.volume⟩
    | .moved => some ⟨.returned (-1), saving.volume⟩
    | .writing fd accepted flushed =>
      if accepted < data.length then
        let upto := min (flushed + amount) (accepted + 32)
        some ⟨.returned (-1), flushTo data fd flushed upto saving.volume⟩
      else
        let upto := min (flushed + amount) data.length
        some ⟨.flushed fd upto, flushTo data fd flushed upto saving.volume⟩
    | .flushed fd flushed => some ⟨.synced fd flushed, saving.volume⟩
    | .synced fd flushed =>
      let upto := min (flushed + amount) data.length
      some ⟨.closed upto, flushTo data fd flushed upto saving.volume⟩
    | .closed flushed => some ⟨.restricted flushed, saving.volume⟩
    | .restricted _ => some ⟨.returned (-1), saving.volume⟩
    | .returned _ => none

/-- What `load_registry` finds when the call is stopped here. -/
def Saving.loads (saving : Saving) : Option (List RegEntry) :=
  loadRegistry true (stateFile saving.volume registryBin)

/-- The entries are exactly the old ones or exactly the new ones. -/
def Survives (old new : List RegEntry) (saving : Saving) : Prop :=
  saving.loads = some old ∨ saving.loads = some new

/-- The step takes no entries away that the new registry does not replace, and what the stream has let out by the last
    rename is the whole of the new registry, or the old one when the new one begins with it. -/
def Careful (old new : List RegEntry) (saving : Saving) : SaveAction → Prop
  | .fail _ => True
  | .succeed _ =>
    match saving.pc with
    | .ready => stateFile saving.volume registryBin = .absent ∨ old = [] ∨ new = []
    | .restricted flushed => flushed = (registryBytes new).length ∨ old <+: new ∧ flushed = (registryBytes old).length
    | _ => True

def Written (volume : Volume UInt8) (fd : Nat) (content : List UInt8) : Prop :=
  volume.names (tmpPath registryBin) = some fd ∧ (volume.inode fd).content = content

def Saving.Known (old new : List RegEntry) (saving : Saving) : Prop :=
  let data := registryBytes new
  match saving.pc with
  | .ready => saving.loads = some old
  | .writing fd accepted flushed => flushed ≤ accepted ∧ accepted ≤ data.length ∧ accepted % 32 = 0 ∧
      Written saving.volume fd (data.take flushed)
  | .flushed fd flushed => flushed ≤ data.length ∧ Written saving.volume fd (data.take flushed)
  | .synced fd flushed => flushed ≤ data.length ∧ Written saving.volume fd (data.take flushed)
  | .closed flushed => flushed ≤ data.length ∧ ∃ fd, Written saving.volume fd (data.take flushed)
  | .restricted flushed => flushed ≤ data.length ∧ ∃ fd, Written saving.volume fd (data.take flushed)
  | _ => True

section Files

variable {old new : List RegEntry} {volume after : Volume UInt8} {data content : List UInt8} {fd flushed upto : Nat}

theorem stateFile_eq_of_file {path : String} (same : after.file path = volume.file path) :
    stateFile after path = stateFile volume path := by
  rw [stateFile, stateFile, same]

theorem stateFile_modify (named : volume.names (tmpPath registryBin) = some fd) (change : Inode UInt8 → Inode UInt8) :
    stateFile (volume.modify fd change) registryBin = stateFile volume registryBin :=
  stateFile_eq_of_file (Volume.modify_file_of_ne change (Server.path_ne_of_tmp named))

theorem stateFile_openTruncate (mode : Nat) :
    stateFile (volume.openTruncate (tmpPath registryBin) mode).2 registryBin = stateFile volume registryBin :=
  stateFile_eq_of_file ((volume.openTruncate_spec (tmpPath registryBin) mode).2.2 registryBin (tmpPath_ne _).symm).1

theorem chmod_written (written : Written volume fd content) (mode : Nat) :
    Written ((volume.chmod (tmpPath registryBin) mode).getD volume) fd content ∧
      (((volume.chmod (tmpPath registryBin) mode).getD volume).inode fd).mode = mode ∧
      stateFile ((volume.chmod (tmpPath registryBin) mode).getD volume) registryBin = stateFile volume registryBin := by
  obtain ⟨named, holds⟩ := written
  have changed : volume.chmod (tmpPath registryBin) mode = some (volume.modify fd fun inode => { inode with mode }) := by
    rw [Volume.chmod, named, Option.map_some]
  rw [changed, Option.getD_some]
  refine ⟨⟨named, ?_⟩, ?_, stateFile_modify named _⟩
  · rw [Volume.modify_inode_self]
    exact holds
  · rw [Volume.modify_inode_self]

theorem flushTo_written (written : Written volume fd (data.take flushed)) (forward : flushed ≤ upto)
    (inside : upto ≤ data.length) : Written (flushTo data fd flushed upto volume) fd (data.take upto) := by
  refine ⟨written.1, ?_⟩
  rw [flushTo, Volume.writeAt, Volume.modify_inode_self]
  simp only [written.2]
  rw [Server.overwrite_take (by omega), List.length_take, List.length_drop]
  congr 1
  omega

theorem take_registryBytes (new : List RegEntry) (count : Nat) :
    (registryBytes new).take (count * 96) = registryBytes (new.take count) := by
  induction new generalizing count with
  | nil => simp [registryBytes]
  | cons entry new ih =>
    cases count with
    | zero => simp [registryBytes]
    | succ count =>
      have further : (count + 1) * 96 = entry.bytes.length + count * 96 := by rw [entry.length_bytes]; omega
      rw [registryBytes] at ih ⊢
      rw [List.flatMap_cons, further, List.take_length_add_append, ih, List.take_succ_cons]
      rfl

/-- The first bytes of a registry are another one exactly when it begins with it and they end where it does. -/
theorem take_eq_registryBytes (inside : flushed ≤ (registryBytes new).length) :
    (registryBytes new).take flushed = registryBytes old ↔ old <+: new ∧ flushed = (registryBytes old).length := by
  constructor
  · intro same
    have length : flushed = (registryBytes old).length := by
      rw [← same, List.length_take, Nat.min_eq_left inside]
    have count : flushed = old.length * 96 := by rw [length, length_registryBytes]
    rw [count, take_registryBytes] at same
    have prefixed : old = new.take old.length := (registryBytes_injective same).symm
    exact ⟨prefixed ▸ List.take_prefix _ _, length⟩
  · intro begins
    obtain ⟨⟨rest, rfl⟩, length⟩ := begins
    rw [length, registryBytes, registryBytes, List.flatMap_append, List.take_left]

theorem take_loads {mode : Nat} (inside : flushed ≤ (registryBytes new).length) :
    (loadRegistry true (.present ((registryBytes new).take flushed) mode) = some old ∨
      loadRegistry true (.present ((registryBytes new).take flushed) mode) = some new) ↔
    flushed = (registryBytes new).length ∨ old <+: new ∧ flushed = (registryBytes old).length := by
  rw [loadRegistry_present, loadRegistry_present, take_eq_registryBytes inside, take_eq_registryBytes inside, or_comm]
  exact or_congr (and_iff_right (List.prefix_refl new)) Iff.rfl

end Files

section Steps

variable {old new : List RegEntry} {saving next : Saving} {action : SaveAction}

/-- What one step does to `registry.bin`. -/
inductive Touches (old new : List RegEntry) (saving : Saving) (action : SaveAction) (next : Saving) : Prop where
  | none (careful : Careful old new saving action)
      (same : stateFile next.volume registryBin = stateFile saving.volume registryBin)
  | removed (amount : Nat) (succeeds : action = .succeed amount) (first : saving.pc = .ready)
      (there : stateFile saving.volume registryBin ≠ .absent)
      (gone : stateFile next.volume registryBin = .absent)
  | replaced (amount flushed mode : Nat) (succeeds : action = .succeed amount) (last : saving.pc = .restricted flushed)
      (inside : flushed ≤ (registryBytes new).length)
      (moved : stateFile next.volume registryBin = .present ((registryBytes new).take flushed) mode)

theorem ready_spec {amount : Nat} (first : saving.pc = .ready)
    (taken : saving.perform new (.succeed amount) = some next) :
    next.Known old new ∧ Touches old new saving (.succeed amount) next := by
  rw [Saving.perform, first] at taken
  simp only at taken
  split at taken
  case h_1 volume renamed =>
    cases taken
    obtain ⟨fd, there, _, _, gone⟩ := Volume.rename_some renamed
    refine ⟨trivial, .removed amount rfl first ?_ ?_⟩
    · rw [stateFile, Volume.file, there]
      simp
    · show stateFile volume registryBin = .absent
      rw [stateFile, Volume.file, gone]
      rfl
  case h_2 missing =>
    cases taken
    have absent : stateFile saving.volume registryBin = .absent := by
      cases named : saving.volume.names registryBin with
      | none =>
        rw [stateFile, Volume.file, named]
        rfl
      | some fd =>
        obtain ⟨moved, renamed⟩ := Volume.rename_isSome registryBin_ne_bak named
        rw [renamed] at missing
        cases missing
    refine ⟨trivial, .none ?_ rfl⟩
    rw [Careful, first]
    exact .inl absent

theorem restricted_moves {amount flushed fd : Nat} {content : List UInt8} (last : saving.pc = .restricted flushed)
    (written : Written saving.volume fd content) (taken : saving.perform new (.succeed amount) = some next) :
    next.pc = .returned 0 ∧ stateFile next.volume registryBin = .present content (saving.volume.inode fd).mode := by
  obtain ⟨named, holds⟩ := written
  obtain ⟨moved, renamed⟩ := Volume.rename_isSome (tmpPath_ne registryBin) named
  rw [Saving.perform, last] at taken
  simp only [renamed] at taken
  cases taken
  obtain ⟨fd', named', inodes, target, _⟩ := Volume.rename_some renamed
  cases named.symm.trans named'
  refine ⟨rfl, ?_⟩
  show stateFile moved registryBin = _
  rw [stateFile, Volume.file, target, inodes]
  simp only [Option.map_some, holds]

theorem careful_between (afterFirst : saving.pc ≠ .ready) (beforeLast : ∀ flushed, saving.pc ≠ .restricted flushed) :
    Careful old new saving action := by
  cases action with
  | fail amount => trivial
  | succeed amount =>
    cases position : saving.pc with
    | ready => exact absurd position afterFirst
    | restricted flushed => exact absurd position (beforeLast flushed)
    | _ =>
      rw [Careful, position]
      trivial

theorem succeed_spec {amount : Nat} (known : saving.Known old new)
    (taken : saving.perform new (.succeed amount) = some next) :
    next.Known old new ∧ Touches old new saving (.succeed amount) next := by
  have length := length_registryBytes new
  cases position : saving.pc with
  | ready => exact ready_spec position taken
  | moved =>
    have careful : Careful old new saving (.succeed amount) := careful_between (by simp [position]) (by simp [position])
    rw [Saving.perform, position] at taken
    cases taken
    obtain ⟨named, empty, _⟩ := saving.volume.openTruncate_spec (tmpPath registryBin) 0o666
    exact ⟨⟨Nat.le_refl 0, Nat.zero_le _, rfl, named, empty⟩, .none careful (stateFile_openTruncate _)⟩
  | writing fd accepted flushed =>
    have careful : Careful old new saving (.succeed amount) := careful_between (by simp [position]) (by simp [position])
    rw [Saving.Known, position] at known
    obtain ⟨behind, inside, aligned, written⟩ := known
    rw [Saving.perform, position] at taken
    simp only at taken
    split at taken <;> cases taken
    · exact ⟨⟨Nat.min_le_right _ _, by omega, by omega, flushTo_written written (by omega) (by omega)⟩,
        .none careful (stateFile_modify written.1 _)⟩
    · exact ⟨⟨Nat.le_refl _, flushTo_written written (by omega) (Nat.le_refl _)⟩,
        .none careful (stateFile_modify written.1 _)⟩
  | flushed fd flushed =>
    have careful : Careful old new saving (.succeed amount) := careful_between (by simp [position]) (by simp [position])
    rw [Saving.Known, position] at known
    obtain ⟨inside, named, content⟩ := known
    rw [Saving.perform, position] at taken
    cases taken
    exact ⟨⟨inside, named, by rw [Volume.sync, Volume.modify_inode_self]; exact content⟩,
      .none careful (stateFile_modify named _)⟩
  | synced fd flushed =>
    have careful : Careful old new saving (.succeed amount) := careful_between (by simp [position]) (by simp [position])
    rw [Saving.Known, position] at known
    obtain ⟨inside, written⟩ := known
    rw [Saving.perform, position] at taken
    cases taken
    exact ⟨⟨Nat.le_refl _, fd, flushTo_written written inside (Nat.le_refl _)⟩,
      .none careful (stateFile_modify written.1 _)⟩
  | closed flushed =>
    have careful : Careful old new saving (.succeed amount) := careful_between (by simp [position]) (by simp [position])
    rw [Saving.Known, position] at known
    obtain ⟨inside, fd, written⟩ := known
    rw [Saving.perform, position] at taken
    cases taken
    obtain ⟨kept, _, same⟩ := chmod_written written 0o600
    exact ⟨⟨inside, fd, kept⟩, .none careful same⟩
  | restricted flushed =>
    rw [Saving.Known, position] at known
    obtain ⟨inside, fd, written⟩ := known
    obtain ⟨ended, moved⟩ := restricted_moves position written taken
    exact ⟨by rw [Saving.Known, ended]; trivial, .replaced amount flushed _ rfl position inside moved⟩
  | returned result =>
    rw [Saving.perform, position] at taken
    cases taken

theorem fail_spec {amount : Nat} (known : saving.Known old new)
    (taken : saving.perform new (.fail amount) = some next) :
    next.Known old new ∧ stateFile next.volume registryBin = stateFile saving.volume registryBin := by
  cases position : saving.pc with
  | writing fd accepted flushed =>
    rw [Saving.Known, position] at known
    obtain ⟨behind, inside, aligned, written⟩ := known
    rw [Saving.perform, position] at taken
    simp only at taken
    split at taken <;> cases taken
    · exact ⟨trivial, stateFile_modify written.1 _⟩
    · exact ⟨⟨Nat.min_le_right _ _, flushTo_written written (by omega) (Nat.min_le_right _ _)⟩,
        stateFile_modify written.1 _⟩
  | synced fd flushed =>
    rw [Saving.Known, position] at known
    obtain ⟨inside, written⟩ := known
    rw [Saving.perform, position] at taken
    cases taken
    exact ⟨⟨Nat.min_le_right _ _, fd, flushTo_written written (by omega) (Nat.min_le_right _ _)⟩,
      stateFile_modify written.1 _⟩
  | flushed fd flushed =>
    rw [Saving.Known, position] at known
    rw [Saving.perform, position] at taken
    cases taken
    exact ⟨known, rfl⟩
  | closed flushed =>
    rw [Saving.Known, position] at known
    rw [Saving.perform, position] at taken
    cases taken
    exact ⟨known, rfl⟩
  | returned result =>
    rw [Saving.perform, position] at taken
    cases taken
  | _ =>
    rw [Saving.perform, position] at taken
    cases taken
    exact ⟨trivial, rfl⟩

theorem perform_spec (known : saving.Known old new) (taken : saving.perform new action = some next) :
    next.Known old new ∧ Touches old new saving action next := by
  cases action with
  | succeed amount => exact succeed_spec known taken
  | fail amount =>
    obtain ⟨kept, same⟩ := fail_spec known taken
    exact ⟨kept, .none trivial same⟩

/-- A step from a point that survives a crash leads to another one exactly when it is careful. -/
theorem survives_iff_careful (known : saving.Known old new) (survives : Survives old new saving)
    (taken : saving.perform new action = some next) : Survives old new next ↔ Careful old new saving action := by
  obtain ⟨_, touches⟩ := perform_spec known taken
  cases touches with
  | none careful same =>
    refine iff_of_true ?_ careful
    unfold Survives Saving.loads at survives ⊢
    rwa [same]
  | removed amount succeeds first there gone =>
    rw [succeeds, Careful, first]
    unfold Survives Saving.loads
    rw [gone]
    simp only [loadRegistry, Option.some.injEq]
    constructor
    · rintro (empty | empty)
      · exact .inr (.inl empty.symm)
      · exact .inr (.inr empty.symm)
    · rintro (absent | empty | empty)
      · exact absurd absent there
      · exact .inl empty.symm
      · exact .inr empty.symm
  | replaced amount flushed mode succeeds last inside moved =>
    rw [succeeds, Careful, last]
    unfold Survives Saving.loads
    rw [moved]
    exact take_loads inside

end Steps

/-- A call of `save_registry` survives a crash after each of its steps exactly when no registry with entries is renamed
    away, unless it is to become empty, and by the last rename the flushes have let out all the bytes of the new registry,
    or those of the old one that it begins with. -/
theorem save_survives_crashes_iff {old new : List RegEntry} {start : Volume UInt8} {actions : List SaveAction}
    (stored : loadRegistry true (stateFile start registryBin) = some old) :
    (∀ count saving, stateAfter (Saving.perform new) ⟨.ready, start⟩ actions count = some saving →
      Survives old new saving) ↔
    ∀ count saving action next, actions[count]? = some action →
      stateAfter (Saving.perform new) ⟨.ready, start⟩ actions count = some saving →
      saving.perform new action = some next → Careful old new saving action := by
  have known : Saving.Known old new ⟨.ready, start⟩ := stored
  exact forall_crashPoints_iff known (.inl stored) (fun _ _ _ known taken => (perform_spec known taken).1)
    fun _ _ _ known survives taken => survives_iff_careful known survives taken

section Uninterrupted

variable {old new : List RegEntry} {saving next : Saving}

/-- What a call that no failure meets behind its first rename has done by each of its points. -/
def Saving.Done (new : List RegEntry) (saving : Saving) : Prop :=
  let data := registryBytes new
  match saving.pc with
  | .ready => False
  | .flushed _ flushed => flushed = data.length
  | .synced _ flushed => flushed = data.length
  | .closed flushed => flushed = data.length
  | .restricted flushed => flushed = data.length ∧ ∃ fd, Written saving.volume fd data ∧ (saving.volume.inode fd).mode = 0o600
  | .returned result => result = 0 ∧ stateFile saving.volume registryBin = .present data 0o600
  | _ => True

theorem done_next {amount : Nat} (known : saving.Known old new) (done : saving.Done new)
    (taken : saving.perform new (.succeed amount) = some next) : next.Done new := by
  cases position : saving.pc with
  | ready =>
    rw [Saving.Done, position] at done
    exact done.elim
  | moved =>
    rw [Saving.perform, position] at taken
    cases taken
    trivial
  | writing fd accepted flushed =>
    rw [Saving.perform, position] at taken
    simp only at taken
    split at taken <;> cases taken
    · trivial
    · exact rfl
  | flushed fd flushed =>
    rw [Saving.Done, position] at done
    rw [Saving.perform, position] at taken
    cases taken
    exact done
  | synced fd flushed =>
    rw [Saving.perform, position] at taken
    cases taken
    exact rfl
  | closed flushed =>
    rw [Saving.Done, position] at done
    rw [Saving.Known, position] at known
    obtain ⟨_, fd, written⟩ := known
    rw [done, List.take_length] at written
    rw [Saving.perform, position] at taken
    cases taken
    obtain ⟨kept, mode, _⟩ := chmod_written written 0o600
    exact ⟨done, fd, kept, mode⟩
  | restricted flushed =>
    rw [Saving.Done, position] at done
    obtain ⟨_, fd, written, mode⟩ := done
    obtain ⟨ended, moved⟩ := restricted_moves position written taken
    rw [Saving.Done, ended]
    exact ⟨rfl, by rw [moved, mode]⟩
  | returned result =>
    rw [Saving.perform, position] at taken
    cases taken

theorem careful_of_done {action : SaveAction} (done : saving.Done new) : Careful old new saving action := by
  cases action with
  | fail amount => trivial
  | succeed amount =>
    rw [Saving.Done] at done
    rw [Careful]
    cases position : saving.pc with
    | ready =>
      rw [position] at done
      exact done.elim
    | restricted flushed =>
      rw [position] at done
      exact .inl done.1
    | _ => trivial

variable {start : Volume UInt8} {first : SaveAction} {rest : List SaveAction} {count : Nat}

theorem first_moved (taken : Saving.perform new ⟨.ready, start⟩ first = some next) :
    next.Known old new ∧ next.Done new := by
  have moved : next.pc = .moved := by
    cases first with
    | fail amount =>
      cases taken
      rfl
    | succeed amount =>
      rw [Saving.perform] at taken
      simp only at taken
      split at taken <;> cases taken <;> rfl
  rw [Saving.Known, Saving.Done, moved]
  exact ⟨trivial, trivial⟩

theorem uninterrupted_done (later : ∀ action ∈ rest, ∃ amount, action = .succeed amount)
    (reached : stateAfter (Saving.perform new) ⟨.ready, start⟩ (first :: rest) (count + 1) = some saving) :
    saving.Done new := by
  obtain ⟨next, taken, further⟩ := Option.bind_eq_some_iff.mp reached
  have run : Run (Saving.perform new) (fun _ action => ∃ amount, action = .succeed amount) next saving :=
    .of_foldlM (fun _ action member => later action (List.mem_of_mem_take member)) further
  have both := run.invariant (fun state => state.Known [] new ∧ state.Done new) (first_moved taken) (by
    intro state action next holds succeeds taken
    obtain ⟨amount, rfl⟩ := succeeds
    exact ⟨(perform_spec holds.1 taken).1, done_next holds.1 holds.2 taken⟩)
  exact both.2

theorem uninterrupted_save {result : Int} (later : ∀ action ∈ rest, ∃ amount, action = .succeed amount)
    (reached : stateAfter (Saving.perform new) ⟨.ready, start⟩ (first :: rest) (count + 1) = some saving)
    (ended : saving.pc = .returned result) :
    result = 0 ∧ stateFile saving.volume registryBin = (saveRegistry none new (stateFile start registryBin)).2 := by
  have done := uninterrupted_done later reached
  rw [Saving.Done, ended] at done
  exact done

theorem careful_of_kept {amount : Nat} {action : SaveAction} (later : ∀ action ∈ rest, ∃ amount, action = .succeed amount)
    (there : (.fail amount :: rest)[count]? = some action)
    (reached : stateAfter (Saving.perform new) ⟨.ready, start⟩ (.fail amount :: rest) count = some saving) :
    Careful old new saving action := by
  cases count with
  | zero =>
    cases there
    trivial
  | succ count => exact careful_of_done (uninterrupted_done later reached)

end Uninterrupted

theorem length_filledBlock (fill : UInt8) : (List.replicate 32 fill).length = 32 := List.length_replicate

def filledBlock (fill : UInt8) : Block UInt8 32 := ⟨List.replicate 32 fill, length_filledBlock fill⟩

def oneEntry : RegEntry := ⟨filledBlock 1, filledBlock 2, filledBlock 3⟩
def otherEntry : RegEntry := ⟨filledBlock 4, filledBlock 5, filledBlock 6⟩

def oneEntryVolume : Volume UInt8 :=
  { (Server.emptyVolume.openTruncate registryBin 0o600).2 with
    inode := fun _ => ⟨registryBytes [oneEntry], registryBytes [oneEntry], 0o600⟩ }

theorem oneEntryVolume_stored : loadRegistry true (stateFile oneEntryVolume registryBin) = some [oneEntry] :=
  loadRegistry_present.mpr rfl

def keptRegistry : List SaveAction := .fail 0 :: List.replicate 12 (.succeed 32)

set_option maxRecDepth 10000 in
theorem save_survives_crashes_iff_keptRegistry :
    (∀ count saving, stateAfter (Saving.perform [oneEntry, otherEntry]) ⟨.ready, oneEntryVolume⟩ keptRegistry count =
        some saving → Survives [oneEntry] [oneEntry, otherEntry] saving) ∧
    (∀ count saving action next, keptRegistry[count]? = some action →
      stateAfter (Saving.perform [oneEntry, otherEntry]) ⟨.ready, oneEntryVolume⟩ keptRegistry count = some saving →
      saving.perform [oneEntry, otherEntry] action = some next →
      Careful [oneEntry] [oneEntry, otherEntry] saving action) ∧
    ∃ saving, stateAfter (Saving.perform [oneEntry, otherEntry]) ⟨.ready, oneEntryVolume⟩ keptRegistry 13 = some saving ∧
      saving.pc = .returned 0 ∧ saving.loads = some [oneEntry, otherEntry] := by
  have later : ∀ action ∈ List.replicate 12 (SaveAction.succeed 32), ∃ amount, action = .succeed amount :=
    fun action member => ⟨32, List.eq_of_mem_replicate member⟩
  have careful : ∀ count saving action next, keptRegistry[count]? = some action →
      stateAfter (Saving.perform [oneEntry, otherEntry]) ⟨.ready, oneEntryVolume⟩ keptRegistry count = some saving →
      saving.perform [oneEntry, otherEntry] action = some next →
      Careful [oneEntry] [oneEntry, otherEntry] saving action :=
    fun _ _ _ _ there reached _ => careful_of_kept later there reached
  obtain ⟨saving, reached, ended⟩ : ∃ saving, stateAfter (Saving.perform [oneEntry, otherEntry]) ⟨.ready, oneEntryVolume⟩
      keptRegistry 13 = some saving ∧ saving.pc = .returned 0 := ⟨_, rfl, rfl⟩
  have saved := (uninterrupted_save later reached ended).2
  refine ⟨(save_survives_crashes_iff oneEntryVolume_stored).mpr careful, careful, saving, reached, ended, ?_⟩
  rw [Saving.loads, saved]
  exact loadRegistry_present.mpr rfl

/-- A crash right after the first rename leaves no device enrolled. -/
theorem crash_empties_registry :
    loadRegistry true (stateFile oneEntryVolume registryBin) = some [oneEntry] ∧
    ∃ saving, stateAfter (Saving.perform [oneEntry, otherEntry]) ⟨.ready, oneEntryVolume⟩ [.succeed 0] 1 = some saving ∧
      saving.loads = some [] ∧ ¬ Survives [oneEntry] [oneEntry, otherEntry] saving := by
  refine ⟨oneEntryVolume_stored, _, rfl, ?_, ?_⟩
  · rfl
  · rintro (same | same)
    · cases same
    · cases same

end ZkArche.CServer

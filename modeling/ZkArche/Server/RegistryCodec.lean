import ZkArche.Primitives.SmallSuite
import ZkArche.Server.RegistryFile

namespace ZkArche.Server

open Foundation

variable {β S P : Type} [Field S] [AddCommGroup P] [Module S P]
variable [DecidableEq β] [DecidableEq P]

/-- The loader skips a record with an identity point. -/
def DeviceRecord.Skipped (record : DeviceRecord P) : Prop := record.pubkey = 0 ∨ record.roleCommitment = 0

/-- No record of the registry has an identity point. -/
def Registry.Proper (reg : Registry β P) : Prop := ∀ id record, reg.lookup id = some record → ¬ record.Skipped

def Registry.Same (reg other : Registry β P) : Prop := ∀ id, reg.lookup id = other.lookup id

/-- The last record for this device that is not skipped. -/
def LastKept (records : List (RegistryEntry β P)) (id : Block β 32) (record : DeviceRecord P) : Prop :=
  ∃ before later, records = before ++ ⟨id, record⟩ :: later ∧ ¬ record.Skipped ∧
    ∀ entry ∈ later, entry.1 = id → entry.2.Skipped

variable {G : Suite β S P} {reg : Registry β P} {records : List (RegistryEntry β P)} {id : Block β 32}
  {record : DeviceRecord P}

omit [DecidableEq β] [DecidableEq P] in
theorem lastKept_nil : ¬ LastKept (β := β) [] id record := by
  rintro ⟨before, later, split, _⟩
  exact List.append_ne_nil_of_right_ne_nil before (List.cons_ne_nil _ _) split.symm

omit [DecidableEq β] [DecidableEq P] in
/-- A record is the last one that is kept if it is kept, or if it was before and the new one is for
    another device or skipped. -/
theorem lastKept_concat {entry : RegistryEntry β P} :
    LastKept (records ++ [entry]) id record ↔
      (entry = ⟨id, record⟩ ∧ ¬ record.Skipped) ∨ (LastKept records id record ∧ (entry.1 = id → entry.2.Skipped)) := by
  constructor
  · rintro ⟨before, later, split, kept, shadowed⟩
    rcases List.eq_nil_or_concat later with rfl | ⟨later, last, rfl⟩
    · obtain ⟨_, same⟩ := List.append_inj' split rfl
      exact .inl ⟨(List.cons.inj same).1, kept⟩
    · rw [List.concat_eq_append] at split shadowed
      rw [← List.cons_append, ← List.append_assoc] at split
      obtain ⟨rfl, same⟩ := List.append_inj' split rfl
      obtain rfl := (List.cons.inj same).1
      refine .inr ⟨⟨before, later, rfl, kept, ?_⟩, shadowed entry (by simp)⟩
      intro other member
      exact shadowed other (by simp [member])
  · rintro (⟨rfl, kept⟩ | ⟨⟨before, later, rfl, kept, shadowed⟩, last⟩)
    · exact ⟨records, [], rfl, kept, nofun⟩
    · refine ⟨before, later ++ [entry], by simp, kept, ?_⟩
      intro other member
      rcases List.mem_append.mp member with listed | own
      · exact shadowed other listed
      · rw [List.mem_singleton.mp own]
        exact last

theorem keepRecord_skipped {entry : RegistryEntry β P} (skipped : entry.2.Skipped) : reg.keepRecord entry = reg :=
  if_pos skipped

theorem keepRecord_kept {entry : RegistryEntry β P} (kept : ¬ entry.2.Skipped) :
    reg.keepRecord entry = reg.insert entry.1 entry.2 := if_neg kept

theorem ofRecords_concat (records : List (RegistryEntry β P)) (entry : RegistryEntry β P) :
    Registry.ofRecords (records ++ [entry]) = (Registry.ofRecords records).keepRecord entry := List.foldl_append

/-- The registry of a file holds for every device the last of its records that is not skipped. -/
theorem lookup_ofRecords_iff : (Registry.ofRecords records).lookup id = some record ↔ LastKept records id record := by
  induction records using List.reverseRecOn with
  | nil => exact iff_of_false nofun lastKept_nil
  | append_singleton records entry ih =>
    rw [ofRecords_concat, lastKept_concat, ← ih]
    by_cases skipped : entry.2.Skipped
    · rw [keepRecord_skipped skipped]
      constructor
      · intro found
        exact .inr ⟨found, fun _ => skipped⟩
      · rintro (⟨rfl, kept⟩ | ⟨found, _⟩)
        · exact absurd skipped kept
        · exact found
    · rw [keepRecord_kept skipped]
      by_cases own : id = entry.1
      · rw [own, AList.lookup_insert, Option.some.injEq]
        constructor
        · rintro rfl
          exact .inl ⟨rfl, skipped⟩
        · rintro (⟨same, _⟩ | ⟨_, shadowed⟩)
          · rw [same]
          · exact absurd (shadowed rfl) skipped
      · rw [AList.lookup_insert_ne own]
        constructor
        · intro found
          exact .inr ⟨found, fun same => absurd same.symm own⟩
        · rintro (⟨rfl, _⟩ | ⟨found, _⟩)
          · exact absurd rfl own
          · exact found

theorem ofRecords_skipped {entry : RegistryEntry β P} (skipped : entry.2.Skipped)
    (before later : List (RegistryEntry β P)) :
    Registry.ofRecords (before ++ entry :: later) = Registry.ofRecords (before ++ later) := by
  rw [Registry.ofRecords, Registry.ofRecords, List.foldl_append, List.foldl_cons, keepRecord_skipped skipped,
    List.foldl_append]

theorem proper_ofRecords (records : List (RegistryEntry β P)) : (Registry.ofRecords records).Proper := by
  intro id record found
  obtain ⟨_, _, _, kept, _⟩ := lookup_ofRecords_iff.mp found
  exact kept

theorem ofRecords_list (proper : reg.Proper) (order : MapOrder (Block β 32) (DeviceRecord P)) :
    (Registry.ofRecords (order.list reg)).Same reg := by
  have names : ((order.list reg).map Sigma.fst).Nodup :=
    ((order.perm reg).map Sigma.fst).nodup_iff.mpr reg.nodupKeys
  intro id
  apply Option.ext
  intro record
  rw [Registry.lookup_ofRecords names, order.mem_list]
  constructor
  · intro listed
    exact listed.1
  · intro found
    exact ⟨found, not_or.mp (proper id record found)⟩

theorem load_saved (G : Suite β S P) (proper : reg.Proper) (order : MapOrder (Block β 32) (DeviceRecord P))
    (file : StateFile β) : ∃ saved loaded,
      saveRegistryAtomic G none (order.list reg) file = (.ok (), saved) ∧ loadRegistry G saved = .ok loaded ∧
        loaded.Same reg :=
  ⟨.present (registryBytes G (order.list reg)) 0o600, Registry.ofRecords (order.list reg), rfl,
    loadRegistry_present.mpr ⟨_, rfl, rfl⟩, ofRecords_list proper order⟩

/-- The registry codec: whatever order the map is iterated in, it is loaded as it was saved. What a
    file is loaded as is saved and loaded again without a change; in it the last record of a device
    that is not skipped wins, and a skipped record changes nothing. -/
theorem registry_roundtrip (G : Suite β S P) :
    (∀ (reg : Registry β P) (order : MapOrder (Block β 32) (DeviceRecord P)) (file : StateFile β), reg.Proper →
      ∃ saved loaded, saveRegistryAtomic G none (order.list reg) file = (.ok (), saved) ∧
        loadRegistry G saved = .ok loaded ∧ loaded.Same reg) ∧
    ∀ (data : List β) (mode : Nat) (reg : Registry β P), loadRegistry G (.present data mode) = .ok reg →
      (∀ (order : MapOrder (Block β 32) (DeviceRecord P)) (file : StateFile β), ∃ saved loaded,
        saveRegistryAtomic G none (order.list reg) file = (.ok (), saved) ∧
          loadRegistry G saved = .ok loaded ∧ loaded.Same reg) ∧
      ∃ records, data = registryBytes G records ∧
        (∀ id record, reg.lookup id = some record ↔ LastKept records id record) ∧
        ∀ before entry later, records = before ++ entry :: later → entry.2.Skipped →
          loadRegistry G (.present (registryBytes G (before ++ later)) mode) = .ok reg := by
  refine ⟨fun _ order file proper => load_saved G proper order file, ?_⟩
  intro data mode reg loads
  obtain ⟨records, bytes, rfl⟩ := loadRegistry_present.mp loads
  refine ⟨fun order file => load_saved G (proper_ofRecords records) order file, records, bytes, ?_, ?_⟩
  · intro id record
    exact lookup_ofRecords_iff
  · rintro before entry later rfl skipped
    exact loadRegistry_present.mpr ⟨before ++ later, rfl, ofRecords_skipped skipped before later⟩

def repeatedRecords : List (RegistryEntry UInt8 (ZMod 5)) :=
  [⟨toySuite.sha256 [], ⟨1, 1⟩⟩, ⟨toySuite.sha256 [], ⟨1, -1⟩⟩, ⟨toySuite.sha256 [], ⟨1, 0⟩⟩]

theorem registry_roundtrip_repeated :
    (∃ saved loaded, saveRegistryAtomic toySuite none ((default : MapOrder _ _).list (Registry.ofRecords repeatedRecords))
        .absent = (.ok (), saved) ∧ loadRegistry toySuite saved = .ok loaded ∧
          loaded.Same (Registry.ofRecords repeatedRecords)) ∧
      ∃ records, registryBytes toySuite repeatedRecords = registryBytes toySuite records ∧
        ∀ id record, (Registry.ofRecords repeatedRecords).lookup id = some record ↔ LastKept records id record := by
  have loads : loadRegistry toySuite (.present (registryBytes toySuite repeatedRecords) 0o600) =
      .ok (Registry.ofRecords repeatedRecords) := loadRegistry_present.mpr ⟨_, rfl, rfl⟩
  obtain ⟨reloads, records, bytes, lookups, _⟩ := (registry_roundtrip toySuite).2 _ _ _ loads
  have saves := (registry_roundtrip toySuite).1 _ default .absent (proper_ofRecords repeatedRecords)
  exact ⟨saves, records, bytes, lookups⟩

end ZkArche.Server

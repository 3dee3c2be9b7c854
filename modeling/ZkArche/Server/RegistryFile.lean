import ZkArche.Server.Registry

namespace ZkArche.Server

open Foundation

variable {β S P : Type} [Field S] [AddCommGroup P] [Module S P]
variable [DecidableEq β] [DecidableEq P]

/-- A record of the file goes into the registry, unless one of its points is the identity. -/
def Registry.keepRecord (reg : Registry β P) (entry : RegistryEntry β P) : Registry β P :=
  if entry.2.pubkey = 0 ∨ entry.2.roleCommitment = 0 then reg else reg.insert entry.1 entry.2

def Registry.ofRecords (records : List (RegistryEntry β P)) : Registry β P := records.foldl Registry.keepRecord ∅

variable {G : Suite β S P} {reg result : Registry β P} {chunk : List β}

omit [DecidableEq β] [DecidableEq P] in
theorem length_recordBytes (entry : RegistryEntry β P) : (recordBytes G entry).length = 96 := by
  simp [recordBytes]

theorem loadChunk_recordBytes (reg : Registry β P) (entry : RegistryEntry β P) :
    loadChunk G reg (recordBytes G entry) = .ok (reg.keepRecord entry) := by
  have whole : (recordBytes G entry).drop 0 = entry.1.bytes ++ ((G.compress entry.2.pubkey).bytes ++
      ((G.compress entry.2.roleCommitment).bytes ++ [])) := by simp [recordBytes]
  obtain ⟨id, rest⟩ := sliceBlock_of_drop 32 whole rfl (by decide)
  obtain ⟨pubkey, rest⟩ := sliceBlock_of_drop 64 rest rfl (by decide)
  obtain ⟨roleCommitment, _⟩ := sliceBlock_of_drop 96 rest rfl (by decide)
  simp only [loadChunk, id, pubkey, roleCommitment, bind, Except.bind, decompressOr_ok.mpr rfl, Registry.keepRecord]
  split <;> rfl

theorem loadChunk_ok (size : chunk.length = 96) (loaded : loadChunk G reg chunk = .ok result) :
    ∃ entry, chunk = recordBytes G entry ∧ result = reg.keepRecord entry := by
  obtain ⟨id, ofId, rest⟩ := Except.bind_ok_iff.mp loaded
  obtain ⟨pk, ofPk, rest⟩ := Except.bind_ok_iff.mp rest
  obtain ⟨roleCommitmentBytes, ofRole, rest⟩ := Except.bind_ok_iff.mp rest
  obtain ⟨pubkey, decodedPk, rest⟩ := Except.bind_ok_iff.mp rest
  obtain ⟨roleCommitment, decodedRole, rest⟩ := Except.bind_ok_iff.mp rest
  rw [decompressOr_ok] at decodedPk decodedRole
  have bytes : chunk = recordBytes G ⟨id, pubkey, roleCommitment⟩ := by
    have front := drop_of_sliceBlock ofId
    have middle := drop_of_sliceBlock ofPk
    have back := drop_of_sliceBlock ofRole
    rw [List.drop_zero] at front
    rw [List.drop_of_length_le (Nat.le_of_eq size), List.append_nil] at back
    rw [front, middle, back, decodedPk, decodedRole, recordBytes, List.append_assoc]
  refine ⟨⟨id, pubkey, roleCommitment⟩, bytes, ?_⟩
  rw [bytes, loadChunk_recordBytes] at loaded
  cases loaded
  rfl

theorem foldlM_loadChunk_ok {chunks : List (List β)} (sized : ∀ chunk ∈ chunks, chunk.length = 96) :
    chunks.foldlM (loadChunk G) reg = .ok result ↔
      ∃ records : List (RegistryEntry β P), chunks = records.map (recordBytes G) ∧
        result = records.foldl Registry.keepRecord reg := by
  induction chunks generalizing reg with
  | nil =>
    constructor
    · intro loaded
      cases loaded
      exact ⟨[], rfl, rfl⟩
    · rintro ⟨records, empty, rfl⟩
      rw [List.map_eq_nil_iff.mp empty.symm]
      rfl
  | cons chunk chunks ih =>
    have others : ∀ chunk ∈ chunks, chunk.length = 96 := fun chunk member => sized chunk (by simp [member])
    rw [List.foldlM_cons, Except.bind_ok_iff]
    constructor
    · rintro ⟨middle, first, rest⟩
      obtain ⟨entry, bytes, rfl⟩ := loadChunk_ok (sized chunk (by simp)) first
      obtain ⟨records, split, rfl⟩ := (ih others).mp rest
      exact ⟨entry :: records, by rw [bytes, split, List.map_cons], rfl⟩
    · rintro ⟨records, split, rfl⟩
      cases records with
      | nil => cases split
      | cons entry records =>
        rw [List.map_cons, List.cons.injEq] at split
        refine ⟨reg.keepRecord entry, ?_, (ih others).mpr ⟨records, split.2, rfl⟩⟩
        rw [split.1, loadChunk_recordBytes]

omit [DecidableEq β] [DecidableEq P] in
theorem registryBytes_sized (records : List (RegistryEntry β P)) :
    ∀ piece ∈ records.map (recordBytes G), piece.length = 96 :=
  List.forall_mem_map.mpr fun entry _ => length_recordBytes entry

omit [DecidableEq β] [DecidableEq P] in
theorem length_registryBytes (records : List (RegistryEntry β P)) :
    (registryBytes G records).length = records.length * 96 := by
  rw [registryBytes, length_flatten_of_forall (registryBytes_sized records), List.length_map]

omit [DecidableEq β] [DecidableEq P] in
theorem registryBytes_eq_nil {records : List (RegistryEntry β P)} :
    registryBytes G records = [] ↔ records = [] := by
  rw [← List.length_eq_zero_iff, length_registryBytes, ← List.length_eq_zero_iff]
  omega

theorem loadRegistry_present {data : List β} {mode : Nat} :
    loadRegistry G (.present data mode) = .ok reg ↔
      ∃ records, data = registryBytes G records ∧ reg = Registry.ofRecords records := by
  have body : loadRegistry G (.present data mode) =
      if data.isEmpty then .ok ∅
      else if data.length % 96 ≠ 0 then
        .error (invalidData
          "registry.bin corrupt length (v2 expects 96-byte chunks; re-enroll if upgrading from v1)")
      else (chunksExact 96 data).foldlM (loadChunk G) ∅ := rfl
  rw [body]
  by_cases empty : data = []
  · rw [empty, if_pos List.isEmpty_nil]
    constructor
    · intro loaded
      cases loaded
      exact ⟨[], rfl, rfl⟩
    · rintro ⟨records, bytes, rfl⟩
      rw [registryBytes_eq_nil.mp bytes.symm]
      rfl
  rw [if_neg (by rwa [List.isEmpty_iff])]
  by_cases even : data.length % 96 = 0
  · obtain ⟨count, total⟩ := Nat.dvd_of_mod_eq_zero even
    obtain ⟨pieces, sized, split⟩ := exists_pieces (total.trans (Nat.mul_comm 96 count))
    rw [if_neg (not_not_intro even), ← split, chunksExact_flatten (by decide) sized, foldlM_loadChunk_ok sized]
    constructor
    · rintro ⟨records, rfl, rfl⟩
      exact ⟨records, rfl, rfl⟩
    · rintro ⟨records, bytes, rfl⟩
      have same := congrArg (chunksExact 96) bytes
      rw [registryBytes, chunksExact_flatten (by decide) sized,
        chunksExact_flatten (by decide) (registryBytes_sized records)] at same
      exact ⟨records, same, rfl⟩
  · rw [if_pos even]
    refine iff_of_false nofun ?_
    rintro ⟨records, bytes, -⟩
    rw [bytes, length_registryBytes, Nat.mul_mod_left] at even
    exact even rfl

/-- Records with different names make up the registry of those among them that have no identity. -/
theorem Registry.lookup_ofRecords {records : List (RegistryEntry β P)} (names : (records.map Sigma.fst).Nodup)
    {id : Block β 32} {record : DeviceRecord P} :
    (Registry.ofRecords records).lookup id = some record ↔
      ⟨id, record⟩ ∈ records ∧ record.pubkey ≠ 0 ∧ record.roleCommitment ≠ 0 := by
  induction records using List.reverseRecOn with
  | nil => exact iff_of_false nofun fun listed => nomatch listed.1
  | append_singleton records entry ih =>
    rw [List.map_append, List.map_cons, List.map_nil, ← List.concat_eq_append, List.nodup_concat] at names
    have earlier := ih names.2
    have last : Registry.ofRecords (records ++ [entry]) = (Registry.ofRecords records).keepRecord entry :=
      List.foldl_append
    rw [last, Registry.keepRecord, List.mem_append, List.mem_singleton]
    by_cases identity : entry.2.pubkey = 0 ∨ entry.2.roleCommitment = 0
    · rw [if_pos identity, earlier]
      constructor
      · intro ⟨listed, proper⟩
        exact ⟨.inl listed, proper⟩
      · rintro ⟨listed | rfl, proper⟩
        · exact ⟨listed, proper⟩
        · exact (identity.elim proper.1 proper.2).elim
    · rw [if_neg identity]
      rw [not_or] at identity
      by_cases own : id = entry.1
      · rw [own, AList.lookup_insert, Option.some.injEq]
        constructor
        · rintro rfl
          exact ⟨.inr rfl, identity⟩
        · rintro ⟨listed | same, _⟩
          · exact absurd (List.mem_map_of_mem listed) names.1
          · rw [← same]
      · rw [AList.lookup_insert_ne own, earlier]
        constructor
        · intro ⟨listed, proper⟩
          exact ⟨.inl listed, proper⟩
        · rintro ⟨listed | rfl, proper⟩
          · exact ⟨listed, proper⟩
          · exact absurd rfl own

end ZkArche.Server

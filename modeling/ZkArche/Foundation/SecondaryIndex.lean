import ZkArche.Foundation.Collections

namespace Foundation

variable {κ ι ν : Type} [DecidableEq ι] {key : ν → ι}

/-- A second copy of a map under a derived key: every entry of the index is an entry of the map,
    and every derived key of the map is in the index. Entries of the map with one derived key
    share a place in the index. -/
structure Indexes [DecidableEq κ] (key : ν → ι) (primary : AList fun _ : κ => ν) (index : AList fun _ : ι => κ × ν) : Prop where
  sound : ∀ {place id value}, index.lookup place = some (id, value) →
    key value = place ∧ primary.lookup id = some value
  complete : ∀ {id value}, primary.lookup id = some value → ∃ entry, index.lookup (key value) = some entry

/-- An insertion into both maps keeps them together unless it moves an id to another derived key. -/
theorem Indexes.insert [DecidableEq κ] {primary : AList fun _ : κ => ν} {index : AList fun _ : ι => κ × ν} {id : κ} {value : ν}
    (agrees : Indexes key primary index) (same : ∀ old, primary.lookup id = some old → key old = key value) :
    Indexes key (primary.insert id value) (index.insert (key value) (id, value)) := by
  constructor
  · intro place found rec' here
    by_cases new : place = key value
    · rw [new, AList.lookup_insert] at here
      cases here
      exact ⟨new.symm, AList.lookup_insert _⟩
    · rw [AList.lookup_insert_ne new] at here
      obtain ⟨derived, stored⟩ := agrees.sound here
      refine ⟨derived, ?_⟩
      rw [AList.lookup_insert_ne, stored]
      rintro rfl
      exact new (derived.symm.trans (same rec' stored))
  · intro found rec' stored
    by_cases new : key rec' = key value
    · exact ⟨_, by rw [new, AList.lookup_insert]⟩
    · rw [AList.lookup_insert_ne new]
      by_cases replaced : found = id
      · rw [replaced, AList.lookup_insert] at stored
        cases stored
        exact absurd rfl new
      · rw [AList.lookup_insert_ne replaced] at stored
        exact agrees.complete stored

/-- The index of a listing of the map: later entries replace earlier ones with their key. -/
def buildIndex (key : ν → ι) (entries : List (Sigma fun _ : κ => ν)) : AList fun _ : ι => κ × ν :=
  entries.foldl (fun index entry => index.insert (key entry.2) (entry.1, entry.2)) ∅

section Build

variable {entries : List (Sigma fun _ : κ => ν)} {start : AList fun _ : ι => κ × ν}

theorem mem_of_lookup_foldl {place : ι} {id : κ} {value : ν}
    (found : (entries.foldl (fun index entry => index.insert (key entry.2) (entry.1, entry.2)) start).lookup place =
      some (id, value)) :
    (⟨id, value⟩ ∈ entries ∧ key value = place) ∨ start.lookup place = some (id, value) := by
  induction entries generalizing start with
  | nil => exact .inr found
  | cons entry entries ih =>
    rcases ih found with ⟨member, derived⟩ | earlier
    · exact .inl ⟨List.mem_cons_of_mem _ member, derived⟩
    · by_cases here : place = key entry.2
      · rw [here, AList.lookup_insert] at earlier
        cases earlier
        exact .inl ⟨List.mem_cons_self, here.symm⟩
      · rw [AList.lookup_insert_ne here] at earlier
        exact .inr earlier

theorem lookup_foldl_of_start {place : ι} {old : κ × ν} (present : start.lookup place = some old) :
    ∃ entry, (entries.foldl (fun index entry => index.insert (key entry.2) (entry.1, entry.2)) start).lookup place =
      some entry := by
  induction entries generalizing start old with
  | nil => exact ⟨old, present⟩
  | cons entry entries ih =>
    by_cases here : place = key entry.2
    · exact ih (by rw [here, AList.lookup_insert])
    · exact ih (by rw [AList.lookup_insert_ne here, present])

theorem lookup_foldl_of_mem {id : κ} {value : ν} (member : ⟨id, value⟩ ∈ entries) :
    ∃ entry, (entries.foldl (fun index entry => index.insert (key entry.2) (entry.1, entry.2)) start).lookup
      (key value) = some entry := by
  induction entries generalizing start with
  | nil => cases member
  | cons entry entries ih =>
    rcases List.mem_cons.mp member with same | later
    · cases same
      rw [List.foldl_cons]
      exact lookup_foldl_of_start (AList.lookup_insert _)
    · exact ih later

end Build

theorem indexes_buildIndex [DecidableEq κ] (order : MapOrder κ ν) (primary : AList fun _ : κ => ν) :
    Indexes key primary (buildIndex key (order.list primary)) := by
  constructor
  · intro place id value found
    rcases mem_of_lookup_foldl found with ⟨member, derived⟩ | impossible
    · exact ⟨derived, (order.mem_list primary id value).mp member⟩
    · rw [AList.lookup_empty] at impossible
      cases impossible
  · intro id value stored
    exact lookup_foldl_of_mem ((order.mem_list primary id value).mpr stored)

end Foundation

import Mathlib.Data.List.AList
import Mathlib.Data.Finset.Card
import Mathlib.Data.Finset.Dedup

namespace Foundation

section Orders

/-- One of the orders a map can be iterated in: any listing of its entries may be seen. -/
structure MapOrder (κ ν : Type) where
  list : AList (fun _ : κ => ν) → List (Sigma fun _ : κ => ν)
  perm : ∀ map, (list map).Perm map.entries

structure SetOrder (α : Type) where
  list : Finset α → List α
  nodup : ∀ set, (list set).Nodup
  mem_list : ∀ set item, item ∈ list set ↔ item ∈ set

variable {κ ν α : Type}

instance : Inhabited (MapOrder κ ν) := ⟨⟨AList.entries, fun _ => .refl _⟩⟩

noncomputable instance : Inhabited (SetOrder α) :=
  ⟨⟨Finset.toList, fun set => set.nodup_toList, fun _ _ => Finset.mem_toList⟩⟩

theorem SetOrder.toFinset_list [DecidableEq α] (order : SetOrder α) (set : Finset α) :
    (order.list set).toFinset = set := by
  ext item
  rw [List.mem_toFinset, order.mem_list]

theorem SetOrder.length_list [DecidableEq α] (order : SetOrder α) (set : Finset α) :
    (order.list set).length = set.card := by
  rw [← List.toFinset_card_of_nodup (order.nodup set), order.toFinset_list]

variable [DecidableEq κ]

theorem MapOrder.mem_list (order : MapOrder κ ν) (map : AList fun _ : κ => ν) (key : κ) (value : ν) :
    ⟨key, value⟩ ∈ order.list map ↔ map.lookup key = some value := by
  rw [(order.perm map).mem_iff, ← AList.mem_lookup_iff, Option.mem_def]

def AList.retain (keep : κ → ν → Bool) (map : AList fun _ : κ => ν) : AList fun _ : κ => ν :=
  ⟨map.entries.filter fun entry => keep entry.1 entry.2,
    map.nodupKeys.sublist List.filter_sublist⟩

theorem AList.lookup_retain (keep : κ → ν → Bool) (map : AList fun _ : κ => ν) (key : κ) :
    (AList.retain keep map).lookup key = (map.lookup key).filter (keep key) := by
  apply Option.ext
  intro value
  rw [← Option.mem_def, AList.mem_lookup_iff, ← Option.mem_def, Option.mem_def, Option.filter_eq_some_iff,
    ← Option.mem_def, AList.mem_lookup_iff]
  simp [AList.retain]

end Orders

section Chunks

variable {α : Type}

/-- `data.chunks_exact(size)`: the full chunks of a slice, a shorter rest left out. -/
def chunksExact (size : Nat) (data : List α) : List (List α) :=
  (List.range (data.length / size)).map fun i => (data.drop (i * size)).take size

theorem length_flatten_of_forall {size : Nat} {pieces : List (List α)}
    (exact : ∀ piece ∈ pieces, piece.length = size) : pieces.flatten.length = pieces.length * size := by
  induction pieces with
  | nil => simp
  | cons piece pieces ih =>
    have tail := ih fun p member => exact p (by simp [member])
    have head := exact piece (by simp)
    rw [List.flatten_cons, List.length_append, tail, head, List.length_cons, Nat.succ_mul, Nat.add_comm]

theorem drop_flatten_of_forall {size : Nat} {pieces : List (List α)}
    (exact : ∀ piece ∈ pieces, piece.length = size) (i : Nat) :
    pieces.flatten.drop (i * size) = (pieces.drop i).flatten := by
  induction pieces generalizing i with
  | nil => simp
  | cons piece pieces ih =>
    cases i with
    | zero => simp
    | succ i =>
      have head := exact piece (by simp)
      rw [List.flatten_cons, Nat.succ_mul, Nat.add_comm, ← List.drop_drop, List.drop_left' head,
        ih (fun p member => exact p (by simp [member])) i]
      simp

theorem chunksExact_flatten {size : Nat} (positive : 0 < size) {pieces : List (List α)}
    (exact : ∀ piece ∈ pieces, piece.length = size) : chunksExact size pieces.flatten = pieces := by
  have count : pieces.flatten.length / size = pieces.length := by
    rw [length_flatten_of_forall exact, Nat.mul_div_cancel _ positive]
  apply List.ext_getElem
  · rw [chunksExact, count, List.length_map, List.length_range]
  · intro i _ bound
    have piece := exact pieces[i] (List.getElem_mem bound)
    simp only [chunksExact, List.getElem_map, List.getElem_range]
    rw [drop_flatten_of_forall exact, List.drop_eq_getElem_cons bound, List.flatten_cons,
      List.take_left' piece]

theorem exists_pieces {size count : Nat} {data : List α} (total : data.length = count * size) :
    ∃ pieces : List (List α), (∀ piece ∈ pieces, piece.length = size) ∧ pieces.flatten = data := by
  induction count generalizing data with
  | zero =>
    have empty : data = [] := List.eq_nil_of_length_eq_zero (by rw [total, Nat.zero_mul])
    exact ⟨[], by simp, empty.symm⟩
  | succ count ih =>
    rw [Nat.succ_mul] at total
    have shorter : (data.drop size).length = count * size := by
      rw [List.length_drop, total, Nat.add_sub_cancel]
    have first : (data.take size).length = size := by
      rw [List.length_take]
      omega
    obtain ⟨pieces, exact, rest⟩ := ih shorter
    refine ⟨data.take size :: pieces, ?_, ?_⟩
    · simpa [first] using exact
    · rw [List.flatten_cons, rest, List.take_append_drop]

end Chunks

section First

variable {α : Type} {list : List α} {chosen other : α → Prop} {item : α}

/-- The item is chosen, and none of the items in front of it is. -/
def FirstIn (list : List α) (chosen : α → Prop) (item : α) : Prop :=
  ∃ before after, list = before ++ item :: after ∧ chosen item ∧ ∀ earlier ∈ before, ¬ chosen earlier

theorem FirstIn.holds (first : FirstIn list chosen item) : chosen item := by
  obtain ⟨_, _, _, here, _⟩ := first
  exact here

theorem FirstIn.mem (first : FirstIn list chosen item) : item ∈ list := by
  obtain ⟨before, after, rfl, _, _⟩ := first
  exact List.mem_append_right before List.mem_cons_self

theorem firstIn_iff_of_alone (alone : ∀ a ∈ list, ∀ b ∈ list, chosen a → chosen b → a = b) :
    FirstIn list chosen item ↔ item ∈ list ∧ chosen item := by
  constructor
  · intro first
    exact ⟨first.mem, first.holds⟩
  · intro both
    obtain ⟨member, here⟩ := both
    obtain ⟨before, after, split, new⟩ := List.eq_append_cons_of_mem member
    refine ⟨before, after, split, here, fun earlier inside chosenEarlier => ?_⟩
    have same := alone earlier (split ▸ List.mem_append_left _ inside) item member chosenEarlier here
    rw [same] at inside
    exact new inside

theorem FirstIn.congr (same : ∀ item ∈ list, chosen item ↔ other item) : FirstIn list chosen item ↔ FirstIn list other item := by
  constructor
  · intro first
    obtain ⟨before, after, rfl, here, earlier⟩ := first
    refine ⟨before, after, rfl, (same item (by simp)).mp here, fun item' member => ?_⟩
    rw [← same item' (List.mem_append_left _ member)]
    exact earlier item' member
  · intro first
    obtain ⟨before, after, rfl, here, earlier⟩ := first
    refine ⟨before, after, rfl, (same item (by simp)).mpr here, fun item' member => ?_⟩
    rw [same item' (List.mem_append_left _ member)]
    exact earlier item' member

theorem find?_eq_some_iff_firstIn {p : α → Bool} : list.find? p = some item ↔ FirstIn list (fun item => p item = true) item := by
  rw [List.find?_eq_some_iff_append]
  constructor
  · intro found
    obtain ⟨here, before, after, split, earlier⟩ := found
    exact ⟨before, after, split, here, fun item member => by simpa using earlier item member⟩
  · intro first
    obtain ⟨before, after, split, here, earlier⟩ := first
    exact ⟨here, before, after, split, fun item member => by simpa using earlier item member⟩

theorem find?_eq_some_iff_of_alone {p : α → Bool} (alone : ∀ a ∈ list, ∀ b ∈ list, p a = true → p b = true → a = b) :
    list.find? p = some item ↔ item ∈ list ∧ p item = true :=
  find?_eq_some_iff_firstIn.trans (firstIn_iff_of_alone alone)

end First

end Foundation

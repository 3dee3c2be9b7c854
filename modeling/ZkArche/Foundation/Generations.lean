import Mathlib.Data.Finset.Card

namespace Foundation

variable {α : Type} [DecidableEq α]

/-- A memory of recent items in two sets: when the younger is full it becomes the older one, and
    what the older one held is forgotten. -/
structure Generations (α : Type) where
  current : Finset α
  previous : Finset α
  deriving DecidableEq

namespace Generations

def keys (gens : Generations α) : Finset α := gens.current ∪ gens.previous

def remember (limit : Nat) (gens : Generations α) (item : α) : Generations α :=
  if gens.current.card ≥ limit then ⟨{item}, gens.current⟩ else ⟨insert item gens.current, gens.previous⟩

def rememberAll (limit : Nat) (gens : Generations α) (items : List α) : Generations α :=
  items.foldl (remember limit) gens

variable {limit : Nat} {gens : Generations α} {item : α}

theorem rememberAll_append (limit : Nat) (gens : Generations α) (first second : List α) :
    rememberAll limit gens (first ++ second) = rememberAll limit (rememberAll limit gens first) second :=
  List.foldl_append

theorem mem_remember (limit : Nat) (gens : Generations α) (item : α) :
    item ∈ (remember limit gens item).current := by
  unfold remember
  split <;> simp

/-- The item is in the younger generation, or in the older one while the younger has not grown
    by more than the number of items that came since. -/
def Retains (gens : Generations α) (item : α) (since : Nat) : Prop :=
  item ∈ gens.current ∨ (item ∈ gens.previous ∧ gens.current.card ≤ since)

theorem Retains.remember {since : Nat} (retains : gens.Retains item since) (early : since < limit) (next : α) :
    (gens.remember limit next).Retains item (since + 1) := by
  unfold Generations.remember
  split
  case isTrue full =>
    rcases retains with young | ⟨_, small⟩
    · exact .inr ⟨young, by rw [Finset.card_singleton]; omega⟩
    · omega
  case isFalse =>
    rcases retains with young | ⟨old, small⟩
    · exact .inl (Finset.mem_insert_of_mem young)
    · have grown := Finset.card_insert_le next gens.current
      exact .inr ⟨old, by simp only; omega⟩

theorem Retains.rememberAll {since : Nat} (later : List α) (retains : gens.Retains item since)
    (early : since + later.length ≤ limit) :
    (gens.rememberAll limit later).Retains item (since + later.length) := by
  induction later generalizing gens since with
  | nil => exact retains
  | cons next later ih =>
    rw [List.length_cons] at early
    have rest := ih (retains.remember (show since < limit by omega) next) (by omega)
    rw [List.length_cons, show since + (later.length + 1) = since + 1 + later.length by omega]
    exact rest

theorem mem_rememberAll (gens : Generations α) (earlier later : List α) (item : α) (recent : later.length ≤ limit) :
    item ∈ (gens.rememberAll limit (earlier ++ item :: later)).keys := by
  have start : ((gens.rememberAll limit earlier).remember limit item).Retains item 0 := .inl (mem_remember _ _ _)
  rw [rememberAll_append]
  rcases start.rememberAll later (show 0 + later.length ≤ limit by omega) with young | ⟨old, _⟩
  · exact Finset.mem_union_left _ young
  · exact Finset.mem_union_right _ old

structure Sized (limit largest total : Nat) (gens : Generations α) : Prop where
  current : gens.current.card ≤ largest
  previous : gens.previous.card ≤ largest
  total : (gens.current.card ≤ limit ∧ gens.previous.card ≤ max limit total) ∨
    gens.current.card + gens.previous.card ≤ total

theorem Sized.remember {largest total : Nat} (sized : gens.Sized limit largest total) (positive : 0 < limit)
    (small : limit ≤ largest) (next : α) : (gens.remember limit next).Sized limit largest total := by
  obtain ⟨current, previous, both⟩ := sized
  unfold Generations.remember
  split
  case isTrue full => exact ⟨by simp; omega, current, .inl ⟨by simp; omega, by simp only; omega⟩⟩
  case isFalse young =>
    have grown := Finset.card_insert_le next gens.current
    exact ⟨by simp only; omega, previous, .inl ⟨by simp only; omega, by simp only; omega⟩⟩

theorem Sized.rememberAll {largest total : Nat} (sized : gens.Sized limit largest total) (items : List α)
    (positive : 0 < limit) (small : limit ≤ largest) : (gens.rememberAll limit items).Sized limit largest total := by
  induction items generalizing gens with
  | nil => exact sized
  | cons next items ih => exact ih (sized.remember positive small next)

def empty : Generations α := ⟨∅, ∅⟩

def AllNew (limit : Nat) (items : List α) : Prop :=
  ∀ earlier item later, items = earlier ++ item :: later → item ∉ (rememberAll limit empty earlier).keys

theorem allNew_nil : AllNew limit ([] : List α) := by
  intro earlier item later split
  exact absurd split.symm (by simp)

theorem AllNew.concat {items : List α} (allNew : AllNew limit items)
    (new : item ∉ (rememberAll limit empty items).keys) : AllNew limit (items ++ [item]) := by
  intro earlier next later split
  rcases List.eq_nil_or_concat later with rfl | ⟨front, last, rfl⟩
  · obtain ⟨rfl, same⟩ := List.append_inj' split rfl
    cases same
    exact new
  · rw [List.concat_eq_append, ← List.cons_append, ← List.append_assoc] at split
    obtain ⟨rfl, _⟩ := List.append_inj' split rfl
    exact allNew earlier next front rfl

theorem AllNew.left {items later : List α} (allNew : AllNew limit (items ++ later)) : AllNew limit items := by
  intro earlier item rest split
  apply allNew earlier item (rest ++ later)
  rw [split]
  simp

theorem AllNew.ne {earlier between later : List α} {first second : α}
    (allNew : AllNew limit (earlier ++ first :: between ++ second :: later)) (near : between.length ≤ limit) :
    first ≠ second := by
  intro same
  apply allNew (earlier ++ first :: between) second later rfl
  rw [← same]
  exact mem_rememberAll empty earlier between first near

theorem AllNew.nodup {earlier stretch later : List α} (allNew : AllNew limit (earlier ++ stretch ++ later))
    (short : stretch.length ≤ limit + 2) : stretch.Nodup := by
  induction stretch generalizing earlier with
  | nil => exact List.nodup_nil
  | cons first stretch ih =>
    rw [List.length_cons] at short
    constructor
    · intro second member same
      obtain ⟨between, rest, rfl⟩ := List.append_of_mem member
      rw [List.length_append, List.length_cons] at short
      have apart : AllNew limit (earlier ++ first :: between ++ second :: (rest ++ later)) := by simpa using allNew
      exact apart.ne (by omega) same
    · have moved : AllNew limit ((earlier ++ [first]) ++ stretch ++ later) := by simpa using allNew
      exact ih moved (by omega)

theorem AllNew.length_le {earlier between later : List α} (allNew : AllNew limit (earlier ++ item :: between ++ later))
    (few : (between.toFinset.erase item).card ≤ limit) : between.length ≤ limit := by
  by_contra many
  have whole : earlier ++ item :: between ++ later =
      earlier ++ (item :: between.take (limit + 1)) ++ (between.drop (limit + 1) ++ later) := by
    simp [← List.append_assoc (between.take (limit + 1))]
  rw [whole] at allNew
  have nodup := allNew.nodup (by simp)
  obtain ⟨away, distinct⟩ := List.nodup_cons.mp nodup
  have inside : (between.take (limit + 1)).toFinset ⊆ between.toFinset.erase item := by
    intro other member
    rw [List.mem_toFinset] at member
    rw [Finset.mem_erase, List.mem_toFinset]
    constructor
    · rintro rfl
      exact away member
    · exact List.mem_of_mem_take member
  have count := Finset.card_le_card inside
  rw [List.toFinset_card_of_nodup distinct, List.length_take] at count
  omega

structure Tidy (limit : Nat) (gens : Generations α) : Prop where
  current : gens.current.card ≤ limit
  previous : gens.previous.card ≤ limit
  disjoint : Disjoint gens.current gens.previous

omit [DecidableEq α] in
theorem tidy_empty : (empty : Generations α).Tidy limit := by
  constructor <;> simp [empty]

theorem notMem_keys : item ∉ gens.keys ↔ item ∉ gens.current ∧ item ∉ gens.previous := by
  simp [keys]

theorem remember_of_full (full : limit ≤ gens.current.card) (item : α) :
    gens.remember limit item = ⟨{item}, gens.current⟩ := if_pos full

theorem remember_of_room (room : gens.current.card < limit) (item : α) :
    gens.remember limit item = ⟨insert item gens.current, gens.previous⟩ := if_neg (Nat.not_le.mpr room)

theorem Tidy.remember (tidy : gens.Tidy limit) (positive : 1 ≤ limit) (new : item ∉ gens.keys) :
    (gens.remember limit item).Tidy limit := by
  obtain ⟨fresh, old⟩ := notMem_keys.mp new
  rcases Nat.lt_or_ge gens.current.card limit with room | full
  · rw [remember_of_room room]
    constructor
    · rw [Finset.card_insert_of_notMem fresh]
      exact room
    · exact tidy.previous
    · exact Finset.disjoint_insert_left.mpr ⟨old, tidy.disjoint⟩
  · rw [remember_of_full full]
    constructor
    · rw [Finset.card_singleton]
      exact positive
    · exact tidy.current
    · exact Finset.disjoint_singleton_left.mpr fresh

/-- No more than `left` new items are needed until the item is forgotten. -/
def Fades (limit : Nat) (gens : Generations α) (item : α) (left : Nat) : Prop :=
  (item ∈ gens.current → 2 * limit + 1 ≤ gens.current.card + left) ∧
    (item ∈ gens.previous → limit + 1 ≤ gens.current.card + left)

theorem Fades.remember {left : Nat} {next : α} (fades : gens.Fades limit item (left + 1)) (tidy : gens.Tidy limit)
    (new : next ∉ gens.keys) (other : next ≠ item) : (gens.remember limit next).Fades limit item left := by
  obtain ⟨young, old⟩ := fades
  obtain ⟨fresh, _⟩ := notMem_keys.mp new
  have small := tidy.current
  rcases Nat.lt_or_ge gens.current.card limit with room | full
  · rw [remember_of_room room]
    have grown := Finset.card_insert_of_notMem fresh
    constructor
    · intro member
      have started := young (Finset.mem_of_mem_insert_of_ne member other.symm)
      simp only [grown]
      omega
    · intro member
      have started := old member
      simp only [grown]
      omega
  · rw [remember_of_full full]
    constructor
    · intro member
      exact absurd (Finset.mem_singleton.mp member).symm other
    · intro member
      have started := young member
      simp only [Finset.card_singleton]
      omega

theorem Fades.gone (fades : gens.Fades limit item 0) (tidy : gens.Tidy limit) : item ∉ gens.keys := by
  have small := tidy.current
  apply notMem_keys.mpr
  constructor
  · intro member
    have started := fades.1 member
    omega
  · intro member
    have started := fades.2 member
    omega

omit [DecidableEq α] in
theorem Fades.mono {left more : Nat} (fades : gens.Fades limit item left) (le : left ≤ more) :
    gens.Fades limit item more := by
  constructor
  · intro member
    exact (fades.1 member).trans (Nat.add_le_add_left le _)
  · intro member
    exact (fades.2 member).trans (Nat.add_le_add_left le _)

theorem fades_remember (tidy : gens.Tidy limit) (positive : 1 ≤ limit) (new : item ∉ gens.keys) :
    (gens.remember limit item).Fades limit item (2 * limit) := by
  have present := mem_remember limit gens item
  have after := tidy.remember positive new
  constructor
  · intro member
    have := Finset.card_pos.mpr ⟨item, member⟩
    omega
  · intro member
    exact absurd member (Finset.disjoint_left.mp after.disjoint present)

theorem AllNew.tidy {items : List α} (allNew : AllNew limit items) (positive : 1 ≤ limit) :
    (rememberAll limit empty items).Tidy limit := by
  induction items using List.reverseRecOn with
  | nil => exact tidy_empty
  | append_singleton items item ih =>
    rw [rememberAll_append]
    exact (ih allNew.left).remember positive (allNew items item [] rfl)

theorem AllNew.fades {earlier later : List α} {left : Nat} (allNew : AllNew limit (earlier ++ later))
    (positive : 1 ≤ limit) (away : item ∉ later)
    (fades : (rememberAll limit empty earlier).Fades limit item (left + later.length)) :
    (rememberAll limit empty (earlier ++ later)).Fades limit item left := by
  induction later generalizing earlier with
  | nil => rwa [List.append_nil]
  | cons next later ih =>
    obtain ⟨other, away⟩ := not_or.mp (List.mem_cons.not.mp away)
    have split : earlier ++ next :: later = (earlier ++ [next]) ++ later := by simp
    rw [split] at allNew ⊢
    apply ih allNew away
    rw [rememberAll_append]
    have before := allNew.left
    exact fades.remember (before.left.tidy positive) (before earlier next [] rfl) (Ne.symm other)

theorem AllNew.notMem_keys {earlier later : List α} (allNew : AllNew limit (earlier ++ item :: later))
    (positive : 1 ≤ limit) (away : item ∉ later) (many : 2 * limit ≤ later.length) :
    item ∉ (rememberAll limit empty (earlier ++ item :: later)).keys := by
  have split : earlier ++ item :: later = (earlier ++ [item]) ++ later := by simp
  have whole := allNew.tidy positive
  rw [split] at allNew whole ⊢
  apply Fades.gone _ whole
  apply allNew.fades positive away
  have before := allNew.left
  have started := fades_remember (before.left.tidy positive) positive (before earlier item [] rfl)
  rw [rememberAll_append]
  exact started.mono (by omega)

end Generations

end Foundation

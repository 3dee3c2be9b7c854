import Mathlib.Data.List.Basic
import Mathlib.Logic.Function.Basic
import Mathlib.Tactic.Common

namespace Foundation.Posix

structure Inode (β : Type) where
  content : List β
  synced : List β
  mode : Nat

/-- A directory without hard links. An open file keeps naming the inode it was opened on. -/
structure Volume (β : Type) where
  names : String → Option Nat
  inode : Nat → Inode β
  next : Nat
  allocated : ∀ name fd, names name = some fd → fd < next
  unlinked : ∀ name other fd, names name = some fd → names other = some fd → name = other

namespace Volume

variable {β : Type}

def openTruncate (volume : Volume β) (name : String) (mode : Nat) : Nat × Volume β :=
  match volume.names name with
  | some fd => (fd, { volume with
      inode := Function.update volume.inode fd { volume.inode fd with content := [] } })
  | none => (volume.next, {
      names := Function.update volume.names name (some volume.next)
      inode := Function.update volume.inode volume.next ⟨[], [], mode⟩
      next := volume.next + 1
      allocated := by
        intro other fd named
        rw [Function.update_apply] at named
        split at named
        · cases named
          exact Nat.lt_succ_self _
        · exact Nat.lt_succ_of_lt (volume.allocated other fd named)
      unlinked := by
        intro left right fd leftNamed rightNamed
        rw [Function.update_apply] at leftNamed rightNamed
        split at leftNamed <;> split at rightNamed
        · simp_all
        · cases leftNamed
          exact absurd (volume.allocated right _ rightNamed) (Nat.lt_irrefl _)
        · cases rightNamed
          exact absurd (volume.allocated left _ leftNamed) (Nat.lt_irrefl _)
        · exact volume.unlinked left right fd leftNamed rightNamed })

def modify (volume : Volume β) (fd : Nat) (change : Inode β → Inode β) : Volume β :=
  { volume with inode := Function.update volume.inode fd (change (volume.inode fd)) }

def overwrite (filler : β) (content : List β) (offset : Nat) (data : List β) : List β :=
  content.take offset ++ List.replicate (offset - content.length) filler ++ data ++
    content.drop (offset + data.length)

def writeAt (filler : β) (volume : Volume β) (fd offset : Nat) (data : List β) : Volume β :=
  volume.modify fd fun inode => { inode with content := overwrite filler inode.content offset data }

def sync (volume : Volume β) (fd : Nat) : Volume β :=
  volume.modify fd fun inode => { inode with synced := inode.content }

def chmod (volume : Volume β) (name : String) (mode : Nat) : Option (Volume β) :=
  (volume.names name).map fun fd => volume.modify fd fun inode => { inode with mode }

/-- `rename`, which moves the name and drops the file that had the target name. -/
def rename (volume : Volume β) (source target : String) (different : source ≠ target) : Option (Volume β) :=
  match found : volume.names source with
  | none => none
  | some fd => some { volume with
      names := Function.update (Function.update volume.names target (some fd)) source none
      allocated := by
        intro name other named
        rw [Function.update_apply] at named
        split at named
        · cases named
        · rw [Function.update_apply] at named
          split at named
          · exact volume.allocated source other (found.trans named)
          · exact volume.allocated name other named
      unlinked := by
        have moved : ∀ name other, Function.update (Function.update volume.names target (some fd)) source none
            name = some other → (name = target ∧ volume.names source = some other) ∨
              (name ≠ source ∧ name ≠ target ∧ volume.names name = some other) := by
          intro name other named
          rw [Function.update_apply, Function.update_apply] at named
          split at named
          · cases named
          · split at named
            · exact .inl ⟨‹_›, found.trans named⟩
            · exact .inr ⟨‹_›, ‹_›, named⟩
        intro left right other leftNamed rightNamed
        rcases moved left other leftNamed with ⟨rfl, fromSource⟩ | ⟨notSource, _, kept⟩
        · rcases moved right other rightNamed with ⟨rfl, _⟩ | ⟨notSource, _, kept⟩
          · rfl
          · exact absurd (volume.unlinked right source other kept fromSource) notSource
        · rcases moved right other rightNamed with ⟨rfl, fromSource⟩ | ⟨_, _, alsoKept⟩
          · exact absurd (volume.unlinked left source other kept fromSource) notSource
          · exact volume.unlinked left right other kept alsoKept }

def file (volume : Volume β) (name : String) : Option (Inode β) := (volume.names name).map volume.inode

@[simp] theorem modify_names (volume : Volume β) (fd : Nat) (change : Inode β → Inode β) :
    (volume.modify fd change).names = volume.names := rfl

@[simp] theorem modify_inode_self (volume : Volume β) (fd : Nat) (change : Inode β → Inode β) :
    (volume.modify fd change).inode fd = change (volume.inode fd) := Function.update_self ..

theorem modify_inode_of_ne {volume : Volume β} {fd other : Nat} {change : Inode β → Inode β}
    (different : other ≠ fd) : (volume.modify fd change).inode other = volume.inode other :=
  Function.update_of_ne different ..

theorem modify_file_of_ne {volume : Volume β} {fd : Nat} (change : Inode β → Inode β) {name : String}
    (different : volume.names name ≠ some fd) : (volume.modify fd change).file name = volume.file name := by
  unfold file
  cases found : volume.names name with
  | none => rw [modify_names, found]; rfl
  | some other =>
    rw [modify_names, found, Option.map_some, Option.map_some, modify_inode_of_ne]
    rintro rfl
    exact different found

theorem overwrite_append (filler : β) (content data : List β) :
    overwrite filler content content.length data = content ++ data := by
  simp [overwrite]

/-- Opening a name leaves every other name with its file, and hands out the empty file that the
    name has from then on. -/
theorem openTruncate_spec (volume : Volume β) (name : String) (mode : Nat) :
    (volume.openTruncate name mode).2.names name = some (volume.openTruncate name mode).1 ∧
    ((volume.openTruncate name mode).2.inode (volume.openTruncate name mode).1).content = [] ∧
    ∀ other, other ≠ name → (volume.openTruncate name mode).2.file other = volume.file other ∧
      (volume.openTruncate name mode).2.names other = volume.names other := by
  unfold openTruncate
  split
  case h_1 fd found =>
    refine ⟨found, by simp, ?_⟩
    intro other different
    refine ⟨modify_file_of_ne (fun inode => { inode with content := [] }) fun same => ?_, rfl⟩
    exact different (volume.unlinked other name fd same found)
  case h_2 missing =>
    refine ⟨by simp, by simp, ?_⟩
    intro other different
    have same : Function.update volume.names name (some volume.next) other = volume.names other :=
      Function.update_of_ne different ..
    refine ⟨?_, same⟩
    unfold file
    simp only [same]
    cases found : volume.names other with
    | none => rfl
    | some fd =>
      have old := volume.allocated other fd found
      rw [Option.map_some, Option.map_some, Function.update_of_ne (by omega)]

theorem rename_some {volume after : Volume β} {source target : String} {different : source ≠ target}
    (moved : volume.rename source target different = some after) :
    ∃ fd, volume.names source = some fd ∧ after.inode = volume.inode ∧ after.names target = some fd ∧
      after.names source = none := by
  unfold rename at moved
  split at moved
  · cases moved
  case h_2 fd found =>
    cases moved
    refine ⟨fd, found, rfl, ?_, Function.update_self ..⟩
    simp only [ne_eq, Ne.symm different, not_false_eq_true, Function.update_of_ne, Function.update_self]

theorem rename_isSome {volume : Volume β} {source target : String} {fd : Nat} (different : source ≠ target)
    (found : volume.names source = some fd) : ∃ after, volume.rename source target different = some after := by
  unfold rename
  split
  case h_1 missing => rw [found] at missing; cases missing
  case h_2 => exact ⟨_, rfl⟩

end Volume

end Foundation.Posix

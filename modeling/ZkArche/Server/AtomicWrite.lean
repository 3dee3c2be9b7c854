import ZkArche.Foundation.Posix
import ZkArche.Foundation.Runs
import ZkArche.Primitives.Environment

namespace ZkArche.Server

open Foundation Foundation.Posix

variable {β : Type}

/-- `format!("{path}.tmp")`. -/
def tmpPath (path : String) : String := path ++ ".tmp"

theorem tmpPath_ne (path : String) : tmpPath path ≠ path := by
  intro same
  have lengths := congrArg String.length same
  rw [tmpPath, String.length_append] at lengths
  have suffix : ".tmp".length = 4 := by decide
  omega

def noSuchFile : IoError := ⟨.other, "No such file or directory (os error 2)"⟩

/-- Where a call of `write_private_file_atomic` stands. Its descriptor is open from the first
    step to the last write and sync. -/
inductive WritePc where
  | ready
  | opened (fd written : Nat)
  | synced
  | restricted
  | returned (result : Except IoError Unit)
  | faulted (error : IoError)

structure WriteCall (β : Type) where
  data : List β
  pc : WritePc

/-- The next file-system step of a call; a write takes some of the remaining bytes. -/
def WriteCall.step [Octet β] (path : String) (chunk : Nat) (call : WriteCall β) (volume : Volume β) :
    Option (WritePc × Volume β) :=
  match call.pc with
  | .ready =>
    let (fd, volume) := volume.openTruncate (tmpPath path) 0o600
    some (.opened fd 0, volume)
  | .opened fd written =>
    if written < call.data.length then
      let part := (call.data.drop written).take (chunk + 1)
      some (.opened fd (written + part.length), volume.writeAt (Octet.lit 0) fd written part)
    else some (.synced, volume.sync fd)
  | .synced =>
    match volume.chmod (tmpPath path) 0o600 with
    | some volume => some (.restricted, volume)
    | none => some (.returned (.error noSuchFile), volume)
  | .restricted =>
    match volume.rename (tmpPath path) path (tmpPath_ne path) with
    | some volume => some (.returned (.ok ()), volume)
    | none => some (.returned (.error noSuchFile), volume)
  | .returned _ => none
  | .faulted _ => none

structure Disk (β : Type) where
  volume : Volume β
  calls : Nat → Option (WriteCall β)

inductive DiskAction (β : Type) where
  | call (i : Nat) (data : List β)
  | step (i chunk : Nat)
  | fault (i : Nat) (error : IoError)

def Disk.put (disk : Disk β) (i : Nat) (call : WriteCall β) : Disk β :=
  { disk with calls := Function.update disk.calls i (some call) }

def Disk.perform [Octet β] (path : String) (disk : Disk β) : DiskAction β → Option (Disk β)
  | .call i data =>
    match disk.calls i with
    | none => some (disk.put i { data, pc := .ready })
    | some _ => none
  | .step i chunk => (disk.calls i).bind fun call =>
    (call.step path chunk disk.volume).map fun (pc, volume) => Disk.put { disk with volume } i { call with pc }
  | .fault i error => (disk.calls i).bind fun call =>
    match call.pc with
    | .returned _ => none
    | _ => some (disk.put i { call with pc := .faulted error })

def WritePc.isWriting : WritePc → Bool
  | .opened _ _ | .synced | .restricted => true
  | _ => false

/-- A call opens the temporary file only when no other call is between its open and its
    rename. -/
def Exclusive (disk : Disk β) : DiskAction β → Prop
  | .step i _ => ∀ call, disk.calls i = some call → call.pc = .ready →
      ∀ j other, disk.calls j = some other → other.pc.isWriting = false
  | _ => True

def WriteCall.Holds (path : String) (volume : Volume β) (call : WriteCall β) : Prop :=
  match call.pc with
  | .opened fd written => volume.names (tmpPath path) = some fd ∧ written ≤ call.data.length ∧
      (volume.inode fd).content = call.data.take written
  | .synced => ∃ fd, volume.names (tmpPath path) = some fd ∧
      (volume.inode fd).content = call.data ∧ (volume.inode fd).synced = call.data
  | .restricted => ∃ fd, volume.names (tmpPath path) = some fd ∧
      (volume.inode fd).content = call.data ∧ (volume.inode fd).synced = call.data ∧
      (volume.inode fd).mode = 0o600
  | _ => True

/-- The file is the old one or the complete data of one call, all of it synced. -/
def Untorn (path : String) (start : Volume β) (disk : Disk β) : Prop :=
  match disk.volume.file path with
  | none => start.file path = none
  | some inode => (start.file path = some inode ∨
      ∃ i call, disk.calls i = some call ∧ inode.content = call.data ∧ inode.synced = call.data)

structure Safe (path : String) (start : Volume β) (disk : Disk β) : Prop where
  untorn : Untorn path start disk
  alone : ∀ i j call other, disk.calls i = some call → disk.calls j = some other →
    call.pc.isWriting = true → other.pc.isWriting = true → i = j
  holds : ∀ i call, disk.calls i = some call → call.Holds path disk.volume
  succeeds : ∀ i call result, disk.calls i = some call → call.pc = .returned result → result = .ok ()

section Steps

variable {path : String} {start volume : Volume β} {disk : Disk β} {i : Nat} {call : WriteCall β} {pc : WritePc}

theorem put_calls {j : Nat} {other : WriteCall β} (found : (disk.put i call).calls j = some other) :
    (j = i ∧ other = call) ∨ (j ≠ i ∧ disk.calls j = some other) := by
  simp only [Disk.put, Function.update_apply] at found
  split at found
  case isTrue same =>
    cases found
    exact .inl ⟨same, rfl⟩
  case isFalse different => exact .inr ⟨different, found⟩

theorem put_self : (disk.put i call).calls i = some call := Function.update_self ..

theorem put_of_ne {j : Nat} (different : j ≠ i) : (disk.put i call).calls j = disk.calls j :=
  Function.update_of_ne different ..

theorem WriteCall.holds_of_idle (idle : call.pc.isWriting = false) : call.Holds path volume := by
  unfold Holds
  cases position : call.pc <;> simp_all [WritePc.isWriting]

/-- A change of one call keeps the file at the path whole, when the call owns the temporary file
    alone or does not touch the directory. -/
theorem Safe.put (safe : Safe path start disk) (volume : Volume β) (kept : ∀ old, disk.calls i = some old → old.data = call.data)
    (file : volume.file path = disk.volume.file path ∨
      ∃ inode, volume.file path = some inode ∧ inode.content = call.data ∧ inode.synced = call.data)
    (holds : call.Holds path volume)
    (others : (∀ j other, j ≠ i → disk.calls j = some other → other.pc.isWriting = false) ∨
      (volume = disk.volume ∧ call.pc.isWriting = false))
    (succeeds : ∀ result, call.pc = .returned result → result = .ok ()) :
    Safe path start (Disk.put { disk with volume } i call) := by
  have here : ∀ j other, disk.calls j = some other → ∃ same,
      (Disk.put { disk with volume } i call).calls j = some same ∧ same.data = other.data := by
    intro j other found
    by_cases self : j = i
    · subst self
      exact ⟨call, put_self, (kept other found).symm⟩
    · exact ⟨other, by rw [put_of_ne self]; exact found, rfl⟩
  constructor
  · rcases file with unchanged | ⟨inode, replaced, content, synced⟩
    · have untorn := safe.untorn
      unfold Untorn at untorn ⊢
      rw [show (Disk.put { disk with volume } i call).volume.file path = disk.volume.file path from unchanged]
      split at untorn
      · exact untorn
      · rcases untorn with old | ⟨j, other, found, content, synced⟩
        · exact .inl old
        · obtain ⟨same, found, data⟩ := here j other found
          exact .inr ⟨j, same, found, by rw [data, content], by rw [data, synced]⟩
    · unfold Untorn
      rw [show (Disk.put { disk with volume } i call).volume.file path = some inode from replaced]
      exact .inr ⟨i, _, put_self, content, synced⟩
  · intro j k one two oneFound twoFound oneWriting twoWriting
    rcases put_calls oneFound with ⟨rfl, rfl⟩ | ⟨oneOther, oneFound⟩
    · rcases put_calls twoFound with ⟨rfl, rfl⟩ | ⟨twoOther, twoFound⟩
      · rfl
      · rcases others with idle | ⟨_, idle⟩
        · rw [idle k two twoOther twoFound] at twoWriting
          cases twoWriting
        · rw [idle] at oneWriting
          cases oneWriting
    · rcases others with idle | ⟨_, idle⟩
      · rw [idle j one oneOther oneFound] at oneWriting
        cases oneWriting
      · rcases put_calls twoFound with ⟨rfl, rfl⟩ | ⟨_, twoFound⟩
        · rw [idle] at twoWriting
          cases twoWriting
        · exact safe.alone j k one two oneFound twoFound oneWriting twoWriting
  · intro j other found
    rcases put_calls found with ⟨rfl, rfl⟩ | ⟨different, found⟩
    · exact holds
    · rcases others with idle | ⟨same, _⟩
      · exact WriteCall.holds_of_idle (idle j other different found)
      · exact same ▸ safe.holds j other found
  · intro j other result found ended
    rcases put_calls found with ⟨rfl, rfl⟩ | ⟨_, found⟩
    · exact succeeds result ended
    · exact safe.succeeds j other result found ended

theorem path_ne_of_tmp {fd : Nat} (named : volume.names (tmpPath path) = some fd) : volume.names path ≠ some fd :=
  fun same => tmpPath_ne path (volume.unlinked _ _ fd named same)

theorem overwrite_take {filler : β} {data : List β} {written chunk : Nat} (bound : written ≤ data.length) :
    Volume.overwrite filler (data.take written) written ((data.drop written).take chunk) =
      data.take (written + ((data.drop written).take chunk).length) := by
  have start : (data.take written).length = written := by simp [bound]
  have grown := Volume.overwrite_append filler (data.take written) ((data.drop written).take chunk)
  rw [start] at grown
  rw [grown, List.take_add, List.length_take, ← List.take_eq_take_min]

variable [Octet β]

theorem WriteCall.step_spec {chunk : Nat} {after : Volume β} (holds : call.Holds path volume)
    (taken : call.step path chunk volume = some (pc, after)) :
    ((after.file path = volume.file path ∧ ∀ result, pc ≠ .returned result) ∨
      (pc = .returned (.ok ()) ∧ after.file path = some ⟨call.data, call.data, 0o600⟩)) ∧
    WriteCall.Holds path after { call with pc } ∧
    (call.pc = .ready ∨ call.pc.isWriting = true) := by
  unfold WriteCall.step at taken
  unfold Holds at holds
  cases position : call.pc with
  | ready =>
    rw [position] at taken
    simp only at taken
    obtain ⟨named, empty, frame⟩ := volume.openTruncate_spec (tmpPath path) 0o600
    generalize volume.openTruncate (tmpPath path) 0o600 = opening at taken named empty frame
    obtain ⟨fd, opened⟩ := opening
    cases taken
    refine ⟨.inl ⟨(frame path (tmpPath_ne path).symm).1, nofun⟩, ⟨named, Nat.zero_le _, ?_⟩, .inl rfl⟩
    rw [empty, List.take_zero]
  | opened fd written =>
    rw [position] at taken holds
    obtain ⟨named, bound, content⟩ := holds
    simp only at taken
    split at taken
    case isTrue more =>
      cases taken
      refine ⟨.inl ⟨Volume.modify_file_of_ne _ (path_ne_of_tmp named), nofun⟩, ⟨named, ?_, ?_⟩, .inr rfl⟩
      · simp only [List.length_take, List.length_drop]
        omega
      · rw [Volume.writeAt, Volume.modify_inode_self]
        simp only [content]
        exact overwrite_take bound
    case isFalse finished =>
      cases taken
      have whole : call.data.take written = call.data := List.take_of_length_le (by omega)
      rw [whole] at content
      exact ⟨.inl ⟨Volume.modify_file_of_ne _ (path_ne_of_tmp named), nofun⟩,
        ⟨fd, named, by simp [Volume.sync, content], by simp [Volume.sync, content]⟩, .inr rfl⟩
  | synced =>
    rw [position] at taken holds
    obtain ⟨fd, named, content, synced⟩ := holds
    simp only [Volume.chmod, named, Option.map_some] at taken
    cases taken
    exact ⟨.inl ⟨Volume.modify_file_of_ne _ (path_ne_of_tmp named), nofun⟩,
      ⟨fd, named, by simp [content], by simp [synced], by simp⟩, .inr rfl⟩
  | restricted =>
    rw [position] at taken holds
    obtain ⟨fd, named, content, synced, mode⟩ := holds
    obtain ⟨moved, renamed⟩ := Volume.rename_isSome (tmpPath_ne path) named
    simp only [renamed] at taken
    cases taken
    obtain ⟨fd', named', inodes, target, _⟩ := Volume.rename_some renamed
    cases named.symm.trans named'
    refine ⟨.inr ⟨rfl, ?_⟩, trivial, .inr rfl⟩
    rw [Volume.file, target, Option.map_some, inodes, ← content]
    congr 1
    rw [← mode]
    generalize volume.inode fd = inode at content synced
    cases inode
    simp_all
  | returned result =>
    rw [position] at taken
    cases taken
  | faulted error =>
    rw [position] at taken
    cases taken

theorem step_safe {action : DiskAction β} {after : Disk β} (exclusive : Exclusive disk action)
    (taken : disk.perform path action = some after) (safe : Safe path start disk) : Safe path start after := by
  cases action with
  | call i data =>
    simp only [Disk.perform] at taken
    split at taken
    case h_1 vacant =>
      cases taken
      exact safe.put disk.volume (fun old found => by rw [vacant] at found; cases found) (.inl rfl)
        trivial (.inr ⟨rfl, rfl⟩) nofun
    case h_2 => cases taken
  | step i chunk =>
    obtain ⟨call, present, taken⟩ := Option.bind_eq_some_iff.mp taken
    obtain ⟨⟨pc, volume⟩, stepped, rfl⟩ := Option.map_eq_some_iff.mp taken
    obtain ⟨file, holds, position⟩ := WriteCall.step_spec (safe.holds i call present) stepped
    refine safe.put _ (fun old found => ?_) (file.imp And.left fun replaced => ⟨_, replaced.2, rfl, rfl⟩) holds
      (.inl fun j other different found => ?_) fun result ended => ?_
    · cases present.symm.trans found
      rfl
    · rcases position with ready | writing
      · exact exclusive call present ready j other found
      · by_contra overlapping
        rw [Bool.not_eq_false] at overlapping
        exact different (safe.alone j i other call found present overlapping writing)
    · rcases file with ⟨_, unended⟩ | ⟨done, _⟩
      · exact absurd ended (unended result)
      · cases done.symm.trans ended
        rfl
  | fault i error =>
    obtain ⟨call, present, taken⟩ := Option.bind_eq_some_iff.mp taken
    have stopped : after = disk.put i { call with pc := .faulted error } := by
      split at taken
      · cases taken
      · cases taken
        rfl
    rw [stopped]
    refine safe.put disk.volume (fun old found => ?_) (.inl rfl) trivial (.inr ⟨rfl, rfl⟩) nofun
    cases present.symm.trans found
    rfl

/-- In a run whose calls do not overlap, the file at the path is at every moment the old one or
    the complete data of one call, and a call fails only by a fault it meets. -/
theorem exclusive_writes_never_tear (run : Run (Disk.perform path) Exclusive ⟨start, fun _ => none⟩ disk) :
    Untorn path start disk ∧
      ∀ i call result, disk.calls i = some call → call.pc = .returned result → result = .ok () := by
  have initial : Safe path start (⟨start, fun _ => none⟩ : Disk β) := by
    refine ⟨?_, nofun, nofun, nofun⟩
    unfold Untorn
    split
    case h_1 missing => exact missing
    case h_2 found => exact .inl found
  have safe := run.invariant _ initial fun _ _ _ safe exclusive taken => step_safe exclusive taken safe
  exact ⟨safe.untorn, safe.succeeds⟩

def stateFile (volume : Volume β) (path : String) : StateFile β :=
  match volume.file path with
  | none => .absent
  | some inode => .present inode.content inode.mode

theorem call_data (kind : List β → Prop)
    (run : Run (Disk.perform path) (fun _ action => ∀ i data, action = .call i data → kind data)
      ⟨start, fun _ => none⟩ disk) :
    ∀ i call, disk.calls i = some call → kind call.data := by
  refine run.invariant (fun disk => ∀ i call, disk.calls i = some call → kind call.data) nofun ?_
  intro state action next datas made taken j other found
  cases action with
  | call i data =>
    simp only [Disk.perform] at taken
    split at taken <;> cases taken
    rcases put_calls found with ⟨rfl, rfl⟩ | ⟨_, found⟩
    · exact made j data rfl
    · exact datas j other found
  | step i chunk =>
    obtain ⟨call, present, taken⟩ := Option.bind_eq_some_iff.mp taken
    obtain ⟨_, _, rfl⟩ := Option.map_eq_some_iff.mp taken
    rcases put_calls found with ⟨rfl, rfl⟩ | ⟨_, found⟩
    · exact datas j call present
    · exact datas j other found
  | fault i error =>
    obtain ⟨call, present, taken⟩ := Option.bind_eq_some_iff.mp taken
    split at taken
    · cases taken
    · cases taken
      rcases put_calls found with ⟨rfl, rfl⟩ | ⟨_, found⟩
      · exact datas j call present
      · exact datas j other found

end Steps

def emptyVolume : Volume UInt8 :=
  { names := fun _ => none, inode := fun _ => ⟨[], [], 0⟩, next := 0, allocated := nofun, unlinked := nofun }

theorem exclusive_step {disk : Disk β} {i chunk : Nat} {call : WriteCall β} (present : disk.calls i = some call)
    (idle : call.pc = .ready → ∀ j other, disk.calls j = some other → other.pc.isWriting = false) :
    Exclusive disk (.step i chunk) := by
  intro call' present' ready
  cases present.symm.trans present'
  exact idle ready

/-- Two calls, the second one made when the first has returned. -/
theorem exclusive_writes_never_tear_twice :
    ∃ disk first second, Run (Disk.perform "replay_cache.bin") Exclusive ⟨emptyVolume, fun _ => none⟩ disk ∧
      disk.calls 0 = some first ∧ first.data = [7] ∧ disk.calls 1 = some second ∧ second.data = [8, 9] ∧
      first.pc = .returned (.ok ()) ∧ second.pc = .returned (.ok ()) ∧
      (disk.volume.file "replay_cache.bin").map (·.content) = some [8, 9] ∧
      Untorn "replay_cache.bin" emptyVolume disk := by
  have called : Run (Disk.perform "replay_cache.bin") Exclusive ⟨emptyVolume, fun _ => none⟩ _ :=
    .step (.call 0 [7]) .refl trivial rfl
  have first : ∀ j other, (Disk.put ⟨emptyVolume, fun _ => none⟩ 0 ⟨[7], .ready⟩ : Disk UInt8).calls j = some other →
      other.pc.isWriting = false := by
    intro j other found
    rcases put_calls found with ⟨_, rfl⟩ | ⟨_, found⟩
    · rfl
    · cases found
  have opened := Run.step (.step 0 0) called (exclusive_step rfl fun _ => first) rfl
  have written := Run.step (.step 0 0) opened (exclusive_step rfl fun ready => by cases ready) rfl
  have synced := Run.step (.step 0 0) written (exclusive_step rfl fun ready => by cases ready) rfl
  have restricted := Run.step (.step 0 0) synced (exclusive_step rfl fun ready => by cases ready) rfl
  have renamed := Run.step (.step 0 0) restricted (exclusive_step rfl fun ready => by cases ready) rfl
  have called' := Run.step (DiskAction.call 1 [8, 9]) renamed trivial rfl
  have opened' := Run.step (.step 1 0) called' (exclusive_step rfl fun _ j other found => by
    by_cases own : j = 1
    · subst own
      cases found
      rfl
    · by_cases before : j = 0
      · subst before
        cases found
        rfl
      · simp [Disk.put, own, before] at found) rfl
  have written' := Run.step (.step 1 0) opened' (exclusive_step rfl fun ready => by cases ready) rfl
  have whole' := Run.step (.step 1 0) written' (exclusive_step rfl fun ready => by cases ready) rfl
  have synced' := Run.step (.step 1 0) whole' (exclusive_step rfl fun ready => by cases ready) rfl
  have restricted' := Run.step (.step 1 0) synced' (exclusive_step rfl fun ready => by cases ready) rfl
  have renamed' := Run.step (.step 1 0) restricted' (exclusive_step rfl fun ready => by cases ready) rfl
  exact ⟨_, _, _, renamed', rfl, rfl, rfl, rfl, rfl, rfl, by decide, (exclusive_writes_never_tear renamed').1⟩

def overlappingCalls : List (DiskAction UInt8) :=
  [.call 0 [7], .call 1 [8, 9], .step 0 0, .step 0 0, .step 1 0, .step 0 0, .step 0 0, .step 0 0]

def secondCallEnds : List (DiskAction UInt8) := [.step 1 1, .step 1 0, .step 1 0]

/-- The bytes at the path and how call 1 has ended, after some actions on an empty directory. -/
def afterCalls (actions : List (DiskAction UInt8)) : Option (Option (List UInt8) × Bool) :=
  (actions.foldlM (Disk.perform "replay_cache.bin") ⟨emptyVolume, fun _ => none⟩).map fun disk =>
    ((disk.volume.file "replay_cache.bin").map (·.content), match disk.calls 1 with
      | some { pc := .returned (.error _), .. } => true
      | _ => false)

def NoFault (_ : Disk UInt8) : DiskAction UInt8 → Prop
  | .call _ data => data ≠ []
  | .step _ _ => True
  | .fault _ _ => False

/-- Without any fault the file is found empty, which no call wrote, and a call fails. -/
theorem overlapping_writes_tear :
    ∃ torn ended, Run (Disk.perform "replay_cache.bin") NoFault ⟨emptyVolume, fun _ => none⟩ torn ∧
      Run (Disk.perform "replay_cache.bin") NoFault torn ended ∧
      ¬ Untorn "replay_cache.bin" emptyVolume torn ∧
      ∃ call error, ended.calls 1 = some call ∧ call.pc = .returned (.error error) := by
  have tornAfter : afterCalls overlappingCalls = some (some [], false) := by decide
  have endedAfter : afterCalls (overlappingCalls ++ secondCallEnds) = some (some [8, 9], true) := by decide
  obtain ⟨torn, reached, observed⟩ := Option.map_eq_some_iff.mp tornAfter
  obtain ⟨ended, finished, failed⟩ := Option.map_eq_some_iff.mp endedAfter
  rw [List.foldlM_append, reached] at finished
  have run : Run (Disk.perform "replay_cache.bin") NoFault ⟨emptyVolume, fun _ => none⟩ torn :=
    .of_foldlM (fun _ => by simp [overlappingCalls, NoFault]) reached
  refine ⟨torn, ended, run, .of_foldlM (fun _ => by simp [secondCallEnds, NoFault]) finished, ?_, ?_⟩
  · obtain ⟨content, _⟩ := Prod.mk.inj observed
    obtain ⟨inode, found, empty⟩ := Option.map_eq_some_iff.mp content
    unfold Untorn
    rw [found]
    rintro (old | ⟨i, call, present, same, _⟩)
    · cases old
    · refine call_data (· ≠ []) (run.mono ?_) i call present (same.symm.trans empty)
      rintro _ _ noFault i data rfl
      exact noFault
  · obtain ⟨_, status⟩ := Prod.mk.inj failed
    split at status
    case h_1 error present => exact ⟨_, error, present, rfl⟩
    case h_2 => cases status

end ZkArche.Server

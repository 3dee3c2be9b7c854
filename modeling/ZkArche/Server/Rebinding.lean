import ZkArche.Server.AcceptedSession
import ZkArche.Server.Threads

namespace ZkArche.Server

open Foundation

variable {β S P : Type} [Octet β] [Field S] [AddCommGroup P] [Module S P]
variable [DecidableEq β] [DecidableEq P] [DecidableEq S]

/-- A key that the registry holds under the device_id of an enrollment was already there at its
    collision check, or is the enrolled key itself. -/
def CheckedSetup.Undisturbed (reg : Registry β P) (checked : CheckedSetup β P) : Prop :=
  ∀ pub, registeredKey reg checked.deviceId = some pub →
    checked.seen = some pub ∨ pub = checked.deviceStaticPub

/-- No other key was bound to the device_id between the collision check of an enrollment and its
    insertion. -/
def Undisturbed (world : World β S P) : Action β S P → Prop
  | .advance i _ => ∀ thread checked proof, world.threads i = some thread →
      thread.pc = .setupVerified checked proof → checked.Undisturbed world.server.reg
  | _ => True

omit [Octet β] [AddCommGroup P] [DecidableEq P] in
theorem CheckedSetup.Undisturbed.same_key {reg : Registry β P} {checked : CheckedSetup β P} {pub : P}
    (undisturbed : checked.Undisturbed reg) (bound : registeredKey reg checked.deviceId = some pub) :
    pub = checked.deviceStaticPub := by
  rcases undisturbed pub bound with seen | own
  · exact checked.agrees pub seen
  · exact own

omit [Octet β] [AddCommGroup P] [DecidableEq P] in
theorem insertion_keeps_bindings_iff {reg : Registry β P} {checked : CheckedSetup β P} :
    (∀ id pub, registeredKey reg id = some pub →
      registeredKey (reg.insert checked.deviceId checked.record) id = some pub) ↔
    checked.Undisturbed reg := by
  constructor
  · intro keeps pub bound
    have kept := keeps _ _ bound
    rw [registeredKey_insert, if_pos rfl] at kept
    exact .inr (Option.some.inj kept).symm
  · intro undisturbed id pub bound
    rw [registeredKey_insert]
    split
    case isTrue same =>
      rw [same] at bound
      rw [undisturbed.same_key bound]
      rfl
    case isFalse => exact bound

theorem step_keeps_binding {G : Suite β S P} {ctx : ServerContext S} {world after : World β S P}
    {action : Action β S P} {id : Block β 32} {pub : P} (undisturbed : Undisturbed world action)
    (taken : world.perform G ctx action = some after) (bound : registeredKey world.server.reg id = some pub) :
    registeredKey after.server.reg id = some pub := by
  rcases perform_changes taken with same | ⟨i, moment, thread, rfl, present, changes⟩
  · rwa [same]
  · cases position : thread.pc with
    | setupVerified checked proof =>
      rw [position] at changes
      obtain ⟨registryFile, same⟩ := changes
      rw [same]
      exact insertion_keeps_bindings_iff.mpr (undisturbed thread checked proof present position) id pub bound
    | _ =>
      rw [position] at changes
      have same : after.server.reg = world.server.reg := by
        first
          | rw [show after.server = world.server from changes]
          | obtain ⟨_, changed⟩ := changes
            rw [changed]
      rwa [same]

/-- In a run without such an intrusion a device_id keeps its public key, whatever the order of
    the steps. -/
theorem device_id_never_rebound {G : Suite β S P} {ctx : ServerContext S} {start world : World β S P}
    {id : Block β 32} {pub : P} (run : Run (World.perform G ctx) Undisturbed start world)
    (bound : registeredKey start.server.reg id = some pub) : registeredKey world.server.reg id = some pub :=
  run.invariant _ bound fun _ _ _ bound undisturbed taken => step_keeps_binding undisturbed taken bound

def toyClientRandom : ClientRandom UInt8 (ZMod 5) := ⟨⟨zeros, ⟨List.replicate 16 0, rfl⟩, 1⟩, toyRandom⟩

def ownKeyAgain : CheckedSetup UInt8 (ZMod 5) :=
  { deviceId := zeros, deviceStaticPub := 1, clientNonce := zeros, roleCommitment := 1 + 1, seen := some 1
    agrees := by simp }

def reenrolling : Thread UInt8 (ZMod 5) (ZMod 5) :=
  { peerKey := "peer", random := toyClientRandom, conn := .opened [], pc := .setupVerified ownKeyAgain (1, 1) }

def reenrollment : World UInt8 (ZMod 5) (ZMod 5) :=
  World.put { server := deviceOnlyRun.server, threads := fun _ => none } 0 reenrolling

theorem device_id_never_rebound_reenrollment :
    registeredKey (reenrollment.advance toySuite benchContext 0 reenrolling .quiet).server.reg zeros = some 1 := by
  refine device_id_never_rebound (show Run (World.perform toySuite benchContext) _ reenrollment _ from
    .step (.advance 0 .quiet) .refl ?_ rfl) (by decide)
  intro thread checked proof present position pub bound
  cases present
  have place : reenrolling.pc = .setupVerified ownKeyAgain (1, 1) := rfl
  rw [place] at position
  cases position
  exact .inl (Eq.trans (by decide) bound)

noncomputable def enrollmentUpToInsertion (i : Nat) (deviceId : Block UInt8 32) (pub : ZMod 5) :
    List (Action UInt8 (ZMod 5) (ZMod 5)) :=
  [.accept i "peer" toyClientRandom fun _ => none,
    .deliver i ([0x01, 0x00] ++ deviceId.bytes ++ (encodeResidue pub).bytes ++ zeros.bytes ++
      (encodeResidue (1 : ZMod 5)).bytes)] ++
    List.replicate 5 (.advance i .quiet) ++
    [.deliver i ((encodeResidue (1 : ZMod 5)).bytes ++ (encodeResidue (1 : ZMod 5)).bytes), .advance i .quiet]

noncomputable def rebindingRace : List (Action UInt8 (ZMod 5) (ZMod 5)) :=
  enrollmentUpToInsertion 0 zeros 1 ++ enrollmentUpToInsertion 1 zeros (1 + 1) ++ [.advance 0 .quiet]

noncomputable def keyAfter (actions : List (Action UInt8 (ZMod 5) (ZMod 5))) : Option (Option (ZMod 5)) :=
  (actions.foldlM (World.perform toySuite benchContext) (boot toySuite 64 .quiet .absent .absent)).map
    fun world => registeredKey world.server.reg zeros

theorem run_of_keyAfter (actions : List (Action UInt8 (ZMod 5) (ZMod 5))) {key : Option (ZMod 5)}
    (after : keyAfter actions = some key) :
    ∃ world, actions.foldlM (World.perform toySuite benchContext)
      (boot toySuite 64 .quiet .absent .absent) = some world ∧ registeredKey world.server.reg zeros = key :=
  Option.map_eq_some_iff.mp after

set_option maxRecDepth 100000 in
/-- The second insertion of the race binds the device_id to another key. -/
theorem rebinding_race :
    ∃ middle last, Run (World.perform toySuite benchContext) (fun _ _ => True)
        (boot toySuite 64 .quiet .absent .absent) middle ∧
      Run (World.perform toySuite benchContext) (fun _ _ => True) middle last ∧
      registeredKey middle.server.reg zeros = some 1 ∧ registeredKey last.server.reg zeros = some 2 := by
  have before : keyAfter rebindingRace = some (some 1) := by decide
  have after : keyAfter (rebindingRace ++ [.advance 1 .quiet]) = some (some 2) := by decide
  obtain ⟨middle, reached, first⟩ := run_of_keyAfter _ before
  obtain ⟨last, ended, second⟩ := run_of_keyAfter _ after
  rw [List.foldlM_append, reached] at ended
  exact ⟨middle, last, .of_foldlM (fun _ _ _ => trivial) reached, .of_foldlM (fun _ _ _ => trivial) ended, first,
    second⟩

end ZkArche.Server

import ZkArche.Client.TofuPin

namespace ZkArche.Client

open Foundation

variable {β S P : Type} [Octet β] [Field S] [AddCommGroup P] [Module S P]
variable [DecidableEq β] [DecidableEq P]

def serverPubFile : String := "state/client/server_pub.bin"

def onDeviceRoot {α : Type} (part : Effect Failure (StateFile β) α) : Effect Failure (Connected β) α :=
  Effect.zoom (·.files.deviceRoot) (fun deviceRoot state => { state with files := { state.files with deviceRoot } }) part

def verifyIfPresent (path : String) (file : StateFile β) : Except Failure Unit :=
  if file.isPresent then verifyPrivateFilePermissions path file else .ok ()

/-- `main` with `--setup`, and what the setup in it hands back: the credentials come before everything else. -/
def setupCommand (G : Suite β S P) (rootFault : Option IoError) (root : Block β 32) (pairingToken : Option String)
    (allowTofuSetup : Bool) (faults : SetupFaults) (random : SetupRandom β S) :
    Effect Failure (Connected β) (Enrollee S P × SetupChallenge β S P) := do
  let files ← readFiles
  Effect.lift (verifyIfPresent deviceRootFile files.deviceRoot)
  Effect.lift (verifyIfPresent serverPubFile files.serverPub)
  let creds ← onDeviceRoot (loadDeviceCredsFromRoot G rootFault root)
  doSetup G ⟨creds.1, creds.2, pairingToken, allowTofuSetup⟩ faults random

def mainSetup (G : Suite β S P) (rootFault : Option IoError) (root : Block β 32) (pairingToken : Option String)
    (allowTofuSetup : Bool) (faults : SetupFaults) (random : SetupRandom β S) : Effect Failure (Connected β) Unit := do
  let _ ← setupCommand G rootFault root pairingToken allowTofuSetup faults random
  pure ()

variable {G : Suite β S P} {call : SetupCall β S} {faults : SetupFaults} {random : SetupRandom β S}
  {before : Connected β} {rootFault : Option IoError} {root : Block β 32} {token : Option String} {tofu : Bool}
  {file : StateFile β}

theorem doSetup_keeps_root : Effect.Keeps (fun state : Connected β => state.files.deviceRoot = file)
    (doSetup G call faults random) := by
  unfold doSetup prepareSetup
  refine Effect.Keeps.bind ?_ fun _ => ?_
  · refine Effect.Keeps.bind (Effect.keeps_zoom fun _ _ same => same) fun _ => ?_
    refine Effect.Keeps.bind (Effect.keeps_lift _) fun _ => ?_
    refine Effect.Keeps.bind (Effect.keeps_zoom fun _ _ same => same) fun _ => ?_
    refine Effect.Keeps.bind (fun _ same => same) fun _ => ?_
    refine Effect.Keeps.bind (Effect.keeps_lift _) fun _ => ?_
    exact Effect.Keeps.bind (Effect.keeps_failIf _ _) fun _ => Effect.keeps_pure _
  · refine Effect.Keeps.bind (Effect.keeps_zoom fun _ _ same => same) fun _ => ?_
    refine Effect.Keeps.bind (Effect.keeps_zoom fun _ _ same => same) fun _ => ?_
    refine Effect.Keeps.bind (Effect.keeps_zoom fun _ _ same => same) fun _ => ?_
    refine Effect.Keeps.bind (Effect.keeps_zoom fun _ _ same => same) fun _ => ?_
    refine Effect.Keeps.bind (Effect.keeps_zoom fun _ _ same => same) fun _ => ?_
    exact Effect.Keeps.bind (Effect.keeps_zoom fun _ _ same => same) fun _ => Effect.keeps_pure _

theorem prepareSetup_checked : Effect.Returns
    (fun enrollee : Enrollee S P => (enrollee.pinnedServerPub.isNone && !call.allowTofuSetup) = false)
    (prepareSetup G call faults random : Effect Failure (Connected β) (Enrollee S P)) := by
  unfold prepareSetup
  refine Effect.Returns.last fun _ => Effect.Returns.last fun _ => Effect.Returns.last fun _ => ?_
  refine Effect.Returns.last fun _ => Effect.Returns.last fun _ => ?_
  exact Effect.Returns.bind (Effect.returns_failIf _ _) fun _ checked => Effect.returns_pure checked

theorem doSetup_unpinned (unpinned : before.files.serverPub = .absent) (strict : call.allowTofuSetup = false) :
    ∃ failure after, doSetup G call faults random before = (.error failure, after) := by
  unfold doSetup
  rcases prepared : prepareSetup G call faults random before with ⟨failure | enrollee, after⟩
  · exact ⟨failure, after, Effect.bind_of_error prepared⟩
  · have none_pinned := prepareSetup_unpinned unpinned prepared
    have checked : (enrollee.pinnedServerPub.isNone && !call.allowTofuSetup) = false :=
      prepareSetup_checked before enrollee after prepared
    rw [none_pinned, strict] at checked
    exact Bool.noConfusion checked

structure Wiped (files : Files β) : Prop where
  deviceRoot : files.deviceRoot = .absent
  serverPub : files.serverPub = .absent

def rooted (root : Block β 32) (before : Connected β) : Connected β :=
  { before with files := { before.files with deviceRoot := .present root.bytes 0o600 } }

omit [DecidableEq β] [DecidableEq P] in
theorem loadDeviceCredsFromRoot_absent (G : Suite β S P) (rootFault : Option IoError) (root : Block β 32) :
    loadDeviceCredsFromRoot G rootFault root .absent = match rootFault with
      | some error => (.error (.io error), .absent)
      | none => (.ok (deriveDeviceId G root, deriveDeviceScalar G root), .present root.bytes 0o600) := by
  cases rootFault <;> rfl

/-- In a fresh directory the device root is written before the setup itself, and only a fault of the write ends the run
    before it. -/
theorem setupCommand_wiped (wiped : Wiped before.files) :
    setupCommand G rootFault root token tofu faults random before = match rootFault with
      | some error => (.error (.io error), before)
      | none => doSetup G ⟨deriveDeviceId G root, deriveDeviceScalar G root, token, tofu⟩ faults random
          (rooted root before) := by
  have first : verifyIfPresent deviceRootFile before.files.deviceRoot = .ok () := by
    rw [wiped.deviceRoot]
    rfl
  have second : verifyIfPresent serverPubFile before.files.serverPub = .ok () := by
    rw [wiped.serverPub]
    rfl
  have creds : onDeviceRoot (loadDeviceCredsFromRoot G rootFault root) before = _ := Effect.zoom_apply _ _ _ _
  rw [wiped.deviceRoot, loadDeviceCredsFromRoot_absent] at creds
  have start : readFiles before = (.ok before.files, before) := rfl
  rw [setupCommand, Effect.bind_of_ok start, Effect.bind_of_ok (Effect.lift_of_ok first),
    Effect.bind_of_ok (Effect.lift_of_ok second)]
  cases rootFault with
  | some error =>
    rw [Effect.bind_of_error creds, ← wiped.deviceRoot]
  | none =>
    rw [Effect.bind_of_ok creds]
    rfl

theorem setupCommand_rooted (wiped : Wiped before.files) : setupCommand G none root token tofu faults random before =
    doSetup G ⟨deriveDeviceId G root, deriveDeviceScalar G root, token, tofu⟩ faults random (rooted root before) :=
  setupCommand_wiped wiped

theorem mainSetup_faulted {error : IoError} (wiped : Wiped before.files) :
    mainSetup G (some error) root token tofu faults random before = (.error (.io error), before) :=
  Effect.bind_of_error (setupCommand_wiped wiped)

theorem mainSetup_root (wiped : Wiped before.files) :
    (mainSetup G none root token tofu faults random before).2.files.deviceRoot.isPresent = true := by
  have kept : Effect.Keeps (fun state : Connected β => state.files.deviceRoot = .present root.bytes 0o600)
      (doSetup G ⟨deriveDeviceId G root, deriveDeviceScalar G root, token, tofu⟩ faults random) := doSetup_keeps_root
  have present := kept (rooted root before) rfl
  rw [← setupCommand_rooted wiped] at present
  rcases ran : setupCommand G none root token tofu faults random before with ⟨failure | handed, after⟩
  · rw [ran] at present
    rw [mainSetup, Effect.bind_of_error ran]
    exact congrArg StateFile.isPresent present
  · rw [ran] at present
    rw [mainSetup, Effect.bind_of_ok ran]
    exact congrArg StateFile.isPresent present

theorem mainSetup_unpinned (wiped : Wiped before.files) :
    ∃ failure after, mainSetup G none root token false faults random before = (.error failure, after) := by
  have unpinned : (rooted root before).files.serverPub = .absent := wiped.serverPub
  have refused : ∃ failure after, doSetup G ⟨deriveDeviceId G root, deriveDeviceScalar G root, token, false⟩ faults random
      (rooted root before) = (.error failure, after) := doSetup_unpinned unpinned rfl
  obtain ⟨failure, after, refused⟩ := refused
  rw [← setupCommand_rooted wiped] at refused
  exact ⟨failure, after, Effect.bind_of_error refused⟩

end ZkArche.Client

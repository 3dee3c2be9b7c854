import ZkArche.Interop.Honest

namespace ZkArche.Interop

open Foundation Client Protocol

variable {ι S P : Type} [Field S] [AddCommGroup P] [Module S P] [DecidableEq P]

section Ends

variable {ε α : Type} {shows : α → Option Outcome} {run : Effect ε (Client.Connected UInt8) α}
  {files after : Files UInt8} {consumed written : List UInt8} {value : α} {outcome : Outcome}

theorem output_of_waits (waits : Waits Client.Connected.mk run files consumed written) :
    (End.ofDevice shows (run ⟨files, .opened consumed⟩)).conn.output = written := by
  obtain ⟨failure, after, later, same, output⟩ := waits.opened
  rw [same]
  exact output

theorem end_of_turn (turn : Turn Client.Connected.mk run files consumed written after value)
    (shown : shows value = some outcome) :
    End.ofDevice shows (run ⟨files, .opened consumed⟩) = ⟨some outcome, after, .talked consumed written⟩ := by
  rw [turn.opened, ← shown]
  rfl

theorem output_of_turn (turn : Turn Client.Connected.mk run files consumed written after value) :
    (End.ofDevice shows (run ⟨files, .opened consumed⟩)).conn.output = written := by
  rw [turn.opened]
  rfl

end Ends

variable {setting : Setting ι S P} {meeting : Meeting ι S P} {files after : Files UInt8}

structure DevicePlays (setting : Setting ι S P) (program : Program) (meeting : Meeting ι S P)
    (files after : Files UInt8) : Prop where
  opens : (deviceEnd setting program meeting files (.opened [])).conn.output = (transcriptOf setting meeting).opening
  continues : (deviceEnd setting program meeting files (.opened (transcriptOf setting meeting).answer)).conn.output =
    (transcriptOf setting meeting).fromDevice
  ends : deviceEnd setting program meeting files (.opened (transcriptOf setting meeting).fromServer) =
    ⟨some (transcriptOf setting meeting).outcome, after,
      .talked (transcriptOf setting meeting).fromServer (transcriptOf setting meeting).fromDevice⟩

def filesSetUp (setting : Setting ι S P) (own : Device UInt8 S) (files : Files UInt8) : Files UInt8 :=
  ((Files.provisioned setting.G own files).cached setting.G own).pinned setting.G (setting.rust.staticPub setting.G)

section Setup

variable {token : Option String} {allowTofu : Bool} {random : Client.SetupRandom UInt8 S} {known : Bool} {pinned : Option P}

theorem convincing_challenge (agrees : setting.Agrees)
    (honest : HonestSetup setting.G setting.rust known meeting.toSession token allowTofu random) :
    Convincing setting.G (meeting.own setting) (setting.rust.staticPub setting.G) random.clientNonce
      (meeting.challenge setting random) :=
  convincing_serverChallenge agrees.devices.serverProper honest.serverProof

variable (agrees : setting.Agrees) (call : meeting.call = .setup token allowTofu random)
  (honest : HonestSetup setting.G setting.rust known meeting.toSession token allowTofu random)
  (own : OwnFiles setting.G (meeting.own setting) files)
  (draws : Draws (meeting.own setting) files meeting.root random.blind)
  (pinning : Pinning setting.G (setting.rust.staticPub setting.G) allowTofu files.serverPub pinned)
include agrees call honest own draws pinning

theorem rustSetup_plays : DevicePlays setting .rust meeting files (filesSetUp setting (meeting.own setting) files) := by
  have proper := agrees.devices.proper meeting.device
  have convincing := convincing_challenge agrees honest
  have same : ∀ conn, conn.Quiet → runSetup setting.G meeting.root token allowTofu random ⟨files, conn⟩ =
      doSetup setting.G ((meeting.own setting).setupCall setting.G token allowTofu) .none random
        ⟨Files.provisioned setting.G (meeting.own setting) files, conn⟩ :=
    fun _ quiet => runSetup_own proper agrees.devices.serverProper own draws pinning quiet
  constructor
  · simp only [deviceEnd, transcriptOf, call]
    exact output_of_waits (.of_same same (waits_doSetup_opening proper convincing own.of honest.short pinning))
  · simp only [deviceEnd, transcriptOf, call]
    exact output_of_waits (.of_same same (waits_doSetup_answer proper convincing own.of honest.short pinning))
  · simp only [deviceEnd, transcriptOf, call]
    exact end_of_turn (.of_same same (turn_doSetup proper convincing own.of honest.short pinning)) rfl

theorem cSetup_plays (plain : PlainSetup setting meeting token random) :
    DevicePlays setting .c meeting files (filesSetUp setting (meeting.own setting) files) := by
  have convincing := convincing_challenge agrees honest
  have ready : ReadyForSetup setting.G (meeting.own setting) (Files.provisioned setting.G (meeting.own setting) files)
      token := ⟨⟨_, rfl⟩, own.of, plain.blind, honest.short, plain.text⟩
  have drawn := sameSetupDraws setting.G meeting.root random
  have same : ∀ conn, conn.Quiet → CClient.doSetup setting.so (rawSetupCall token allowTofu) .none
      (rawSetupRandom setting.G meeting.root random) ⟨files, conn⟩ =
        CClient.doSetup setting.so (rawSetupCall token allowTofu) .none (rawSetupRandom setting.G meeting.root random)
          ⟨Files.provisioned setting.G (meeting.own setting) files, conn⟩ :=
    fun _ quiet => cDoSetup_own agrees.library agrees.reduces own plain.blind draws pinning quiet _
  constructor
  · simp only [deviceEnd, transcriptOf, call]
    exact output_of_waits (.of_same same (waits_cDoSetup_opening agrees.library agrees.reduces ready pinning drawn))
  · simp only [deviceEnd, transcriptOf, call]
    exact output_of_waits (.of_same same (waits_cDoSetup_answer agrees.library agrees.reduces ready pinning drawn convincing
      plain.serverKey))
  · simp only [deviceEnd, transcriptOf, call]
    exact end_of_turn (.of_same same (turn_cDoSetup agrees.library agrees.reduces ready pinning drawn convincing
      plain.serverKey)) rfl

end Setup

structure FilesSetUp (setting : Setting ι S P) (own : Device UInt8 S) (files : Files UInt8) : Prop where
  deviceRoot : files.deviceRoot = .present own.root.bytes 0o600
  own : files.Of setting.G own
  serverPub : files.serverPub = .present (setting.G.compress (setting.rust.staticPub setting.G)).bytes 0o600

omit [DecidableEq P] in
theorem shared_served (setting : Setting ι S P) (meeting : Meeting ι S P) (mode : AuthMode)
    (random : Client.AuthRandom UInt8 S) :
    Shared.ofRustClient setting.G ((meeting.own setting).session setting.G (setting.rust.staticPub setting.G) random
      (replyOf setting.G (meeting.served setting mode random))) =
    Shared.ofRustServer setting.G (meeting.served setting mode random) := by
  have agrees : Agrees ((meeting.own setting).session setting.G (setting.rust.staticPub setting.G) random
      (replyOf setting.G (meeting.served setting mode random))) (meeting.served setting mode random) := sessions_agree
  obtain ⟨pid, aC, sC, nonceC, ephC, serverPub, aS, sS, nonceS, ephS, sessionKey, th⟩ := agrees
  rw [Shared.ofRustClient, Shared.ofRustServer, pid, aC, sC, nonceC, ephC, serverPub, aS, sS, nonceS, ephS, sessionKey, th]

section Auth

variable {vars : Vars} {random : Client.AuthRandom UInt8 S}
  (agrees : setting.Agrees) (call : meeting.call = .auth vars random)
  (honest : HonestAuth setting.G setting.rust setting.device meeting.toSession vars random)
  (setUp : FilesSetUp setting (meeting.own setting) files)
include agrees call honest setUp

omit call setUp in
theorem satisfying_served : Satisfying setting.G random.ephSecret
    ((meeting.own setting).hello setting.G (setting.rust.staticPub setting.G) random)
    (replyOf setting.G (meeting.served setting (authMode vars) random)) :=
  satisfying_replyOf agrees.devices.serverProper honest.serverProof honest.serverEph

theorem rustAuth_plays : DevicePlays setting .rust meeting files (files.cached setting.G (meeting.own setting)) := by
  have proper := agrees.devices.proper meeting.device
  have carries := RoleSent.roles (roles_sent agrees.devices honest)
  have satisfying := satisfying_served agrees honest
  have same : ∀ conn, conn.Quiet → runAuth setting.G setting.rust.allowedRoles vars meeting.root random ⟨files, conn⟩ =
      (do
        let session ← doAuthV2Session setting.G setting.rust.allowedRoles vars ((meeting.own setting).x setting.G) .none
          random
        pure (some session) : Effect Failure (Client.Connected UInt8) _) ⟨files, conn⟩ :=
    fun conn _ => runAuth_own setUp.deviceRoot setUp.serverPub conn
  have turn : Turn Client.Connected.mk (runAuth setting.G setting.rust.allowedRoles vars meeting.root random) files _ _ _ _ :=
    .of_same same ((turn_doAuthV2Session proper agrees.devices.serverProper setUp.own setUp.serverPub carries
      satisfying).bind (Turn.pure (some _)))
  rw [List.append_nil, List.append_nil] at turn
  constructor
  · simp only [deviceEnd, transcriptOf, call]
    exact output_of_waits (.of_same same (waits_doAuthV2Session proper agrees.devices.serverProper setUp.own
      setUp.serverPub carries).bind)
  · simp only [deviceEnd, transcriptOf, call]
    exact output_of_turn turn
  · simp only [deviceEnd, transcriptOf, call]
    refine end_of_turn turn ?_
    exact congrArg (fun shared => some (Outcome.established shared)) (shared_served setting meeting (authMode vars) random)

theorem cAuth_plays (plain : PlainAuth setting meeting (authMode vars) random) :
    DevicePlays setting .c meeting files (files.cached setting.G (meeting.own setting)) := by
  have satisfying := satisfying_served agrees honest
  have carries := RoleSent.roles (roles_sent agrees.devices honest)
  rw [agrees.contexts.roles] at carries
  have secret : random.ephSecret ≠ 0 := by
    intro zero
    apply honest.deviceEph
    rw [zero, zero_smul]
  have ready : Ready setting.G (meeting.own setting) files (setting.rust.staticPub setting.G) (authMode vars) random
      (rawAuthRandom setting.G meeting.root random) (rolesBytes setting.G (meeting.roles setting (authMode vars) random)) :=
    ⟨agrees.devices.proper meeting.device, agrees.devices.serverProper, ⟨⟨_, setUp.deviceRoot⟩, setUp.own, setUp.serverPub⟩,
      sameDraws setting.G meeting.root random, secret, plain.roles, carries⟩
  have turn := turn_doAuth agrees.library agrees.reduces ready satisfying plain.serverKey
  constructor
  · simp only [deviceEnd, transcriptOf, call]
    exact output_of_waits (waits_doAuth agrees.library agrees.reduces ready)
  · simp only [deviceEnd, transcriptOf, call]
    exact output_of_turn turn
  · simp only [deviceEnd, transcriptOf, call]
    refine end_of_turn turn ?_
    exact congrArg (fun shared => some (Outcome.established shared)) (shared_served setting meeting (authMode vars) random)

end Auth

end ZkArche.Interop

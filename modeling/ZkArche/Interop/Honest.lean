import ZkArche.Interop.Peers

namespace ZkArche.Interop

open Foundation Client Protocol

variable {ι S P : Type} [Field S] [AddCommGroup P] [Module S P]

def SetUpIn (before : List (Meeting ι S P)) (i : ι) : Prop :=
  ∃ earlier ∈ before, earlier.enrolls = true ∧ earlier.device = i

section Transcripts

variable (setting : Setting ι S P) (meeting : Meeting ι S P)

def Meeting.own : Device UInt8 S := setting.device meeting.device

/-- The role proof that the device sends along, none in device-only mode. -/
def Meeting.roles (mode : AuthMode) (random : Client.AuthRandom UInt8 S) : Option (RoleProof S P) :=
  if mode.deviceOnly then none
  else (proveRole setting.G setting.rust.allowedRoles ((meeting.own setting).cred setting.G)
    ((meeting.own setting).hello setting.G (setting.rust.staticPub setting.G) random) random).toOption

def Meeting.challenge (random : Client.SetupRandom UInt8 S) : SetupChallenge UInt8 S P :=
  serverChallenge setting.G (meeting.own setting) setting.rust random meeting.drawn.setup

def Meeting.served (mode : AuthMode) (random : Client.AuthRandom UInt8 S) : Server.AuthSession UInt8 S P :=
  servedSession setting.G setting.rust (meeting.own setting) mode random (meeting.roles setting mode random)
    meeting.drawn.auth

/-- What the two ends write in a session and make of it, whichever program runs at either of them. -/
def transcriptOf : Transcript :=
  match meeting.call with
  | .setup token _ random =>
    { opening := setupBytes setting.G (meeting.own setting) token random.clientNonce
      answer := challengeBytes setting.G (meeting.challenge setting random)
      fromDevice := setupSent setting.G (meeting.own setting) token (setting.rust.staticPub setting.G) random
        (meeting.challenge setting random)
      fromServer := challengeBytes setting.G (meeting.challenge setting random) ++ lits [0x01]
      outcome := .enrolled }
  | .auth vars random =>
    { opening := requestSent setting.G (meeting.own setting) (authMode vars) (setting.rust.staticPub setting.G) random
        (rolesBytes setting.G (meeting.roles setting (authMode vars) random))
      answer := replyBytes setting.G (replyOf setting.G (meeting.served setting (authMode vars) random))
      fromDevice := sessionSent setting.G (meeting.own setting) (authMode vars) (setting.rust.staticPub setting.G) random
        (rolesBytes setting.G (meeting.roles setting (authMode vars) random))
        (replyOf setting.G (meeting.served setting (authMode vars) random))
      fromServer := replyBytes setting.G (replyOf setting.G (meeting.served setting (authMode vars) random))
      outcome := .established (.ofRustServer setting.G (meeting.served setting (authMode vars) random)) }

end Transcripts

section Conditions

variable (setting : Setting ι S P)

/-- The two programs of either end do the same arithmetic, and the servers have the same key, roles and environment. -/
structure Setting.Agrees : Prop where
  library : setting.so.Matches setting.G
  reduces : ∀ wide, setting.G.fromBytesModOrderWide wide = (leNat wide.bytes : S)
  large : 32 ≤ setting.word
  contexts : SameContexts setting.G setting.rust setting.c
  devices : HonestDevices setting.G setting.rust setting.device

/-- What a setup with a C program takes besides: a token that a command line can carry, the C server's own pairing
    policy, and no identity among the products. -/
structure PlainSetup (meeting : Meeting ι S P) (token : Option String) (random : Client.SetupRandom UInt8 S) : Prop where
  text : CText token
  allowed : setting.c.policy.allowsSetup meeting.moment.now (rawToken token) = true
  blind : (meeting.own setting).blind • attrH setting.G ≠ 0
  serverKey : ChallengesSetupKey setting.G (meeting.own setting) random.clientNonce (meeting.challenge setting random)
  deviceKey : ChallengesDeviceKey setting.G setting.rust (setupRequestOf setting.G (meeting.own setting) random.clientNonce)
    meeting.drawn.setup (random.r • setting.G.basepoint)

structure PlainAuth (meeting : Meeting ι S P) (mode : AuthMode) (random : Client.AuthRandom UInt8 S) : Prop where
  roles : mode.deviceOnly = false → RoleMultiplies setting.G (meeting.own setting) random
  serverKey : ChallengesKey setting.G (replyOf setting.G (meeting.served setting mode random))
  request : NonVanishing setting.G (deviceRecord setting.G (meeting.own setting))
    (honestRequest setting.G setting.rust (meeting.own setting) mode random (meeting.roles setting mode random))

inductive PlainCall (meeting : Meeting ι S P) : Call UInt8 S → Prop where
  | setup {token : Option String} {allowTofu : Bool} {random : Client.SetupRandom UInt8 S}
      (plain : PlainSetup setting meeting token random) : PlainCall meeting (.setup token allowTofu random)
  | auth {vars : Vars} {random : Client.AuthRandom UInt8 S} (plain : PlainAuth setting meeting (authMode vars) random) :
      PlainCall meeting (.auth vars random)

/-- Files of their own, and perhaps the server's key. -/
structure HonestFiles (files : ι → Files UInt8) : Prop where
  own : ∀ i, OwnFiles setting.G (setting.device i) (files i)
  serverPub : ∀ i, (files i).serverPub = .absent ∨
    (files i).serverPub = .present (setting.G.compress (setting.rust.staticPub setting.G)).bytes 0o600

/-- Sessions that the Rust programs complete among themselves, in each of which the device has been set up before, has
    drawn its own secrets at its first setup, and asks nothing of a C program that it refuses. -/
structure HonestMeetings (files : ι → Files UInt8) (meetings : List (Meeting ι S P)) : Prop where
  calls : ∀ meeting ∈ meetings,
    HonestCall setting.G setting.rust setting.device ⟨files, .fresh⟩ meeting.toSession meeting.call
  plain : ∀ meeting ∈ meetings, PlainCall setting meeting meeting.call
  writes : ∀ meeting ∈ meetings, meeting.moment.diskFault = none
  setUpFirst : ∀ before meeting after, meetings = before ++ meeting :: after → meeting.enrolls = false →
    SetUpIn before meeting.device
  draws : ∀ before meeting after token allowTofu random, meetings = before ++ meeting :: after →
    meeting.call = .setup token allowTofu random → ¬ SetUpIn before meeting.device →
    Draws (meeting.own setting) (files meeting.device) meeting.root random.blind
  fresh : (meetings.filterMap fun meeting => meeting.nonce).Nodup

end Conditions

variable {setting : Setting ι S P} {meeting : Meeting ι S P} {before : List (Meeting ι S P)} {i : ι}

omit [Field S] [AddCommGroup P] [Module S P] in
theorem setUpIn_append : SetUpIn (before ++ [meeting]) i ↔ SetUpIn before i ∨ meeting.enrolls = true ∧ meeting.device = i := by
  unfold SetUpIn
  constructor
  · intro ⟨earlier, member, enrolls, own⟩
    rcases List.mem_append.mp member with past | last
    · exact .inl ⟨earlier, past, enrolls, own⟩
    · rw [List.mem_singleton.mp last] at enrolls own
      exact .inr ⟨enrolls, own⟩
  · rintro (⟨earlier, past, enrolls, own⟩ | ⟨enrolls, own⟩)
    · exact ⟨earlier, List.mem_append_left _ past, enrolls, own⟩
    · exact ⟨meeting, List.mem_append_right _ (List.mem_singleton_self _), enrolls, own⟩

omit [Field S] [AddCommGroup P] [Module S P] in
theorem enrolls_of_setup {token : Option String} {allowTofu : Bool} {random : Client.SetupRandom UInt8 S}
    (call : meeting.call = .setup token allowTofu random) : meeting.enrolls = true := by
  rw [Session.enrolls, call]

omit [Field S] [AddCommGroup P] [Module S P] in
theorem not_enrolls_of_auth {vars : Vars} {random : Client.AuthRandom UInt8 S} (call : meeting.call = .auth vars random) :
    meeting.enrolls = false := by
  rw [Session.enrolls, call]

theorem roles_sent (devices : HonestDevices setting.G setting.rust setting.device) {vars : Vars}
    {random : Client.AuthRandom UInt8 S}
    (honest : HonestAuth setting.G setting.rust setting.device meeting.toSession vars random) :
    RoleSent setting.G setting.rust.allowedRoles (meeting.own setting)
      ((meeting.own setting).hello setting.G (setting.rust.staticPub setting.G) random) random (authMode vars).deviceOnly
      (meeting.roles setting (authMode vars) random) := by
  classical
  obtain ⟨roles, sent⟩ := exists_roleSent devices honest
  have same : meeting.roles setting (authMode vars) random = roles := by
    unfold Meeting.roles Meeting.own
    generalize (authMode vars).deviceOnly = only at sent
    cases sent with
    | deviceOnly => rfl
    | full proves _ _ =>
      rw [if_neg Bool.false_ne_true, proves]
      rfl
  rw [same]
  exact sent

end ZkArche.Interop

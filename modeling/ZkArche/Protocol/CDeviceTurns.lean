import ZkArche.CClient.Setup
import ZkArche.Protocol.SameSessions

namespace ZkArche.Protocol

open Foundation Client
open CServer (allowedRoles)

variable {S P : Type} [Field S] [AddCommGroup P] [Module S P] [DecidableEq P]
variable {G : Suite UInt8 S P} {so : CClient.ClientSodium} {device : Device UInt8 S} {files : Files UInt8}
  {serverPub : P}

section Session

variable {rust : AuthRandom UInt8 S} {c : CClient.AuthRandom} {vars : Vars} {roles : List UInt8}
  {reply : AuthReply UInt8 S P} {hello : AuthHello UInt8 S P}

theorem turn_cFinishAuth (m : so.Matches G) {ephSecret : S} (secret : ephSecret ≠ 0)
    (satisfying : Satisfying G ephSecret hello reply) (challenges : ChallengesKey G reply) :
    Turn onlyConn (CClient.finishAuth so.toSodium (G.compress hello.pinnedServerPub) (G.toBytes ephSecret)
        (rawHello G hello)) () (replyBytes G reply) ((conclude G ephSecret hello reply).tagC G).bytes ()
      (rawSession G (conclude G ephSecret hello reply)) := by
  intro conn rest quiet input
  have serverProper : hello.pinnedServerPub ≠ 0 := satisfying.key ▸ satisfying.keyProper
  have length := length_replyBytes G reply
  obtain ⟨accepted, _, _⟩ := (acceptReply_iff m.library secret serverProper length).mpr
    ⟨reply, rfl, satisfying, challenges, rfl⟩
  have confirmed : (rawSession G (conclude G ephSecret hello reply)).tagC so.toSodium =
      (conclude G ephSecret hello reply).tagC G := tagC_eq m.library rfl rfl
  rw [← confirmed]
  exact (cFinishAuth_iff quiet).mpr ⟨_, rest, input, length, accepted, rfl⟩

variable (m : so.Matches G) (reduces : ∀ wide, G.fromBytesModOrderWide wide = (leNat wide.bytes : S))
  (ready : Ready G device files serverPub (authMode vars) rust c roles)
include m reduces ready

theorem turn_doAuth (satisfying : Satisfying G rust.ephSecret (device.hello G serverPub rust) reply)
    (challenges : ChallengesKey G reply) :
    Turn Connected.mk (CClient.doAuth so vars true .none c) files (replyBytes G reply)
      (sessionSent G device (authMode vars) serverPub rust roles reply) (files.cached G device)
      (rawSession G (device.session G serverPub rust reply)) := by
  intro conn rest quiet input
  have finishes := turn_cOnConn (turn_cFinishAuth m ready.ephSecret satisfying challenges) (files.cached G device)
    (Ready.asked G device serverPub (authMode vars) rust roles conn) rest quiet input
  rw [doAuth_apply m reduces ready quiet]
  refine finishes.trans ?_
  rw [Ready.asked, Conn.moved_moved, List.nil_append]
  rfl

theorem waits_doAuth :
    Waits Connected.mk (CClient.doAuth so vars true .none c) files []
      (requestSent G device (authMode vars) serverPub rust roles) := by
  intro conn quiet input
  have listens : Waits onlyConn (CImpl.recvAll 192) () [] [] := CImpl.waits_recvAll (by decide)
  obtain ⟨failure, after, later, run, output⟩ := waits_cOnConn listens.bind
    (files.cached G device) (Ready.asked G device serverPub (authMode vars) rust roles conn) quiet input
  rw [List.append_nil] at output
  exact ⟨failure, after, later, (doAuth_apply m reduces ready quiet).trans run, output⟩

end Session

section Setup

variable {token : Option String} {allowTofu : Bool} {pinned : Option P} {random : SetupRandom UInt8 S}
  {c : CClient.SetupRandom} {challenge : SetupChallenge UInt8 S P}

def CText (token : Option String) : Prop := ∀ text ∈ token, 0 ∉ utf8Bytes text

def rawSetupCall (token : Option String) (allowTofu : Bool) : CClient.SetupCall :=
  ⟨true, token.map utf8Bytes, allowTofu⟩

structure SameSetupDraws (G : Suite UInt8 S P) (rust : SetupRandom UInt8 S) (c : CClient.SetupRandom) : Prop where
  clientNonce : c.clientNonce = rust.clientNonce
  r : c.r = G.toBytes rust.r

def rawEnrollee (G : Suite UInt8 S P) (device : Device UInt8 S) (pinned : Option P) : CClient.Enrollee :=
  ⟨device.id G, G.toBytes (device.x G), G.compress (device.pub G), rawCred G device, pinned.isSome⟩

def rawChallenge (G : Suite UInt8 S P) (challenge : SetupChallenge UInt8 S P) : CClient.SetupChallenge :=
  ⟨challenge.serverNonce, challenge.setupChallenge, challenge.serverPubBytes, G.compress challenge.aS,
    G.toBytes challenge.sS⟩

def ChallengesSetupKey (G : Suite UInt8 S P) (device : Device UInt8 S) (clientNonce : Block UInt8 32)
    (challenge : SetupChallenge UInt8 S P) : Prop :=
  (setupServerTranscript G challenge.serverStaticPub (device.id G) (device.pub G) clientNonce challenge.serverNonce
    challenge.setupChallenge challenge.aS).challengeScalar G • challenge.serverStaticPub ≠ 0

structure ReadyForSetup (G : Suite UInt8 S P) (device : Device UInt8 S) (files : Files UInt8) (token : Option String) :
    Prop where
  root : ∃ mode, files.deviceRoot = .present device.root.bytes mode
  own : files.Of G device
  blind : device.blind • attrH G ≠ 0
  short : ∀ text ∈ token, (utf8Bytes text).length ≤ 128
  text : CText token

theorem writes_cSendPairingToken (short : ∀ text ∈ token, (utf8Bytes text).length ≤ 128) (text : CText token) :
    Writes (CClient.sendPairingToken (token.map utf8Bytes)) (Server.tokenBytes token) () := by
  cases token with
  | none =>
    refine (CImpl.writes_sendAll [0]).last ?_
    exact Writes.pure ()
  | some token =>
    have clean : CImpl.strBytes (utf8Bytes token) = utf8Bytes token := CImpl.strBytes_of_clean (text token rfl)
    have small := short token rfl
    have announced : (UInt8.ofNat (utf8Bytes token).length).toNat = (utf8Bytes token).length := by
      rw [UInt8.toNat_ofNat']
      omega
    have writes := CClient.writes_sendPairingToken (utf8Bytes token)
    rw [clean, announced, List.take_length] at writes
    have bytes : (Server.tokenBytes (some token) : List UInt8) =
        UInt8.ofNat (utf8Bytes token).length :: utf8Bytes token := by
      simp [Server.tokenBytes]
    rw [bytes]
    exact writes

omit [DecidableEq P] in
theorem pinning_isPresent {file : StateFile UInt8} (pinning : Pinning G serverPub allowTofu file pinned) :
    file.isPresent = pinned.isSome := by
  cases pinning with
  | firstUse => rfl
  | known => rfl

variable (m : so.Matches G)

include m

theorem turn_prepareSetup (reduces : ∀ wide, G.fromBytesModOrderWide wide = (leNat wide.bytes : S))
    (ready : ReadyForSetup G device files token) (pinning : Pinning G serverPub allowTofu files.serverPub pinned) :
    Turn Connected.mk (CClient.prepareSetup so .none c) files [] [] (files.cached G device)
      (rawEnrollee G device pinned) := by
  refine Turn.skip (fun _ => rfl) ?_
  refine Turn.skip (onDeviceRoot_apply m ready.root c.root) ?_
  dsimp only
  rw [makePub_device m]
  refine Turn.skip (onCDevicePub_apply device) ?_
  refine Turn.skip (onCRoleCred_apply m reduces ready.own ready.blind c.blind) ?_
  rw [pinning_isPresent pinning]
  exact Turn.pure _

omit m [DecidableEq P] in
theorem writes_cRequestSetup (ready : ReadyForSetup G device files token) (allowTofu : Bool) (pinned : Option P)
    (clientNonce : Block UInt8 32) :
    Writes (CClient.requestSetup (rawSetupCall token allowTofu) (rawEnrollee G device pinned) clientNonce)
      (setupBytes G device token clientNonce) () := by
  refine (CImpl.writes_sendAll _).bind ?_
  refine (writes_cSendPairingToken ready.short ready.text).bind ?_
  refine (CImpl.writes_sendAll _).bind ?_
  refine (CImpl.writes_sendAll _).bind ?_
  exact (CImpl.writes_sendAll _).bind (CImpl.writes_sendAll _)

theorem reads_cRecvSetupChallenge {clientNonce : Block UInt8 32}
    (convincing : Convincing G device serverPub clientNonce challenge) :
    Reads (CClient.recvSetupChallenge so.toSodium) (challengeBytes G challenge) (rawChallenge G challenge) := by
  have validPub : (!so.isValidPoint challenge.serverPubBytes) = false := by
    rw [convincing.encoded, (m.library.isValidPoint _).mpr ⟨_, rfl⟩]
    rfl
  have validA : (!so.isValidPoint (G.compress challenge.aS)) = false := by
    rw [(m.library.isValidPoint _).mpr ⟨_, rfl⟩]
    rfl
  refine (CImpl.reads_recvAll challenge.serverNonce).bind ?_
  refine (CImpl.reads_recvAll challenge.setupChallenge).bind ?_
  refine (CImpl.reads_recvAll challenge.serverPubBytes).bind ?_
  refine (CImpl.reads_recvAll (G.compress challenge.aS)).bind ?_
  refine (CImpl.reads_recvAll (G.toBytes challenge.sS)).last ?_
  refine Reads.after (silent_failIf validPub _) ?_
  exact Reads.after (silent_failIf validA _) (Reads.pure _)

omit m in
theorem cCheckPin_apply {clientNonce : Block UInt8 32} (convincing : Convincing G device serverPub clientNonce challenge)
    (pinning : Pinning G serverPub allowTofu files.serverPub pinned) (conn : Conn UInt8) :
    CClient.checkPin allowTofu pinned.isSome (rawChallenge G challenge).serverPub ⟨files, conn⟩ =
      (.ok (), ⟨files, conn⟩) := by
  generalize before : files.serverPub = file at pinning
  cases pinning with
  | firstUse allowed => exact Effect.failIf_of_false (by rw [allowed]; rfl)
  | known =>
    have loads : CClient.loadServerPub files.serverPub = some (G.compress serverPub) := by
      rw [before]
      exact CClient.readExactFile_bytes _ _
    have same : decide (G.compress serverPub ≠ (rawChallenge G challenge).serverPub) = false := by
      rw [rawChallenge, convincing.encoded]
      exact decide_eq_false (not_not_intro rfl)
    have reads : CClient.readFiles (⟨files, conn⟩ : CClient.Connected) = (.ok files, ⟨files, conn⟩) := rfl
    rw [CClient.checkPin, if_pos (by rfl), Effect.bind_of_ok reads, loads, Effect.bind_of_ok (CImpl.orFail_some _ _)]
    exact Effect.failIf_of_false same

theorem writes_cAnswerSetup (draws : SameSetupDraws G random c)
    (convincing : Convincing G device serverPub random.clientNonce challenge)
    (challenges : ChallengesSetupKey G device random.clientNonce challenge) :
    Writes (CClient.answerSetup so.toSodium (rawEnrollee G device pinned) c (rawChallenge G challenge))
      (setupProofBytes G device serverPub random challenge) () := by
  have serverBytes : (rawChallenge G challenge).serverPub = G.compress serverPub := convincing.encoded
  rw [ChallengesSetupKey, convincing.key] at challenges
  have verified : CClient.schnorrVerifySetupServer so.toSodium (rawChallenge G challenge).serverPub (device.id G)
      (G.compress (device.pub G)) c.clientNonce (rawChallenge G challenge).serverNonce (rawChallenge G challenge).setupChal
      (rawChallenge G challenge).aS (rawChallenge G challenge).sS = some () := by
    rw [serverBytes, draws.clientNonce, show (rawChallenge G challenge).sS = G.toBytes challenge.sS from rfl]
    refine (schnorrVerifySetupServer_iff m.library).mpr ⟨challenges, ?_⟩
    rw [CServer.residue_toBytes m.library]
    exact convincing.verifies
  have proves := schnorrProveSetup_eq m.library (device.x G) random.r (device.id G) random.clientNonce
    challenge.serverNonce challenge.setupChallenge (device.pub G) serverPub
  rw [← serverBytes, ← draws.clientNonce, ← draws.r] at proves
  refine Writes.after (CImpl.silent_orFail verified) ?_
  refine Writes.after (CImpl.silent_orFail proves) ?_
  rw [draws.clientNonce]
  exact (CImpl.writes_sendAll _).bind (CImpl.writes_sendAll _)

omit m in
theorem reads_cRecvAck : Reads CClient.recvAck [1] () :=
  (CImpl.reads_recvByte 1).last (Reads.silent (silent_failIf (decide_eq_false (not_not_intro rfl)) _))

omit m [DecidableEq P] in
theorem pinServerPub_apply (files : Files UInt8) (pinning : Pinning G serverPub allowTofu files.serverPub pinned)
    (conn : Conn UInt8) :
    CClient.onServerPub (CClient.pinServerPub none allowTofu pinned.isSome (G.compress serverPub)) ⟨files, conn⟩ =
      (.ok (), ⟨files.pinned G serverPub, conn⟩) := by
  generalize before : files.serverPub = file at pinning
  cases pinning with
  | firstUse allowed =>
    rw [allowed]
    rfl
  | known =>
    have unchanged : CClient.onServerPub (CClient.pinServerPub none allowTofu true (G.compress serverPub))
        ⟨files, conn⟩ = (.ok (), ⟨files, conn⟩) := rfl
    rw [Option.isSome_some, unchanged, Files.pinned, ← before]

section Whole

variable (reduces : ∀ wide, G.fromBytesModOrderWide wide = (leNat wide.bytes : S))
  (ready : ReadyForSetup G device files token) (pinning : Pinning G serverPub allowTofu files.serverPub pinned)
  (draws : SameSetupDraws G random c)
include reduces ready pinning draws

theorem turn_cDoSetup (convincing : Convincing G device serverPub random.clientNonce challenge)
    (challenges : ChallengesSetupKey G device random.clientNonce challenge) :
    Turn Connected.mk (CClient.doSetup so (rawSetupCall token allowTofu) .none c) files
      (challengeBytes G challenge ++ lits [0x01]) (setupSent G device token serverPub random challenge)
      ((files.cached G device).pinned G serverPub) (rawEnrollee G device pinned, rawChallenge G challenge) := by
  have serverBytes : (rawChallenge G challenge).serverPub = G.compress serverPub := convincing.encoded
  have asks := writes_cRequestSetup ready allowTofu pinned c.clientNonce
  rw [draws.clientNonce] at asks
  refine (turn_prepareSetup m reduces ready pinning).pass ?_
  refine Turn.skip (fun _ => rfl) ?_
  rw [draws.clientNonce]
  refine (turn_cOnConn asks.turn _).write ?_
  refine (turn_cOnConn (reads_cRecvSetupChallenge m convincing).turn _).read ?_
  refine Turn.skip (cCheckPin_apply convincing pinning) ?_
  refine (turn_cOnConn (writes_cAnswerSetup m draws convincing challenges).turn _).ask ?_
  refine (turn_cOnConn reads_cRecvAck.turn _).last ?_
  intro conn
  rw [serverBytes]
  exact Effect.bind_of_ok (pinServerPub_apply (files.cached G device) pinning conn)

theorem waits_cDoSetup_opening :
    Waits Connected.mk (CClient.doSetup so (rawSetupCall token allowTofu) .none c) files []
      (setupBytes G device token random.clientNonce) := by
  have asks := writes_cRequestSetup ready allowTofu pinned c.clientNonce
  rw [draws.clientNonce] at asks
  refine Waits.pass (turn_prepareSetup m reduces ready pinning) ?_
  refine Waits.skip (fun _ => rfl) ?_
  rw [draws.clientNonce]
  refine Waits.ask (turn_cOnConn asks.turn _) ?_
  exact (waits_cOnConn (CImpl.waits_recvAll (by decide)).bind _).bind

theorem waits_cDoSetup_answer (convincing : Convincing G device serverPub random.clientNonce challenge)
    (challenges : ChallengesSetupKey G device random.clientNonce challenge) :
    Waits Connected.mk (CClient.doSetup so (rawSetupCall token allowTofu) .none c) files (challengeBytes G challenge)
      (setupSent G device token serverPub random challenge) := by
  have asks := writes_cRequestSetup ready allowTofu pinned c.clientNonce
  rw [draws.clientNonce] at asks
  refine Waits.pass (turn_prepareSetup m reduces ready pinning) ?_
  refine Waits.skip (fun _ => rfl) ?_
  rw [draws.clientNonce]
  refine Waits.write (turn_cOnConn asks.turn _) ?_
  refine Waits.hear (turn_cOnConn (reads_cRecvSetupChallenge m convincing).turn _) ?_
  refine Waits.skip (cCheckPin_apply convincing pinning) ?_
  refine Waits.ask (turn_cOnConn (writes_cAnswerSetup m draws convincing challenges).turn _) ?_
  exact (waits_cOnConn ((CImpl.waits_recvAll (by decide)).bind).bind _).bind

end Whole

end Setup

end ZkArche.Protocol

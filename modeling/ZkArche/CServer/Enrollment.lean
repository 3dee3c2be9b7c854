import ZkArche.CServer.Handler
import ZkArche.CServer.RegistryFile

namespace ZkArche.CServer

open Foundation CImpl

/-- `handle_client` on an enrollment, up to the call of `reg_upsert`. -/
def verifiedSetup (so : Sodium) (ctx : ServerContext) (moment : Moment) (random : SetupRandom) :
    Effect Unit Connected SetupRequest := do
  let request ← onConn (readSetupRequest so ctx.policy moment.now)
  onConn (challengeSetup so ctx request random)
  onConn (verifySetup so ctx request random)
  pure request

section Requests

variable {so : Sodium} {ctx : ServerContext} {moment : Moment} {random : SetupRandom} {before middle : Connected}
  {request : SetupRequest}

theorem handleSetup_eq : handleSetup so ctx moment random = (do
    let request ← verifiedSetup so ctx moment random
    regUpsert moment.diskFault request.entry
    onConn (CImpl.sendAll [1])) := by
  simp only [handleSetup, verifiedSetup, bind_assoc, pure_bind]

theorem verifiedSetup_server (valid : verifiedSetup so ctx moment random before = (.ok request, middle)) :
    middle.server = before.server := by
  have keeps : Effect.Keeps (fun state : Connected => state.server = before.server)
      (verifiedSetup so ctx moment random) := by
    unfold verifiedSetup
    apply Effect.Keeps.bind (keeps_onConn _ (· = before.server))
    intro _
    apply Effect.Keeps.bind (keeps_onConn _ (· = before.server))
    intro _
    apply Effect.Keeps.bind (keeps_onConn _ (· = before.server))
    intro _
    exact Effect.keeps_pure _
  have same := keeps before rfl
  rw [valid] at same
  exact same

end Requests

/-- The two points of an entry have passed `check_point`, and the proof of the device was verified
    with a multiple of its key. -/
structure RegEntry.Checked (so : Sodium) (entry : RegEntry) : Prop where
  pub : so.isValidPoint entry.pub = true
  roleCommitment : so.isValidPoint entry.roleCommitment = true
  proved : ∃ c cx, so.scalarmult c entry.pub = some cx

/-- What holds of the array of a server that only `reg_upsert` has filled: no device_id comes twice,
    and all points were checked. -/
structure Sound (so : Sodium) (arr : List RegEntry) : Prop where
  names : (arr.map RegEntry.id).Nodup
  checked : ∀ entry ∈ arr, entry.Checked so

/-- The array is sound, and so is the file that a restart reads. -/
structure ServerState.Sound (so : Sodium) (server : ServerState) : Prop where
  reg : CServer.Sound so server.reg
  file : ∀ data mode, server.registryFile = .present data mode → ∃ arr, data = registryBytes arr ∧ CServer.Sound so arr

section Soundness

variable {so : Sodium} {ctx : ServerContext} {arr : List RegEntry} {entry : RegEntry} {server : ServerState}

theorem returns_checkPoint (p : Block UInt8 32) :
    Effect.Returns (fun _ => so.isValidPoint p = true) (checkPoint so p) := by
  intro state value after run
  have checked := Effect.returns_failIf _ _ state value after run
  rwa [Bool.not_eq_false'] at checked

theorem returns_readSetupRequest (policy : PairingPolicy) (now : Nat) :
    Effect.Returns (fun request => so.isValidPoint request.entry.pub = true ∧
      so.isValidPoint request.entry.roleCommitment = true) (readSetupRequest so policy now) := by
  unfold readSetupRequest
  refine Effect.Returns.last ?_
  intro tlen
  refine Effect.Returns.last ?_
  intro _
  refine Effect.Returns.last ?_
  intro token
  refine Effect.Returns.last ?_
  intro _
  refine Effect.Returns.last ?_
  intro id
  refine Effect.Returns.last ?_
  intro pub
  refine Effect.Returns.last ?_
  intro clientNonce
  refine Effect.Returns.last ?_
  intro roleCommitment
  refine Effect.Returns.bind (returns_checkPoint pub) ?_
  intro _ validPub
  refine Effect.Returns.bind (returns_checkPoint roleCommitment) ?_
  intro _ validRole
  exact Effect.returns_pure ⟨validPub, validRole⟩

theorem proved_of_schnorrVerifySetup {deviceId devicePub serverPub clientNonce serverNonce a s : Block UInt8 32}
    {setupChallenge : Block UInt8 16} (verified : schnorrVerifySetup so deviceId devicePub serverPub clientNonce
      serverNonce setupChallenge a s = some ()) : ∃ c cx, so.scalarmult c devicePub = some cx := by
  obtain ⟨tr, _, verified⟩ := Option.bind_eq_some_iff.mp verified
  obtain ⟨cx, product, _⟩ := Option.bind_eq_some_iff.mp verified
  exact ⟨_, cx, product⟩

theorem returns_verifySetup (request : SetupRequest) (random : SetupRandom) :
    Effect.Returns (fun _ => ∃ c cx, so.scalarmult c request.entry.pub = some cx)
      (verifySetup so ctx request random) := by
  unfold verifySetup
  refine Effect.Returns.last ?_
  intro a
  refine Effect.Returns.last ?_
  intro s
  refine Effect.Returns.last ?_
  intro _ state value after run
  exact proved_of_schnorrVerifySetup (orFail_ok.mp run).1

theorem returns_verifiedSetup (moment : Moment) (random : SetupRandom) :
    Effect.Returns (fun request => request.entry.Checked so) (verifiedSetup so ctx moment random) := by
  unfold verifiedSetup
  refine Effect.Returns.bind (returns_readSetupRequest ctx.policy moment.now).zoom ?_
  intro request valid
  refine Effect.Returns.last ?_
  intro _
  refine Effect.Returns.bind (returns_verifySetup request random).zoom ?_
  intro _ proved
  exact Effect.returns_pure ⟨valid.1, valid.2, proved⟩

theorem sound_nil : Sound so [] := ⟨List.nodup_nil, nofun⟩

theorem Sound.append (sound : Sound so arr) (checked : entry.Checked so)
    (new : arr.find? (fun other => other.id = entry.id) = none) : Sound so (arr ++ [entry]) := by
  constructor
  · rw [List.map_append, List.map_cons, List.map_nil, ← List.concat_eq_append]
    apply List.Nodup.concat _ sound.names
    intro member
    obtain ⟨other, there, same⟩ := List.mem_map.mp member
    have different := List.find?_eq_none.mp new other there
    exact different (decide_eq_true same)
  · intro other member
    rcases List.mem_append.mp member with old | own
    · exact sound.checked other old
    · rw [List.mem_singleton.mp own]
      exact checked

theorem Sound.upsert {appended : List RegEntry} (sound : Sound so arr) (checked : entry.Checked so)
    (outcome : CServer.upsert arr entry = .appended appended) : Sound so appended := by
  unfold CServer.upsert at outcome
  split at outcome
  · split at outcome
    · cases outcome
    · split at outcome <;> cases outcome
  · rename_i new
    cases outcome
    exact sound.append checked new

theorem keeps_regUpsert (fault : Option IoError) (checked : entry.Checked so) :
    Effect.Keeps (fun state : Connected => state.server.Sound so) (regUpsert fault entry) := by
  intro state sound
  unfold regUpsert
  cases outcome : CServer.upsert state.server.reg entry with
  | refused => exact sound
  | present => exact sound
  | appended arr =>
    have after := sound.reg.upsert checked outcome
    cases fault with
    | none =>
      refine ⟨after, ?_⟩
      intro data mode stored
      cases stored
      exact ⟨arr, rfl, after⟩
    | some error => exact ⟨after, nofun⟩

theorem keeps_sound_onConn {α : Type} (part : Effect Unit (Conn UInt8) α) :
    Effect.Keeps (fun state : Connected => state.server.Sound so) (onConn part) :=
  keeps_onConn part fun server => server.Sound so

theorem keeps_handleSetup (moment : Moment) (random : SetupRandom) :
    Effect.Keeps (fun state : Connected => state.server.Sound so) (handleSetup so ctx moment random) := by
  intro state sound
  rw [handleSetup_eq]
  rcases run : verifiedSetup so ctx moment random state with ⟨failure | request, middle⟩
  · rw [Effect.bind_of_error run]
    have kept : Effect.Keeps (fun state : Connected => state.server.Sound so) (verifiedSetup so ctx moment random) := by
      unfold verifiedSetup
      apply Effect.Keeps.bind (keeps_sound_onConn _)
      intro request
      apply Effect.Keeps.bind (keeps_sound_onConn _)
      intro _
      apply Effect.Keeps.bind (keeps_sound_onConn _)
      intro _
      exact Effect.keeps_pure _
    have after := kept state sound
    rw [run] at after
    exact after
  · rw [Effect.bind_of_ok run]
    have same := verifiedSetup_server run
    have checked := returns_verifiedSetup moment random state request middle run
    have rest := Effect.Keeps.bind (keeps_regUpsert moment.diskFault checked) fun _ => keeps_sound_onConn (CImpl.sendAll [1])
    apply rest
    rw [same]
    exact sound

theorem keeps_handleAuth (memory : Bool) (moment : Moment) (random : AuthRandom) (v3 : Bool) :
    Effect.Keeps (fun state : Connected => state.server.Sound so) (handleAuth so ctx memory moment random v3) := by
  have offReplay : ∀ {α : Type} (part : Effect Unit (ReplayCache × StateFile UInt8) α),
      Effect.Keeps (fun state : Connected => state.server.Sound so) (onReplay part) :=
    fun part => Effect.keeps_zoom fun _ _ sound => ⟨sound.reg, sound.file⟩
  have admits : ∀ pid nonceC, Effect.Keeps (fun state : Connected => state.server.Sound so)
      (admitSession ctx.vars memory moment pid nonceC) := by
    intro pid nonceC
    unfold admitSession
    split
    · exact Effect.keeps_pure _
    · apply Effect.Keeps.bind (offReplay _)
      intro replayOk
      refine Effect.Keeps.bind (Effect.keeps_failIf _ _) ?_
      intro _
      exact offReplay _
  unfold handleAuth replyAuth
  refine Effect.Keeps.bind ?_ fun reply => ?_
  · apply Effect.Keeps.bind (keeps_sound_onConn _)
    intro request
    apply Effect.Keeps.bind (admits _ _)
    intro _
    refine Effect.Keeps.bind Effect.keeps_get ?_
    intro state
    refine Effect.Keeps.bind (Effect.keeps_lift _) ?_
    intro record
    refine Effect.Keeps.bind (Effect.keeps_lift _) ?_
    intro _
    refine Effect.Keeps.bind (Effect.keeps_lift _) ?_
    intro session
    apply Effect.Keeps.bind (keeps_sound_onConn _)
    intro _
    exact Effect.keeps_pure _
  · apply Effect.Keeps.bind (keeps_sound_onConn _)
    intro _
    exact Effect.keeps_pure _

theorem keeps_handleClient (call : ClientCall) :
    Effect.Keeps (fun state : Connected => state.server.Sound so) (handleClient so ctx call) := by
  unfold handleClient
  apply Effect.Keeps.bind (keeps_sound_onConn _)
  intro msg
  split
  · exact (keeps_handleSetup _ _).bind fun _ => Effect.keeps_pure _
  split
  · exact (keeps_handleAuth _ _ _ _).bind fun _ => Effect.keeps_pure _
  split
  · exact (keeps_handleAuth _ _ _ _).bind fun _ => Effect.keeps_pure _
  exact fun _ sound => sound

theorem loadRegistry_of_memory {memory : Bool} {file : StateFile UInt8} (loaded : loadRegistry memory file = some arr) :
    loadRegistry true file = some arr := by
  cases memory with
  | true => exact loaded
  | false =>
    cases file with
    | absent => exact loaded
    | unreadable error => exact loaded
    | present data mode =>
      unfold loadRegistry at loaded ⊢
      simp only [Option.bind_eq_bind, Option.bind_eq_some_iff] at loaded ⊢
      obtain ⟨whole, even, rest⟩ := loaded
      refine ⟨whole, even, ?_⟩
      split at rest
      · rename_i empty
        rw [if_pos empty]
        exact rest
      · cases rest

theorem sound_boot {memory : Bool × Bool × Bool} {now : Nat} {registryFile replayFile : StateFile UInt8}
    (file : ∀ data mode, registryFile = .present data mode → ∃ arr, data = registryBytes arr ∧ Sound so arr)
    (booted : boot memory now registryFile replayFile = some server) : server.Sound so := by
  obtain ⟨reg, ofFile, booted⟩ := Option.bind_eq_some_iff.mp booted
  obtain ⟨replay, _, booted⟩ := Option.bind_eq_some_iff.mp booted
  cases booted
  refine ⟨?_, file⟩
  have loaded := loadRegistry_of_memory ofFile
  cases registryFile with
  | absent =>
    cases loaded
    exact sound_nil
  | unreadable error => cases loaded
  | present data mode =>
    obtain ⟨arr, bytes, sound⟩ := file data mode rfl
    have same := loadRegistry_present.mp loaded
    rw [bytes] at same
    rw [← registryBytes_injective same]
    exact sound

end Soundness

end ZkArche.CServer

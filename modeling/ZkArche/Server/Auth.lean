import ZkArche.Server.Payload
import ZkArche.Server.Proofs

namespace ZkArche.Server

open Foundation

variable {β S P : Type} [Octet β] [Field S] [AddCommGroup P] [Module S P]
variable [DecidableEq β] [DecidableEq S]

def admitSession (vars : Vars) (moment : Moment β P) (pid nonceC : Block β 32) :
    Effect Failure (ServerState β P) (Option (List β)) := do
  let fresh ← Effect.atomically fun state =>
    let (fresh, replay) := state.replay.checkAndInsert pid nonceC
    (fresh, { state with replay })
  Effect.failIf (!fresh) (permissionDenied "replay detected")
  if benchMode vars then pure none
  else Effect.atomically fun state =>
    let (blob, replay) := state.replay.takePersistBlob moment.setOrder moment.now false
    (blob, { state with replay })

def persistReplay (moment : Moment β P) : Option (List β) → Effect Failure (ServerState β P) Unit
  | some blob => onReplayFile (replaceFile moment.diskFault blob)
  | none => pure ()

/-- The record behind the pseudonym, by handle or by a scan of the registry. -/
def findRecord (G : Suite β S P) (moment : Moment β P) (serverStaticPub : P) (state : ServerState β P)
    (handleOpt : Option (Block β 16)) (pid nonceC : Block β 32) (ephC : P) :
    Except Failure (Block β 32 × DeviceRecord P) :=
  match handleOpt with
  | some handle =>
    match state.handleIndex.lookup handle with
    | none => .error (permissionDenied "unknown device handle")
    | some (id, rec') =>
      let expectedPid := computePid G rec'.pubkey nonceC ephC serverStaticPub
      if expectedPid ≠ pid then .error (permissionDenied "device handle does not match pid")
      else .ok (id, rec')
  | none =>
    match lookupRecordByPid G (moment.regOrder.list state.reg) pid nonceC ephC serverStaticPub with
    | some (id, rec') => .ok (id, rec')
    | none => .error (permissionDenied "unknown pid (no enrolled device produces this pseudonym)")

def expect {α : Type} (message : String) : Option α → Except Failure α
  | some value => .ok value
  | none => .error (.panic message)

def require (condition : Bool) (message : String) : Except Failure Unit :=
  if condition then .ok () else .error (permissionDenied message)

def verifyProofs [DecidableEq P] (G : Suite β S P) (allowedRoles : List UInt64) (request : AuthRequest β S P)
    (record : DeviceRecord P) : Except Failure Unit := do
  require (schnorrVerifyAuth G record.pubkey request.pid request.aC request.sC request.nonceC request.ephC)
    "client Schnorr proof invalid"
  if request.deviceOnly then pure ()
  else
    let cPrime ← expect "c_prime parsed" request.cPrimeOpt
    let rerandA ← expect "rerand_a parsed" request.rerandAOpt
    let rerandS ← expect "rerand_s parsed" request.rerandSOpt
    require (verifyRoleRerandomization G record.roleCommitment cPrime rerandA rerandS request.pid
      request.nonceC request.ephC) "role re-randomization proof invalid"
    let member ← verifyRoleSetMembership G allowedRoles cPrime request.orProof request.pid request.nonceC
      request.ephC
    require member "role set-membership proof invalid"

/-- What the server draws at random during one session. -/
structure AuthRandom (β S : Type) where
  nonceS : Block β 32
  ephSecret : S
  r : S

/-- What both ends of an established session hold. -/
structure AuthSession (β S P : Type) where
  pid : Block β 32
  aC : P
  sC : S
  nonceC : Block β 32
  ephC : P
  serverPub : P
  aS : P
  sS : S
  nonceS : Block β 32
  ephS : P
  sessionKey : Block β 32
  th : Block β 32

def establish (G : Suite β S P) (serverStaticSecret : S) (request : AuthRequest β S P)
    (random : AuthRandom β S) : AuthSession β S P :=
  let serverStaticPub := serverStaticSecret • G.basepoint
  let ephS := random.ephSecret • G.basepoint
  let (aS, sS) := schnorrProveServer G serverStaticSecret random.nonceS ephS random.r
  let sessionKey := deriveSessionKey G random.ephSecret request.ephC request.nonceC random.nonceS request.pid
    request.ephC ephS
  let th := kcTranscriptHash G request.pid request.aC request.sC request.nonceC request.ephC serverStaticPub
    aS sS random.nonceS ephS
  { pid := request.pid, aC := request.aC, sC := request.sC, nonceC := request.nonceC, ephC := request.ephC,
    serverPub := serverStaticPub, aS, sS, nonceS := random.nonceS, ephS, sessionKey, th }

def AuthSession.tagS (G : Suite β S P) (session : AuthSession β S P) : Block β 32 :=
  hmacTag G (deriveKcKeys G session.sessionKey session.th).1 (ascii "server finished") session.th

def AuthSession.tagC (G : Suite β S P) (session : AuthSession β S P) : Block β 32 :=
  hmacTag G (deriveKcKeys G session.sessionKey session.th).2 (ascii "client finished") session.th

def AuthSession.payload2 (G : Suite β S P) (session : AuthSession β S P) : List β :=
  (G.compress session.serverPub).bytes ++ (G.compress session.aS).bytes ++ (G.toBytes session.sS).bytes ++
    session.nonceS.bytes ++ (G.compress session.ephS).bytes ++ (session.tagS G).bytes

def confirm (G : Suite β S P) (session : AuthSession β S P) : Effect Failure (Conn β) Unit := do
  let tagC ← recvExact 32
  Effect.failIf (decide (session.tagC G ≠ tagC)) (permissionDenied "tag_c mismatch")

def takeFinalBlob (vars : Vars) (moment : Moment β P) : Effect Failure (ServerState β P) (Option (List β)) :=
  if benchMode vars then pure none
  else Effect.atomically fun state =>
    let (blob, replay) := state.replay.takePersistBlob moment.setOrder moment.now true
    (blob, { state with replay })

/-- The moments of one session at which it looks at the clock, the disk or a hash table. -/
structure AuthMoments (β P : Type) where
  admission : Moment β P
  lookup : Moment β P
  completion : Moment β P

/-- Processes an authenticated session request. What it hands back is the session that was
    established with the device of the record found. -/
def handleAuthCommon [DecidableEq P] (G : Suite β S P) (ctx : ServerContext S) (moments : AuthMoments β P)
    (random : AuthRandom β S) (v3 : Bool) :
    Effect Failure (Connected β P) (DeviceRecord P × AuthSession β S P) := do
  let request ← onConn (readAuthRequest G ctx v3)
  let blob ← onServer (admitSession ctx.vars moments.admission request.pid request.nonceC)
  onServer (persistReplay moments.admission blob)
  let state ← readShared
  let (_, record) ← Effect.lift (findRecord G moments.lookup (ctx.staticPub G) state
    request.handleOpt request.pid request.nonceC request.ephC)
  Effect.lift (verifyProofs G ctx.allowedRoles request record)
  let session := establish G ctx.serverStaticSecret request random
  onConn (sendAll (session.payload2 G))
  onConn (confirm G session)
  let blob ← onServer (takeFinalBlob ctx.vars moments.completion)
  onServer (persistReplay moments.completion blob)
  pure (record, session)

def handleAuthV2 [DecidableEq P] (G : Suite β S P) (ctx : ServerContext S) (moments : AuthMoments β P)
    (random : AuthRandom β S) : Effect Failure (Connected β P) (DeviceRecord P × AuthSession β S P) :=
  handleAuthCommon G ctx moments random false

def handleAuthV3 [DecidableEq P] (G : Suite β S P) (ctx : ServerContext S) (moments : AuthMoments β P)
    (random : AuthRandom β S) : Effect Failure (Connected β P) (DeviceRecord P × AuthSession β S P) :=
  handleAuthCommon G ctx moments random true

omit [AddCommGroup P] in
theorem admitSession_seen (vars : Vars) (moment : Moment β P) {pid nonceC : Block β 32} {state : ServerState β P}
    (seen : replayKey pid nonceC ∈ state.replay.keys) :
    admitSession vars moment pid nonceC state = (.error (permissionDenied "replay detected"), state) := by
  rw [admitSession, Effect.bind_of_ok (Effect.atomically_apply _ _), ReplayCache.checkAndInsert_seen seen]
  rfl

def admission (vars : Vars) (moment : Moment β P) (cache : ReplayCache β) (k : ReplayKey β) :
    Option (List β) × ReplayCache β :=
  if benchMode vars then (none, cache.inserted k)
  else (cache.inserted k).takePersistBlob moment.setOrder moment.now false

omit [AddCommGroup P] in
theorem admitSession_fresh (vars : Vars) (moment : Moment β P) {pid nonceC : Block β 32} {state : ServerState β P}
    (fresh : replayKey pid nonceC ∉ state.replay.keys) :
    admitSession vars moment pid nonceC state =
      (.ok (admission vars moment state.replay (replayKey pid nonceC)).1,
        { state with replay := (admission vars moment state.replay (replayKey pid nonceC)).2 }) := by
  rw [admitSession, Effect.bind_of_ok (Effect.atomically_apply _ _), ReplayCache.checkAndInsert_fresh fresh]
  simp only [Bool.not_true]
  rw [Effect.bind_of_ok (Effect.failIf_of_false rfl), admission]
  split <;> rfl

omit [AddCommGroup P] in
theorem admitSession_ok {vars : Vars} {moment : Moment β P} {pid nonceC : Block β 32} {state after : ServerState β P}
    {blob : Option (List β)} (run : admitSession vars moment pid nonceC state = (.ok blob, after)) :
    replayKey pid nonceC ∉ state.replay.keys ∧
      blob = (admission vars moment state.replay (replayKey pid nonceC)).1 ∧
      after = { state with replay := (admission vars moment state.replay (replayKey pid nonceC)).2 } := by
  by_cases seen : replayKey pid nonceC ∈ state.replay.keys
  · rw [admitSession_seen _ _ seen] at run
    cases run
  · rw [admitSession_fresh _ _ seen] at run
    cases run
    exact ⟨seen, rfl, rfl⟩

omit [AddCommGroup P] in
theorem admitSession_state (vars : Vars) (moment : Moment β P) (pid nonceC : Block β 32) (state : ServerState β P) :
    ∃ replay, (admitSession vars moment pid nonceC state).2 = { state with replay } := by
  by_cases seen : replayKey pid nonceC ∈ state.replay.keys
  · exact ⟨state.replay, by rw [admitSession_seen _ _ seen]⟩
  · exact ⟨_, by rw [admitSession_fresh _ _ seen]⟩

omit [AddCommGroup P] in
theorem admission_keys (vars : Vars) (moment : Moment β P) (cache : ReplayCache β) (k : ReplayKey β) :
    (admission vars moment cache k).2.current = (cache.inserted k).current ∧
      (admission vars moment cache k).2.previous = (cache.inserted k).previous := by
  unfold admission
  split
  · exact ⟨rfl, rfl⟩
  · exact ReplayCache.takePersistBlob_keys _ _ _ _

omit [Octet β] [AddCommGroup P] [DecidableEq β] in
theorem persistReplay_state (moment : Moment β P) (blob : Option (List β)) (state : ServerState β P) :
    (persistReplay moment blob state).2 =
      { state with replayFile := (persistReplay moment blob state).2.replayFile } := by
  cases blob <;> rfl

omit [Octet β] [AddCommGroup P] [DecidableEq β] in
theorem persistReplay_ok {moment : Moment β P} {blob : Option (List β)} {state after : ServerState β P}
    {value : Unit} (run : persistReplay moment blob state = (.ok value, after)) :
    after = { state with replayFile := after.replayFile } := by
  have same := persistReplay_state moment blob state
  rw [run] at same
  exact same

omit [DecidableEq S] in
theorem lookupRecordByPid_mem {G : Suite β S P} {reg : List (RegistryEntry β P)} {pid nonceC : Block β 32}
    {ephC serverPub : P} {id : Block β 32} {rec' : DeviceRecord P}
    (found : lookupRecordByPid G reg pid nonceC ephC serverPub = some (id, rec')) :
    ⟨id, rec'⟩ ∈ reg ∧ computePid G rec'.pubkey nonceC ephC serverPub = pid := by
  induction reg with
  | nil => cases found
  | cons entry rest ih =>
    simp only [lookupRecordByPid] at found
    split at found
    case isTrue same =>
      cases found
      exact ⟨List.mem_cons_self, same⟩
    case isFalse =>
      obtain ⟨member, same⟩ := ih found
      exact ⟨List.mem_cons_of_mem _ member, same⟩

def Enrolled (state : ServerState β P) (handleOpt : Option (Block β 16)) (id : Block β 32)
    (record : DeviceRecord P) : Prop :=
  match handleOpt with
  | some handle => state.handleIndex.lookup handle = some (id, record)
  | none => state.reg.lookup id = some record

omit [DecidableEq S] in
theorem findRecord_ok {G : Suite β S P} {moment : Moment β P} {serverStaticPub : P} {state : ServerState β P}
    {handleOpt : Option (Block β 16)} {pid nonceC : Block β 32} {ephC : P} {id : Block β 32}
    {record : DeviceRecord P}
    (run : findRecord G moment serverStaticPub state handleOpt pid nonceC ephC = .ok (id, record)) :
    Enrolled state handleOpt id record ∧ computePid G record.pubkey nonceC ephC serverStaticPub = pid := by
  cases handleOpt with
  | some handle =>
    simp only [findRecord] at run
    split at run
    · cases run
    · split at run
      case isTrue => cases run
      case isFalse found same =>
        cases run
        exact ⟨found, not_not.mp same⟩
  | none =>
    simp only [findRecord] at run
    split at run
    case h_1 found =>
      cases run
      obtain ⟨member, same⟩ := lookupRecordByPid_mem found
      exact ⟨(moment.regOrder.mem_list _ _ _).mp member, same⟩
    case h_2 => cases run

omit [DecidableEq S] in
theorem confirm_ok {G : Suite β S P} {session : AuthSession β S P} {conn after : Conn β} {value : Unit}
    (run : confirm G session conn = (.ok value, after)) :
    conn.input = (session.tagC G).bytes ++ after.input ∧
      after = { conn with input := after.input, recv := conn.recv + 32 } := by
  simp only [confirm, Effect.bind_ok, Effect.failIf_ok, decide_eq_false_iff_not, not_not] at run
  obtain ⟨tagC, middle, read, same, rfl⟩ := run
  obtain ⟨input, rest⟩ := recvExact_ok read
  exact ⟨by rw [same]; exact input, rest⟩

omit [AddCommGroup P] [DecidableEq β] in
theorem takeFinalBlob_apply (vars : Vars) (moment : Moment β P) (state : ServerState β P) :
    ∃ blob replay, takeFinalBlob vars moment state = (.ok blob, { state with replay }) ∧
      replay.current = state.replay.current ∧ replay.previous = state.replay.previous := by
  unfold takeFinalBlob
  split
  · exact ⟨none, state.replay, rfl, rfl, rfl⟩
  · exact ⟨_, _, rfl, ReplayCache.takePersistBlob_keys _ _ _ _⟩

end ZkArche.Server

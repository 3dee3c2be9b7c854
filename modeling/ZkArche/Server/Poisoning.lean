import ZkArche.Server.AcceptedSession

namespace ZkArche.Server

open Foundation

variable {β S P : Type} [Octet β] [Field S] [AddCommGroup P] [Module S P]
variable [DecidableEq β] [DecidableEq P] [DecidableEq S]

/-- The texts of the rejections for an unknown device or a proof that does not verify. -/
def proofRejections : List String := [
  "unknown device handle",
  "device handle does not match pid",
  "unknown pid (no enrolled device produces this pseudonym)",
  "client Schnorr proof invalid",
  "role re-randomization proof invalid",
  "role set-membership proof invalid"]

def replayDetected : Failure := permissionDenied "replay detected"

/-- The two generations of the replay cache are these sets. -/
def CacheIs (current previous : Finset (ReplayKey β)) (state : ServerState β P) : Prop :=
  state.replay.current = current ∧ state.replay.previous = previous

section Frame

variable {current previous : Finset (ReplayKey β)}

omit [Octet β] [AddCommGroup P] [DecidableEq β] [DecidableEq P] in
theorem keeps_persistReplay (moment : Moment β P) (blob : Option (List β)) :
    Effect.Keeps (CacheIs current previous) (persistReplay moment blob) := by
  rintro state ⟨rfl, rfl⟩
  rw [persistReplay_state]
  exact ⟨rfl, rfl⟩

omit [AddCommGroup P] [DecidableEq β] [DecidableEq P] in
theorem keeps_takeFinalBlob (vars : Vars) (moment : Moment β P) :
    Effect.Keeps (CacheIs current previous) (takeFinalBlob vars moment) := by
  rintro state ⟨rfl, rfl⟩
  obtain ⟨blob, replay, take, same⟩ := takeFinalBlob_apply vars moment state
  rw [take]
  exact same

end Frame

/-- A request that was let past the replay check: its key was new, and the cache has it now. -/
structure Admitted (G : Suite β S P) (ctx : ServerContext S) (v3 : Bool) (before after : Connected β P)
    (request : AuthRequest β S P) (bytes rest : List β) : Prop where
  read : request.Accepted G ctx v3 bytes
  input : before.conn.input = bytes ++ rest
  fresh : replayKey request.pid request.nonceC ∉ before.server.replay.keys
  cache : CacheIs (before.server.replay.inserted (replayKey request.pid request.nonceC)).current
    (before.server.replay.inserted (replayKey request.pid request.nonceC)).previous after.server

/-- However the handler fails, it fails either before the replay check lets the request in, or
    with the key of the request in the cache. -/
theorem handleAuthCommon_error {G : Suite β S P} {ctx : ServerContext S} {moments : AuthMoments β P}
    {random : AuthRandom β S} {v3 : Bool} {before after : Connected β P} {failure : Failure}
    (run : handleAuthCommon G ctx moments random v3 before = (.error failure, after)) :
    (failure.Malformed ∨ failure = deviceOnlyRefused ∨ failure = replayDetected) ∨
      ∃ request bytes rest, Admitted G ctx v3 before after request bytes rest := by
  rcases Effect.bind_error.mp run with stopped | ⟨request, opened, readRun, run⟩
  · have early := readAuthRequest_failsOnly G ctx v3 before.conn failure (congrArg Prod.fst stopped)
    exact .inl (early.imp_right .inl)
  · obtain ⟨readRun, openedServer⟩ := onConn_ok.mp readRun
    obtain ⟨bytes, accepted, input, _⟩ := readAuthRequest_ok readRun
    by_cases seen : replayKey request.pid request.nonceC ∈ opened.server.replay.keys
    · have stopped := onServer_of_eq (admitSession_seen ctx.vars moments.admission seen)
      rw [Effect.bind_of_error stopped] at run
      cases run
      exact .inl (.inr (.inr rfl))
    · refine .inr ⟨request, bytes, opened.conn.input, accepted, input, by rwa [← openedServer], ?_⟩
      have letIn := onServer_of_eq (admitSession_fresh ctx.vars moments.admission seen)
      rw [Effect.bind_of_ok letIn] at run
      have final := congrArg Prod.snd run
      simp only at final
      rw [← openedServer, ← final]
      -- From here on the handler only writes files and snapshots.
      refine Effect.Keeps.bind (show Effect.Keeps (fun state : Connected β P => CacheIs
          (opened.server.replay.inserted (replayKey request.pid request.nonceC)).current
          (opened.server.replay.inserted (replayKey request.pid request.nonceC)).previous state.server) _
        from keeps_onServer (keeps_persistReplay _ _)) (fun _ => ?_) _ (admission_keys _ _ _ _)
      refine (keeps_readShared _).bind fun _ => ?_
      refine (Effect.keeps_lift _).bind fun _ => ?_
      refine (Effect.keeps_lift _).bind fun _ => ?_
      refine (keeps_onConn _ _).bind fun _ => ?_
      refine (keeps_onConn _ _).bind fun _ => ?_
      refine (keeps_onServer (keeps_takeFinalBlob _ _)).bind fun _ => ?_
      exact (keeps_onServer (keeps_persistReplay _ _)).bind fun _ => Effect.keeps_pure _

theorem replay_of_seen {G : Suite β S P} {ctx : ServerContext S} {moments : AuthMoments β P}
    {random : AuthRandom β S} {v3 : Bool} {before : Connected β P} {request : AuthRequest β S P}
    {bytes rest : List β} (accepted : request.Accepted G ctx v3 bytes) (input : before.conn.input = bytes ++ rest)
    (seen : replayKey request.pid request.nonceC ∈ before.server.replay.keys) :
    (handleAuthCommon G ctx moments random v3 before).1 = .error replayDetected := by
  have opened := onConn_of_eq (readAuthRequest_apply accepted input)
  have refused : ∀ conn, onServer (admitSession ctx.vars moments.admission request.pid request.nonceC)
      { before with conn } = (.error replayDetected, { before with conn }) :=
    fun _ => onServer_of_eq (admitSession_seen _ _ seen)
  rw [handleAuthCommon, Effect.bind_of_ok opened, Effect.bind_of_error (refused _)]

omit [Octet β] in
theorem inserted_forgets {cache : ReplayCache β} {k old : ReplayKey β} (full : replayGenMax ≤ cache.current.card)
    (fresh : k ∉ cache.keys) (aged : old ∈ cache.keys) (notCurrent : old ∉ cache.current) :
    old ∉ (cache.inserted k).current ∧ old ∉ (cache.inserted k).previous := by
  rw [ReplayCache.inserted, if_pos full]
  refine ⟨?_, notCurrent⟩
  rw [Finset.mem_singleton]
  rintro rfl
  exact fresh aged

/-- A rejection for an unknown device or an invalid proof leaves the key of the request in the
    cache: the sets differ from those before, a later message with the same key counts as a
    replay, and in a full generation the key pushes the older generation out. -/
theorem rejected_proof_poisons_cache {G : Suite β S P} {ctx : ServerContext S} {moments : AuthMoments β P}
    {random : AuthRandom β S} {v3 : Bool} {before after : Connected β P} {message : String}
    (rejected : message ∈ proofRejections)
    (run : handleAuthCommon G ctx moments random v3 before = (.error (permissionDenied message), after)) :
    ¬ CacheIs before.server.replay.current before.server.replay.previous after.server ∧
    ∃ request bytes rest, Admitted G ctx v3 before after request bytes rest ∧
      (∀ (moments' : AuthMoments β P) (random' : AuthRandom β S) (v3' : Bool) (conn : Conn β)
        (later : AuthRequest β S P) (bytes' rest' : List β),
        later.Accepted G ctx v3' bytes' → conn.input = bytes' ++ rest' →
        later.pid = request.pid → later.nonceC = request.nonceC →
        (handleAuthCommon G ctx moments' random' v3' { after with conn }).1 = .error replayDetected) ∧
      (replayGenMax ≤ before.server.replay.current.card →
        ∀ old ∈ before.server.replay.keys, old ∉ before.server.replay.current →
          old ∉ after.server.replay.keys) := by
  rcases handleAuthCommon_error run with early | ⟨request, bytes, rest, admitted⟩
  · exfalso
    rcases early with malformed | refused | replayed
    · rcases malformed with kind | kind <;> cases kind
    · cases refused
      revert rejected
      decide
    · cases replayed
      revert rejected
      decide
  · obtain ⟨current, previous⟩ := admitted.cache
    have present : replayKey request.pid request.nonceC ∈ after.server.replay.current := by
      rw [current]
      exact ReplayCache.mem_inserted _ _
    refine ⟨?_, request, bytes, rest, admitted, ?_, ?_⟩
    · rintro ⟨same, _⟩
      rw [same] at present
      exact admitted.fresh (ReplayCache.mem_keys.mpr (.inl present))
    · intro moments' random' v3' conn later bytes' rest' accepted input samePid sameNonce
      refine replay_of_seen accepted (show Conn.input (Connected.mk after.server conn).conn = _ from input) ?_
      rw [samePid, sameNonce]
      exact ReplayCache.mem_keys.mpr (.inl present)
    · intro full old aged notCurrent
      rw [ReplayCache.mem_keys, current, previous, not_or]
      exact inserted_forgets full admitted.fresh aged notCurrent

def strangerRun : Connected UInt8 (ZMod 5) := { deviceOnlyRun with server := .fresh }

def unknownPid {α : Type} : Except Failure α → Bool
  | .error failure => failure = permissionDenied "unknown pid (no enrolled device produces this pseudonym)"
  | .ok _ => false

theorem eq_of_unknownPid {α σ : Type} {run : Except Failure α × σ} (rejected : unknownPid run.1 = true) :
    run = (.error (permissionDenied "unknown pid (no enrolled device produces this pseudonym)"), run.2) := by
  obtain ⟨failure | value, after⟩ := run
  · rw [of_decide_eq_true rejected]
  · cases rejected

set_option maxRecDepth 100000 in
theorem strangerRun_unknownPid :
    unknownPid (handleAuthCommon toySuite benchContext .quiet toyRandom true strangerRun).1 = true := by
  decide

set_option maxRecDepth 100000 in
/-- The message of an unknown device: rejected, and its key has joined the empty cache. -/
theorem stranger_poisons_cache :
    unknownPid (handleAuthCommon toySuite benchContext .quiet toyRandom true strangerRun).1 = true ∧
    ¬ CacheIs strangerRun.server.replay.current strangerRun.server.replay.previous
      (handleAuthCommon toySuite benchContext .quiet toyRandom true strangerRun).2.server := by
  refine ⟨strangerRun_unknownPid, ?_⟩
  rintro ⟨same, _⟩
  have grown : (handleAuthCommon toySuite benchContext .quiet toyRandom true
      strangerRun).2.server.replay.current.card = 1 := by decide
  rw [same] at grown
  cases grown

theorem rejected_proof_poisons_cache_stranger :
    ¬ CacheIs strangerRun.server.replay.current strangerRun.server.replay.previous
      (handleAuthCommon toySuite benchContext .quiet toyRandom true strangerRun).2.server :=
  (rejected_proof_poisons_cache (by decide) (eq_of_unknownPid strangerRun_unknownPid)).1

end ZkArche.Server

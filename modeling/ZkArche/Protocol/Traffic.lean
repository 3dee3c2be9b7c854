import ZkArche.Client.Auth
import ZkArche.Client.TofuPin
import ZkArche.Server.Threads

namespace ZkArche.Protocol

open Foundation

variable {β S P α : Type} [Field S] [AddCommGroup P] [Module S P]

/-- A property of a connection that reading keeps: it asks nothing of the bytes that are gone. -/
def ReadStable (holds : Conn β → Prop) : Prop :=
  ∀ conn input recv, (∀ s ∈ input, s ∈ conn.input) → holds conn → holds { conn with input, recv }

def SendStable (holds : Conn β → Prop) (buf : List β) : Prop :=
  ∀ conn, holds conn → holds { conn with sent := conn.sent + buf.length } ∧
    holds { conn with sent := conn.sent + buf.length, output := conn.output ++ buf }

variable {holds : Conn β → Prop}

theorem keeps_recvExact (stable : ReadStable holds) (size : Nat) : Effect.Keeps holds (recvExact (β := β) size) := by
  intro conn start
  unfold recvExact
  split
  · exact stable conn _ _ (fun s => List.mem_of_mem_drop) start
  · exact stable conn [] conn.recv (fun _ member => absurd member List.not_mem_nil) start

theorem keeps_sendAll {buf : List β} (stable : SendStable holds buf) : Effect.Keeps holds (sendAll buf) := by
  intro conn start
  unfold sendAll
  split
  · exact (stable conn start).2
  · exact (stable conn start).1

theorem keeps_recvVec (stable : ReadStable holds) (size : Nat) : Effect.Keeps holds (recvVec (β := β) size) :=
  (keeps_recvExact stable size).bind fun _ => Effect.keeps_pure _

theorem keeps_recvU8 [Octet β] (stable : ReadStable holds) : Effect.Keeps holds (recvU8 (β := β)) :=
  (keeps_recvExact stable 1).bind fun _ => Effect.keeps_pure _

theorem keeps_recvPoint [DecidableEq P] (stable : ReadStable holds) (G : Suite β S P) (label : String) :
    Effect.Keeps holds (recvPoint G label) :=
  (keeps_recvExact stable 32).bind fun _ => (Effect.keeps_lift _).bind fun _ =>
    (Effect.keeps_lift _).bind fun _ => Effect.keeps_pure _

theorem keeps_recvScalar (stable : ReadStable holds) (G : Suite β S P) : Effect.Keeps holds (recvScalar G) :=
  (keeps_recvExact stable 32).bind fun _ => Effect.keeps_lift _

variable [Octet β]

structure Harmless (G : Suite β S P) (good : β → Prop) : Prop where
  lit : ∀ byte, good (Octet.lit byte)
  point : ∀ p, ∀ s ∈ (G.compress p).bytes, good s
  scalar : ∀ x, ∀ s ∈ (G.toBytes x).bytes, good s
  sha256 : ∀ message, ∀ s ∈ (G.sha256 message).bytes, good s
  blake2b256 : ∀ message, ∀ s ∈ (G.blake2b256 message).bytes, good s

section Client

open Client

variable {G : Suite β S P} {good : β → Prop} {call : SetupCall β S} {allowedRoles : List UInt64} {mode : AuthMode} {x : S}

omit [Octet β] in
theorem forall_mem_append {front back : List β} (first : ∀ s ∈ front, good s) (second : ∀ s ∈ back, good s) :
    ∀ s ∈ front ++ back, good s := by
  intro s member
  rcases List.mem_append.mp member with member | member
  · exact first s member
  · exact second s member

theorem Harmless.lits (harmless : Harmless G good) (bytes : List UInt8) : ∀ s ∈ lits bytes, good s := by
  intro s member
  obtain ⟨byte, _, rfl⟩ := List.mem_map.mp member
  exact harmless.lit byte

theorem Harmless.handle (harmless : Harmless G good) (devicePub : P) :
    ∀ s ∈ (computeDeviceHandle G devicePub).bytes, good s :=
  fun s member => harmless.sha256 _ s (List.mem_of_mem_take member)

theorem Harmless.branchBytes (harmless : Harmless G good) (branch : P × S × S) :
    ∀ s ∈ Client.branchBytes G branch, good s :=
  forall_mem_append (forall_mem_append (harmless.point _) (harmless.scalar _)) (harmless.scalar _)

theorem Harmless.roleProofBytes (harmless : Harmless G good) (proof : RoleProof S P) :
    ∀ s ∈ Client.roleProofBytes G proof, good s := by
  refine forall_mem_append (forall_mem_append (forall_mem_append (harmless.point _) (harmless.point _))
    (harmless.scalar _)) ?_
  intro s member
  obtain ⟨branch, _, inside⟩ := List.mem_flatMap.mp member
  exact harmless.branchBytes branch s inside

theorem Harmless.helloBytes (harmless : Harmless G good) {deviceStaticPub pinnedServerPub : P} {random : AuthRandom β S}
    (nonce : ∀ s ∈ random.nonceC.bytes, good s) :
    ∀ s ∈ Client.helloBytes G (makeHello G x deviceStaticPub pinnedServerPub random), good s :=
  forall_mem_append (forall_mem_append (forall_mem_append (forall_mem_append (harmless.sha256 _) (harmless.point _))
    (harmless.scalar _)) nonce) (harmless.point _)

theorem returns_roleBytes [DecidableEq β] [DecidableEq P] (harmless : Harmless G good) {fault : Option IoError}
    {hello : AuthHello β S P}
    {random : AuthRandom β S} : Effect.Returns (fun bytes => ∀ s ∈ bytes, good s)
      (Client.roleBytes G allowedRoles mode fault hello random) := by
  unfold Client.roleBytes
  split
  · exact Effect.returns_pure fun _ member => absurd member List.not_mem_nil
  · refine Effect.Returns.last fun cred => ?_
    refine Effect.Returns.last fun proof => ?_
    exact Effect.returns_pure (harmless.roleProofBytes proof)

omit [Octet β] in
theorem keeps_clientConn {part : Effect Failure (Conn β) α} (keeps : Effect.Keeps holds part) :
    Effect.Keeps (fun state : Connected β => holds state.conn) (onConn part) :=
  fun state start => keeps state.conn start

variable (harmless : Harmless G good) (sendable : ∀ buf, (∀ s ∈ buf, good s) → SendStable holds buf)
include harmless sendable

theorem keeps_sendMode : Effect.Keeps holds (sendMode mode) := by
  have each : ∀ bytes, Effect.Keeps holds (sendAll (lits bytes)) :=
    fun bytes => keeps_sendAll (sendable _ (harmless.lits bytes))
  unfold sendMode
  split
  · exact (each _).bind fun _ => each _
  · exact each _

theorem keeps_sendHandle (devicePub : P) : Effect.Keeps holds (sendHandle G mode devicePub) := by
  unfold sendHandle
  split
  · exact keeps_sendAll (sendable _ (harmless.handle devicePub))
  · exact Effect.keeps_pure ()

theorem keeps_requestAuth [DecidableEq β] [DecidableEq P] {faults : AuthFaults} {random : AuthRandom β S}
    (nonce : ∀ s ∈ random.nonceC.bytes, good s) :
    Effect.Keeps (fun state : Connected β => holds state.conn) (requestAuth G allowedRoles mode x faults random) := by
  have pins : Effect.Keeps (fun state : Connected β => holds state.conn) (loadPinnedServerPub G) := by
    refine Effect.Keeps.bind (fun _ start => start) fun _ => ?_
    refine (Effect.keeps_lift _).bind fun pinned => ?_
    cases pinned with
    | some pub => exact Effect.keeps_pure pub
    | none => exact fun _ start => start
  have roles : ∀ hello, Effect.Keeps (fun state : Connected β => holds state.conn)
      (Client.roleBytes G allowedRoles mode faults.roleCred hello random) := by
    intro hello
    unfold Client.roleBytes
    split
    · exact Effect.keeps_pure _
    · refine Effect.Keeps.bind (Effect.keeps_zoom fun _ _ start => start) fun _ => ?_
      exact (Effect.keeps_lift _).bind fun _ => Effect.keeps_pure _
  unfold requestAuth
  refine pins.bind fun pinnedServerPub => ?_
  refine (keeps_clientConn (keeps_sendMode harmless sendable)).bind fun _ => ?_
  refine Effect.Keeps.bind (Effect.keeps_zoom fun _ _ start => start) fun deviceStaticPub => ?_
  refine (Effect.keeps_lift _).bind fun _ => ?_
  refine (keeps_clientConn (keeps_sendHandle harmless sendable deviceStaticPub)).bind fun _ => ?_
  refine (roles _).bind_returned (returns_roleBytes harmless) fun bytes each => ?_
  refine (keeps_clientConn (keeps_sendAll (sendable _ ?_))).bind fun _ => Effect.keeps_pure _
  exact forall_mem_append (harmless.helloBytes nonce) each

theorem keeps_sendPairingToken (token : Option String) : Effect.Keeps holds (sendPairingToken token) := by
  have each : ∀ bytes, Effect.Keeps holds (sendAll (lits bytes)) :=
    fun bytes => keeps_sendAll (sendable _ (harmless.lits bytes))
  cases token with
  | none => exact each _
  | some token => exact (Effect.keeps_failIf _ _).bind fun _ => (each _).bind fun _ => each _

theorem keeps_requestSetup {enrollee : Enrollee S P} {clientNonce : Block β 32}
    (deviceId : ∀ s ∈ call.deviceId.bytes, good s) (nonce : ∀ s ∈ clientNonce.bytes, good s) :
    Effect.Keeps holds (requestSetup G call enrollee clientNonce) := by
  unfold requestSetup
  refine (keeps_sendAll (sendable _ (harmless.lits _))).bind fun _ => ?_
  refine (keeps_sendPairingToken harmless sendable _).bind fun _ => ?_
  refine (keeps_sendAll (sendable _ deviceId)).bind fun _ => ?_
  refine (keeps_sendAll (sendable _ (harmless.point _))).bind fun _ => ?_
  refine (keeps_sendAll (sendable _ nonce)).bind fun _ => ?_
  exact keeps_sendAll (sendable _ (harmless.point _))

variable [DecidableEq P]

theorem keeps_answerSetup {enrollee : Enrollee S P} {random : SetupRandom β S} {challenge : SetupChallenge β S P} :
    Effect.Keeps holds (answerSetup G call enrollee random challenge) := by
  unfold answerSetup
  refine (Effect.keeps_failIf _ _).bind fun _ => ?_
  refine (keeps_sendAll (sendable _ (harmless.point _))).bind fun _ => ?_
  exact keeps_sendAll (sendable _ (harmless.scalar _))

theorem keeps_doSetup [DecidableEq β] (stable : ReadStable holds) {faults : SetupFaults} {random : SetupRandom β S}
    (deviceId : ∀ s ∈ call.deviceId.bytes, good s) (nonce : ∀ s ∈ random.clientNonce.bytes, good s) :
    Effect.Keeps (fun state : Connected β => holds state.conn) (doSetup G call faults random) := by
  have prepares : Effect.Keeps (fun state : Connected β => holds state.conn) (prepareSetup G call faults random) := by
    intro state start
    rw [(prepareSetup_keeps G call faults random state.files.serverPub state.conn state ⟨rfl, rfl⟩).2]
    exact start
  have reads : Effect.Keeps holds (recvSetupChallenge G) := by
    refine (keeps_recvExact stable 32).bind fun _ => ?_
    refine (keeps_recvExact stable 16).bind fun _ => ?_
    refine (keeps_recvExact stable 32).bind fun _ => ?_
    refine (Effect.keeps_lift _).bind fun _ => ?_
    refine (Effect.keeps_lift _).bind fun _ => ?_
    refine (keeps_recvPoint stable G _).bind fun _ => ?_
    exact (keeps_recvScalar stable G).bind fun _ => Effect.keeps_pure _
  have acknowledged : Effect.Keeps holds (recvAck : Effect Failure (Conn β) Unit) :=
    (keeps_recvExact stable 1).bind fun _ => Effect.keeps_failIf _ _
  unfold doSetup
  refine prepares.bind fun enrollee => ?_
  refine (keeps_clientConn (keeps_requestSetup harmless sendable deviceId nonce)).bind fun _ => ?_
  refine (keeps_clientConn reads).bind fun challenge => ?_
  refine Effect.Keeps.bind (Effect.keeps_zoom fun _ _ start => start) fun _ => ?_
  refine (keeps_clientConn (keeps_answerSetup harmless sendable)).bind fun _ => ?_
  refine (keeps_clientConn acknowledged).bind fun _ => ?_
  exact Effect.Keeps.bind (Effect.keeps_zoom fun _ _ start => start) fun _ => Effect.keeps_pure _

end Client

section Server

open Server

omit [Octet β] in
theorem keeps_fail (failure : Failure) : Effect.Keeps holds (Effect.fail failure : Effect Failure (Conn β) α) :=
  fun _ start => start

theorem keeps_recvPairingToken (stable : ReadStable holds) : Effect.Keeps holds (recvPairingToken (β := β)) := by
  refine (keeps_recvU8 stable).bind fun len => ?_
  split
  · exact Effect.keeps_pure _
  · refine (Effect.keeps_failIf _ _).bind fun _ => (keeps_recvVec stable _).bind fun buf => ?_
    split
    · exact Effect.keeps_pure _
    · exact keeps_fail _

theorem keeps_readSetupRequest [DecidableEq P] (stable : ReadStable holds) (G : Suite β S P)
    (policy : PairingPolicy) (now : Nat) :
    Effect.Keeps holds (readSetupRequest G policy now) :=
  (keeps_recvPairingToken stable).bind fun _ => (Effect.keeps_failIf _ _).bind fun _ =>
    (keeps_recvExact stable 32).bind fun _ => (keeps_recvPoint stable G _).bind fun _ =>
      (keeps_recvExact stable 32).bind fun _ => (keeps_recvPoint stable G _).bind fun _ => Effect.keeps_pure _

theorem keeps_verifySetup [DecidableEq P] (stable : ReadStable holds) (G : Suite β S P) (ctx : ServerContext S)
    (request : SetupRequest β P) (random : SetupRandom β S) : Effect.Keeps holds (verifySetup G ctx request random) :=
  (keeps_recvPoint stable G _).bind fun _ => (keeps_recvScalar stable G).bind fun _ =>
    (Effect.keeps_failIf _ _).bind fun _ => Effect.keeps_pure _

theorem keeps_recvAuthHeader (stable : ReadStable holds) (v3 : Bool) : Effect.Keeps holds (recvAuthHeader (β := β) v3) := by
  cases v3 with
  | false => exact Effect.keeps_pure _
  | true =>
    refine (keeps_recvU8 stable).bind fun flags => ?_
    split
    · exact (keeps_recvExact stable 16).bind fun _ => Effect.keeps_pure _
    · exact Effect.keeps_pure _

theorem keeps_readAuthRequest [DecidableEq P] (stable : ReadStable holds) (G : Suite β S P) (ctx : ServerContext S)
    (v3 : Bool) :
    Effect.Keeps holds (readAuthRequest G ctx v3) :=
  (keeps_recvAuthHeader stable v3).bind fun _ => (Effect.keeps_failIf _ _).bind fun _ =>
    (keeps_recvVec stable _).bind fun _ => (Effect.keeps_lift _).bind fun _ => Effect.keeps_pure _

theorem keeps_confirm [DecidableEq β] (stable : ReadStable holds) (G : Suite β S P) (session : AuthSession β S P) :
    Effect.Keeps holds (confirm G session) :=
  (keeps_recvExact stable 32).bind fun _ => Effect.keeps_failIf _ _

def sends (G : Suite β S P) (ctx : ServerContext S) (random : ClientRandom β S) : Pc β S P → List (List β)
  | .setupChecked checked =>
    let proof := schnorrProveSetupServer G ctx.serverStaticSecret (ctx.staticPub G) checked.deviceId
      checked.deviceStaticPub checked.clientNonce random.setup.serverNonce random.setup.setupChallenge random.setup.r
    [random.setup.serverNonce.bytes, random.setup.setupChallenge.bytes, (G.compress (ctx.staticPub G)).bytes,
      (G.compress proof.1).bytes, (G.toBytes proof.2).bytes]
  | .setupInserted _ => [lits [0x01]]
  | .authVerified request _ => [(establish G ctx.serverStaticSecret request random.auth).payload2 G]
  | _ => []

omit [Octet β] [AddCommGroup P] in
theorem keeps_conn_onConn {part : Effect Failure (Conn β) α} (keeps : Effect.Keeps holds part) :
    Effect.Keeps (fun state : Connected β P => holds state.conn) (onConn part) :=
  fun state start => keeps state.conn start

omit [Octet β] [AddCommGroup P] in
theorem keeps_conn_onServer (part : Effect Failure (ServerState β P) α) :
    Effect.Keeps (fun state : Connected β P => holds state.conn) (onServer part) :=
  Effect.keeps_zoom fun _ _ start => start

omit [Octet β] [AddCommGroup P] in
theorem keeps_conn_readShared : Effect.Keeps (fun state : Connected β P => holds state.conn) readShared :=
  fun _ start => start

/-- What a step of a thread does to its connection: it reads, and sends nothing but its buffers. -/
theorem keeps_resume [DecidableEq β] [DecidableEq P] [DecidableEq S] {G : Suite β S P} {ctx : ServerContext S}
    {random : ClientRandom β S} {pc : Pc β S P}
    (stable : ReadStable holds) (sendable : ∀ buf ∈ sends G ctx random pc, SendStable holds buf)
    (moment : Moment β P) (peerKey : String) :
    Effect.Keeps (fun state : Connected β P => holds state.conn) (resume G ctx moment peerKey random pc) := by
  cases pc with
  | accepted =>
    refine (keeps_conn_onConn (keeps_recvU8 stable)).bind fun msgType => ?_
    intro state start
    split
    · exact start
    · split
      · exact start
      · split <;> exact start
  | setupAccepted =>
    exact ((keeps_conn_onServer _).bind fun _ => Effect.keeps_failIf _ _).bind fun _ => Effect.keeps_pure _
  | setupAdmitted =>
    exact (keeps_conn_onConn (keeps_readSetupRequest stable G ctx.policy _)).bind fun _ => Effect.keeps_pure _
  | setupRequested request =>
    exact keeps_conn_readShared.bind fun _ => (Effect.keeps_lift _).bind fun _ => Effect.keeps_pure _
  | setupChecked checked =>
    have each := List.forall_mem_cons.mp sendable
    obtain ⟨nonce, rest⟩ := each
    obtain ⟨challenge, rest⟩ := List.forall_mem_cons.mp rest
    obtain ⟨pub, rest⟩ := List.forall_mem_cons.mp rest
    obtain ⟨a, rest⟩ := List.forall_mem_cons.mp rest
    obtain ⟨s, _⟩ := List.forall_mem_cons.mp rest
    exact (keeps_conn_onConn ((keeps_sendAll nonce).bind fun _ => (keeps_sendAll challenge).bind fun _ =>
      (keeps_sendAll pub).bind fun _ => (keeps_sendAll a).bind fun _ => keeps_sendAll s)).bind fun _ =>
        Effect.keeps_pure _
  | setupChallenged checked =>
    exact (keeps_conn_onConn (keeps_verifySetup stable G ctx _ _)).bind fun _ => Effect.keeps_pure _
  | setupVerified checked proof => exact (keeps_conn_onServer _).bind fun _ => Effect.keeps_pure _
  | setupInserted checked =>
    exact (keeps_conn_onConn (keeps_sendAll (sendable _ (List.mem_singleton.mpr rfl)))).bind fun _ =>
      Effect.keeps_pure _
  | authAccepted v3 =>
    exact (keeps_conn_onConn (keeps_readAuthRequest stable G ctx v3)).bind fun _ => Effect.keeps_pure _
  | authRequested request => exact (keeps_conn_onServer _).bind fun _ => Effect.keeps_pure _
  | authAdmitted request blob => exact (keeps_conn_onServer _).bind fun _ => Effect.keeps_pure _
  | authPersisted request =>
    exact keeps_conn_readShared.bind fun _ => (Effect.keeps_lift _).bind fun _ =>
      (Effect.keeps_lift _).bind fun _ => Effect.keeps_pure _
  | authVerified request record =>
    exact (keeps_conn_onConn (keeps_sendAll (sendable _ (List.mem_singleton.mpr rfl)))).bind fun _ =>
      Effect.keeps_pure _
  | authReplied record session =>
    exact (keeps_conn_onConn (keeps_confirm stable G session)).bind fun _ => Effect.keeps_pure _
  | authConfirmed record session => exact (keeps_conn_onServer _).bind fun _ => Effect.keeps_pure _
  | authCompleted record session blob => exact (keeps_conn_onServer _).bind fun _ => Effect.keeps_pure _
  | answered res => exact (keeps_conn_onServer _).bind fun _ => Effect.keeps_pure _
  | closed res => exact Effect.keeps_pure _

end Server

end ZkArche.Protocol

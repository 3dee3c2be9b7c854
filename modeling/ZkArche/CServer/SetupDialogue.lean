import ZkArche.CServer.Handler
import ZkArche.Primitives.Exchange

namespace ZkArche.CImpl

open Foundation

theorem reads_recvAll {size : Nat} (block : Block UInt8 size) : Reads (recvAll size) block.bytes block := by
  intro conn rest input
  rw [recvAll_apply input, block.bytes_length]

theorem reads_recvByte (byte : UInt8) : Reads recvByte [byte] byte := fun _ _ input => recvByte_apply input

theorem writes_sendAll (buf : List UInt8) : Writes (CImpl.sendAll buf) buf () := fun _ quiet => sendAll_quiet quiet buf

theorem silent_orFail {α : Type} {result : Option α} {value : α} (succeeds : result = some value)
    (conn : Conn UInt8) : (orFail result : Effect Unit (Conn UInt8) α) conn = (.ok value, conn) :=
  orFail_ok.mpr ⟨succeeds, rfl⟩

end ZkArche.CImpl

namespace ZkArche.CServer

open Foundation CImpl

variable {so : Sodium}

theorem silent_checkPoint {p : Block UInt8 32} (valid : so.isValidPoint p = true) (conn : Conn UInt8) :
    checkPoint so p conn = (.ok (), conn) :=
  silent_failIf (by rw [valid]; rfl) _ conn

def tokenBytes (token : List UInt8) : List UInt8 := UInt8.ofNat token.length :: token

def recvPairingToken : Effect Unit (Conn UInt8) (List UInt8) := do
  let tlen ← recvByte
  Effect.failIf (decide (tlen.toNat > 128)) ()
  let token ← recvAll tlen.toNat
  pure token.bytes

def readSetupFields (so : Sodium) : Effect Unit (Conn UInt8) SetupRequest := do
  let id ← recvAll 32
  let pub ← recvAll 32
  let clientNonce ← recvAll 32
  let roleCommitment ← recvAll 32
  checkPoint so pub
  checkPoint so roleCommitment
  pure { entry := { id, pub, roleCommitment }, clientNonce }

def admitSetup (policy : PairingPolicy) (now : Nat) : Effect Unit (Conn UInt8) Unit := do
  let token ← recvPairingToken
  Effect.failIf (!policy.allowsSetup now token) ()

theorem readSetupRequest_eq (so : Sodium) (policy : PairingPolicy) (now : Nat) :
    readSetupRequest so policy now = (do
      admitSetup policy now
      readSetupFields so) := by
  simp only [readSetupRequest, admitSetup, recvPairingToken, readSetupFields, bind_assoc, pure_bind]

theorem reads_recvPairingToken {token : List UInt8} (short : token.length ≤ 128) :
    Reads recvPairingToken (tokenBytes token) token := by
  have announced : (UInt8.ofNat token.length).toNat = token.length := by
    rw [UInt8.toNat_ofNat']
    omega
  have whole : Reads (recvAll (UInt8.ofNat token.length).toNat) token ⟨token, announced.symm⟩ :=
    reads_recvAll ⟨token, announced.symm⟩
  refine (reads_recvByte (UInt8.ofNat token.length)).bind ?_
  refine Reads.after (silent_failIf (by rw [announced]; simpa using short) _) ?_
  exact whole.last (Reads.pure _)

theorem recvPairingToken_short {token : List UInt8} {conn after : Conn UInt8}
    (run : recvPairingToken conn = (.ok token, after)) : token.length ≤ 128 := by
  obtain ⟨tlen, first, _, run⟩ := Effect.bind_ok.mp run
  obtain ⟨_, second, passed, run⟩ := Effect.bind_ok.mp run
  obtain ⟨block, third, _, done⟩ := Effect.bind_ok.mp run
  obtain ⟨small, _⟩ := Effect.failIf_ok.mp passed
  cases done
  rw [block.bytes_length]
  simpa using small

def setupRequestBytes (token : List UInt8) (request : SetupRequest) : List UInt8 :=
  tokenBytes token ++ (request.entry.id.bytes ++ (request.entry.pub.bytes ++
    (request.clientNonce.bytes ++ request.entry.roleCommitment.bytes)))

theorem reads_readSetupFields {request : SetupRequest} (pub : so.isValidPoint request.entry.pub = true)
    (roleCommitment : so.isValidPoint request.entry.roleCommitment = true) :
    Reads (readSetupFields so) (request.entry.id.bytes ++ (request.entry.pub.bytes ++
      (request.clientNonce.bytes ++ request.entry.roleCommitment.bytes))) request := by
  refine (reads_recvAll _).bind ?_
  refine (reads_recvAll _).bind ?_
  refine (reads_recvAll _).bind ?_
  refine (reads_recvAll _).last ?_
  refine Reads.after (silent_checkPoint pub) ?_
  exact Reads.after (silent_checkPoint roleCommitment) (Reads.pure _)

theorem reads_admitSetup {policy : PairingPolicy} {now : Nat} {token : List UInt8} (short : token.length ≤ 128)
    (allowed : policy.allowsSetup now token = true) : Reads (admitSetup policy now) (tokenBytes token) () :=
  (reads_recvPairingToken short).last (Reads.silent (silent_failIf (by rw [allowed]; rfl) _))

theorem reads_readSetupRequest {policy : PairingPolicy} {now : Nat} {token : List UInt8} {request : SetupRequest}
    (short : token.length ≤ 128) (allowed : policy.allowsSetup now token = true)
    (pub : so.isValidPoint request.entry.pub = true)
    (roleCommitment : so.isValidPoint request.entry.roleCommitment = true) :
    Reads (readSetupRequest so policy now) (setupRequestBytes token request) request := by
  rw [readSetupRequest_eq]
  exact (reads_admitSetup short allowed).bind (reads_readSetupFields pub roleCommitment)

theorem schnorrProveSetupServer_some (so : Sodium) (serverSk serverPub deviceId devicePub clientNonce
    serverNonce : Block UInt8 32) (setupChallenge : Block UInt8 16) (r : Block UInt8 32) :
    ∃ proof, schnorrProveSetupServer so serverSk serverPub deviceId devicePub clientNonce serverNonce setupChallenge
      r = some proof := by
  have built : ∃ tr, setupServerTranscript deviceId devicePub serverPub clientNonce serverNonce setupChallenge
      (so.scalarmultBase r) = some tr := by
    refine ⟨_, trBuild_of_writable ?_⟩
    simp only [Writable, List.map_cons, List.map_nil, List.sum_cons, List.sum_nil, field, Block.bytes_length]
    decide
  obtain ⟨tr, built⟩ := built
  exact ⟨_, by rw [schnorrProveSetupServer, built]; rfl⟩

def setupChallengeBytes (so : Sodium) (ctx : ServerContext) (random : SetupRandom)
    (proof : Block UInt8 32 × Block UInt8 32) : List UInt8 :=
  random.serverNonce.bytes ++ (random.setupChal.bytes ++ ((ctx.serverPub so).bytes ++
    (proof.1.bytes ++ proof.2.bytes)))

theorem writes_challengeSetup {ctx : ServerContext} {request : SetupRequest} {random : SetupRandom}
    {proof : Block UInt8 32 × Block UInt8 32}
    (proved : schnorrProveSetupServer so ctx.serverSk (ctx.serverPub so) request.entry.id request.entry.pub
      request.clientNonce random.serverNonce random.setupChal random.r = some proof) :
    Writes (challengeSetup so ctx request random) (setupChallengeBytes so ctx random proof) () := by
  refine Writes.after (silent_orFail proved) ?_
  refine (writes_sendAll _).bind ?_
  refine (writes_sendAll _).bind ?_
  refine (writes_sendAll _).bind ?_
  exact (writes_sendAll _).bind (writes_sendAll _)

theorem reads_verifySetup {ctx : ServerContext} {request : SetupRequest} {random : SetupRandom}
    {a s : Block UInt8 32} (valid : so.isValidPoint a = true)
    (verifies : schnorrVerifySetup so request.entry.id request.entry.pub (ctx.serverPub so) request.clientNonce
      random.serverNonce random.setupChal a s = some ()) :
    Reads (verifySetup so ctx request random) (a.bytes ++ s.bytes) () := by
  refine (reads_recvAll _).bind ?_
  refine (reads_recvAll _).last ?_
  refine Reads.after (silent_checkPoint valid) ?_
  exact Reads.silent (silent_orFail verifies)

end ZkArche.CServer

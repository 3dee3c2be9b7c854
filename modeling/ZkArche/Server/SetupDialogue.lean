import ZkArche.Primitives.Exchange
import ZkArche.Server.Setup

namespace ZkArche

open Foundation

variable {β S P : Type} [Field S] [AddCommGroup P] [Module S P]

theorem Reads.recvPoint [DecidableEq P] {G : Suite β S P} {label : String} {p : P} (nonzero : p ≠ 0) :
    Reads (ZkArche.recvPoint G label) (G.compress p).bytes p := by
  intro conn rest input
  rw [recvPoint_apply input nonzero, Block.bytes_length]

theorem Reads.recvScalar {G : Suite β S P} {s : S} : Reads (ZkArche.recvScalar G) (G.toBytes s).bytes s := by
  intro conn rest input
  rw [recvScalar_apply input, Block.bytes_length]

end ZkArche

namespace ZkArche.Server

open Foundation

variable {β S P : Type} [Octet β] [Field S] [AddCommGroup P] [Module S P]
variable [DecidableEq P]

/-- The bytes of a pairing token in a request: its length and its UTF-8 bytes. The server cannot
    tell an empty token from none. -/
def tokenBytes (token : Option String) : List β :=
  match token with
  | some token => lits (UInt8.ofNat (utf8Bytes token).length :: utf8Bytes token)
  | none => lits [0]

def presentedToken (token : Option String) : Option String := token.filter fun token => utf8Bytes token ≠ []

theorem reads_recvPairingToken {token : Option String} (short : ∀ text ∈ token, (utf8Bytes text).length ≤ 128) :
    Reads (recvPairingToken : Effect Failure (Conn β) _) (tokenBytes token) (presentedToken token) := by
  have empty : Reads (recvPairingToken : Effect Failure (Conn β) _) (lits [0]) none := by
    refine (Reads.recvU8 (Octet.lit (0 : UInt8))).bind ?_
    rw [Octet.val_lit', if_pos rfl]
    exact Reads.pure none
  cases token with
  | none => exact empty
  | some text =>
    by_cases blank : utf8Bytes text = []
    · have bytes : (tokenBytes (some text) : List β) = lits [0] := by simp [tokenBytes, blank]
      have nothing : presentedToken (some text) = none := by simp [presentedToken, blank]
      rw [bytes, nothing]
      exact empty
    · have length := short text rfl
      have positive := List.length_pos_iff.mpr blank
      have announced : (UInt8.ofNat (utf8Bytes text).length).toNat = (utf8Bytes text).length := by
        rw [UInt8.toNat_ofNat']
        omega
      have some_text : presentedToken (some text) = some text := by simp [presentedToken, blank]
      rw [some_text]
      refine (Reads.recvU8 (Octet.lit (UInt8.ofNat (utf8Bytes text).length))).bind (?_ : Reads _ (lits (utf8Bytes text)) _)
      rw [Octet.val_lit']
      have nonzero : UInt8.ofNat (utf8Bytes text).length ≠ 0 := by
        intro zero
        rw [zero] at announced
        exact absurd announced.symm (Nat.ne_of_gt positive)
      rw [if_neg nonzero]
      refine Reads.after (silent_failIf (by rw [announced]; simpa using length) _) ?_
      rw [announced]
      refine (Reads.recvVec (lits_length _)).last ?_
      rw [vals_lits, fromUtf8_utf8Bytes]
      exact Reads.pure _

def admitSetup (policy : PairingPolicy) (now : Nat) : Effect Failure (Conn β) Unit := do
  let providedToken ← recvPairingToken
  Effect.failIf (!policy.allowsZtpSetup now providedToken) (permissionDenied "pairing rejected by policy")

def readSetupFields (G : Suite β S P) : Effect Failure (Conn β) (SetupRequest β P) := do
  let deviceId ← recvExact 32
  let deviceStaticPub ← recvPoint G "device_pub"
  let clientNonce ← recvExact 32
  let roleCommitment ← recvPoint G "role_commitment"
  pure { deviceId, deviceStaticPub, clientNonce, roleCommitment }

theorem readSetupRequest_eq (G : Suite β S P) (policy : PairingPolicy) (now : Nat) :
    readSetupRequest G policy now = (do
      admitSetup policy now
      readSetupFields G) := by
  simp only [readSetupRequest, admitSetup, readSetupFields, bind_assoc]

def setupRequestBytes (G : Suite β S P) (token : Option String) (request : SetupRequest β P) : List β :=
  tokenBytes token ++ (request.deviceId.bytes ++ ((G.compress request.deviceStaticPub).bytes ++
    (request.clientNonce.bytes ++ (G.compress request.roleCommitment).bytes)))

theorem reads_admitSetup {policy : PairingPolicy} {now : Nat} {token : Option String}
    (short : ∀ text ∈ token, (utf8Bytes text).length ≤ 128)
    (allowed : policy.allowsZtpSetup now (presentedToken token) = true) :
    Reads (admitSetup policy now) (tokenBytes token : List β) () :=
  (reads_recvPairingToken short).last (Reads.silent (silent_failIf (by rw [allowed]; rfl) _))

omit [Octet β] in
theorem reads_readSetupFields {G : Suite β S P} {request : SetupRequest β P} (pub : request.deviceStaticPub ≠ 0)
    (roleCommitment : request.roleCommitment ≠ 0) :
    Reads (readSetupFields G) (request.deviceId.bytes ++ ((G.compress request.deviceStaticPub).bytes ++
      (request.clientNonce.bytes ++ (G.compress request.roleCommitment).bytes))) request := by
  refine (Reads.recvExact _).bind ?_
  refine (Reads.recvPoint pub).bind ?_
  refine (Reads.recvExact _).bind ?_
  exact (Reads.recvPoint roleCommitment).last (Reads.pure _)

theorem reads_readSetupRequest {G : Suite β S P} {policy : PairingPolicy} {now : Nat} {token : Option String}
    {request : SetupRequest β P} (short : ∀ text ∈ token, (utf8Bytes text).length ≤ 128)
    (allowed : policy.allowsZtpSetup now (presentedToken token) = true) (pub : request.deviceStaticPub ≠ 0)
    (roleCommitment : request.roleCommitment ≠ 0) :
    Reads (readSetupRequest G policy now) (setupRequestBytes G token request) request := by
  rw [readSetupRequest_eq]
  exact (reads_admitSetup short allowed).bind (reads_readSetupFields pub roleCommitment)

def setupChallengeBytes (G : Suite β S P) (ctx : ServerContext S) (request : SetupRequest β P)
    (random : SetupRandom β S) : List β :=
  let proof := schnorrProveSetupServer G ctx.serverStaticSecret (ctx.staticPub G) request.deviceId
    request.deviceStaticPub request.clientNonce random.serverNonce random.setupChallenge random.r
  random.serverNonce.bytes ++ (random.setupChallenge.bytes ++ ((G.compress (ctx.staticPub G)).bytes ++
    ((G.compress proof.1).bytes ++ (G.toBytes proof.2).bytes)))

omit [DecidableEq P] in
theorem writes_challengeSetup (G : Suite β S P) (ctx : ServerContext S) (request : SetupRequest β P)
    (random : SetupRandom β S) :
    Writes (challengeSetup G ctx request random) (setupChallengeBytes G ctx request random) () := by
  refine (Writes.sendAll _).bind ?_
  refine (Writes.sendAll _).bind ?_
  refine (Writes.sendAll _).bind ?_
  exact (Writes.sendAll _).bind (Writes.sendAll _)

theorem reads_verifySetup {G : Suite β S P} {ctx : ServerContext S} {request : SetupRequest β P}
    {random : SetupRandom β S} {a : P} {s : S} (nonzero : a ≠ 0)
    (verifies : schnorrVerifySetup G request.deviceStaticPub request.deviceId (ctx.staticPub G)
      request.clientNonce random.serverNonce random.setupChallenge a s = true) :
    Reads (verifySetup G ctx request random) ((G.compress a).bytes ++ (G.toBytes s).bytes) (a, s) := by
  refine (Reads.recvPoint nonzero).bind ?_
  refine Reads.recvScalar.last ?_
  exact Reads.after (silent_failIf (by rw [verifies]; rfl) _) (Reads.pure _)

end ZkArche.Server

import ZkArche.Primitives.Transcript

namespace ZkArche.Client

open Foundation

variable {β S P : Type} [Octet β] [Field S] [AddCommGroup P] [Module S P] [DecidableEq P]

structure RoleCredential (S P : Type) where
  roleCode : UInt64
  roleScalar : S
  blind : S
  commitment : P

def encodeRole (roleCode : UInt64) : S := (roleCode.toNat : S)

def makeRoleCommitment (G : Suite β S P) (roleScalar blind : S) : P :=
  roleScalar • G.basepoint + blind • attrH G

def computeDeviceHandle (G : Suite β S P) (devicePub : P) : Block β 16 :=
  (G.sha256 (lits (ascii "zkarche/device-handle/v1") ++ (G.compress devicePub).bytes)).first 16 handle_fits

/-- Derives the per-session pseudonym `pid` that replaces `device_id` on the wire. -/
def computePid (G : Suite β S P) (devicePub : P) (nonceC : Block β 32) (ephC serverPub : P) : Block β 32 :=
  G.sha256 (lits (leBytes 4 tPid.length) ++ lits tPid ++ (G.compress devicePub).bytes ++ nonceC.bytes ++
    (G.compress ephC).bytes ++ (G.compress serverPub).bytes)

/-- Re-randomizes the stored role commitment with the random scalar `delta`; the result is
    (C', blind', delta). -/
def rerandomizeRoleCommitment (G : Suite β S P) (cred : RoleCredential S P) (delta : S) : P × S × S :=
  let cPrime := cred.commitment + delta • attrH G
  let blindPrime := cred.blind + delta
  (cPrime, blindPrime, delta)

def rerandTranscript (G : Suite β S P) (storedC cPrime a : P) (pid nonceC : Block β 32) (ephC : P) :
    CompatTranscript β :=
  buildTranscript G tRoleRerand [
    (ascii "pid", .bytes pid.bytes),
    (ascii "nonce_c", .bytes nonceC.bytes),
    (ascii "eph_c", .point ephC),
    (ascii "stored_c", .point storedC),
    (ascii "c_prime", .point cPrime),
    (ascii "a", .point a)]

def proveRoleRerandomization (G : Suite β S P) (storedC cPrime : P) (delta : S) (pid nonceC : Block β 32)
    (ephC : P) (r : S) : P × S :=
  let h := attrH G
  let a := r • h
  let c := (rerandTranscript G storedC cPrime a pid nonceC ephC).challengeScalar G
  (a, r + c * delta)

def roleSetTranscript (G : Suite β S P) (allowedRoles : List UInt64) (cPrime : P) (aPoints : List P)
    (pid nonceC : Block β 32) (ephC : P) : CompatTranscript β :=
  let transcript := CompatTranscript.new tRoleSet
  let transcript := transcript.appendMessage (ascii "pid") pid.bytes
  let transcript := transcript.appendMessage (ascii "nonce_c") nonceC.bytes
  let transcript := transcript.appendMessage (ascii "eph_c") (G.compress ephC).bytes
  let transcript := transcript.appendMessage (ascii "c_prime") (G.compress cPrime).bytes
  let transcript := allowedRoles.zipIdx.foldl
    (fun t role => t.appendMessage (ascii ("r_" ++ toString role.2)) (lits (leBytes 8 role.1.toNat)))
    transcript
  aPoints.zipIdx.foldl
    (fun t a => t.appendMessage (ascii ("A_" ++ toString a.2)) (G.compress a.1).bytes) transcript

/-- The random scalars of one set-membership proof: `w` for the true branch and a pair
    `(c_i, s_i)` for each simulated one. -/
structure OrRandomness (S : Type) where
  w : S
  simulated : Nat → S × S

/-- ZK set-membership proof that C' = g^role * h^blind_prime for some role in ALLOWED_ROLES.
    The true branch is a real Schnorr proof in base h, every other one is simulated. -/
def proveRoleSetMembership (G : Suite β S P) (allowedRoles : List UInt64) (cPrime : P) (roleCode : UInt64)
    (blindPrime : S) (pid nonceC : Block β 32) (ephC : P) (random : OrRandomness S) :
    Except Failure (List (P × S × S)) := do
  let h := attrH G
  let trueIndex ← match allowedRoles.findIdx? (· == roleCode) with
    | some index => .ok index
    | none => .error (.panic "role not in ALLOWED_ROLES (enrollment/runtime mismatch)")
  let yPoints := allowedRoles.map fun role => cPrime - ((role.toNat : S) • G.basepoint)
  -- A_i = h*s_i - Y_i*c_i so that h*s_i == A_i + Y_i*c_i holds on a simulated branch.
  let aPoints := yPoints.zipIdx.map fun y =>
    if y.2 = trueIndex then random.w • h
    else (random.simulated y.2).2 • h - (random.simulated y.2).1 • y.1
  let masterC := (roleSetTranscript G allowedRoles cPrime aPoints pid nonceC ephC).challengeScalar G
  let sumSim := (List.range allowedRoles.length).foldl
    (fun sum i => if i ≠ trueIndex then sum + (random.simulated i).1 else sum) 0
  let cTrue := masterC - sumSim
  let sTrue := random.w + cTrue * blindPrime
  .ok (aPoints.zipIdx.map fun a =>
    if a.2 = trueIndex then (a.1, cTrue, sTrue)
    else (a.1, (random.simulated a.2).1, (random.simulated a.2).2))

def setupTranscript (G : Suite β S P) (devicePub : P) (deviceId : Block β 32) (serverStaticPub : P)
    (clientNonce serverNonce : Block β 32) (setupChallenge : Block β 16) (a : P) : CompatTranscript β :=
  buildTranscript G tSetup [
    (ascii "role", .bytes (lits (ascii "client"))),
    (ascii "device_id", .bytes deviceId.bytes),
    (ascii "device_pub", .point devicePub),
    (ascii "server_pub", .point serverStaticPub),
    (ascii "a", .point a),
    (ascii "client_nonce", .bytes clientNonce.bytes),
    (ascii "server_nonce", .bytes serverNonce.bytes),
    (ascii "setup_challenge", .bytes setupChallenge.bytes)]

def schnorrProveSetup (G : Suite β S P) (x : S) (deviceId : Block β 32) (devicePub serverStaticPub : P)
    (clientNonce serverNonce : Block β 32) (setupChallenge : Block β 16) (r : S) : P × S :=
  let a := r • G.basepoint
  let c := (setupTranscript G devicePub deviceId serverStaticPub clientNonce serverNonce
    setupChallenge a).challengeScalar G
  (a, r + c * x)

def setupServerTranscript (G : Suite β S P) (serverStaticPub : P) (deviceId : Block β 32) (devicePub : P)
    (clientNonce serverNonce : Block β 32) (setupChallenge : Block β 16) (a : P) : CompatTranscript β :=
  buildTranscript G tSetupServer [
    (ascii "role", .bytes (lits (ascii "server"))),
    (ascii "device_id", .bytes deviceId.bytes),
    (ascii "device_pub", .point devicePub),
    (ascii "server_pub", .point serverStaticPub),
    (ascii "a", .point a),
    (ascii "client_nonce", .bytes clientNonce.bytes),
    (ascii "server_nonce", .bytes serverNonce.bytes),
    (ascii "setup_challenge", .bytes setupChallenge.bytes)]

def schnorrVerifySetupServer (G : Suite β S P) (serverStaticPub : P) (deviceId : Block β 32) (devicePub : P)
    (clientNonce serverNonce : Block β 32) (setupChallenge : Block β 16) (a : P) (s : S) : Bool :=
  let c := (setupServerTranscript G serverStaticPub deviceId devicePub clientNonce serverNonce
    setupChallenge a).challengeScalar G
  decide (s • G.basepoint = a + c • serverStaticPub)

def clientTranscript (G : Suite β S P) (pubkey : P) (pid : Block β 32) (a : P) (nonceC : Block β 32)
    (ephC : P) : CompatTranscript β :=
  buildTranscript G tClientV2 [
    (ascii "pid", .bytes pid.bytes),
    (ascii "pubkey", .point pubkey),
    (ascii "a", .point a),
    (ascii "nonce_c", .bytes nonceC.bytes),
    (ascii "eph_c", .point ephC)]

def schnorrProveAuth (G : Suite β S P) (x : S) (pid nonceC : Block β 32) (ephC : P) (r : S) : P × S :=
  let pubkey := x • G.basepoint
  let a := r • G.basepoint
  let c := (clientTranscript G pubkey pid a nonceC ephC).challengeScalar G
  (a, r + c * x)

def serverTranscript (G : Suite β S P) (serverStaticPub a : P) (nonceS : Block β 32) (ephS : P) :
    CompatTranscript β :=
  buildTranscript G tServer [
    (ascii "pubkey", .point serverStaticPub),
    (ascii "a", .point a),
    (ascii "nonce_s", .bytes nonceS.bytes),
    (ascii "eph_s", .point ephS)]

def schnorrVerifyServer (G : Suite β S P) (serverStaticPub a : P) (s : S) (nonceS : Block β 32) (ephS : P) :
    Bool :=
  let c := (serverTranscript G serverStaticPub a nonceS ephS).challengeScalar G
  decide (s • G.basepoint = a + c • serverStaticPub)

/-- Derives the shared session key from the Ristretto ECDHE secret, handshake nonces, and the
    session pseudonym `pid`. -/
def deriveSessionKey (G : Suite β S P) (ephSecret : S) (peerEphPub : P) (nonceC nonceS pid : Block β 32)
    (ephC ephS : P) : Block β 32 :=
  let shared := ephSecret • peerEphPub
  let salt := nonceC.bytes ++ nonceS.bytes
  let info := lits (ascii "session key v2") ++ pid.bytes ++ (G.compress ephC).bytes ++ (G.compress ephS).bytes
  G.hkdf salt (G.compress shared).bytes info

def kcTranscript (G : Suite β S P) (pid : Block β 32) (aC : P) (sC : S) (nonceC : Block β 32)
    (ephC serverPub aS : P) (sS : S) (nonceS : Block β 32) (ephS : P) : CompatTranscript β :=
  let t := CompatTranscript.new tKcV2
  let t := t.appendMessage (ascii "pid") pid.bytes
  let t := t.appendMessage (ascii "a_c") (G.compress aC).bytes
  let t := t.appendMessage (ascii "s_c") (G.toBytes sC).bytes
  let t := t.appendMessage (ascii "nonce_c") nonceC.bytes
  let t := t.appendMessage (ascii "eph_c") (G.compress ephC).bytes
  let t := t.appendMessage (ascii "server_pub") (G.compress serverPub).bytes
  let t := t.appendMessage (ascii "a_s") (G.compress aS).bytes
  let t := t.appendMessage (ascii "s_s") (G.toBytes sS).bytes
  let t := t.appendMessage (ascii "nonce_s") nonceS.bytes
  t.appendMessage (ascii "eph_s") (G.compress ephS).bytes

/-- Hashes the full key-confirmation transcript. v2: binds to `pid` under the `T_KC_V2` domain. -/
def kcTranscriptHash (G : Suite β S P) (pid : Block β 32) (aC : P) (sC : S) (nonceC : Block β 32)
    (ephC serverPub aS : P) (sS : S) (nonceS : Block β 32) (ephS : P) : Block β 32 :=
  G.sha256 (kcTranscript G pid aC sC nonceC ephC serverPub aS sS nonceS ephS).buf

/-- Derives directional key-confirmation MAC keys from the session key and transcript hash. -/
def deriveKcKeys (G : Suite β S P) (sessionKey th : Block β 32) : Block β 32 × Block β 32 :=
  (G.hkdf th.bytes sessionKey.bytes (lits (ascii "kc s2c")),
    G.hkdf th.bytes sessionKey.bytes (lits (ascii "kc c2s")))

def hmacTag (G : Suite β S P) (key : Block β 32) (label : List UInt8) (th : Block β 32) : Block β 32 :=
  G.hmac key.bytes (lits label ++ th.bytes)

end ZkArche.Client

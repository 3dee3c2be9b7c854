import ZkArche.Primitives.Transcript

namespace ZkArche.Server

open Foundation

variable {β S P : Type} [Octet β] [Field S] [AddCommGroup P] [Module S P] [DecidableEq P] [DecidableEq S]

def vartimeSchnorrCheck (base pubkey a : P) (c s : S) : Bool :=
  decide (s • base + (-c) • pubkey + (-1 : S) • a = 0)

def setupTranscript (G : Suite β S P) (pubkey : P) (deviceId : Block β 32) (serverStaticPub : P)
    (clientNonce serverNonce : Block β 32) (setupChallenge : Block β 16) (a : P) : CompatTranscript β :=
  buildTranscript G tSetup [
    (ascii "role", .bytes (lits (ascii "client"))),
    (ascii "device_id", .bytes deviceId.bytes),
    (ascii "device_pub", .point pubkey),
    (ascii "server_pub", .point serverStaticPub),
    (ascii "a", .point a),
    (ascii "client_nonce", .bytes clientNonce.bytes),
    (ascii "server_nonce", .bytes serverNonce.bytes),
    (ascii "setup_challenge", .bytes setupChallenge.bytes)]

/-- Verifies the client setup proof against the presented device public key and server static key. -/
def schnorrVerifySetup (G : Suite β S P) (pubkey : P) (deviceId : Block β 32) (serverStaticPub : P)
    (clientNonce serverNonce : Block β 32) (setupChallenge : Block β 16) (a : P) (s : S) : Bool :=
  let c := (setupTranscript G pubkey deviceId serverStaticPub clientNonce serverNonce
    setupChallenge a).challengeScalar G
  vartimeSchnorrCheck G.basepoint pubkey a c s

def setupServerTranscript (G : Suite β S P) (serverStaticPub : P) (deviceId : Block β 32)
    (deviceStaticPub : P) (clientNonce serverNonce : Block β 32) (setupChallenge : Block β 16) (a : P) :
    CompatTranscript β :=
  buildTranscript G tSetupServer [
    (ascii "role", .bytes (lits (ascii "server"))),
    (ascii "device_id", .bytes deviceId.bytes),
    (ascii "device_pub", .point deviceStaticPub),
    (ascii "server_pub", .point serverStaticPub),
    (ascii "a", .point a),
    (ascii "client_nonce", .bytes clientNonce.bytes),
    (ascii "server_nonce", .bytes serverNonce.bytes),
    (ascii "setup_challenge", .bytes setupChallenge.bytes)]

/-- Creates the server setup proof for raw-public-key enrollment from the random scalar `r`. -/
def schnorrProveSetupServer (G : Suite β S P) (serverSecret : S) (serverStaticPub : P)
    (deviceId : Block β 32) (deviceStaticPub : P) (clientNonce serverNonce : Block β 32)
    (setupChallenge : Block β 16) (r : S) : P × S :=
  let a := r • G.basepoint
  let c := (setupServerTranscript G serverStaticPub deviceId deviceStaticPub clientNonce serverNonce
    setupChallenge a).challengeScalar G
  (a, r + c * serverSecret)

def clientTranscript (G : Suite β S P) (expectedPubkey : P) (pid : Block β 32) (a : P)
    (nonceC : Block β 32) (ephC : P) : CompatTranscript β :=
  buildTranscript G tClientV2 [
    (ascii "pid", .bytes pid.bytes),
    (ascii "pubkey", .point expectedPubkey),
    (ascii "a", .point a),
    (ascii "nonce_c", .bytes nonceC.bytes),
    (ascii "eph_c", .point ephC)]

/-- Verifies the client online-authentication Schnorr proof against the registered device key.
    v2: binds to the session pseudonym `pid` under T_CLIENT_V2. -/
def schnorrVerifyAuth (G : Suite β S P) (expectedPubkey : P) (pid : Block β 32) (a : P) (s : S)
    (nonceC : Block β 32) (ephC : P) : Bool :=
  let c := (clientTranscript G expectedPubkey pid a nonceC ephC).challengeScalar G
  vartimeSchnorrCheck G.basepoint expectedPubkey a c s

def serverTranscript (G : Suite β S P) (pubkey a : P) (nonceS : Block β 32) (ephS : P) :
    CompatTranscript β :=
  buildTranscript G tServer [
    (ascii "pubkey", .point pubkey),
    (ascii "a", .point a),
    (ascii "nonce_s", .bytes nonceS.bytes),
    (ascii "eph_s", .point ephS)]

/-- Creates the server Schnorr proof that demonstrates possession of the pinned static secret. -/
def schnorrProveServer (G : Suite β S P) (serverSecret : S) (nonceS : Block β 32) (ephS : P) (r : S) :
    P × S :=
  let pubkey := serverSecret • G.basepoint
  let a := r • G.basepoint
  let c := (serverTranscript G pubkey a nonceS ephS).challengeScalar G
  (a, r + c * serverSecret)

def rerandTranscript (G : Suite β S P) (storedC cPrime a : P) (pid nonceC : Block β 32) (ephC : P) :
    CompatTranscript β :=
  buildTranscript G tRoleRerand [
    (ascii "pid", .bytes pid.bytes),
    (ascii "nonce_c", .bytes nonceC.bytes),
    (ascii "eph_c", .point ephC),
    (ascii "stored_c", .point storedC),
    (ascii "c_prime", .point cPrime),
    (ascii "a", .point a)]

/-- Verifies the client's proof that the fresh wire commitment C' is a re-randomization of the
    stored commitment C: a Schnorr check in base h for C' - C. -/
def verifyRoleRerandomization (G : Suite β S P) (storedC cPrime a : P) (s : S)
    (pid nonceC : Block β 32) (ephC : P) : Bool :=
  let h := attrH G
  let diff := cPrime - storedC
  let c := (rerandTranscript G storedC cPrime a pid nonceC ephC).challengeScalar G
  vartimeSchnorrCheck h diff a c s

def roleSetTranscript (G : Suite β S P) (allowedRoles : List UInt64) (cPrime : P) (aPoints : List P)
    (pid nonceC : Block β 32) (ephC : P) : CompatTranscript β :=
  let transcript := CompatTranscript.new tRoleSet
  let transcript := transcript.appendMessage (ascii "pid") pid.bytes
  let transcript := transcript.appendMessage (ascii "nonce_c") nonceC.bytes
  let transcript := transcript.appendMessage (ascii "eph_c") (G.compress ephC).bytes
  let transcript := transcript.appendMessage (ascii "c_prime") (G.compress cPrime).bytes
  let transcript := allowedRoles.zipIdx.foldl
    (fun t role => t.appendMessage (ascii ("r_" ++ toString role.2)) (lits (leBytes 8 role.1.toNat)))
    transcript
  aPoints.zipIdx.foldl
    (fun t a => t.appendMessage (ascii ("A_" ++ toString a.2)) (G.compress a.1).bytes) transcript

/-- `list[i]`, which panics past the end. -/
def indexOr {α : Type} (list : List α) (i : Nat) : Except Failure α :=
  match list[i]? with
  | some item => .ok item
  | none => .error (.panic "index out of bounds")

/-- The last loop of the set-membership check: branch `i` must satisfy
    h * s_i == A_i + (C' - g^{r_i}) * c_i. -/
def verifyBranches (G : Suite β S P) (allowedRoles : List UInt64) (cPrime : P) :
    List ((P × S × S) × Nat) → Except Failure Bool
  | [] => .ok true
  | ((aI, cI, sI), i) :: rest => do
    let role ← indexOr allowedRoles i
    let yI := cPrime - ((role.toNat : S) • G.basepoint)
    if vartimeSchnorrCheck (attrH G) yI aI cI sI then verifyBranches G allowedRoles cPrime rest
    else .ok false

/-- Verifies the CDS OR-proof that C' = g^role * h^blind' for some role in ALLOWED_ROLES,
    without revealing which. -/
def verifyRoleSetMembership (G : Suite β S P) (allowedRoles : List UInt64) (cPrime : P)
    (proof : List (P × S × S)) (pid nonceC : Block β 32) (ephC : P) : Except Failure Bool :=
  if proof.length ≠ allowedRoles.length then .ok false
  else if proof.any (fun branch => branch.1 = 0) then .ok false
  else
    let masterC := (roleSetTranscript G allowedRoles cPrime (proof.map (·.1)) pid nonceC ephC).challengeScalar G
    let sum := proof.foldl (fun sum branch => sum + branch.2.1) 0
    if sum ≠ masterC then .ok false
    else verifyBranches G allowedRoles cPrime proof.zipIdx

/-- Derives the per-session pseudonym `pid` = H(T_PID || device_pub || nonce_c || eph_c || server_pub). -/
def computePid (G : Suite β S P) (devicePub : P) (nonceC : Block β 32) (ephC serverPub : P) : Block β 32 :=
  G.sha256 (lits (leBytes 4 tPid.length) ++ lits tPid ++ (G.compress devicePub).bytes ++ nonceC.bytes ++
    (G.compress ephC).bytes ++ (G.compress serverPub).bytes)

def computeDeviceHandle (G : Suite β S P) (devicePub : P) : Block β 16 :=
  (G.sha256 (lits (ascii "zkarche/device-handle/v1") ++ (G.compress devicePub).bytes)).first 16 handle_fits

/-- Derives the shared session key from the Ristretto ECDHE secret, handshake nonces, and the
    session pseudonym `pid`. -/
def deriveSessionKey (G : Suite β S P) (ephSecret : S) (peerEphPub : P) (nonceC nonceS pid : Block β 32)
    (ephC ephS : P) : Block β 32 :=
  let shared := ephSecret • peerEphPub
  let salt := nonceC.bytes ++ nonceS.bytes
  let info := lits (ascii "session key v2") ++ pid.bytes ++ (G.compress ephC).bytes ++ (G.compress ephS).bytes
  G.hkdf salt (G.compress shared).bytes info

def kcTranscript (G : Suite β S P) (pid : Block β 32) (aC : P) (sC : S) (nonceC : Block β 32)
    (ephC serverPub aS : P) (sS : S) (nonceS : Block β 32) (ephS : P) : CompatTranscript β :=
  let t := CompatTranscript.new tKcV2
  let t := t.appendMessage (ascii "pid") pid.bytes
  let t := t.appendMessage (ascii "a_c") (G.compress aC).bytes
  let t := t.appendMessage (ascii "s_c") (G.toBytes sC).bytes
  let t := t.appendMessage (ascii "nonce_c") nonceC.bytes
  let t := t.appendMessage (ascii "eph_c") (G.compress ephC).bytes
  let t := t.appendMessage (ascii "server_pub") (G.compress serverPub).bytes
  let t := t.appendMessage (ascii "a_s") (G.compress aS).bytes
  let t := t.appendMessage (ascii "s_s") (G.toBytes sS).bytes
  let t := t.appendMessage (ascii "nonce_s") nonceS.bytes
  t.appendMessage (ascii "eph_s") (G.compress ephS).bytes

/-- Hashes the full key-confirmation transcript. v2: binds to `pid` under T_KC_V2. -/
def kcTranscriptHash (G : Suite β S P) (pid : Block β 32) (aC : P) (sC : S) (nonceC : Block β 32)
    (ephC serverPub aS : P) (sS : S) (nonceS : Block β 32) (ephS : P) : Block β 32 :=
  G.sha256 (kcTranscript G pid aC sC nonceC ephC serverPub aS sS nonceS ephS).buf

/-- Derives directional key-confirmation MAC keys from the session key and transcript hash. -/
def deriveKcKeys (G : Suite β S P) (sessionKey th : Block β 32) : Block β 32 × Block β 32 :=
  (G.hkdf th.bytes sessionKey.bytes (lits (ascii "kc s2c")),
    G.hkdf th.bytes sessionKey.bytes (lits (ascii "kc c2s")))

def hmacTag (G : Suite β S P) (key : Block β 32) (label : List UInt8) (th : Block β 32) : Block β 32 :=
  G.hmac key.bytes (lits label ++ th.bytes)

end ZkArche.Server

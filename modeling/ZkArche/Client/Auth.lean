import ZkArche.Client.Files

namespace ZkArche.Client

open Foundation

variable {β S P : Type} [Octet β] [Field S] [AddCommGroup P] [Module S P]
variable [DecidableEq β] [DecidableEq P]

def msgAuthV2 : UInt8 := 0x03
def msgAuthV3 : UInt8 := 0x04
def authFlagDeviceOnly : UInt8 := 0x01
def authFlagHandleLookup : UInt8 := 0x02

structure AuthMode where
  fastLookup : Bool
  deviceOnly : Bool
  deriving DecidableEq

def authMode (vars : Vars) : AuthMode :=
  { fastLookup := envTruthy vars "ZKARCHE_FAST_LOOKUP", deviceOnly := envTruthy vars "ZKARCHE_DEVICE_ONLY" }

def AuthMode.flags (mode : AuthMode) : UInt8 :=
  let flags : UInt8 := 0
  let flags := if mode.deviceOnly then flags ||| authFlagDeviceOnly else flags
  if mode.fastLookup then flags ||| authFlagHandleLookup else flags

/-- Which of the file replacements of a session fail. -/
structure AuthFaults where
  devicePub : Option IoError
  roleCred : Option IoError

def AuthFaults.none : AuthFaults := ⟨.none, .none⟩

/-- What a device draws at random during one session. -/
structure AuthRandom (β S : Type) where
  nonceC : Block β 32
  ephSecret : S
  r : S
  blind : S
  delta : S
  rerandR : S
  orProof : OrRandomness S

def loadPinnedServerPub (G : Suite β S P) : Effect Failure (Connected β) P := do
  let files ← readFiles
  let pinned ← Effect.lift (loadServerPub G files.serverPub)
  match pinned with
  | some pub => pure pub
  | none => Effect.fail (permissionDenied
      "No pinned server_pub.bin — run --setup first to enroll and pin the server key.")

def sendMode (mode : AuthMode) : Effect Failure (Conn β) Unit :=
  if mode.fastLookup || mode.deviceOnly then do
    sendAll (lits [msgAuthV3])
    sendAll (lits [mode.flags])
  else sendAll (lits [msgAuthV2])

structure AuthHello (β S P : Type) where
  pid : Block β 32
  aC : P
  sC : S
  nonceC : Block β 32
  ephC : P
  pinnedServerPub : P

def makeHello (G : Suite β S P) (x : S) (deviceStaticPub pinnedServerPub : P) (random : AuthRandom β S) :
    AuthHello β S P :=
  let ephPub := random.ephSecret • G.basepoint
  let pid := computePid G deviceStaticPub random.nonceC ephPub pinnedServerPub
  let (aC, sC) := schnorrProveAuth G x pid random.nonceC ephPub random.r
  { pid, aC, sC, nonceC := random.nonceC, ephC := ephPub, pinnedServerPub }

structure RoleProof (S P : Type) where
  cPrime : P
  rerandA : P
  rerandS : S
  orProof : List (P × S × S)

def proveRole (G : Suite β S P) (allowedRoles : List UInt64) (cred : RoleCredential S P) (hello : AuthHello β S P)
    (random : AuthRandom β S) : Except Failure (RoleProof S P) := do
  let (cPrime, blindPrime, delta) := rerandomizeRoleCommitment G cred random.delta
  let (rerandA, rerandS) := proveRoleRerandomization G cred.commitment cPrime delta hello.pid hello.nonceC
    hello.ephC random.rerandR
  let orProof ← proveRoleSetMembership G allowedRoles cPrime cred.roleCode blindPrime hello.pid hello.nonceC
    hello.ephC random.orProof
  pure { cPrime, rerandA, rerandS, orProof }

def helloBytes (G : Suite β S P) (hello : AuthHello β S P) : List β :=
  hello.pid.bytes ++ (G.compress hello.aC).bytes ++ (G.toBytes hello.sC).bytes ++ hello.nonceC.bytes ++
    (G.compress hello.ephC).bytes

def branchBytes (G : Suite β S P) (branch : P × S × S) : List β :=
  (G.compress branch.1).bytes ++ (G.toBytes branch.2.1).bytes ++ (G.toBytes branch.2.2).bytes

def roleProofBytes (G : Suite β S P) (proof : RoleProof S P) : List β :=
  (G.compress proof.cPrime).bytes ++ (G.compress proof.rerandA).bytes ++ (G.toBytes proof.rerandS).bytes ++
    proof.orProof.flatMap (branchBytes G)

def roleBytes (G : Suite β S P) (allowedRoles : List UInt64) (mode : AuthMode) (fault : Option IoError)
    (hello : AuthHello β S P) (random : AuthRandom β S) : Effect Failure (Connected β) (List β) :=
  if mode.deviceOnly then pure []
  else do
    let cred ← onRoleCred (loadOrCreateRoleCredential G fault random.blind)
    let proof ← Effect.lift (proveRole G allowedRoles cred hello random)
    pure (roleProofBytes G proof)

def sendHandle (G : Suite β S P) (mode : AuthMode) (deviceStaticPub : P) : Effect Failure (Conn β) Unit :=
  if mode.fastLookup then sendAll (computeDeviceHandle G deviceStaticPub).bytes else pure ()

def requestAuth (G : Suite β S P) (allowedRoles : List UInt64) (mode : AuthMode) (x : S) (faults : AuthFaults)
    (random : AuthRandom β S) : Effect Failure (Connected β) (AuthHello β S P) := do
  let pinnedServerPub ← loadPinnedServerPub G
  onConn (sendMode mode)
  let deviceStaticPub ← onDevicePub (loadOrComputeDevicePub G faults.devicePub x)
  Effect.lift (rejectIdentity deviceStaticPub "device_static_pub")
  onConn (sendHandle G mode deviceStaticPub)
  let hello := makeHello G x deviceStaticPub pinnedServerPub random
  let roles ← roleBytes G allowedRoles mode faults.roleCred hello random
  onConn (sendAll (helloBytes G hello ++ roles))
  pure hello

structure AuthReply (β S P : Type) where
  serverStaticPub : P
  aS : P
  sS : S
  nonceS : Block β 32
  ephS : P
  tagS : Block β 32

def parseAuthReply (G : Suite β S P) (pt2 : List β) : Except Failure (AuthReply β S P) := do
  let sPubBytes ← sliceBlock 32 pt2 0 32
  let aSBytes ← sliceBlock 32 pt2 32 64
  let sSBytes ← sliceBlock 32 pt2 64 96
  let nonceS ← sliceBlock 32 pt2 96 128
  let ephSBytes ← sliceBlock 32 pt2 128 160
  let tagS ← sliceBlock 32 pt2 160 192
  let serverStaticPub ← decompressOr G "invalid server_static_pub" sPubBytes
  rejectIdentity serverStaticPub "server_static_pub"
  let aS ← decompressOr G "invalid a_s" aSBytes
  rejectIdentity aS "a_s"
  let sS ← canonicalOr G "non-canonical s_s" sSBytes
  let ephS ← decompressOr G "invalid eph_s" ephSBytes
  rejectIdentity ephS "eph_s"
  pure { serverStaticPub, aS, sS, nonceS, ephS, tagS }

structure AuthSession (β S P : Type) where
  pid : Block β 32
  aC : P
  sC : S
  nonceC : Block β 32
  ephC : P
  serverPub : P
  aS : P
  sS : S
  nonceS : Block β 32
  ephS : P
  sessionKey : Block β 32
  th : Block β 32

def conclude (G : Suite β S P) (ephSecret : S) (hello : AuthHello β S P) (reply : AuthReply β S P) : AuthSession β S P :=
  let sessionKey := deriveSessionKey G ephSecret reply.ephS hello.nonceC reply.nonceS hello.pid hello.ephC reply.ephS
  let th := kcTranscriptHash G hello.pid hello.aC hello.sC hello.nonceC hello.ephC reply.serverStaticPub reply.aS
    reply.sS reply.nonceS reply.ephS
  { pid := hello.pid, aC := hello.aC, sC := hello.sC, nonceC := hello.nonceC, ephC := hello.ephC
    serverPub := reply.serverStaticPub, aS := reply.aS, sS := reply.sS, nonceS := reply.nonceS, ephS := reply.ephS
    sessionKey, th }

def AuthSession.tagS (G : Suite β S P) (session : AuthSession β S P) : Block β 32 :=
  hmacTag G (deriveKcKeys G session.sessionKey session.th).1 (ascii "server finished") session.th

def AuthSession.tagC (G : Suite β S P) (session : AuthSession β S P) : Block β 32 :=
  hmacTag G (deriveKcKeys G session.sessionKey session.th).2 (ascii "client finished") session.th

def finishAuth (G : Suite β S P) (ephSecret : S) (hello : AuthHello β S P) :
    Effect Failure (Conn β) (AuthSession β S P) := do
  let pt2 ← recvVec 192
  let reply ← Effect.lift (parseAuthReply G pt2)
  Effect.failIf (decide (G.compress hello.pinnedServerPub ≠ G.compress reply.serverStaticPub))
    (permissionDenied "Server pubkey mismatch — possible MITM")
  Effect.failIf (!schnorrVerifyServer G reply.serverStaticPub reply.aS reply.sS reply.nonceS reply.ephS)
    (permissionDenied "server Schnorr proof invalid")
  let session := conclude G ephSecret hello reply
  Effect.failIf (decide (session.tagS G ≠ reply.tagS)) (permissionDenied "server finished tag mismatch")
  sendAll (session.tagC G).bytes
  pure session

/-- Runs the client-side v2 authenticated session handshake. What it hands back is the session
    that was confirmed. -/
def doAuthV2Session (G : Suite β S P) (allowedRoles : List UInt64) (vars : Vars) (x : S) (faults : AuthFaults)
    (random : AuthRandom β S) : Effect Failure (Connected β) (AuthSession β S P) := do
  let hello ← requestAuth G allowedRoles (authMode vars) x faults random
  onConn (finishAuth G random.ephSecret hello)

end ZkArche.Client

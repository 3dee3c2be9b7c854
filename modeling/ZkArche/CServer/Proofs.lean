import ZkArche.CImpl.Primitives

namespace ZkArche.CServer

open Foundation CImpl

def allowedRoles : List UInt64 := [1, 2]

/-- `or_proof[i]`: a point, a challenge and a response. -/
structure OrBranch where
  a : Block UInt8 32
  c : Block UInt8 32
  s : Block UInt8 32
  deriving DecidableEq

def rerandTranscript (storedC cPrime a pid nonceC ephC : Block UInt8 32) : Option Transcript :=
  trBuild tRoleRerand [field "pid" pid, field "nonce_c" nonceC, field "eph_c" ephC, field "stored_c" storedC,
    field "c_prime" cPrime, field "a" a]

def verifyRoleRerandomization (so : Sodium) (storedC cPrime a s pid nonceC ephC : Block UInt8 32) :
    Option Unit := do
  let h := CImpl.attrH so
  let diff := so.sub cPrime storedC
  let tr ← rerandTranscript storedC cPrime a pid nonceC ephC
  let c := trChallengeScalar so tr
  let left ← so.scalarmult s h
  let cc ← so.scalarmult c diff
  let right := so.add a cc
  guard (left = right)

def roleSetFields (roles : List UInt64) (cPrime : Block UInt8 32) (aPoints : List (Block UInt8 32))
    (pid nonceC ephC : Block UInt8 32) : List (List UInt8 × List UInt8) :=
  [field "pid" pid, field "nonce_c" nonceC, field "eph_c" ephC, field "c_prime" cPrime] ++
    roles.zipIdx.map (fun role => (ascii ("r_" ++ toString role.2), leBytes 8 role.1.toNat)) ++
    aPoints.zipIdx.map (fun a => field ("A_" ++ toString a.2) a.1)

def verifyBranches (so : Sodium) (h cPrime : Block UInt8 32) : List (UInt64 × OrBranch) → Option Unit
  | [] => some ()
  | (role, branch) :: rest => do
    let roleScalar := scalarFromU64 role
    let gR := so.scalarmultBase roleScalar
    let yI := so.sub cPrime gR
    let left ← so.scalarmult branch.s h
    let yc ← so.scalarmult branch.c yI
    let right := so.add branch.a yc
    guard (left = right)
    verifyBranches so h cPrime rest

def verifyRoleSetMembership (so : Sodium) (cPrime : Block UInt8 32) (proof : List OrBranch)
    (pid nonceC ephC : Block UInt8 32) : Option Unit := do
  let h := CImpl.attrH so
  guard (proof.all fun branch => so.isValidPoint branch.a)
  let tr ← trBuild tRoleSet (roleSetFields allowedRoles cPrime (proof.map (·.a)) pid nonceC ephC)
  let masterC := trChallengeScalar so tr
  let sum := proof.foldl (fun sum branch => so.scalarAdd sum branch.c) scalarZero
  guard (sum = masterC)
  verifyBranches so h cPrime (allowedRoles.zip proof)

def setupTranscript (deviceId devicePub serverPub clientNonce serverNonce : Block UInt8 32)
    (setupChallenge : Block UInt8 16) (a : Block UInt8 32) : Option Transcript :=
  trBuild tSetup [(ascii "role", ascii "client"), field "device_id" deviceId, field "device_pub" devicePub,
    field "server_pub" serverPub, field "a" a, field "client_nonce" clientNonce, field "server_nonce" serverNonce,
    (ascii "setup_challenge", setupChallenge.bytes)]

def schnorrVerifySetup (so : Sodium) (deviceId devicePub serverPub clientNonce serverNonce : Block UInt8 32)
    (setupChallenge : Block UInt8 16) (a s : Block UInt8 32) : Option Unit := do
  let tr ← setupTranscript deviceId devicePub serverPub clientNonce serverNonce setupChallenge a
  let c := trChallengeScalar so tr
  let left := so.scalarmultBase s
  let cx ← so.scalarmult c devicePub
  let right := so.add a cx
  guard (left = right)

def setupServerTranscript (deviceId devicePub serverPub clientNonce serverNonce : Block UInt8 32)
    (setupChallenge : Block UInt8 16) (a : Block UInt8 32) : Option Transcript :=
  trBuild tSetupServer [(ascii "role", ascii "server"), field "device_id" deviceId, field "device_pub" devicePub,
    field "server_pub" serverPub, field "a" a, field "client_nonce" clientNonce, field "server_nonce" serverNonce,
    (ascii "setup_challenge", setupChallenge.bytes)]

def schnorrProveSetupServer (so : Sodium) (serverSk serverPub deviceId devicePub clientNonce
    serverNonce : Block UInt8 32) (setupChallenge : Block UInt8 16) (r : Block UInt8 32) :
    Option (Block UInt8 32 × Block UInt8 32) := do
  let a := so.scalarmultBase r
  let tr ← setupServerTranscript deviceId devicePub serverPub clientNonce serverNonce setupChallenge a
  let c := trChallengeScalar so tr
  let cx := so.scalarMul c serverSk
  pure (a, so.scalarAdd r cx)

def clientTranscript (pid expectedPub a nonceC ephC : Block UInt8 32) : Option Transcript :=
  trBuild tClientV2 [field "pid" pid, field "pubkey" expectedPub, field "a" a, field "nonce_c" nonceC,
    field "eph_c" ephC]

def schnorrVerifyAuth (so : Sodium) (pid expectedPub a s nonceC ephC : Block UInt8 32) : Option Unit := do
  let tr ← clientTranscript pid expectedPub a nonceC ephC
  let c := trChallengeScalar so tr
  let left := so.scalarmultBase s
  let cx ← so.scalarmult c expectedPub
  let right := so.add a cx
  guard (left = right)

def serverTranscript (serverPub a nonceS ephS : Block UInt8 32) : Option Transcript :=
  trBuild tServer [field "pubkey" serverPub, field "a" a, field "nonce_s" nonceS, field "eph_s" ephS]

def schnorrProveServer (so : Sodium) (serverSk serverPub nonceS ephS r : Block UInt8 32) :
    Option (Block UInt8 32 × Block UInt8 32) := do
  let a := so.scalarmultBase r
  let tr ← serverTranscript serverPub a nonceS ephS
  let c := trChallengeScalar so tr
  let cx := so.scalarMul c serverSk
  pure (a, so.scalarAdd r cx)

end ZkArche.CServer

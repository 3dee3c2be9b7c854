import ZkArche.CClient.RoleCredential
import ZkArche.CServer.Proofs

namespace ZkArche.CClient

open Foundation CImpl
open CServer (OrBranch allowedRoles)

/-- The new commitment and its blind, for the random scalar `delta`. -/
def rerandomizeRoleCommitment (so : Sodium) (cred : RoleCred) (delta : Block UInt8 32) :
    Option (Block UInt8 32 × Block UInt8 32) := do
  let h := CImpl.attrH so
  let blindPrime := so.scalarAdd cred.blind delta
  let hDelta ← so.scalarmult delta h
  pure (so.add cred.commitment hDelta, blindPrime)

def proveRoleRerandomization (so : Sodium) (storedC cPrime delta pid nonceC ephC r : Block UInt8 32) :
    Option (Block UInt8 32 × Block UInt8 32) := do
  let h := CImpl.attrH so
  let a ← so.scalarmult r h
  let tr ← CServer.rerandTranscript storedC cPrime a pid nonceC ephC
  let c := trChallengeScalar so tr
  let cd := so.scalarMul c delta
  pure (a, so.scalarAdd r cd)

/-- The random scalars of a membership proof: `w` for the true branch and a pair `(c_i, s_i)` for
    each simulated one. -/
structure OrRandom where
  w : Block UInt8 32
  simulated : Nat → Block UInt8 32 × Block UInt8 32

def trueIndex (roleCode : UInt64) : Option Nat :=
  allowedRoles.zipIdx.foldl (fun found role => if role.1 = roleCode then some role.2 else found) none

/-- `a_points[i]`, for the branch `y_points[i]`. -/
def branchPoint (so : Sodium) (h : Block UInt8 32) (trueIndex : Nat) (random : OrRandom)
    (y : Block UInt8 32 × Nat) : Option (Block UInt8 32) :=
  if y.2 = trueIndex then so.scalarmult random.w h
  else do
    let sh ← so.scalarmult (random.simulated y.2).2 h
    let cy ← so.scalarmult (random.simulated y.2).1 y.1
    pure (so.sub sh cy)

def proveRoleSetMembership (so : Sodium) (cPrime : Block UInt8 32) (roleCode : UInt64)
    (blindPrime pid nonceC ephC : Block UInt8 32) (random : OrRandom) : Option (List OrBranch) := do
  let h := CImpl.attrH so
  let yPoints := allowedRoles.map fun role => so.sub cPrime (so.scalarmultBase (scalarFromU64 role))
  let index ← trueIndex roleCode
  let aPoints ← yPoints.zipIdx.mapM (branchPoint so h index random)
  let tr ← trBuild tRoleSet (CServer.roleSetFields allowedRoles cPrime aPoints pid nonceC ephC)
  let masterC := trChallengeScalar so tr
  let sumSim := (List.range allowedRoles.length).foldl
    (fun sum i => if i ≠ index then so.scalarAdd sum (random.simulated i).1 else sum) scalarZero
  let cTrue := so.scalarSub masterC sumSim
  let sTrue := so.scalarAdd random.w (so.scalarMul cTrue blindPrime)
  pure (aPoints.zipIdx.map fun a =>
    if a.2 = index then ⟨a.1, cTrue, sTrue⟩
    else ⟨a.1, (random.simulated a.2).1, (random.simulated a.2).2⟩)

def schnorrProveSetup (so : Sodium) (x deviceId devicePub serverPub clientNonce serverNonce : Block UInt8 32)
    (setupChallenge : Block UInt8 16) (r : Block UInt8 32) : Option (Block UInt8 32 × Block UInt8 32) := do
  let a := so.scalarmultBase r
  let tr ← CServer.setupTranscript deviceId devicePub serverPub clientNonce serverNonce setupChallenge a
  let c := trChallengeScalar so tr
  let cx := so.scalarMul c x
  pure (a, so.scalarAdd r cx)

def schnorrVerifySetupServer (so : Sodium) (serverPub deviceId devicePub clientNonce serverNonce : Block UInt8 32)
    (setupChallenge : Block UInt8 16) (a s : Block UInt8 32) : Option Unit := do
  let tr ← CServer.setupServerTranscript deviceId devicePub serverPub clientNonce serverNonce setupChallenge a
  let c := trChallengeScalar so tr
  let left := so.scalarmultBase s
  let cx ← so.scalarmult c serverPub
  let right := so.add a cx
  guard (left = right)

def schnorrProveAuth (so : Sodium) (x pid nonceC ephC r : Block UInt8 32) :
    Option (Block UInt8 32 × Block UInt8 32) := do
  let pubkey := so.scalarmultBase x
  let a := so.scalarmultBase r
  let tr ← CServer.clientTranscript pid pubkey a nonceC ephC
  let c := trChallengeScalar so tr
  let cx := so.scalarMul c x
  pure (a, so.scalarAdd r cx)

def schnorrVerifyServer (so : Sodium) (serverPub a s nonceS ephS : Block UInt8 32) : Option Unit := do
  let tr ← CServer.serverTranscript serverPub a nonceS ephS
  let c := trChallengeScalar so tr
  let left := so.scalarmultBase s
  let cx ← so.scalarmult c serverPub
  let right := so.add a cx
  guard (left = right)

end ZkArche.CClient

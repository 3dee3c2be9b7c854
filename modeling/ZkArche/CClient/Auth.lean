import ZkArche.CClient.DeviceFiles
import ZkArche.CClient.Proofs
import ZkArche.Client.Auth

namespace ZkArche.CClient

open Foundation CImpl
open CServer (OrBranch allowedRoles)
open Client (AuthMode authMode msgAuthV2 msgAuthV3)

/-- What a device draws at random during one session. The root and the blind are for files that do
    not exist yet. -/
structure AuthRandom where
  root : Block UInt8 32
  blind : Block UInt8 32
  nonceC : Block UInt8 32
  ephSecret : Block UInt8 32
  r : Block UInt8 32
  delta : Block UInt8 32
  rerandR : Block UInt8 32
  orProof : OrRandom

structure Prepared where
  x : Block UInt8 32
  pinnedServerPub : Block UInt8 32
  devicePub : Block UInt8 32
  cred : Option RoleCred

/-- The part of `do_auth` before `tcp_connect`. -/
def prepareAuth (so : ClientSodium) (mode : AuthMode) (faults : Faults) (random : AuthRandom) :
    Effect Unit Connected Prepared := do
  let (_, x) ← onDeviceRoot (loadDeviceCreds so faults.deviceRoot random.root)
  let files ← readFiles
  let pinnedServerPub ← orFail (loadServerPub files.serverPub)
  let devicePub := so.scalarmultBase x
  onDevicePub (saveDevicePub faults.devicePub devicePub)
  checkPoint so.toSodium devicePub
  if mode.deviceOnly then pure { x, pinnedServerPub, devicePub, cred := none }
  else do
    let cred ← onRoleCred (loadOrCreateRoleCredential so.toSodium faults.roleCred random.blind)
    pure { x, pinnedServerPub, devicePub, cred := some cred }

def sendMode (so : Sodium) (mode : AuthMode) (devicePub : Block UInt8 32) : Effect Unit (Conn UInt8) Unit :=
  if mode.fastLookup || mode.deviceOnly then do
    CImpl.sendAll [msgAuthV3]
    CImpl.sendAll [mode.flags]
    if mode.fastLookup then CImpl.sendAll (CImpl.computeDeviceHandle so devicePub).bytes else pure ()
  else CImpl.sendAll [msgAuthV2]

structure AuthHello where
  pid : Block UInt8 32
  aC : Block UInt8 32
  sC : Block UInt8 32
  nonceC : Block UInt8 32
  ephC : Block UInt8 32

def AuthHello.bytes (hello : AuthHello) : List UInt8 :=
  hello.pid.bytes ++ hello.aC.bytes ++ hello.sC.bytes ++ hello.nonceC.bytes ++ hello.ephC.bytes

def makeHello (so : Sodium) (prepared : Prepared) (random : AuthRandom) : Option AuthHello := do
  let ephC := so.scalarmultBase random.ephSecret
  let pid := CImpl.computePid so prepared.devicePub random.nonceC ephC prepared.pinnedServerPub
  let (aC, sC) ← schnorrProveAuth so prepared.x pid random.nonceC ephC random.r
  pure { pid, aC, sC, nonceC := random.nonceC, ephC }

structure RoleProof where
  cPrime : Block UInt8 32
  rerandA : Block UInt8 32
  rerandS : Block UInt8 32
  orProof : List OrBranch

def RoleProof.bytes (proof : RoleProof) : List UInt8 :=
  proof.cPrime.bytes ++ proof.rerandA.bytes ++ proof.rerandS.bytes ++
    proof.orProof.flatMap fun branch => branch.a.bytes ++ branch.c.bytes ++ branch.s.bytes

def proveRole (so : Sodium) (cred : RoleCred) (hello : AuthHello) (random : AuthRandom) : Option RoleProof := do
  let (cPrime, blindPrime) ← rerandomizeRoleCommitment so cred random.delta
  let (rerandA, rerandS) ← proveRoleRerandomization so cred.commitment cPrime random.delta hello.pid hello.nonceC
    hello.ephC random.rerandR
  let orProof ← proveRoleSetMembership so cPrime cred.roleCode blindPrime hello.pid hello.nonceC hello.ephC
    random.orProof
  pure { cPrime, rerandA, rerandS, orProof }

def roleBytes (so : Sodium) (prepared : Prepared) (hello : AuthHello) (random : AuthRandom) : Option (List UInt8) :=
  match prepared.cred with
  | none => some []
  | some cred => do
    let proof ← proveRole so cred hello random
    pure proof.bytes

def sendRequest (so : Sodium) (mode : AuthMode) (prepared : Prepared) (random : AuthRandom) :
    Effect Unit (Conn UInt8) AuthHello := do
  sendMode so mode prepared.devicePub
  let hello ← orFail (makeHello so prepared random)
  let roles ← orFail (roleBytes so prepared hello random)
  CImpl.sendAll (hello.bytes ++ roles)
  pure hello

/-- The fields of `payload2`. -/
structure AuthReply where
  serverPub2 : Block UInt8 32
  aS : Block UInt8 32
  sS : Block UInt8 32
  nonceS : Block UInt8 32
  ephS : Block UInt8 32
  tagS : Block UInt8 32

def splitReply (payload2 : List UInt8) : Option AuthReply := do
  let serverPub2 ← part payload2 0
  let aS ← part payload2 32
  let sS ← part payload2 64
  let nonceS ← part payload2 96
  let ephS ← part payload2 128
  let tagS ← part payload2 160
  pure { serverPub2, aS, sS, nonceS, ephS, tagS }

def AuthReply.bytes (reply : AuthReply) : List UInt8 :=
  reply.serverPub2.bytes ++ (reply.aS.bytes ++ (reply.sS.bytes ++ (reply.nonceS.bytes ++ (reply.ephS.bytes ++
    reply.tagS.bytes))))

theorem splitReply_iff {payload2 : List UInt8} {reply : AuthReply} (length : payload2.length = 192) :
    splitReply payload2 = some reply ↔ payload2 = reply.bytes := by
  constructor
  · intro found
    simp only [splitReply, Option.bind_eq_bind, Option.bind_eq_some_iff, Option.pure_def, Option.some.injEq] at found
    obtain ⟨serverPub2, first, aS, second, sS, third, nonceS, fourth, ephS, fifth, tagS, sixth, same⟩ := found
    subst same
    have front := drop_of_part first
    have finished : payload2.drop 192 = [] := List.drop_eq_nil_of_le (Nat.le_of_eq length)
    rw [List.drop_zero, drop_of_part second, drop_of_part third, drop_of_part fourth, drop_of_part fifth,
      drop_of_part sixth, finished, List.append_nil] at front
    exact front
  · intro bytes
    have whole : payload2.drop 0 = reply.serverPub2.bytes ++ (reply.aS.bytes ++ (reply.sS.bytes ++
        (reply.nonceS.bytes ++ (reply.ephS.bytes ++ (reply.tagS.bytes ++ []))))) := by
      rw [List.drop_zero, bytes, AuthReply.bytes, List.append_nil]
    obtain ⟨first, tail⟩ := part_of_drop whole
    obtain ⟨second, tail⟩ := part_of_drop tail
    obtain ⟨third, tail⟩ := part_of_drop tail
    obtain ⟨fourth, tail⟩ := part_of_drop tail
    obtain ⟨fifth, tail⟩ := part_of_drop tail
    obtain ⟨sixth, _⟩ := part_of_drop tail
    rw [splitReply, first, second, third, fourth, fifth, sixth]
    rfl

structure AuthSession where
  hello : AuthHello
  reply : AuthReply
  sessionKey : Block UInt8 32
  th : Block UInt8 32

def conclude (so : Sodium) (ephSecret : Block UInt8 32) (hello : AuthHello) (reply : AuthReply) : Option AuthSession := do
  let sessionKey ← CImpl.deriveSessionKey so ephSecret reply.ephS hello.nonceC reply.nonceS hello.pid hello.ephC reply.ephS
  let th ← CImpl.kcTranscriptHash so hello.pid hello.aC hello.sC hello.nonceC hello.ephC reply.serverPub2 reply.aS
    reply.sS reply.nonceS reply.ephS
  pure { hello, reply, sessionKey, th }

def AuthSession.tagS (so : Sodium) (session : AuthSession) : Block UInt8 32 :=
  CImpl.hmacTag so (CImpl.deriveKcKeys so session.sessionKey session.th).1 (ascii "server finished") session.th

def AuthSession.tagC (so : Sodium) (session : AuthSession) : Block UInt8 32 :=
  CImpl.hmacTag so (CImpl.deriveKcKeys so session.sessionKey session.th).2 (ascii "client finished") session.th

def acceptReply (so : Sodium) (pinnedServerPub ephSecret : Block UInt8 32) (hello : AuthHello) (payload2 : List UInt8) :
    Option AuthSession := do
  let reply ← splitReply payload2
  guard (so.isValidPoint reply.serverPub2 && so.isValidPoint reply.aS && so.isValidPoint reply.ephS)
  guard (reply.serverPub2 = pinnedServerPub)
  schnorrVerifyServer so reply.serverPub2 reply.aS reply.sS reply.nonceS reply.ephS
  let session ← conclude so ephSecret hello reply
  guard (session.tagS so = reply.tagS)
  pure session

def finishAuth (so : Sodium) (pinnedServerPub ephSecret : Block UInt8 32) (hello : AuthHello) :
    Effect Unit (Conn UInt8) AuthSession := do
  let payload2 ← recvAll 192
  let session ← orFail (acceptReply so pinnedServerPub ephSecret hello payload2.bytes)
  CImpl.sendAll (session.tagC so).bytes
  pure session

/-- `do_auth`. What it hands back is the session that was confirmed. -/
def doAuth (so : ClientSodium) (vars : Vars) (reachable : Bool) (faults : Faults) (random : AuthRandom) :
    Effect Unit Connected AuthSession := do
  let prepared ← prepareAuth so (authMode vars) faults random
  tcpConnect reachable
  let hello ← onConn (sendRequest so.toSodium (authMode vars) prepared random)
  onConn (finishAuth so.toSodium prepared.pinnedServerPub random.ephSecret hello)

end ZkArche.CClient

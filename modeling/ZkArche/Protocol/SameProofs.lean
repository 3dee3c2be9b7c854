import ZkArche.CClient.Proofs
import ZkArche.CImpl.Hkdf
import ZkArche.CServer.Verification
import ZkArche.Client.RoleProof
import ZkArche.Protocol.SameRecords

namespace ZkArche.Protocol

open Foundation Foundation.Sigma
open CServer (allowedRoles)

variable {S P : Type} [Field S] [AddCommGroup P] [Module S P]
variable {G : Suite UInt8 S P} {so : CImpl.Sodium}

structure SameOrDraws (G : Suite UInt8 S P) (rust : Client.OrRandomness S) (c : CClient.OrRandom) : Prop where
  w : c.w = G.toBytes rust.w
  simulated : ∀ i, c.simulated i = (G.toBytes (rust.simulated i).1, G.toBytes (rust.simulated i).2)

theorem trueIndex_eq (roleCode : UInt64) :
    CClient.trueIndex roleCode = allowedRoles.findIdx? (· == roleCode) := by
  by_cases one : 1 = roleCode
  · subst one
    decide
  · by_cases two : 2 = roleCode
    · subst two
      decide
    · have first : ((1 : UInt64) == roleCode) = false := beq_eq_false_iff_ne.mpr one
      have second : ((2 : UInt64) == roleCode) = false := beq_eq_false_iff_ne.mpr two
      simp [CClient.trueIndex, allowedRoles, one, two, List.findIdx?_cons, first, second]

theorem mapM_some {α γ : Type} {step : α → Option γ} {value : α → γ} {items : List α}
    (each : ∀ item ∈ items, step item = some (value item)) : items.mapM step = some (items.map value) := by
  induction items with
  | nil => rfl
  | cons item items ih =>
    have here := each item List.mem_cons_self
    have there := ih fun other member => each other (List.mem_cons_of_mem _ member)
    rw [List.mapM_cons, here, there]
    rfl

section Signatures

variable (m : so.Matches G)

include m

theorem makePub_eq (x : S) : so.scalarmultBase (G.toBytes x) = G.compress (x • G.basepoint) := by
  rw [CServer.scalarmultBase_eq m, CServer.residue_toBytes m]

theorem scalarmult_some {n : S} {p : P} (nonzero : n • p ≠ 0) :
    so.scalarmult (G.toBytes n) (G.compress p) = some (G.compress (n • p)) := by
  have bits : (CImpl.scalarBits (G.toBytes n) : S) = n := m.scalarBits_toBytes n
  rw [m.scalarmult _ _ (by rwa [bits]), bits]

theorem response_eq (t : CompatTranscript UInt8) (r x : S) :
    so.scalarAdd (G.toBytes r) (so.scalarMul (CImpl.trChallengeScalar so ⟨t.buf⟩) (G.toBytes x)) =
      G.toBytes (r + t.challengeScalar G * x) := by
  rw [CServer.trChallengeScalar_eq m, m.scalarMul, m.scalarAdd]

def signature (G : Suite UInt8 S P) (proof : P × S) : Block UInt8 32 × Block UInt8 32 :=
  (G.compress proof.1, G.toBytes proof.2)

theorem schnorrProveAuth_eq (x r : S) (pid nonceC : Block UInt8 32) (ephC : P) :
    CClient.schnorrProveAuth so (G.toBytes x) pid nonceC (G.compress ephC) (G.toBytes r) =
      some (signature G (Client.schnorrProveAuth G x pid nonceC ephC r)) := by
  rw [CClient.schnorrProveAuth]
  simp only [makePub_eq m, CServer.clientTranscript_eq, Option.bind_eq_bind, Option.bind_some, response_eq m]
  rfl

theorem schnorrProveSetup_eq (x r : S) (deviceId clientNonce serverNonce : Block UInt8 32)
    (setupChallenge : Block UInt8 16) (devicePub serverPub : P) :
    CClient.schnorrProveSetup so (G.toBytes x) deviceId (G.compress devicePub) (G.compress serverPub) clientNonce
        serverNonce setupChallenge (G.toBytes r) =
      some (signature G (Client.schnorrProveSetup G x deviceId devicePub serverPub clientNonce serverNonce
        setupChallenge r)) := by
  rw [CClient.schnorrProveSetup]
  simp only [makePub_eq m, CServer.setupTranscript_eq, Option.bind_eq_bind, Option.bind_some, response_eq m]
  rfl

/-- The C client accepts a session proof of the server exactly when it verifies and the challenge
    does not take the key to the identity. -/
theorem schnorrVerifyServer_iff [DecidableEq P] {serverPub a ephS : P} {s nonceS : Block UInt8 32} :
    CClient.schnorrVerifyServer so (G.compress serverPub) (G.compress a) s nonceS (G.compress ephS) = some () ↔
      (Client.serverTranscript G serverPub a nonceS ephS).challengeScalar G • serverPub ≠ 0 ∧
      Client.schnorrVerifyServer G serverPub a (CServer.residue S s) nonceS ephS = true := by
  rw [CClient.schnorrVerifyServer, CServer.serverTranscript_eq, Option.bind_eq_bind, Option.bind_some]
  simp only [CServer.trChallengeScalar_eq m, Option.bind_eq_bind, CServer.scalarmult_bind m, CServer.residue_toBytes m,
    CServer.scalarmultBase_eq m, m.add, Option.guard_eq_some', G.compress_injective.eq_iff, Client.schnorrVerifyServer,
    decide_eq_true_eq]
  rfl

theorem schnorrVerifySetupServer_iff [DecidableEq P] {deviceId clientNonce serverNonce s : Block UInt8 32}
    {setupChallenge : Block UInt8 16} {serverPub devicePub a : P} :
    CClient.schnorrVerifySetupServer so (G.compress serverPub) deviceId (G.compress devicePub) clientNonce serverNonce
        setupChallenge (G.compress a) s = some () ↔
      (Client.setupServerTranscript G serverPub deviceId devicePub clientNonce serverNonce setupChallenge
        a).challengeScalar G • serverPub ≠ 0 ∧
      Client.schnorrVerifySetupServer G serverPub deviceId devicePub clientNonce serverNonce setupChallenge a
        (CServer.residue S s) = true := by
  rw [CClient.schnorrVerifySetupServer, CServer.setupServerTranscript_eq, Option.bind_eq_bind, Option.bind_some]
  simp only [CServer.trChallengeScalar_eq m, Option.bind_eq_bind, CServer.scalarmult_bind m, CServer.residue_toBytes m,
    CServer.scalarmultBase_eq m, m.add, Option.guard_eq_some', G.compress_injective.eq_iff,
    Client.schnorrVerifySetupServer, decide_eq_true_eq]
  rfl

theorem proveRoleRerandomization_eq (storedC cPrime ephC : P) (delta : S) {r : S} (pid nonceC : Block UInt8 32)
    (nonzero : r • attrH G ≠ 0) :
    CClient.proveRoleRerandomization so (G.compress storedC) (G.compress cPrime) (G.toBytes delta) pid nonceC
        (G.compress ephC) (G.toBytes r) =
      some (signature G (Client.proveRoleRerandomization G storedC cPrime delta pid nonceC ephC r)) := by
  rw [CClient.proveRoleRerandomization]
  simp only [CServer.attrH_eq m, scalarmult_some m nonzero, CServer.rerandTranscript_eq, Option.bind_eq_bind,
    Option.bind_some, response_eq m]
  rfl

end Signatures

section Membership

variable (m : so.Matches G) {rust : Client.OrRandomness S} {c : CClient.OrRandom}

include m

theorem sumSim_eq (same : SameOrDraws G rust c) (index : Nat) (indices : List Nat) (start : S) :
    indices.foldl (fun sum i => if i ≠ index then so.scalarAdd sum (c.simulated i).1 else sum) (G.toBytes start) =
      G.toBytes (indices.foldl (fun sum i => if i ≠ index then sum + (rust.simulated i).1 else sum) start) := by
  induction indices generalizing start with
  | nil => rfl
  | cons i indices ih =>
    rw [List.foldl_cons, List.foldl_cons, ← ih]
    congr 1
    split
    · rw [same.simulated, m.scalarAdd]
    · rfl

structure BranchMultiplies (G : Suite UInt8 S P) (random : Client.OrRandomness S) (index : Nat) (y : P × Nat) :
    Prop where
  own : y.2 = index → random.w • attrH G ≠ 0
  response : y.2 ≠ index → (random.simulated y.2).2 • attrH G ≠ 0
  challenge : y.2 ≠ index → (random.simulated y.2).1 • y.1 ≠ 0

theorem branchPoint_eq (same : SameOrDraws G rust c) {index : Nat} {y : P × Nat}
    (multiplies : BranchMultiplies G rust index y) :
    CClient.branchPoint so (G.compress (attrH G)) index c (G.compress y.1, y.2) =
      some (G.compress (if y.2 = index then rust.w • attrH G
        else (rust.simulated y.2).2 • attrH G - (rust.simulated y.2).1 • y.1)) := by
  rw [CClient.branchPoint]
  by_cases own : y.2 = index
  · rw [if_pos own, if_pos own, same.w, scalarmult_some m (multiplies.own own)]
  · rw [if_neg own, if_neg own, same.simulated]
    simp only [scalarmult_some m (multiplies.response own), scalarmult_some m (multiplies.challenge own),
      Option.bind_eq_bind, Option.bind_some, m.sub]
    rfl

theorem cProveRoleSetMembership_eq (same : SameOrDraws G rust c) {cPrime ephC : P} {roleCode : UInt64} {blindPrime : S}
    {pid nonceC : Block UInt8 32} {proof : List (P × S × S)} {index : Nat}
    (own : allowedRoles.findIdx? (· == roleCode) = some index)
    (multiplies : ∀ y ∈ (allowedRoles.map (Server.roleStatement G cPrime)).zipIdx, BranchMultiplies G rust index y)
    (proves : Client.proveRoleSetMembership G allowedRoles cPrime roleCode blindPrime pid nonceC ephC rust = .ok proof) :
    CClient.proveRoleSetMembership so (G.compress cPrime) roleCode (G.toBytes blindPrime) pid nonceC (G.compress ephC) c =
      some (proof.map (rawBranch G)) := by
  rw [Client.proveRoleSetMembership, own] at proves
  have statements : (allowedRoles.map fun role => so.sub (G.compress cPrime) (so.scalarmultBase (CImpl.scalarFromU64 role))) =
      (allowedRoles.map (Server.roleStatement G cPrime)).map G.compress := by
    rw [List.map_map]
    apply List.map_congr_left
    intro role _
    rw [CServer.scalarmultBase_eq m, CServer.residue_scalarFromU64, m.sub]
    rfl
  have points := mapM_some fun y member => branchPoint_eq m same (multiplies y member)
  generalize isYs : allowedRoles.map (Server.roleStatement G cPrime) = ys at statements points
  have rustYs : (allowedRoles.map fun role => cPrime - ((role.toNat : S) • G.basepoint)) = ys := isYs
  rw [CClient.proveRoleSetMembership]
  simp only [rustYs, Except.bind, bind] at proves
  have paired : (ys.map G.compress).zipIdx = ys.zipIdx.map fun y => (G.compress y.1, y.2) := by
    rw [List.zipIdx_map]
    rfl
  have counted : (ys.zipIdx.map fun y => if y.2 = index then rust.w • attrH G
      else (rust.simulated y.2).2 • attrH G - (rust.simulated y.2).1 • y.1).length = allowedRoles.length := by
    rw [List.length_map, List.length_zipIdx, ← isYs, List.length_map]
  generalize isA : (ys.zipIdx.map fun y => if y.2 = index then rust.w • attrH G
      else (rust.simulated y.2).2 • attrH G - (rust.simulated y.2).1 • y.1) = aPoints at proves counted
  have encoded : (ys.zipIdx.map fun y => G.compress (if y.2 = index then rust.w • attrH G
      else (rust.simulated y.2).2 • attrH G - (rust.simulated y.2).1 • y.1)) = aPoints.map G.compress := by
    rw [← isA, List.map_map]
    rfl
  have computed : (ys.map G.compress).zipIdx.mapM (CClient.branchPoint so (G.compress (attrH G)) index c) =
      some (aPoints.map G.compress) := by
    rw [paired, List.mapM_map, ← encoded]
    exact points
  have zero : CImpl.scalarZero = G.toBytes 0 := CServer.scalarZero_eq m
  simp only [statements, CServer.attrH_eq m, trueIndex_eq, own, computed, Option.bind_eq_bind, Option.bind_some,
    CServer.roleSetTranscript_eq G _ _ _ _ counted, CServer.trChallengeScalar_eq m, zero, sumSim_eq m same, m.scalarSub,
    same.w, m.scalarMul, m.scalarAdd]
  cases proves
  rw [List.zipIdx_map, List.map_map, List.map_map, Option.pure_def]
  apply congrArg some
  apply List.map_congr_left
  intro a _
  simp only [Function.comp, Prod.map_fst, Prod.map_snd, id, same.simulated]
  split <;> rfl

end Membership

end ZkArche.Protocol

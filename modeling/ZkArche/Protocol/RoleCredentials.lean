import ZkArche.CClient.RoleCredential
import ZkArche.CServer.Verification
import ZkArche.Client.Files

namespace ZkArche.Client

open Foundation

variable {β S P : Type} [Octet β] [Field S] [AddCommGroup P] [Module S P]
variable [DecidableEq β] [DecidableEq P]
variable {G : Suite β S P} {cred loaded : RoleCredential S P} {mode : Nat}

omit [DecidableEq β] [DecidableEq P] in
theorem length_roleCredBytes (cred : RoleCredential S P) : (roleCredBytes G cred).length = 72 := by
  simp [roleCredBytes]

/-- A whole private file loads exactly when its commitment is not the identity and opens to its
    role and blind. -/
theorem loadRoleCredential_bytes :
    loadRoleCredential G (.present (roleCredBytes G cred) 0o600) = .ok loaded ↔
      cred.commitment ≠ 0 ∧ makeRoleCommitment G (encodeRole cred.roleCode) cred.blind = cred.commitment ∧
        loaded = { cred with roleScalar := encodeRole cred.roleCode } := by
  have length := length_roleCredBytes (G := G) cred
  have whole : exactly 72 "role_cred.bin wrong length" (roleCredBytes G cred) = .ok ⟨roleCredBytes G cred, length⟩ := by
    rw [exactly, if_neg (not_not_intro length), copyFromSlice, dif_pos length]
  have split : (roleCredBytes G cred).drop 0 = (lits (leBytes 8 cred.roleCode.toNat) : List β) ++
      ((G.toBytes cred.blind).bytes ++ ((G.compress cred.commitment).bytes ++ [])) := by
    simp [roleCredBytes]
  have eight : (lits (leBytes 8 cred.roleCode.toNat) : List β).length = 8 := by simp
  have front : (roleCredBytes G cred).drop 0 = (⟨_, eight⟩ : Block β 8).bytes ++
      ((G.toBytes cred.blind).bytes ++ ((G.compress cred.commitment).bytes ++ [])) := split
  obtain ⟨code, rest⟩ := sliceBlock_of_drop 8 front rfl (by decide)
  obtain ⟨blind, rest⟩ := sliceBlock_of_drop 40 rest rfl (by decide)
  obtain ⟨commitment, _⟩ := sliceBlock_of_drop 72 rest rfl (by decide)
  have roleCode : UInt64.ofNat (leNat (vals (lits (leBytes 8 cred.roleCode.toNat) : List β))) = cred.roleCode := by
    have bound : cred.roleCode.toNat < 256 ^ 8 := cred.roleCode.toNat_lt
    rw [vals_lits, leNat_leBytes_of_lt bound, UInt64.ofNat_toNat]
  have permitted : verifyPrivateFilePermissions roleCredFile (.present (roleCredBytes G cred) 0o600) = .ok () := rfl
  unfold loadRoleCredential
  simp only [permitted, StateFile.read, whole, code, blind, commitment, roleCode, bind, Except.bind,
    canonicalOr_ok.mpr rfl, decompressOr_ok.mpr rfl]
  by_cases identity : cred.commitment = 0
  · simp [rejectIdentity, identity]
  · have proper : rejectIdentity cred.commitment "role commitment" = .ok () := rejectIdentity_ok.mpr identity
    simp only [proper, G.compress_injective.ne_iff]
    by_cases opened : makeRoleCommitment G (encodeRole cred.roleCode) cred.blind = cred.commitment
    · rw [if_neg (not_not_intro opened)]
      simp only [pure, Except.pure, Except.ok.injEq, identity, opened, ne_eq, not_false_eq_true, true_and, eq_comm]
    · rw [if_pos opened]
      simp [opened]

theorem loadOrCreateRoleCredential_absent {fault : Option IoError} {blind : S} {after : StateFile β}
    (written : loadOrCreateRoleCredential G fault blind .absent = (.ok cred, after)) :
    cred = ⟨1, encodeRole 1, blind, makeRoleCommitment G (encodeRole 1) blind⟩ ∧
      after = .present (roleCredBytes G cred) 0o600 := by
  unfold loadOrCreateRoleCredential at written
  rw [Effect.bind_of_ok (Effect.get_apply _), if_neg (by exact Bool.false_ne_true)] at written
  obtain ⟨_, middle, saved, done⟩ := Effect.bind_ok.mp written
  cases fault with
  | none =>
    cases saved
    cases done
    exact ⟨rfl, rfl⟩
  | some error => cases saved

end ZkArche.Client

namespace ZkArche.Protocol

open Foundation

variable {S P : Type} [Field S] [AddCommGroup P] [Module S P] [DecidableEq P]

structure SameCredential (G : Suite UInt8 S P) (rust : Client.RoleCredential S P) (c : CClient.RoleCred) : Prop where
  roleCode : c.roleCode = rust.roleCode
  blind : c.blind = G.toBytes rust.blind
  commitment : c.commitment = G.compress rust.commitment

/-- The C client goes on with the `role_cred.bin` that the Rust client writes with this blind. -/
def CReadsCredential (G : Suite UInt8 S P) (so : CImpl.Sodium) (blind : S) : Prop :=
  ∀ fault cred file, Client.loadOrCreateRoleCredential G fault blind .absent = (.ok cred, file) →
    ∀ fault random, ∃ loaded,
      CClient.loadOrCreateRoleCredential so fault random file = (.ok loaded, file) ∧ SameCredential G cred loaded

/-- The Rust client goes on with the `role_cred.bin` that the C client writes with this blind. -/
def RustReadsCredential (G : Suite UInt8 S P) (so : CImpl.Sodium) (blind : S) : Prop :=
  ∀ fault cred file, CClient.loadOrCreateRoleCredential so fault (G.toBytes blind) .absent = (.ok cred, file) →
    ∀ fault random, ∃ loaded,
      Client.loadOrCreateRoleCredential G fault random file = (.ok loaded, file) ∧ SameCredential G loaded cred

section Credentials

variable {G : Suite UInt8 S P} {so : CImpl.Sodium} (same : so.Matches G)
  (reduces : ∀ wide, G.fromBytesModOrderWide wide = (leNat wide.bytes : S))

include same

theorem makeRoleCommitment_eq_some {roleScalar blind : S} {commitment : Block UInt8 32} :
    CClient.makeRoleCommitment so (G.toBytes roleScalar) (G.toBytes blind) = some commitment ↔
      blind • attrH G ≠ 0 ∧ commitment = G.compress (Client.makeRoleCommitment G roleScalar blind) := by
  have residue := CServer.residue_toBytes same blind
  rw [CClient.makeRoleCommitment, CServer.attrH_eq same, Option.bind_eq_bind, CServer.scalarmult_bind same, residue,
    CServer.scalarmultBase_eq same, CServer.residue_toBytes same, same.add, Option.pure_def, Option.some.injEq,
    eq_comm (a := commitment)]
  rfl

include reduces

omit [DecidableEq P] in
theorem encodeRole_eq (roleCode : UInt64) : CClient.encodeRole so roleCode = G.toBytes (Client.encodeRole roleCode) := by
  have bound : roleCode.toNat < 256 ^ 8 := roleCode.toNat_lt
  rw [CClient.encodeRole, same.scalarReduce, reduces, CClient.wideCode, leNat_append_zeros, leNat_leBytes_of_lt bound,
    Client.encodeRole]

omit [DecidableEq P] same reduces in
theorem roleCredBytes_eq {rust : Client.RoleCredential S P} {c : CClient.RoleCred} (agree : SameCredential G rust c) :
    Client.roleCredBytes G rust = CClient.roleCredBytes c := by
  rw [Client.roleCredBytes, CClient.roleCredBytes, agree.roleCode, agree.blind, agree.commitment, CImpl.lits_bytes]

theorem cReadsCredential_iff {blind : S} : CReadsCredential G so blind ↔ blind • attrH G ≠ 0 := by
  let rust : Client.RoleCredential S P :=
    ⟨1, Client.encodeRole 1, blind, Client.makeRoleCommitment G (Client.encodeRole 1) blind⟩
  let c : CClient.RoleCred :=
    ⟨1, G.toBytes (Client.encodeRole 1), G.toBytes blind, G.compress rust.commitment⟩
  have agree : SameCredential G rust c := ⟨rfl, rfl, rfl⟩
  have opens : ∀ loaded, CClient.loadRoleCredential so (.present (Client.roleCredBytes G rust) 0o600) = some loaded ↔
      blind • attrH G ≠ 0 ∧ loaded = c := by
    intro loaded
    have code : CClient.encodeRole so c.roleCode = G.toBytes (Client.encodeRole 1) := encodeRole_eq same reduces 1
    rw [roleCredBytes_eq agree, CClient.loadRoleCredential_bytes, code, makeRoleCommitment_eq_some same,
      and_assoc]
    exact ⟨fun opened => ⟨opened.1, opened.2.2⟩, fun opened => ⟨opened.1, rfl, opened.2⟩⟩
  constructor
  · intro reads
    obtain ⟨loaded, run, _⟩ := reads none rust _ rfl none (G.toBytes blind)
    exact ((opens loaded).mp (CImpl.orFail_ok.mp run).1).1
  · intro multiplies fault cred file written fault' random
    obtain ⟨rfl, rfl⟩ := Client.loadOrCreateRoleCredential_absent written
    exact ⟨c, CImpl.orFail_ok.mpr ⟨(opens c).mpr ⟨multiplies, rfl⟩, rfl⟩, agree⟩

theorem rustReadsCredential_iff {blind : S} :
    RustReadsCredential G so blind ↔ Client.makeRoleCommitment G (Client.encodeRole 1) blind ≠ 0 := by
  let rust : Client.RoleCredential S P :=
    ⟨1, Client.encodeRole 1, blind, Client.makeRoleCommitment G (Client.encodeRole 1) blind⟩
  let c : CClient.RoleCred :=
    ⟨1, G.toBytes (Client.encodeRole 1), G.toBytes blind, G.compress rust.commitment⟩
  have agree : SameCredential G rust c := ⟨rfl, rfl, rfl⟩
  have opens : ∀ loaded, Client.loadRoleCredential G (.present (CClient.roleCredBytes c) 0o600) = .ok loaded ↔
      rust.commitment ≠ 0 ∧ loaded = rust := by
    intro loaded
    rw [← roleCredBytes_eq agree, Client.loadRoleCredential_bytes]
    exact ⟨fun opened => ⟨opened.1, opened.2.2⟩, fun opened => ⟨opened.1, rfl, opened.2⟩⟩
  have code : CClient.encodeRole so 1 = G.toBytes (Client.encodeRole 1) := encodeRole_eq same reduces 1
  constructor
  · intro reads identity
    by_cases multiplies : blind • attrH G = 0
    · rw [Client.makeRoleCommitment, multiplies, add_zero, Client.encodeRole] at identity
      have generator : ((1 : UInt64).toNat : S) • G.basepoint = G.basepoint := by simp
      rw [generator] at identity
      exact G.basepoint_ne_zero identity
    · have made : CClient.makeRoleCommitment so (CClient.encodeRole so 1) (G.toBytes blind) =
          some (G.compress rust.commitment) := by
        rw [code]
        exact (makeRoleCommitment_eq_some same).mpr ⟨multiplies, rfl⟩
      have written := CClient.loadOrCreateRoleCredential_made made
      rw [code] at written
      obtain ⟨loaded, run, _⟩ := reads none c _ written none blind
      have read : Client.loadRoleCredential G (.present (CClient.roleCredBytes c) 0o600) = .ok loaded :=
        congrArg Prod.fst run
      exact ((opens loaded).mp read).1 identity
  · intro proper fault cred file written fault' random
    obtain ⟨made, form, filed⟩ := CClient.loadOrCreateRoleCredential_absent written
    rw [code, makeRoleCommitment_eq_some same] at made
    rw [code, made.2] at form
    rw [form] at filed ⊢
    rw [filed]
    have read := (opens rust).mpr ⟨proper, rfl⟩
    exact ⟨rust, Prod.ext read rfl, agree⟩

end Credentials

end ZkArche.Protocol

import ZkArche.CServer.Handler
import ZkArche.CServer.SetupDialogue
import ZkArche.Server.Payload

namespace ZkArche.CServer

open Foundation CImpl

def OrBranch.bytes (branch : OrBranch) : List UInt8 := branch.a.bytes ++ branch.c.bytes ++ branch.s.bytes

/-- The bytes of the role fields, behind those that every request carries. -/
def RoleFields.bytes (role : RoleFields) : List UInt8 :=
  role.cPrime.bytes ++ (role.rerandA.bytes ++ (role.rerandS.bytes ++ role.orProof.flatMap OrBranch.bytes))

def AuthPayload.bytes (payload : AuthPayload) : List UInt8 :=
  payload.pid.bytes ++ (payload.aC.bytes ++ (payload.sC.bytes ++ (payload.nonceC.bytes ++ (payload.ephC.bytes ++
    match payload.role with
    | some role => role.bytes
    | none => []))))

inductive AuthPayload.Shaped (payload : AuthPayload) : Bool → Prop where
  | deviceOnly (role : payload.role = none) : Shaped payload true
  | full (fields : RoleFields) (role : payload.role = some fields)
      (count : fields.orProof.length = allowedRoles.length) : Shaped payload false

theorem orBranchAt_of_drop {data rest : List UInt8} {off : Nat} {branch : OrBranch}
    (tail : data.drop off = branch.bytes ++ rest) :
    orBranchAt data off = some branch ∧ data.drop (off + 96) = rest := by
  simp only [OrBranch.bytes, List.append_assoc] at tail
  obtain ⟨first, tail⟩ := part_of_drop tail
  obtain ⟨second, tail⟩ := part_of_drop tail
  obtain ⟨third, tail⟩ := part_of_drop tail
  rw [orBranchAt, first, second, third]
  exact ⟨rfl, tail⟩

theorem drop_of_orBranchAt {data : List UInt8} {off : Nat} {branch : OrBranch}
    (found : orBranchAt data off = some branch) : data.drop off = branch.bytes ++ data.drop (off + 96) := by
  obtain ⟨a, first, found⟩ := Option.bind_eq_some_iff.mp found
  obtain ⟨c, second, found⟩ := Option.bind_eq_some_iff.mp found
  obtain ⟨s, third, found⟩ := Option.bind_eq_some_iff.mp found
  cases found
  rw [drop_of_part first, drop_of_part second, drop_of_part third, OrBranch.bytes, List.append_assoc,
    List.append_assoc]

theorem splitRoleFields_of_drop {data : List UInt8} {fields : RoleFields}
    (count : fields.orProof.length = allowedRoles.length) (tail : data.drop 160 = fields.bytes) :
    splitRoleFields data = some fields := by
  obtain ⟨cPrime, rerandA, rerandS, orProof⟩ := fields
  obtain ⟨one, two, rfl⟩ := List.length_eq_two.mp count
  obtain ⟨first, tail⟩ := part_of_drop tail
  obtain ⟨second, tail⟩ := part_of_drop tail
  obtain ⟨third, tail⟩ := part_of_drop tail
  rw [List.flatMap_cons] at tail
  obtain ⟨fourth, tail⟩ := orBranchAt_of_drop tail
  obtain ⟨fifth, _⟩ := orBranchAt_of_drop tail
  simp only [splitRoleFields, first, second, third, allowedRoles, List.length_cons, List.length_nil,
    List.range_succ, List.range_zero, List.nil_append, List.cons_append, List.mapM_cons, List.mapM_nil, Nat.mul_zero,
    Nat.add_zero, Nat.mul_one, fourth, fifth, Option.bind_eq_bind, Option.bind_some, Option.pure_def]

theorem drop_of_splitRoleFields {data : List UInt8} {fields : RoleFields} (length : data.length = 448)
    (found : splitRoleFields data = some fields) :
    fields.orProof.length = allowedRoles.length ∧ data.drop 160 = fields.bytes := by
  simp only [splitRoleFields, allowedRoles, List.length_cons, List.length_nil, List.range_succ, List.range_zero,
    List.nil_append, List.cons_append, List.mapM_cons, List.mapM_nil, Nat.mul_zero, Nat.add_zero, Nat.mul_one,
    Option.bind_eq_bind, Option.bind_eq_some_iff, Option.pure_def, Option.some.injEq] at found
  obtain ⟨cPrime, first, rerandA, second, rerandS, third, proof, ⟨one, fourth, others, ⟨two, fifth, _, rfl, rfl⟩, rfl⟩,
    rfl⟩ := found
  refine ⟨rfl, ?_⟩
  have finished : data.drop 448 = [] := List.drop_eq_nil_of_le (by omega)
  rw [drop_of_part first, drop_of_part second, drop_of_part third, drop_of_orBranchAt fourth,
    drop_of_orBranchAt fifth, finished]
  rfl

theorem splitPayload_iff {deviceOnly : Bool} {data : List UInt8} {payload : AuthPayload}
    (length : data.length = expectedLen deviceOnly) :
    splitPayload deviceOnly data = some payload ↔ payload.Shaped deviceOnly ∧ data = payload.bytes := by
  constructor
  · intro found
    simp only [splitPayload, Option.bind_eq_bind, Option.bind_eq_some_iff] at found
    obtain ⟨pid, first, aC, second, sC, third, nonceC, fourth, ephC, fifth, found⟩ := found
    have front := drop_of_part first
    rw [List.drop_zero, drop_of_part second, drop_of_part third, drop_of_part fourth, drop_of_part fifth] at front
    cases deviceOnly with
    | true =>
      cases found
      have finished : data.drop 160 = [] := List.drop_eq_nil_of_le (by rw [length]; rfl)
      refine ⟨.deviceOnly rfl, ?_⟩
      rw [front, finished]
      rfl
    | false =>
      obtain ⟨fields, sixth, found⟩ := Option.bind_eq_some_iff.mp found
      cases found
      obtain ⟨count, tail⟩ := drop_of_splitRoleFields (length.trans rfl) sixth
      refine ⟨.full fields rfl count, ?_⟩
      rw [front, tail]
      rfl
  · intro ⟨shaped, bytes⟩
    obtain ⟨first, tail⟩ := part_of_drop (show data.drop 0 = _ from bytes)
    obtain ⟨second, tail⟩ := part_of_drop tail
    obtain ⟨third, tail⟩ := part_of_drop tail
    obtain ⟨fourth, tail⟩ := part_of_drop tail
    obtain ⟨fifth, tail⟩ := part_of_drop tail
    rw [splitPayload, first, second, third, fourth, fifth]
    obtain ⟨pid, aC, sC, nonceC, ephC, role⟩ := payload
    cases shaped with
    | deviceOnly none_there =>
      cases none_there
      rfl
    | full fields there count =>
      cases there
      simp only [Bool.false_eq_true, if_false, Option.bind_eq_bind, Option.bind_some,
        splitRoleFields_of_drop count tail, Option.pure_def]

end ZkArche.CServer

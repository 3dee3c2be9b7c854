import ZkArche.CServer.Registry

namespace ZkArche.CServer

open Foundation CImpl

theorem RegEntry.length_bytes (entry : RegEntry) : entry.bytes.length = 96 := by
  simp [RegEntry.bytes]

/-- The contents of a registry file with these entries. -/
def registryBytes (arr : List RegEntry) : List UInt8 := arr.flatMap RegEntry.bytes

theorem length_registryBytes (arr : List RegEntry) : (registryBytes arr).length = arr.length * 96 := by
  induction arr with
  | nil => rfl
  | cons entry arr ih =>
    rw [registryBytes] at ih ⊢
    rw [List.flatMap_cons, List.length_append, entry.length_bytes, ih, List.length_cons]
    omega

theorem readRecords_bytes (arr : List RegEntry) : readRecords arr.length (registryBytes arr) = some arr := by
  induction arr with
  | nil => rfl
  | cons entry arr ih =>
    have whole : (registryBytes (entry :: arr)).drop 0 =
        entry.id.bytes ++ (entry.pub.bytes ++ (entry.roleCommitment.bytes ++ registryBytes arr)) := by
      simp only [registryBytes, List.flatMap_cons, RegEntry.bytes, List.append_assoc, List.drop_zero]
    obtain ⟨first, tail⟩ := part_of_drop whole
    obtain ⟨second, tail⟩ := part_of_drop tail
    obtain ⟨third, rest⟩ := part_of_drop tail
    rw [List.length_cons, readRecords, first, second, third, rest, ih]
    rfl

theorem exists_registryBytes {count : Nat} {data : List UInt8} (total : data.length = count * 96) :
    ∃ arr, arr.length = count ∧ data = registryBytes arr := by
  induction count generalizing data with
  | zero => exact ⟨[], rfl, List.eq_nil_of_length_eq_zero (by rw [total, Nat.zero_mul])⟩
  | succ count ih =>
    have room : 96 ≤ data.length := by omega
    have shorter : (data.drop 96).length = count * 96 := by
      rw [List.length_drop]
      omega
    obtain ⟨arr, length, rest⟩ := ih shorter
    have first : ((data.drop 0).take 32).length = 32 := length_part (by omega)
    have second : ((data.drop 32).take 32).length = 32 := length_part (by omega)
    have third : ((data.drop 64).take 32).length = 32 := length_part (by omega)
    refine ⟨⟨⟨_, first⟩, ⟨_, second⟩, ⟨_, third⟩⟩ :: arr, by rw [List.length_cons, length], ?_⟩
    rw [registryBytes, List.flatMap_cons, ← registryBytes, ← rest, RegEntry.bytes]
    have split : ∀ lo, data.drop lo = (data.drop lo).take 32 ++ data.drop (lo + 32) := by
      intro lo
      rw [← List.drop_drop, List.take_append_drop]
    rw [List.append_assoc, List.append_assoc, ← split 64, ← split 32, ← split 0, List.drop_zero]

theorem registryBytes_injective {left right : List RegEntry} (same : registryBytes left = registryBytes right) :
    left = right := by
  have lengths := congrArg List.length same
  rw [length_registryBytes, length_registryBytes] at lengths
  have count : left.length = right.length := by omega
  have read := readRecords_bytes left
  rw [same, count, readRecords_bytes] at read
  cases read
  rfl

/-- A file loads exactly when it is a sequence of records. Nothing is asked of what is in them. -/
theorem loadRegistry_present {data : List UInt8} {mode : Nat} {arr : List RegEntry} :
    loadRegistry true (.present data mode) = some arr ↔ data = registryBytes arr := by
  have loads : ∀ arr : List RegEntry, loadRegistry true (.present (registryBytes arr) mode) = some arr := by
    intro arr
    have length := length_registryBytes arr
    have even : (registryBytes arr).length % 96 = 0 := by rw [length, Nat.mul_mod_left]
    have count : (registryBytes arr).length / 96 = arr.length := by
      rw [length, Nat.mul_div_cancel _ (by decide)]
    unfold loadRegistry
    simp only [guard, if_pos even, count]
    cases arr with
    | nil => rfl
    | cons entry arr =>
      rw [if_neg (by simp)]
      exact readRecords_bytes (entry :: arr)
  constructor
  · intro loaded
    have even : data.length % 96 = 0 := by
      by_contra odd
      unfold loadRegistry at loaded
      simp only [guard, if_neg odd] at loaded
      cases loaded
    obtain ⟨count, total⟩ := Nat.dvd_of_mod_eq_zero even
    obtain ⟨found, _, rfl⟩ := exists_registryBytes (total.trans (Nat.mul_comm 96 count))
    rw [loads found] at loaded
    cases loaded
    rfl
  · rintro rfl
    exact loads arr

end ZkArche.CServer

import ZkArche.CServer.Proofs
import ZkArche.Server.Verification

namespace ZkArche.CServer

open Foundation CImpl

section Transcripts

variable {S P : Type} [Field S] [AddCommGroup P] [Module S P] (G : Suite UInt8 S P)
variable (pid nonceC deviceId clientNonce serverNonce nonceS : Block UInt8 32) (setupChallenge : Block UInt8 16)
variable (pub a ephC storedC cPrime serverPub ephS aC aS : P) (sC sS : S)

theorem setupTranscript_eq : setupTranscript deviceId (G.compress pub) (G.compress serverPub) clientNonce serverNonce
    setupChallenge (G.compress a) =
      some ⟨(Server.setupTranscript G pub deviceId serverPub clientNonce serverNonce setupChallenge a).buf⟩ := by
  rw [Server.setupTranscript, buildTranscript_eq_ofFields, lits_bytes]
  apply trBuild_of_writable
  simp only [Writable, List.map_cons, List.map_nil, List.sum_cons, List.sum_nil, field, Block.bytes_length]
  decide

theorem setupServerTranscript_eq : setupServerTranscript deviceId (G.compress pub) (G.compress serverPub) clientNonce
    serverNonce setupChallenge (G.compress a) = some ⟨(Server.setupServerTranscript G serverPub deviceId pub clientNonce
      serverNonce setupChallenge a).buf⟩ := by
  rw [Server.setupServerTranscript, buildTranscript_eq_ofFields, lits_bytes]
  apply trBuild_of_writable
  simp only [Writable, List.map_cons, List.map_nil, List.sum_cons, List.sum_nil, field, Block.bytes_length]
  decide

theorem clientTranscript_eq : clientTranscript pid (G.compress pub) (G.compress a) nonceC (G.compress ephC) =
    some ⟨(Server.clientTranscript G pub pid a nonceC ephC).buf⟩ := by
  rw [Server.clientTranscript, buildTranscript_eq_ofFields]
  apply trBuild_of_writable
  simp only [Writable, List.map_cons, List.map_nil, List.sum_cons, List.sum_nil, field, Block.bytes_length]
  decide

theorem serverTranscript_eq : serverTranscript (G.compress pub) (G.compress a) nonceS (G.compress ephS) =
    some ⟨(Server.serverTranscript G pub a nonceS ephS).buf⟩ := by
  rw [Server.serverTranscript, buildTranscript_eq_ofFields]
  apply trBuild_of_writable
  simp only [Writable, List.map_cons, List.map_nil, List.sum_cons, List.sum_nil, field, Block.bytes_length]
  decide

theorem rerandTranscript_eq : rerandTranscript (G.compress storedC) (G.compress cPrime) (G.compress a) pid nonceC
    (G.compress ephC) = some ⟨(Server.rerandTranscript G storedC cPrime a pid nonceC ephC).buf⟩ := by
  rw [Server.rerandTranscript, buildTranscript_eq_ofFields]
  apply trBuild_of_writable
  simp only [Writable, List.map_cons, List.map_nil, List.sum_cons, List.sum_nil, field, Block.bytes_length]
  decide

theorem kcTranscript_eq : kcTranscript pid (G.compress aC) (G.toBytes sC) nonceC (G.compress ephC)
    (G.compress serverPub) (G.compress aS) (G.toBytes sS) nonceS (G.compress ephS) =
      some ⟨(Server.kcTranscript G pid aC sC nonceC ephC serverPub aS sS nonceS ephS).buf⟩ := by
  have rust : (Server.kcTranscript G pid aC sC nonceC ephC serverPub aS sS nonceS ephS).buf =
      (CompatTranscript.ofFields tKcV2 [field "pid" pid, field "a_c" (G.compress aC), field "s_c" (G.toBytes sC),
        field "nonce_c" nonceC, field "eph_c" (G.compress ephC), field "server_pub" (G.compress serverPub),
        field "a_s" (G.compress aS), field "s_s" (G.toBytes sS), field "nonce_s" nonceS,
        field "eph_s" (G.compress ephS)]).buf := rfl
  rw [rust]
  apply trBuild_of_writable
  simp only [Writable, List.map_cons, List.map_nil, List.sum_cons, List.sum_nil, field, Block.bytes_length]
  decide

theorem roleSetTranscript_eq {points : List P} (length : points.length = allowedRoles.length) :
    trBuild tRoleSet (roleSetFields allowedRoles (G.compress cPrime) (points.map G.compress) pid nonceC
      (G.compress ephC)) =
      some ⟨(Server.roleSetTranscript G allowedRoles cPrime points pid nonceC ephC).buf⟩ := by
  obtain ⟨first, second, rfl⟩ := List.length_eq_two.mp length
  have rust : (Server.roleSetTranscript G allowedRoles cPrime [first, second] pid nonceC ephC).buf =
      (CompatTranscript.ofFields tRoleSet (roleSetFields allowedRoles (G.compress cPrime)
        [G.compress first, G.compress second] pid nonceC (G.compress ephC))).buf := rfl
  rw [rust]
  apply trBuild_of_writable
  simp only [Writable, roleSetFields, allowedRoles, List.map_cons, List.map_nil, List.sum_cons, List.sum_nil, field,
    Block.bytes_length, List.zipIdx_cons, List.zipIdx_nil, List.cons_append, List.nil_append, leBytes_length]
  decide

end Transcripts

end ZkArche.CServer

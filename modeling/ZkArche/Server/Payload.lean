import ZkArche.Primitives.Suite
import ZkArche.Server.State

namespace ZkArche.Server

open Foundation

variable {β S P : Type} [Octet β] [Field S] [AddCommGroup P] [Module S P]

def authFlagDeviceOnly : UInt8 := 0x01
def authFlagHandleLookup : UInt8 := 0x02

structure AuthHeader (β : Type) where
  flags : UInt8
  handleOpt : Option (Block β 16)

def AuthHeader.deviceOnly (header : AuthHeader β) : Bool := header.flags &&& authFlagDeviceOnly ≠ 0

def recvAuthHeader (v3 : Bool) : Effect Failure (Conn β) (AuthHeader β) := do
  if v3 then
    let flags ← recvU8
    if flags &&& authFlagHandleLookup ≠ 0 then
      let h ← recvExact 16
      pure { flags, handleOpt := some h }
    else pure { flags, handleOpt := none }
  else pure { flags := 0, handleOpt := none }

def allowsDeviceOnly (vars : Vars) : Bool := envTruthy vars "ZKARCHE_ALLOW_DEVICE_ONLY" || benchMode vars

def deviceOnlyRefused : Failure :=
  permissionDenied ("device-only fast mode requested but server did not enable " ++
    "ZKARCHE_ALLOW_DEVICE_ONLY=1 or ZKARCHE_BENCH_MODE=1")

def expectedLen (deviceOnly : Bool) (nRoles : Nat) : Nat := if deviceOnly then 160 else 256 + 96 * nRoles

structure AuthPayload (β S P : Type) where
  pid : Block β 32
  aC : P
  sC : S
  nonceC : Block β 32
  ephC : P
  cPrimeOpt : Option P
  rerandAOpt : Option P
  rerandSOpt : Option S
  orProof : List (P × S × S)

/-- `[0u8; 32]`. -/
def zeros : Block β 32 := ⟨lits (List.replicate 32 0), by simp⟩

def roleBytes (deviceOnly : Bool) (pt : List β) (lo hi : Nat) : Except Failure (Block β 32) :=
  if deviceOnly then .ok zeros else sliceBlock 32 pt lo hi

/-- Branch `i` of the set-membership proof, 96 bytes from offset `256 + i * 96` on. -/
def parseBranch (G : Suite β S P) (pt : List β) (i : Nat) : Except Failure (P × S × S) := do
  let off := 256 + i * 96
  let aIB ← sliceBlock 32 pt off (off + 32)
  let cIB ← sliceBlock 32 pt (off + 32) (off + 64)
  let sIB ← sliceBlock 32 pt (off + 64) (off + 96)
  let aI ← decompressOr G "invalid or_proof A_i" aIB
  let cI ← canonicalOr G "non-canonical or_proof c_i" cIB
  let sI ← canonicalOr G "non-canonical or_proof s_i" sIB
  pure (aI, cI, sI)

def parseAuthPayload [DecidableEq P] (G : Suite β S P) (deviceOnly : Bool) (nRoles : Nat) (pt : List β) :
    Except Failure (AuthPayload β S P) := do
  let pid ← sliceBlock 32 pt 0 32
  let aCBytes ← sliceBlock 32 pt 32 64
  let sCBytes ← sliceBlock 32 pt 64 96
  let nonceC ← sliceBlock 32 pt 96 128
  let ephCBytes ← sliceBlock 32 pt 128 160
  let cPrimeBytes ← roleBytes deviceOnly pt 160 192
  let rerandABytes ← roleBytes deviceOnly pt 192 224
  let rerandSBytes ← roleBytes deviceOnly pt 224 256
  let aC ← decompressOr G "invalid a_c" aCBytes
  rejectIdentity aC "a_c"
  let sC ← canonicalOr G "non-canonical s_c" sCBytes
  let ephC ← decompressOr G "invalid eph_c" ephCBytes
  rejectIdentity ephC "eph_c"
  if deviceOnly then
    pure { pid, aC, sC, nonceC, ephC, cPrimeOpt := none, rerandAOpt := none, rerandSOpt := none, orProof := [] }
  else
    let cPrime ← decompressOr G "invalid c_prime" cPrimeBytes
    rejectIdentity cPrime "c_prime"
    let rerandA ← decompressOr G "invalid rerand_a" rerandABytes
    rejectIdentity rerandA "rerand_a"
    let rerandS ← canonicalOr G "non-canonical rerand_s" rerandSBytes
    let orProof ← (List.range nRoles).mapM (parseBranch G pt)
    pure {
      pid, aC, sC, nonceC, ephC, orProof
      cPrimeOpt := some cPrime
      rerandAOpt := some rerandA
      rerandSOpt := some rerandS }

/-- A parsed request: its header and its payload. -/
structure AuthRequest (β S P : Type) extends AuthHeader β, AuthPayload β S P

def readAuthRequest [DecidableEq P] (G : Suite β S P) (ctx : ServerContext S) (v3 : Bool) :
    Effect Failure (Conn β) (AuthRequest β S P) := do
  let header ← recvAuthHeader v3
  Effect.failIf (header.deviceOnly && !allowsDeviceOnly ctx.vars) deviceOnlyRefused
  let nRoles := ctx.allowedRoles.length
  let pt ← recvVec (expectedLen header.deviceOnly nRoles)
  let payload ← Effect.lift (parseAuthPayload G header.deviceOnly nRoles pt)
  pure { header with toAuthPayload := payload }

/-- The bytes in front of the payload, and the header they are read as. -/
inductive AuthHeader.Reads : Bool → List β → AuthHeader β → Prop where
  | v2 : Reads false [] { flags := 0, handleOpt := none }
  | plain (letter : β) (flag : Octet.val letter &&& authFlagHandleLookup = 0) :
      Reads true [letter] { flags := Octet.val letter, handleOpt := none }
  | lookup (letter : β) (handle : Block β 16) (flag : Octet.val letter &&& authFlagHandleLookup ≠ 0) :
      Reads true (letter :: handle.bytes) { flags := Octet.val letter, handleOpt := some handle }

theorem recvAuthHeader_apply {v3 : Bool} {conn : Conn β} {front rest : List β} {header : AuthHeader β}
    (reads : header.Reads v3 front) (input : conn.input = front ++ rest) :
    recvAuthHeader v3 conn =
      (.ok header, { conn with input := rest, recv := conn.recv + front.length }) := by
  cases reads with
  | v2 =>
    rw [List.nil_append] at input
    rw [← input]
    rfl
  | plain letter flag =>
    rw [recvAuthHeader, if_pos rfl, Effect.bind_of_ok (recvU8_apply input), if_neg (not_not.mpr flag)]
    rfl
  | lookup letter handle flag =>
    rw [recvAuthHeader, if_pos rfl, Effect.bind_of_ok (recvU8_apply input), if_pos flag,
      Effect.bind_of_ok (recvExact_apply rfl)]
    simp [Nat.add_assoc, Nat.add_comm]

theorem recvAuthHeader_ok {v3 : Bool} {conn after : Conn β} {header : AuthHeader β}
    (run : recvAuthHeader v3 conn = (.ok header, after)) :
    ∃ front, header.Reads v3 front ∧ conn.input = front ++ after.input ∧
      after = { conn with input := after.input, recv := conn.recv + front.length } := by
  cases v3 with
  | false =>
    cases run
    exact ⟨[], .v2, rfl, rfl⟩
  | true =>
    rw [recvAuthHeader, if_pos rfl] at run
    obtain ⟨flags, middle, read, run⟩ := Effect.bind_ok.mp run
    obtain ⟨letter, rfl, input, same⟩ := recvU8_ok read
    split at run
    case isTrue flag =>
      obtain ⟨handle, middle', read, done⟩ := Effect.bind_ok.mp run
      cases done
      obtain ⟨input', same'⟩ := recvExact_ok read
      refine ⟨letter :: handle.bytes, .lookup letter handle flag, by rw [input, input']; rfl, ?_⟩
      rw [same', same]
      simp [Nat.add_assoc, Nat.add_comm]
    case isFalse flag =>
      cases run
      exact ⟨[letter], .plain letter (not_not.mp flag), input, same⟩

def encodeBranch (G : Suite β S P) (branch : P × S × S) : List β :=
  (G.compress branch.1).bytes ++ (G.toBytes branch.2.1).bytes ++ (G.toBytes branch.2.2).bytes

def optBytes {α : Type} (encode : α → Block β 32) : Option α → List β
  | some value => (encode value).bytes
  | none => []

def AuthPayload.encode (G : Suite β S P) (payload : AuthPayload β S P) : List β :=
  payload.pid.bytes ++ ((G.compress payload.aC).bytes ++ ((G.toBytes payload.sC).bytes ++
    (payload.nonceC.bytes ++ ((G.compress payload.ephC).bytes ++
    (optBytes G.compress payload.cPrimeOpt ++ (optBytes G.compress payload.rerandAOpt ++
    (optBytes G.toBytes payload.rerandSOpt ++ payload.orProof.flatMap (encodeBranch G))))))))

structure RoleProofs (S P : Type) [Zero P] (nRoles : Nat) where
  cPrime : P
  rerandA : P
  rerandS : S
  orProof : List (P × S × S)
  cPrime_ne_zero : cPrime ≠ 0
  rerandA_ne_zero : rerandA ≠ 0
  length_orProof : orProof.length = nRoles

inductive AuthPayload.RoleFields (nRoles : Nat) (payload : AuthPayload β S P) : Bool → Prop where
  | deviceOnly (cPrime : payload.cPrimeOpt = none) (rerandA : payload.rerandAOpt = none)
      (rerandS : payload.rerandSOpt = none) (orProof : payload.orProof = []) : RoleFields nRoles payload true
  | full (proofs : RoleProofs S P nRoles) (cPrime : payload.cPrimeOpt = some proofs.cPrime)
      (rerandA : payload.rerandAOpt = some proofs.rerandA) (rerandS : payload.rerandSOpt = some proofs.rerandS)
      (orProof : payload.orProof = proofs.orProof) : RoleFields nRoles payload false

structure AuthPayload.WellFormed (deviceOnly : Bool) (nRoles : Nat) (payload : AuthPayload β S P) : Prop where
  aC : payload.aC ≠ 0
  ephC : payload.ephC ≠ 0
  roles : payload.RoleFields nRoles deviceOnly

omit [Octet β] in
theorem length_encodeBranches (G : Suite β S P) (branches : List (P × S × S)) :
    (branches.flatMap (encodeBranch G)).length = 96 * branches.length := by
  induction branches with
  | nil => rfl
  | cons branch branches ih =>
    rw [List.flatMap_cons, List.length_append, ih]
    simp [encodeBranch]
    omega

omit [Octet β] in
theorem AuthPayload.WellFormed.length_encode {G : Suite β S P} {deviceOnly : Bool} {nRoles : Nat}
    {payload : AuthPayload β S P} (wellFormed : payload.WellFormed deviceOnly nRoles) :
    (payload.encode G).length = expectedLen deviceOnly nRoles := by
  cases wellFormed.roles with
  | deviceOnly cPrime rerandA rerandS orProof =>
    simp [encode, cPrime, rerandA, rerandS, orProof, optBytes, expectedLen]
  | full proofs cPrime rerandA rerandS orProof =>
    simp only [encode, cPrime, rerandA, rerandS, orProof, optBytes, expectedLen, List.length_append,
      Block.bytes_length, length_encodeBranches, proofs.length_orProof]
    simp
    omega

omit [Octet β] in
theorem parseBranch_of_drop {G : Suite β S P} {pt rest : List β} {i : Nat} {branch : P × S × S}
    (tail : pt.drop (256 + i * 96) = encodeBranch G branch ++ rest) :
    parseBranch G pt i = .ok branch ∧ pt.drop (256 + (i + 1) * 96) = rest := by
  simp only [encodeBranch, List.append_assoc] at tail
  obtain ⟨first, tail⟩ := sliceBlock_of_drop (256 + i * 96 + 32) tail rfl (by decide)
  obtain ⟨second, tail⟩ := sliceBlock_of_drop (256 + i * 96 + 64) tail rfl (by decide)
  obtain ⟨third, tail⟩ := sliceBlock_of_drop (256 + i * 96 + 96) tail rfl (by decide)
  refine ⟨?_, by rw [← tail]; congr 1; omega⟩
  simp only [parseBranch, Except.bind_ok_iff]
  exact ⟨_, first, _, second, _, third, _, decompressOr_ok.mpr rfl, _, canonicalOr_ok.mpr rfl, _,
    canonicalOr_ok.mpr rfl, rfl⟩

omit [Octet β] in
theorem drop_of_parseBranch {G : Suite β S P} {pt : List β} {i : Nat} {branch : P × S × S}
    (run : parseBranch G pt i = .ok branch) :
    pt.drop (256 + i * 96) = encodeBranch G branch ++ pt.drop (256 + (i + 1) * 96) := by
  simp only [parseBranch, Except.bind_ok_iff, decompressOr_ok, canonicalOr_ok] at run
  obtain ⟨_, first, _, second, _, third, a, rfl, c, rfl, s, rfl, done⟩ := run
  cases done
  rw [drop_of_sliceBlock first, drop_of_sliceBlock second, drop_of_sliceBlock third, encodeBranch]
  simp only [List.append_assoc]
  congr 4
  omega

omit [Octet β] in
theorem parseBranches_iff {G : Suite β S P} {pt : List β} {branches : List (P × S × S)}
    (start : Nat) {count : Nat} (length : pt.length = 256 + (start + count) * 96) :
    (List.range' start count).mapM (parseBranch G pt) = .ok branches ↔
      branches.length = count ∧ pt.drop (256 + start * 96) = branches.flatMap (encodeBranch G) := by
  rw [Except.mapM_ok_iff]
  induction count generalizing start branches with
  | zero =>
    have finished : pt.drop (256 + start * 96) = [] := List.drop_eq_nil_of_le (by omega)
    simp only [List.range'_zero, List.forall₂_nil_left_iff, finished, List.length_eq_zero_iff]
    constructor
    · rintro rfl
      exact ⟨rfl, rfl⟩
    · exact And.left
  | succ count ih =>
    simp only [List.range'_succ, List.forall₂_cons_left_iff]
    constructor
    · rintro ⟨branch, others, here, there, rfl⟩
      obtain ⟨counted, tail⟩ := (ih _ (by omega)).mp there
      exact ⟨by rw [List.length_cons, counted], by rw [drop_of_parseBranch here, tail, List.flatMap_cons]⟩
    · rintro ⟨counted, tail⟩
      cases branches with
      | nil => cases counted
      | cons branch others =>
        rw [List.flatMap_cons] at tail
        obtain ⟨here, tail⟩ := parseBranch_of_drop tail
        exact ⟨branch, others, here, (ih _ (by omega)).mpr ⟨by simpa using counted, tail⟩, rfl⟩

variable [DecidableEq P]

omit [Octet β] in
theorem parse_common {pt : List β} {pid nonceC aCBytes sCBytes ephCBytes : Block β 32}
    (first : sliceBlock 32 pt 0 32 = .ok pid) (second : sliceBlock 32 pt 32 64 = .ok aCBytes)
    (third : sliceBlock 32 pt 64 96 = .ok sCBytes) (fourth : sliceBlock 32 pt 96 128 = .ok nonceC)
    (fifth : sliceBlock 32 pt 128 160 = .ok ephCBytes) :
    pt = pid.bytes ++ (aCBytes.bytes ++ (sCBytes.bytes ++ (nonceC.bytes ++ (ephCBytes.bytes ++ pt.drop 160)))) := by
  rw [← drop_of_sliceBlock fifth, ← drop_of_sliceBlock fourth, ← drop_of_sliceBlock third,
    ← drop_of_sliceBlock second, ← drop_of_sliceBlock first, List.drop_zero]

theorem parseAuthPayload_sound {G : Suite β S P} {deviceOnly : Bool} {nRoles : Nat} {pt : List β}
    {payload : AuthPayload β S P} (length : pt.length = expectedLen deviceOnly nRoles)
    (run : parseAuthPayload G deviceOnly nRoles pt = .ok payload) :
    payload.WellFormed deviceOnly nRoles ∧ pt = payload.encode G := by
  cases deviceOnly with
  | true =>
    simp only [parseAuthPayload, roleBytes, ↓reduceIte, Except.bind_ok_iff, decompressOr_ok, canonicalOr_ok,
      rejectIdentity_ok] at run
    obtain ⟨pid, first, aCBytes, second, sCBytes, third, nonceC, fourth, ephCBytes, fifth, _, _, _, _, _, _,
      aC, rfl, _, aCNonzero, sC, rfl, ephC, rfl, _, ephCNonzero, done⟩ := run
    cases done
    refine ⟨⟨aCNonzero, ephCNonzero, .deviceOnly rfl rfl rfl rfl⟩, ?_⟩
    have split := parse_common first second third fourth fifth
    have finished : pt.drop 160 = [] := List.drop_eq_nil_of_le (by simp [length, expectedLen])
    rw [finished] at split
    exact split
  | false =>
    simp only [parseAuthPayload, roleBytes, Bool.false_eq_true, ↓reduceIte, Except.bind_ok_iff, decompressOr_ok,
      canonicalOr_ok, rejectIdentity_ok] at run
    obtain ⟨pid, first, aCBytes, second, sCBytes, third, nonceC, fourth, ephCBytes, fifth, cPrimeBytes, sixth,
      rerandABytes, seventh, rerandSBytes, eighth, aC, rfl, _, aCNonzero, sC, rfl, ephC, rfl, _, ephCNonzero,
      cPrime, rfl, _, cPrimeNonzero, rerandA, rfl, _, rerandANonzero, rerandS, rfl, orProof, loop, done⟩ := run
    cases done
    rw [List.range_eq_range'] at loop
    obtain ⟨counted, tail⟩ := (parseBranches_iff 0 (by rw [length]; simp [expectedLen]; omega)).mp loop
    let proofs : RoleProofs S P nRoles :=
      ⟨cPrime, rerandA, rerandS, orProof, cPrimeNonzero, rerandANonzero, counted⟩
    refine ⟨⟨aCNonzero, ephCNonzero, .full proofs rfl rfl rfl rfl⟩, ?_⟩
    have split := parse_common first second third fourth fifth
    rw [drop_of_sliceBlock sixth, drop_of_sliceBlock seventh, drop_of_sliceBlock eighth, tail] at split
    exact split

theorem parseAuthPayload_encode {G : Suite β S P} {deviceOnly : Bool} {nRoles : Nat}
    {payload : AuthPayload β S P} (wellFormed : payload.WellFormed deviceOnly nRoles) :
    parseAuthPayload G deviceOnly nRoles (payload.encode G) = .ok payload := by
  have length := wellFormed.length_encode (G := G)
  obtain ⟨aCNonzero, ephCNonzero, roles⟩ := wellFormed
  generalize encoded : payload.encode G = pt at length ⊢
  rw [AuthPayload.encode] at encoded
  obtain ⟨first, tail⟩ := sliceBlock_of_drop 32 (show pt.drop 0 = _ from encoded.symm) rfl (by decide)
  obtain ⟨second, tail⟩ := sliceBlock_of_drop 64 tail rfl (by decide)
  obtain ⟨third, tail⟩ := sliceBlock_of_drop 96 tail rfl (by decide)
  obtain ⟨fourth, tail⟩ := sliceBlock_of_drop 128 tail rfl (by decide)
  obtain ⟨fifth, tail⟩ := sliceBlock_of_drop 160 tail rfl (by decide)
  cases roles with
  | deviceOnly cPrime rerandA rerandS orProof =>
    simp only [parseAuthPayload, roleBytes, ↓reduceIte, Except.bind_ok_iff, decompressOr_ok, canonicalOr_ok,
      rejectIdentity_ok]
    refine ⟨_, first, _, second, _, third, _, fourth, _, fifth, _, rfl, _, rfl, _, rfl, _, rfl, (), aCNonzero,
      _, rfl, _, rfl, (), ephCNonzero, ?_⟩
    cases payload
    cases cPrime
    cases rerandA
    cases rerandS
    cases orProof
    rfl
  | full proofs cPrime rerandA rerandS orProof =>
    rw [cPrime, rerandA, rerandS] at tail
    obtain ⟨sixth, tail⟩ := sliceBlock_of_drop 192 tail rfl (by decide)
    obtain ⟨seventh, tail⟩ := sliceBlock_of_drop 224 tail rfl (by decide)
    obtain ⟨eighth, tail⟩ := sliceBlock_of_drop 256 tail rfl (by decide)
    have counted : payload.orProof.length = nRoles := by rw [orProof, proofs.length_orProof]
    have loop := (parseBranches_iff (G := G) 0 (by rw [length]; simp [expectedLen]; omega)).mpr
      ⟨counted, tail⟩
    rw [← List.range_eq_range'] at loop
    simp only [parseAuthPayload, roleBytes, Bool.false_eq_true, ↓reduceIte, Except.bind_ok_iff, decompressOr_ok,
      canonicalOr_ok, rejectIdentity_ok]
    refine ⟨_, first, _, second, _, third, _, fourth, _, fifth, _, sixth, _, seventh, _, eighth, _, rfl, (),
      aCNonzero, _, rfl, _, rfl, (), ephCNonzero, _, rfl, (), proofs.cPrime_ne_zero, _, rfl, (),
      proofs.rerandA_ne_zero, _, rfl, _, loop, ?_⟩
    rw [← cPrime, ← rerandA, ← rerandS]
    rfl

/-- What a request that was read has been checked for, and the bytes it was read from. -/
structure AuthRequest.Accepted (G : Suite β S P) (ctx : ServerContext S) (v3 : Bool) (bytes : List β)
    (request : AuthRequest β S P) : Prop where
  wellFormed : request.toAuthPayload.WellFormed request.deviceOnly ctx.allowedRoles.length
  gate : request.deviceOnly = true → allowsDeviceOnly ctx.vars = true
  bytes : ∃ front, request.toAuthHeader.Reads v3 front ∧ bytes = front ++ request.toAuthPayload.encode G

theorem readAuthRequest_ok {G : Suite β S P} {ctx : ServerContext S} {v3 : Bool} {conn after : Conn β}
    {request : AuthRequest β S P} (run : readAuthRequest G ctx v3 conn = (.ok request, after)) :
    ∃ bytes, request.Accepted G ctx v3 bytes ∧ conn.input = bytes ++ after.input ∧
      after = { conn with input := after.input, recv := conn.recv + bytes.length } := by
  simp only [readAuthRequest, Effect.bind_ok, Effect.failIf_ok, Effect.lift_apply, Prod.mk.injEq] at run
  obtain ⟨header, opened, readHeader, _, _, ⟨gate, rfl⟩, pt, _, readPayload, payload, _, ⟨parse, rfl⟩, done⟩ := run
  cases done
  obtain ⟨front, reads, input, same⟩ := recvAuthHeader_ok readHeader
  obtain ⟨length, input', same'⟩ := recvVec_ok readPayload
  obtain ⟨wellFormed, rfl⟩ := parseAuthPayload_sound length parse
  refine ⟨front ++ payload.encode G, ⟨wellFormed, ?_, front, reads, rfl⟩, ?_, ?_⟩
  · intro deviceOnly
    change header.deviceOnly = true at deviceOnly
    simpa [deviceOnly] using gate
  · rw [input, input', List.append_assoc]
  · rw [same', same]
    simp [length, Nat.add_assoc]

theorem readAuthRequest_apply {G : Suite β S P} {ctx : ServerContext S} {v3 : Bool} {conn : Conn β}
    {bytes rest : List β} {request : AuthRequest β S P} (accepted : request.Accepted G ctx v3 bytes)
    (input : conn.input = bytes ++ rest) :
    readAuthRequest G ctx v3 conn =
      (.ok request, { conn with input := rest, recv := conn.recv + bytes.length }) := by
  obtain ⟨wellFormed, gate, front, reads, rfl⟩ := accepted
  rw [List.append_assoc] at input
  have allowed : (request.deviceOnly && !allowsDeviceOnly ctx.vars) = false := by
    cases mode : request.deviceOnly with
    | false => rfl
    | true => simp [gate mode]
  have length := wellFormed.length_encode (G := G)
  rw [readAuthRequest, Effect.bind_of_ok (recvAuthHeader_apply reads input),
    Effect.bind_of_ok (Effect.failIf_of_false allowed),
    Effect.bind_of_ok (recvVec_apply rfl length),
    Effect.bind_of_ok (by rw [Effect.lift_apply, parseAuthPayload_encode wellFormed])]
  simp only [Effect.pure_apply, List.length_append, length, Nat.add_assoc]

omit [Octet β] [DecidableEq P] in
theorem malformed_parseBranch (G : Suite β S P) {pt : List β} {i : Nat}
    (bound : 256 + i * 96 + 96 ≤ pt.length) : FailsOnly Failure.Malformed (parseBranch G pt i) := by
  refine (failsOnly_sliceBlock rfl (by omega)).bind fun _ _ => ?_
  refine (failsOnly_sliceBlock rfl (by omega)).bind fun _ _ => ?_
  refine (failsOnly_sliceBlock rfl (by omega)).bind fun _ _ => ?_
  refine (malformed_decompressOr _ _ _).bind fun _ _ => ?_
  refine (malformed_canonicalOr _ _ _).bind fun _ _ => ?_
  exact (malformed_canonicalOr _ _ _).bind fun _ _ => failsOnly_ok _

theorem malformed_roleBytes {deviceOnly : Bool} {nRoles lo hi : Nat} {pt : List β}
    (length : pt.length = expectedLen deviceOnly nRoles) (width : lo + 32 = hi) (bound : hi ≤ 256) :
    FailsOnly Failure.Malformed (roleBytes deviceOnly pt lo hi) := by
  cases deviceOnly with
  | true => exact failsOnly_ok _
  | false =>
    simp only [expectedLen, Bool.false_eq_true, ↓reduceIte] at length
    exact failsOnly_sliceBlock width (by omega)

theorem malformed_parseAuthPayload (G : Suite β S P) {deviceOnly : Bool} {nRoles : Nat} {pt : List β}
    (length : pt.length = expectedLen deviceOnly nRoles) :
    FailsOnly Failure.Malformed (parseAuthPayload G deviceOnly nRoles pt) := by
  have common : 160 ≤ pt.length := by
    rw [length, expectedLen]
    split <;> omega
  refine (failsOnly_sliceBlock rfl (by omega)).bind fun _ _ => ?_
  refine (failsOnly_sliceBlock rfl (by omega)).bind fun _ _ => ?_
  refine (failsOnly_sliceBlock rfl (by omega)).bind fun _ _ => ?_
  refine (failsOnly_sliceBlock rfl (by omega)).bind fun _ _ => ?_
  refine (failsOnly_sliceBlock rfl (by omega)).bind fun _ _ => ?_
  refine (malformed_roleBytes length rfl (by decide)).bind fun _ _ => ?_
  refine (malformed_roleBytes length rfl (by decide)).bind fun _ _ => ?_
  refine (malformed_roleBytes length rfl (by decide)).bind fun _ _ => ?_
  refine (malformed_decompressOr _ _ _).bind fun _ _ => ?_
  refine (malformed_rejectIdentity _ _).bind fun _ _ => ?_
  refine (malformed_canonicalOr _ _ _).bind fun _ _ => ?_
  refine (malformed_decompressOr _ _ _).bind fun _ _ => ?_
  refine (malformed_rejectIdentity _ _).bind fun _ _ => ?_
  split
  · exact failsOnly_ok _
  case isFalse full =>
    refine (malformed_decompressOr _ _ _).bind fun _ _ => ?_
    refine (malformed_rejectIdentity _ _).bind fun _ _ => ?_
    refine (malformed_decompressOr _ _ _).bind fun _ _ => ?_
    refine (malformed_rejectIdentity _ _).bind fun _ _ => ?_
    refine (malformed_canonicalOr _ _ _).bind fun _ _ => ?_
    refine (failsOnly_mapM fun i member => malformed_parseBranch G ?_).bind fun _ _ => failsOnly_ok _
    have index := List.mem_range.mp member
    rw [length, expectedLen, if_neg full]
    omega

theorem malformed_recvAuthHeader (v3 : Bool) (conn : Conn β) :
    FailsOnly Failure.Malformed (recvAuthHeader v3 conn).1 := by
  cases v3 with
  | false => exact failsOnly_ok _
  | true =>
    rw [recvAuthHeader, if_pos rfl]
    refine (malformed_recvU8 conn).effectBind fun flags middle _ => ?_
    split
    · exact (malformed_recvExact _ _).effectBind fun _ _ _ => failsOnly_ok _
    · exact failsOnly_ok _

theorem readAuthRequest_failsOnly (G : Suite β S P) (ctx : ServerContext S) (v3 : Bool) (conn : Conn β) :
    FailsOnly (fun failure => failure.Malformed ∨ failure = deviceOnlyRefused) (readAuthRequest G ctx v3 conn).1 := by
  refine ((malformed_recvAuthHeader v3 conn).mono fun _ => .inl).effectBind fun _ _ _ => ?_
  refine (failsOnly_failIf (fun _ => .inr rfl) _).effectBind fun _ _ _ => ?_
  refine ((malformed_recvVec _ _).mono fun _ => .inl).effectBind fun _ _ read => ?_
  refine FailsOnly.effectBind ?_ fun _ _ _ => failsOnly_ok _
  exact (malformed_parseAuthPayload G (recvVec_ok read).1).mono fun _ => .inl

theorem noPanic_readAuthRequest (G : Suite β S P) (ctx : ServerContext S) (v3 : Bool) (conn : Conn β) :
    NoPanic (readAuthRequest G ctx v3 conn).1 := by
  refine (readAuthRequest_failsOnly G ctx v3 conn).mono ?_
  rintro failure (malformed | rfl)
  · exact malformed.noPanic
  · exact id

end ZkArche.Server

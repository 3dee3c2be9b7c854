import ZkArche.Primitives.Frames

namespace ZkArche.Edhoc

open Foundation

def maxFrame : Nat := 4096
def appReqVersion : UInt8 := 1

abbrev Hmac := List UInt8 → List UInt8 → Block UInt8 32

def hmacTag (hmac : Hmac) (key : Block UInt8 32) (label data : List UInt8) : Block UInt8 32 :=
  hmac key.bytes (label ++ data)

/-- Builds a request with a random nonce at the time `unixTimeMs`. -/
def buildProtectedRequest (hmac : Hmac) (deviceId : String) (payload : List UInt8) (c2sKey nonce : Block UInt8 32)
    (unixTimeMs : UInt64) : Except Failure (List UInt8) := do
  let deviceIdBytes := utf8Bytes deviceId
  rejectIf (deviceIdBytes.isEmpty || decide (deviceIdBytes.length > 64)) (anyhow "EDHOC_DEVICE_ID must be 1..64 bytes")
  rejectIf (decide (payload.length > 65535)) (anyhow "EDHOC_PAYLOAD too large")
  let body := [appReqVersion] ++ [UInt8.ofNat deviceIdBytes.length] ++ deviceIdBytes ++
    leBytes 8 unixTimeMs.toNat ++ nonce.bytes ++ leBytes 2 payload.length ++ payload
  let tag := hmacTag hmac c2sKey (ascii "edhoc-app-request-v1") body
  pure (body ++ tag.bytes)

structure ProtectedRequest where
  deviceId : String
  timestampMs : UInt64
  payloadLen : Nat

def parseAndVerifyRequest (hmac : Hmac) (request : List UInt8) (c2sKey : Block UInt8 32) :
    Except Failure ProtectedRequest := do
  rejectIf (decide (request.length < 1 + 1 + 8 + 32 + 2 + 32)) (anyhow "EDHOC protected request too short")
  let version ← byteAt request 0
  rejectIf (decide (version ≠ appReqVersion)) (anyhow "unsupported EDHOC protected request version")
  let deviceLenByte ← byteAt request 1
  let deviceLen := deviceLenByte.toNat
  rejectIf (decide (deviceLen = 0) || decide (deviceLen > 64)) (anyhow "invalid EDHOC device id length")
  let fixedWithoutDevice := 1 + 1 + 8 + 32 + 2 + 32
  rejectIf (decide (request.length < fixedWithoutDevice + deviceLen)) (anyhow "truncated EDHOC protected request")
  let tagStart := request.length - 32
  let body ← slice request 0 tagStart
  let gotTag ← sliceBlock 32 request tagStart request.length
  let expectedTag := hmacTag hmac c2sKey (ascii "edhoc-app-request-v1") body
  rejectIf (decide (gotTag ≠ expectedTag)) (anyhow "invalid EDHOC protected request HMAC")
  let offset := 2
  let deviceIdBytes ← slice request offset (offset + deviceLen)
  let deviceId ← textOr "invalid utf-8 sequence" deviceIdBytes
  let offset := offset + deviceLen
  let timestamp ← sliceBlock 8 request offset (offset + 8)
  let offset := offset + 8
  let offset := offset + 32
  let lenBytes ← sliceBlock 2 request offset (offset + 2)
  let payloadLen := leNat lenBytes.bytes
  let offset := offset + 2
  rejectIf (decide (offset + payloadLen ≠ tagStart)) (anyhow "EDHOC protected request payload length mismatch")
  pure { deviceId, timestampMs := UInt64.ofNat (leNat timestamp.bytes), payloadLen }

def bodyBytes (deviceId : String) (timestampMs : UInt64) (nonce : Block UInt8 32) (payload : List UInt8) : List UInt8 :=
  [appReqVersion] ++ ([UInt8.ofNat (utf8Bytes deviceId).length] ++ (utf8Bytes deviceId ++
    (leBytes 8 timestampMs.toNat ++ (nonce.bytes ++ (leBytes 2 payload.length ++ payload)))))

/-- The bytes encode these four values, with the tag under this key. -/
structure Encodes (hmac : Hmac) (c2sKey : Block UInt8 32) (request : List UInt8) (deviceId : String)
    (timestampMs : UInt64) (nonce : Block UInt8 32) (payload : List UInt8) : Prop where
  named : 1 ≤ (utf8Bytes deviceId).length
  short : (utf8Bytes deviceId).length ≤ 64
  fits : payload.length < 2 ^ 16
  bytes : request = bodyBytes deviceId timestampMs nonce payload ++
    (hmacTag hmac c2sKey (ascii "edhoc-app-request-v1") (bodyBytes deviceId timestampMs nonce payload)).bytes

variable {hmac : Hmac} {c2sKey nonce : Block UInt8 32} {request payload : List UInt8} {deviceId : String}
  {timestampMs : UInt64} {parsed : ProtectedRequest}

theorem length_bodyBytes (deviceId : String) (timestampMs : UInt64) (nonce : Block UInt8 32) (payload : List UInt8) :
    (bodyBytes deviceId timestampMs nonce payload).length = 44 + (utf8Bytes deviceId).length + payload.length := by
  simp [bodyBytes]
  omega

theorem Encodes.length (encodes : Encodes hmac c2sKey request deviceId timestampMs nonce payload) :
    request.length = 76 + (utf8Bytes deviceId).length + payload.length := by
  rw [encodes.bytes, List.length_append, length_bodyBytes, Block.bytes_length]
  omega

theorem buildProtectedRequest_ok :
    buildProtectedRequest hmac deviceId payload c2sKey nonce timestampMs = .ok request ↔
      Encodes hmac c2sKey request deviceId timestampMs nonce payload := by
  simp only [buildProtectedRequest, Except.bind_ok_iff, rejectIf_ok, Bool.or_eq_false_iff, decide_eq_false_iff_not,
    List.append_assoc, pure, Except.pure, Except.ok.injEq, exists_and_left, exists_const]
  constructor
  · rintro ⟨⟨nonempty, short⟩, fits, rfl⟩
    have named : 1 ≤ (utf8Bytes deviceId).length := by
      rw [Nat.one_le_iff_ne_zero, ne_eq, List.length_eq_zero_iff]
      simpa using nonempty
    refine ⟨named, by omega, by omega, ?_⟩
    simp only [bodyBytes, List.append_assoc]
  · rintro ⟨named, short, fits, rfl⟩
    refine ⟨⟨?_, by omega⟩, by omega, ?_⟩
    · cases bytes : utf8Bytes deviceId with
      | nil => simp [bytes] at named
      | cons => rfl
    · simp only [bodyBytes, List.append_assoc]

theorem parseAndVerifyRequest_sound (run : parseAndVerifyRequest hmac request c2sKey = .ok parsed) :
    ∃ nonce payload, Encodes hmac c2sKey request parsed.deviceId parsed.timestampMs nonce payload ∧
      parsed.payloadLen = payload.length := by
  simp only [parseAndVerifyRequest, Except.bind_ok_iff, rejectIf_ok, decide_eq_false_iff_not, Bool.or_eq_false_iff,
    not_not, exists_and_left, exists_const] at run
  obtain ⟨_, version, atVersion, rfl, deviceLen, atDeviceLen, ⟨named, short⟩, enough, body, front, tag, ofTag, rfl,
    deviceIdBytes, ofId, deviceId, decoded, timestamp, ofTimestamp, lenBytes, ofLen, total, done⟩ := run
  cases done
  rw [drop_of_byteAt] at atVersion atDeviceLen
  rw [textOr_ok] at decoded
  obtain ⟨idPart, idLength, _⟩ := drop_of_slice ofId
  obtain ⟨wholeBody, _, _⟩ := drop_of_slice front
  have timestampPart := drop_of_sliceBlock ofTimestamp
  have lenPart := drop_of_sliceBlock ofLen
  have tagPart := drop_of_sliceBlock ofTag
  rw [List.drop_length, List.append_nil] at tagPart
  have nonceLength : ((request.drop (2 + deviceLen.toNat + 8)).take 32).length = 32 := by
    rw [List.length_take, List.length_drop]
    omega
  have noncePart := List.take_append_drop 32 (request.drop (2 + deviceLen.toNat + 8))
  rw [List.drop_drop] at noncePart
  have payloadPart := List.take_append_drop (leNat lenBytes.bytes) (request.drop (2 + deviceLen.toNat + 8 + 32 + 2))
  rw [List.drop_drop, total] at payloadPart
  have payloadLength : ((request.drop (2 + deviceLen.toNat + 8 + 32 + 2)).take (leNat lenBytes.bytes)).length =
      leNat lenBytes.bytes := by
    rw [List.length_take, List.length_drop]
    omega
  generalize (request.drop (2 + deviceLen.toNat + 8)).take 32 = nonce at nonceLength noncePart
  generalize (request.drop (2 + deviceLen.toNat + 8 + 32 + 2)).take (leNat lenBytes.bytes) = payload at *
  have idCount : (utf8Bytes deviceId).length = deviceLen.toNat := by
    rw [← decoded]
    omega
  have lenValue : leBytes 2 payload.length = lenBytes.bytes := by
    have same := leBytes_leNat lenBytes.bytes
    rwa [lenBytes.bytes_length, ← payloadLength] at same
  have split : request = bodyBytes deviceId (UInt64.ofNat (leNat timestamp.bytes)) ⟨nonce, nonceLength⟩ payload ++
      request.drop (request.length - 32) := by
    rw [bodyBytes, idCount, UInt8.ofNat_toNat, leBytes_ofNat_leNat, lenValue, ← decoded]
    simp only [List.append_assoc, List.cons_append, List.nil_append]
    rw [payloadPart, ← lenPart, noncePart, ← timestampPart, ← idPart, ← atDeviceLen, ← atVersion, List.drop_zero]
  have sameBody : body = bodyBytes deviceId (UInt64.ofNat (leNat timestamp.bytes)) ⟨nonce, nonceLength⟩ payload := by
    rw [List.drop_zero] at wholeBody
    exact List.append_cancel_right (wholeBody.symm.trans split)
  refine ⟨⟨nonce, nonceLength⟩, payload, ⟨?_, ?_, ?_, ?_⟩, payloadLength.symm⟩
  · rw [idCount]
    omega
  · rw [idCount]
    omega
  · rw [payloadLength]
    have bound := leNat_lt lenBytes.bytes
    rwa [lenBytes.bytes_length] at bound
  · rw [← sameBody, ← tagPart, sameBody]
    exact split

theorem parseAndVerifyRequest_complete (encodes : Encodes hmac c2sKey request deviceId timestampMs nonce payload) :
    parseAndVerifyRequest hmac request c2sKey = .ok ⟨deviceId, timestampMs, payload.length⟩ := by
  have length := encodes.length
  have bodyLength := length_bodyBytes deviceId timestampMs nonce payload
  obtain ⟨named, short, fits, bytes⟩ := encodes
  have count : (UInt8.ofNat (utf8Bytes deviceId).length).toNat = (utf8Bytes deviceId).length :=
    UInt8.toNat_ofNat_of_lt' (Nat.lt_of_le_of_lt short (by decide))
  have whole : request.drop 0 = bodyBytes deviceId timestampMs nonce payload ++
      (hmacTag hmac c2sKey (ascii "edhoc-app-request-v1") (bodyBytes deviceId timestampMs nonce payload)).bytes := bytes
  obtain ⟨body, tagPart⟩ := slice_of_drop (request.length - 32) whole (by omega) (by omega)
  have tagOnly : request.drop (request.length - 32) =
      (hmacTag hmac c2sKey (ascii "edhoc-app-request-v1") (bodyBytes deviceId timestampMs nonce payload)).bytes ++ [] := by
    rw [tagPart, List.append_nil]
  obtain ⟨tag, _⟩ := sliceBlock_of_drop request.length tagOnly (by omega) (by decide)
  have fields := whole
  rw [bodyBytes] at fields
  simp only [List.append_assoc, List.cons_append, List.nil_append] at fields
  have version : byteAt request 0 = .ok appReqVersion := by rw [drop_of_byteAt, ← List.drop_drop, fields]; rfl
  have fields := congrArg (List.drop 1) fields
  rw [List.drop_drop, List.drop_succ_cons, List.drop_zero] at fields
  have deviceLen : byteAt request 1 = .ok (UInt8.ofNat (utf8Bytes deviceId).length) := by
    rw [drop_of_byteAt, ← List.drop_drop, fields]
    rfl
  have fields := congrArg (List.drop 1) fields
  rw [List.drop_drop, List.drop_succ_cons, List.drop_zero] at fields
  obtain ⟨id, fields⟩ := slice_of_drop (2 + (utf8Bytes deviceId).length) fields rfl (by omega)
  have fields : request.drop (2 + (utf8Bytes deviceId).length) =
      (⟨leBytes 8 timestampMs.toNat, leBytes_length _ _⟩ : Block UInt8 8).bytes ++ _ := fields
  obtain ⟨timestamp, fields⟩ := sliceBlock_of_drop (2 + (utf8Bytes deviceId).length + 8) fields rfl (by decide)
  obtain ⟨_, fields⟩ := sliceBlock_of_drop (2 + (utf8Bytes deviceId).length + 8 + 32) fields rfl (by decide)
  have fields : request.drop (2 + (utf8Bytes deviceId).length + 8 + 32) =
      (⟨leBytes 2 payload.length, leBytes_length _ _⟩ : Block UInt8 2).bytes ++ _ := fields
  obtain ⟨lenBytes, _⟩ := sliceBlock_of_drop (2 + (utf8Bytes deviceId).length + 8 + 32 + 2) fields rfl (by decide)
  have lenValue : leNat (leBytes 2 payload.length) = payload.length := leNat_leBytes_of_lt fits
  have total : 2 + (utf8Bytes deviceId).length + 8 + 32 + 2 + payload.length = request.length - 32 := by omega
  simp only [parseAndVerifyRequest, Except.bind_ok_iff, rejectIf_ok, decide_eq_false_iff_not, Bool.or_eq_false_iff,
    not_not, exists_and_left, exists_const]
  refine ⟨by omega, _, version, rfl, _, deviceLen, ⟨by omega, by omega⟩, by omega, _, body, _, tag, rfl, _,
    by rw [count]; exact id, deviceId, textOr_ok.mpr rfl, _, by rw [count]; exact timestamp, _,
    by rw [count]; exact lenBytes, ?_, ?_⟩
  · rw [count, lenValue]
    exact total
  · simp only [ofNat_leNat_leBytes, lenValue, pure, Except.pure]

theorem noPanic_parseAndVerifyRequest (hmac : Hmac) (request : List UInt8) (c2sKey : Block UInt8 32) :
    NoPanic (parseAndVerifyRequest hmac request c2sKey) := by
  refine (noPanic_rejectIf _ _).bind fun _ long => ?_
  rw [rejectIf_ok, decide_eq_false_iff_not] at long
  refine (noPanic_byteAt (by omega)).bind fun version _ => ?_
  refine (noPanic_rejectIf _ _).bind fun _ _ => ?_
  refine (noPanic_byteAt (by omega)).bind fun deviceLen _ => ?_
  refine (noPanic_rejectIf _ _).bind fun _ _ => ?_
  refine (noPanic_rejectIf _ _).bind fun _ enough => ?_
  rw [rejectIf_ok, decide_eq_false_iff_not] at enough
  refine (noPanic_slice (Nat.zero_le _) (by omega)).bind fun body _ => ?_
  refine (failsOnly_sliceBlock (by omega) (by omega)).bind fun tag _ => ?_
  refine (noPanic_rejectIf _ _).bind fun _ _ => ?_
  refine (noPanic_slice (by omega) (by omega)).bind fun deviceIdBytes _ => ?_
  refine (noPanic_textOr _ _).bind fun deviceId _ => ?_
  refine (failsOnly_sliceBlock rfl (by omega)).bind fun timestamp _ => ?_
  refine (failsOnly_sliceBlock rfl (by omega)).bind fun lenBytes _ => ?_
  exact (noPanic_rejectIf _ _).bind fun _ _ => failsOnly_ok _

theorem parseAndVerifyRequest_ok : parseAndVerifyRequest hmac request c2sKey = .ok parsed ↔
    ∃ nonce payload, Encodes hmac c2sKey request parsed.deviceId parsed.timestampMs nonce payload ∧
      parsed.payloadLen = payload.length := by
  constructor
  · exact parseAndVerifyRequest_sound
  · rintro ⟨nonce, payload, encodes, length⟩
    rw [parseAndVerifyRequest_complete encodes, ← length]

theorem Encodes.bytes_inj {request' payload' : List UInt8} {deviceId' : String} {timestampMs' : UInt64}
    {nonce' : Block UInt8 32} (encodes : Encodes hmac c2sKey request deviceId timestampMs nonce payload)
    (encodes' : Encodes hmac c2sKey request' deviceId' timestampMs' nonce' payload') :
    request = request' ↔ deviceId = deviceId' ∧ timestampMs = timestampMs' ∧ nonce = nonce' ∧ payload = payload' := by
  constructor
  · rintro rfl
    have same := (parseAndVerifyRequest_complete encodes).symm.trans (parseAndVerifyRequest_complete encodes')
    simp only [Except.ok.injEq, ProtectedRequest.mk.injEq] at same
    obtain ⟨rfl, rfl, _⟩ := same
    have bytes := encodes.bytes.symm.trans encodes'.bytes
    obtain ⟨body, _⟩ := List.append_inj' bytes (by simp)
    simp only [bodyBytes, List.append_cancel_left_eq] at body
    obtain ⟨nonces, payloads⟩ := block_append_inj body
    exact ⟨rfl, rfl, nonces, (List.append_inj payloads (by simp)).2⟩
  · rintro ⟨rfl, rfl, rfl, rfl⟩
    rw [encodes.bytes, encodes'.bytes]

/-- The request parser accepts exactly its grammar, and reads no byte that is not there. -/
theorem request_grammar (hmac : Hmac) (c2sKey : Block UInt8 32) :
    (∀ request, NoPanic (parseAndVerifyRequest hmac request c2sKey)) ∧
    (∀ request parsed, parseAndVerifyRequest hmac request c2sKey = .ok parsed ↔
      ∃ nonce payload, Encodes hmac c2sKey request parsed.deviceId parsed.timestampMs nonce payload ∧
        parsed.payloadLen = payload.length) ∧
    ∀ request deviceId timestampMs nonce payload request' deviceId' timestampMs' nonce' payload',
      Encodes hmac c2sKey request deviceId timestampMs nonce payload →
      Encodes hmac c2sKey request' deviceId' timestampMs' nonce' payload' →
      (request = request' ↔ deviceId = deviceId' ∧ timestampMs = timestampMs' ∧ nonce = nonce' ∧ payload = payload') :=
  ⟨fun request => noPanic_parseAndVerifyRequest hmac request c2sKey, fun _ _ => parseAndVerifyRequest_ok,
    fun _ _ _ _ _ _ _ _ _ _ encodes encodes' => encodes.bytes_inj encodes'⟩

def zeroHmac : Hmac := fun _ _ => ⟨List.replicate 32 0, List.length_replicate⟩

def zeroBlock : Block UInt8 32 := ⟨List.replicate 32 0, List.length_replicate⟩

def smallRequest (payload : List UInt8) : List UInt8 :=
  [1, 1, 100] ++ List.replicate 8 0 ++ List.replicate 32 0 ++ leBytes 2 payload.length ++ payload ++ List.replicate 32 0

theorem request_grammar_small :
    parseAndVerifyRequest zeroHmac (smallRequest []) zeroBlock = .ok ⟨"d", 0, 0⟩ ∧ smallRequest [] ≠ smallRequest [7] := by
  have empty : Encodes zeroHmac zeroBlock (smallRequest []) "d" 0 zeroBlock [] :=
    ⟨by decide, by decide, by decide, by decide⟩
  have other : Encodes zeroHmac zeroBlock (smallRequest [7]) "d" 0 zeroBlock [7] :=
    ⟨by decide, by decide, by decide, by decide⟩
  have unique := (request_grammar zeroHmac zeroBlock).2.2 _ _ _ _ _ _ _ _ _ _ empty other
  refine ⟨((request_grammar zeroHmac zeroBlock).2.1 _ _).mpr ⟨_, _, empty, rfl⟩, ?_⟩
  intro same
  exact absurd (unique.mp same).2.2.2 (by decide)

end ZkArche.Edhoc

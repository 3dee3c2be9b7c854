import ZkArche.Primitives.Frames

namespace ZkArche.Mtls

open Foundation

def maxFrame : Nat := 4096
def mtlsReqV1 : UInt8 := 0x41

def maxClockSkewMs : Nat := 300 * 1000

/-- Builds a request with a random nonce at the time `nowMillis`. -/
def buildAuthRequest (deviceId : String) (payload : List UInt8) (nonce : Block UInt8 32) (nowMillis : UInt64) :
    Except Failure (List UInt8) := do
  let deviceIdBytes := utf8Bytes deviceId
  rejectIf (decide (deviceIdBytes.length > 255)) (anyhow "device_id is too long; max 255 bytes")
  rejectIf (decide (payload.length > 65535)) (anyhow "payload too large; max 65535 bytes")
  pure ([mtlsReqV1] ++ [UInt8.ofNat deviceIdBytes.length] ++ deviceIdBytes ++ beBytes 8 nowMillis.toNat ++ nonce.bytes ++
    beBytes 2 payload.length ++ payload)

structure AuthRequest where
  deviceId : String
  timestampMs : UInt64
  nonce : Block UInt8 32
  payload : List UInt8

def absDiff (a b : UInt64) : Nat := max a.toNat b.toNat - min a.toNat b.toNat

def parseAuthRequest (buf : List UInt8) (nowMillis : UInt64) : Except Failure AuthRequest := do
  rejectIf (decide (buf.length < 1 + 1 + 8 + 32 + 2)) (anyhow ("request too short: " ++ toString buf.length))
  let type ← byteAt buf 0
  rejectIf (decide (type ≠ mtlsReqV1)) (anyhow ("bad request type: 0x" ++ hexByte type))
  let idLenByte ← byteAt buf 1
  let idLen := idLenByte.toNat
  let offset := 2
  rejectIf (decide (buf.length < offset + idLen + 8 + 32 + 2)) (anyhow "malformed request length")
  let deviceIdBytes ← slice buf offset (offset + idLen)
  let deviceId ← textOr "device_id is not UTF-8" deviceIdBytes
  let offset := offset + idLen
  let ts ← sliceBlock 8 buf offset (offset + 8)
  let timestampMs := UInt64.ofNat (beNat ts.bytes)
  let offset := offset + 8
  let nonce ← sliceBlock 32 buf offset (offset + 32)
  let offset := offset + 32
  let payloadLenBytes ← sliceBlock 2 buf offset (offset + 2)
  let payloadLen := beNat payloadLenBytes.bytes
  let offset := offset + 2
  rejectIf (decide (buf.length ≠ offset + payloadLen)) (anyhow "payload length mismatch")
  let skewMs := absDiff nowMillis timestampMs
  rejectIf (decide (skewMs > maxClockSkewMs))
    (anyhow ("request timestamp outside allowed clock skew: " ++ toString skewMs ++ " ms"))
  let payload ← slice buf offset buf.length
  pure { deviceId, timestampMs, nonce, payload }

def writeFrame (data : List UInt8) : Effect Failure (Conn UInt8) Unit := do
  Effect.failIf (decide (data.length > maxFrame)) (anyhow ("frame too large: " ++ toString data.length))
  putFrame data

def readFrame : Effect Failure (Conn UInt8) (List UInt8) := takeFrame maxFrame "received frame too large: "

def receiveRequest (nowMillis : UInt64) : Effect Failure (Conn UInt8) AuthRequest := do
  let requestRaw ← readFrame
  Effect.lift (parseAuthRequest requestRaw nowMillis)

def AuthRequest.encode (request : AuthRequest) : List UInt8 :=
  [mtlsReqV1] ++ ([UInt8.ofNat (utf8Bytes request.deviceId).length] ++ (utf8Bytes request.deviceId ++
    (beBytes 8 request.timestampMs.toNat ++ (request.nonce.bytes ++
      (beBytes 2 request.payload.length ++ request.payload)))))

structure AuthRequest.Encodable (request : AuthRequest) : Prop where
  named : (utf8Bytes request.deviceId).length ≤ 255
  fits : request.payload.length < 2 ^ 16

/-- The clocks differ by no more than the allowed skew. -/
def Timely (nowMillis timestampMs : UInt64) : Prop :=
  nowMillis.toNat ≤ timestampMs.toNat + maxClockSkewMs ∧ timestampMs.toNat ≤ nowMillis.toNat + maxClockSkewMs

variable {deviceId : String} {payload buf : List UInt8} {nonce : Block UInt8 32} {nowMillis timestampMs : UInt64}
  {request : AuthRequest}

theorem absDiff_le : absDiff nowMillis timestampMs ≤ maxClockSkewMs ↔ Timely nowMillis timestampMs := by
  unfold absDiff Timely
  omega

theorem AuthRequest.length_encode (request : AuthRequest) :
    request.encode.length = 44 + (utf8Bytes request.deviceId).length + request.payload.length := by
  simp [AuthRequest.encode]
  omega

theorem buildAuthRequest_ok : buildAuthRequest deviceId payload nonce nowMillis = .ok buf ↔
    AuthRequest.Encodable ⟨deviceId, nowMillis, nonce, payload⟩ ∧
      buf = AuthRequest.encode ⟨deviceId, nowMillis, nonce, payload⟩ := by
  simp only [buildAuthRequest, Except.bind_ok_iff, rejectIf_ok, decide_eq_false_iff_not, List.append_assoc, pure,
    Except.pure, Except.ok.injEq, exists_and_left, exists_const]
  constructor
  · rintro ⟨named, fits, rfl⟩
    exact ⟨⟨by dsimp only; omega, by dsimp only; omega⟩, by simp only [AuthRequest.encode]⟩
  · rintro ⟨⟨named, fits⟩, rfl⟩
    dsimp only at named fits
    exact ⟨by omega, by omega, by simp only [AuthRequest.encode]⟩

theorem parseAuthRequest_sound (run : parseAuthRequest buf nowMillis = .ok request) :
    request.Encodable ∧ buf = request.encode ∧ Timely nowMillis request.timestampMs := by
  simp only [parseAuthRequest, Except.bind_ok_iff, rejectIf_ok, decide_eq_false_iff_not, not_not, exists_and_left,
    exists_const] at run
  obtain ⟨_, type, atType, rfl, idLen, atIdLen, enough, deviceIdBytes, ofId, deviceId, decoded, ts, ofTs, nonce,
    ofNonce, payloadLenBytes, ofLen, total, timely, payload, ofPayload, done⟩ := run
  cases done
  rw [drop_of_byteAt] at atType atIdLen
  rw [textOr_ok] at decoded
  subst decoded
  obtain ⟨idPart, idLength, _⟩ := drop_of_slice ofId
  obtain ⟨payloadPart, payloadLength, _⟩ := drop_of_slice ofPayload
  have tsPart := drop_of_sliceBlock ofTs
  have noncePart := drop_of_sliceBlock ofNonce
  have lenPart := drop_of_sliceBlock ofLen
  rw [List.drop_length, List.append_nil] at payloadPart
  have idCount : (utf8Bytes deviceId).length = idLen.toNat := by omega
  have lenBound : beNat payloadLenBytes.bytes < 2 ^ 16 := by
    have bound := leNat_lt payloadLenBytes.bytes.reverse
    rwa [List.length_reverse, payloadLenBytes.bytes_length] at bound
  have lenValue : beBytes 2 payload.length = payloadLenBytes.bytes := by
    have same := beBytes_beNat payloadLenBytes.bytes
    rwa [payloadLenBytes.bytes_length, show beNat payloadLenBytes.bytes = payload.length by omega] at same
  refine ⟨⟨?_, ?_⟩, ?_, absDiff_le.mp (Nat.le_of_not_lt timely)⟩
  · have bound := idLen.toNat_lt
    simp only [idCount]
    omega
  · simp only
    omega
  · rw [AuthRequest.encode]
    simp only [idCount, UInt8.ofNat_toNat, beBytes_ofNat_beNat, lenValue, List.cons_append, List.nil_append]
    rw [← payloadPart, ← lenPart, ← noncePart, ← tsPart, ← idPart, ← atIdLen, ← atType, List.drop_zero]

theorem parseAuthRequest_encode (encodable : request.Encodable) (timely : Timely nowMillis request.timestampMs) :
    parseAuthRequest request.encode nowMillis = .ok request := by
  have length := request.length_encode
  obtain ⟨named, fits⟩ := encodable
  have count : (UInt8.ofNat (utf8Bytes request.deviceId).length).toNat = (utf8Bytes request.deviceId).length :=
    UInt8.toNat_ofNat_of_lt' (Nat.lt_of_le_of_lt named (by decide))
  generalize encoded : request.encode = buf at length ⊢
  rw [AuthRequest.encode] at encoded
  simp only [List.cons_append, List.nil_append] at encoded
  have type : byteAt buf 0 = .ok mtlsReqV1 := by rw [drop_of_byteAt, ← encoded]; rfl
  have idLen : byteAt buf 1 = .ok (UInt8.ofNat (utf8Bytes request.deviceId).length) := by
    rw [drop_of_byteAt, ← encoded]
    rfl
  have fields : buf.drop 2 = utf8Bytes request.deviceId ++ (beBytes 8 request.timestampMs.toNat ++
      (request.nonce.bytes ++ (beBytes 2 request.payload.length ++ request.payload))) := by
    rw [← encoded]
    rfl
  obtain ⟨id, fields⟩ := slice_of_drop (2 + (utf8Bytes request.deviceId).length) fields rfl (by omega)
  have fields : buf.drop (2 + (utf8Bytes request.deviceId).length) =
      (⟨beBytes 8 request.timestampMs.toNat, beBytes_length _ _⟩ : Block UInt8 8).bytes ++ _ := fields
  obtain ⟨ts, fields⟩ := sliceBlock_of_drop (2 + (utf8Bytes request.deviceId).length + 8) fields rfl (by decide)
  obtain ⟨nonce, fields⟩ := sliceBlock_of_drop (2 + (utf8Bytes request.deviceId).length + 8 + 32) fields rfl (by decide)
  have fields : buf.drop (2 + (utf8Bytes request.deviceId).length + 8 + 32) =
      (⟨beBytes 2 request.payload.length, beBytes_length _ _⟩ : Block UInt8 2).bytes ++ _ := fields
  obtain ⟨lenBytes, fields⟩ := sliceBlock_of_drop (2 + (utf8Bytes request.deviceId).length + 8 + 32 + 2) fields rfl
    (by decide)
  have fields : buf.drop (2 + (utf8Bytes request.deviceId).length + 8 + 32 + 2) = request.payload ++ [] := by
    rw [fields, List.append_nil]
  obtain ⟨payload, _⟩ := slice_of_drop buf.length fields (by omega) (Nat.le_refl _)
  have lenValue : beNat (beBytes 2 request.payload.length) = request.payload.length := beNat_beBytes fits
  have skew := absDiff_le.mpr timely
  simp only [parseAuthRequest, Except.bind_ok_iff, rejectIf_ok, decide_eq_false_iff_not, not_not, exists_and_left,
    exists_const]
  refine ⟨by omega, _, type, rfl, _, idLen, by omega, _, by rw [count]; exact id, _, textOr_ok.mpr rfl, _,
    by rw [count]; exact ts, _, by rw [count]; exact nonce, _, by rw [count]; exact lenBytes, ?_, ?_, _,
    by rw [count]; exact payload, ?_⟩
  · rw [count, lenValue]
    omega
  · rw [ofNat_beNat_beBytes]
    omega
  · simp only [ofNat_beNat_beBytes, pure, Except.pure]

theorem noPanic_parseAuthRequest (buf : List UInt8) (nowMillis : UInt64) : NoPanic (parseAuthRequest buf nowMillis) := by
  refine (noPanic_rejectIf _ _).bind fun _ long => ?_
  rw [rejectIf_ok, decide_eq_false_iff_not] at long
  refine (noPanic_byteAt (by omega)).bind fun type _ => ?_
  refine (noPanic_rejectIf _ _).bind fun _ _ => ?_
  refine (noPanic_byteAt (by omega)).bind fun idLen _ => ?_
  refine (noPanic_rejectIf _ _).bind fun _ enough => ?_
  rw [rejectIf_ok, decide_eq_false_iff_not] at enough
  refine (noPanic_slice (by omega) (by omega)).bind fun deviceIdBytes _ => ?_
  refine (noPanic_textOr _ _).bind fun deviceId _ => ?_
  refine (failsOnly_sliceBlock rfl (by omega)).bind fun ts _ => ?_
  refine (failsOnly_sliceBlock rfl (by omega)).bind fun nonce _ => ?_
  refine (failsOnly_sliceBlock rfl (by omega)).bind fun lenBytes _ => ?_
  refine (noPanic_rejectIf _ _).bind fun _ total => ?_
  rw [rejectIf_ok, decide_eq_false_iff_not, not_not] at total
  refine (noPanic_rejectIf _ _).bind fun _ _ => ?_
  exact (noPanic_slice (by omega) (Nat.le_refl _)).bind fun _ _ => failsOnly_ok _

theorem writeFrame_apply {conn : Conn UInt8} (writable : conn.writeFault = fun _ => none) (short : buf.length ≤ maxFrame) :
    writeFrame buf conn = (.ok (), { conn with output := conn.output ++ frameBytes buf }) := by
  have passes : decide (buf.length > maxFrame) = false := decide_eq_false (by omega)
  rw [writeFrame, Effect.bind_of_ok (Effect.failIf_of_false passes), putFrame_apply writable]

theorem receiveRequest_apply {conn : Conn UInt8} {rest : List UInt8} (short : buf.length ≤ maxFrame)
    (input : conn.input = frameBytes buf ++ rest) :
    receiveRequest nowMillis conn = (parseAuthRequest buf nowMillis, { conn with input := rest }) := by
  have encodable : buf.length < 2 ^ 32 := Nat.lt_of_le_of_lt short (by decide)
  have reads : readFrame conn = (.ok buf, { conn with input := rest }) := takeFrame_apply encodable short input
  rw [receiveRequest, Effect.bind_of_ok reads, Effect.lift_apply]

/-- A request that fits a frame arrives as it was built while the clocks agree, and nothing else is accepted. -/
theorem request_codec :
    (∀ deviceId payload nonce timestampMs nowMillis request (client server : Conn UInt8),
      buildAuthRequest deviceId payload nonce timestampMs = .ok request → request.length ≤ maxFrame →
      Timely nowMillis timestampMs → client.writeFault = (fun _ => none) →
      ∃ client' written server', writeFrame request client = (.ok (), client') ∧
        client'.output = client.output ++ written ∧
        receiveRequest nowMillis { server with input := written } = (.ok ⟨deviceId, timestampMs, nonce, payload⟩, server')) ∧
    (∀ buf nowMillis request, parseAuthRequest buf nowMillis = .ok request →
      buf = request.encode ∧ request.Encodable ∧ Timely nowMillis request.timestampMs) ∧
    (∀ deviceId payload nonce timestampMs buf, buildAuthRequest deviceId payload nonce timestampMs = .ok buf ↔
      AuthRequest.Encodable ⟨deviceId, timestampMs, nonce, payload⟩ ∧
        buf = AuthRequest.encode ⟨deviceId, timestampMs, nonce, payload⟩) ∧
    ∀ buf nowMillis, NoPanic (parseAuthRequest buf nowMillis) := by
  refine ⟨?_, ?_, fun _ _ _ _ _ => buildAuthRequest_ok, noPanic_parseAuthRequest⟩
  · intro deviceId payload nonce timestampMs nowMillis request client server built short timely writable
    obtain ⟨encodable, rfl⟩ := buildAuthRequest_ok.mp built
    have parses := parseAuthRequest_encode encodable timely
    let sent := frameBytes (AuthRequest.encode ⟨deviceId, timestampMs, nonce, payload⟩)
    have receives : receiveRequest nowMillis { server with input := sent } =
        (parseAuthRequest _ nowMillis, { server with input := [] }) :=
      receiveRequest_apply short (List.append_nil sent).symm
    rw [parses] at receives
    exact ⟨_, sent, _, writeFrame_apply writable short, rfl, receives⟩
  · intro buf nowMillis request run
    obtain ⟨encodable, bytes, timely⟩ := parseAuthRequest_sound run
    exact ⟨bytes, encodable, timely⟩

/-- A device without a name sends one byte to a server whose clock is five minutes behind. -/
theorem request_codec_late :
    ∃ client' written server', writeFrame (AuthRequest.encode ⟨"", 300000, ⟨List.replicate 32 0, by decide⟩, [7]⟩)
        (.opened []) = (.ok (), client') ∧ client'.output = (Conn.opened []).output ++ written ∧
      receiveRequest 0 { Conn.opened [] with input := written } =
        (.ok ⟨"", 300000, ⟨List.replicate 32 0, by decide⟩, [7]⟩, server') :=
  request_codec.1 "" [7] ⟨List.replicate 32 0, by decide⟩ 300000 0 _ (.opened []) (.opened [])
    (buildAuthRequest_ok.mpr ⟨⟨by decide, by decide⟩, rfl⟩) (by decide) ⟨by decide, by decide⟩ rfl

end ZkArche.Mtls

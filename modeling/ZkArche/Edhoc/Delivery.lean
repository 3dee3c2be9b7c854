import ZkArche.Edhoc.Request

namespace ZkArche.Edhoc

open Foundation

def sendFrame (payload : List UInt8) : Effect Failure (Conn UInt8) Unit := do
  putFrame payload
  Effect.modify fun conn => { conn with sent := conn.sent + (4 + payload.length) }

def recvFrame (maxLen : Nat) : Effect Failure (Conn UInt8) (List UInt8) := do
  let buf ← takeFrame maxLen "frame too large: "
  Effect.modify fun conn => { conn with recv := conn.recv + (4 + buf.length) }
  pure buf

def receiveRequest (hmac : Hmac) (c2sKey : Block UInt8 32) : Effect Failure (Conn UInt8) ProtectedRequest := do
  let request ← recvFrame maxFrame
  Effect.lift (parseAndVerifyRequest hmac request c2sKey)

/-- What the client sends is what the server decodes, and both count it alike. -/
def Delivered (hmac : Hmac) (c2sKey : Block UInt8 32) (request : List UInt8) (expected : ProtectedRequest) : Prop :=
  ∀ client server : Conn UInt8, client.writeFault = (fun _ => none) →
    ∃ client' written server', sendFrame request client = (.ok (), client') ∧
      client'.output = client.output ++ written ∧ client'.sent = client.sent + (4 + request.length) ∧
      receiveRequest hmac c2sKey { server with input := written } = (.ok expected, server') ∧
      server'.recv = server.recv + (4 + request.length)

variable {hmac : Hmac} {c2sKey nonce : Block UInt8 32} {request payload rest : List UInt8} {deviceId : String}
  {timestampMs : UInt64} {conn : Conn UInt8} {maxLen : Nat} {expected : ProtectedRequest}

theorem sendFrame_apply (writable : conn.writeFault = fun _ => none) (payload : List UInt8) :
    sendFrame payload conn = (.ok (), { conn with
      output := conn.output ++ frameBytes payload
      sent := conn.sent + (4 + payload.length) }) := by
  rw [sendFrame, Effect.bind_of_ok (putFrame_apply writable payload)]
  rfl

theorem recvFrame_apply (encodable : payload.length < 2 ^ 32) (short : payload.length ≤ maxLen)
    (input : conn.input = frameBytes payload ++ rest) :
    recvFrame maxLen conn =
      (.ok payload, { conn with input := rest, recv := conn.recv + (4 + payload.length) }) := by
  rw [recvFrame, Effect.bind_of_ok (takeFrame_apply encodable short input)]
  rfl

theorem recvFrame_long (encodable : payload.length < 2 ^ 32) (long : maxLen < payload.length)
    (input : conn.input = frameBytes payload ++ rest) :
    ∃ after, recvFrame maxLen conn = (.error (anyhow ("frame too large: " ++ toString payload.length)), after) := by
  obtain ⟨after, refuses⟩ := takeFrame_long encodable long input
  exact ⟨after, Effect.bind_of_error refuses⟩

theorem delivered_of_short (short : request.length ≤ maxFrame)
    (parses : parseAndVerifyRequest hmac request c2sKey = .ok expected) : Delivered hmac c2sKey request expected := by
  intro client server writable
  have encodable : request.length < 2 ^ 32 := Nat.lt_of_le_of_lt short (by decide)
  have input : ({ server with input := frameBytes request } : Conn UInt8).input = frameBytes request ++ [] :=
    (List.append_nil _).symm
  have receives : receiveRequest hmac c2sKey { server with input := frameBytes request } =
      (.ok expected, { server with input := [], recv := server.recv + (4 + request.length) }) := by
    rw [receiveRequest, Effect.bind_of_ok (recvFrame_apply encodable short input), Effect.lift_apply, parses]
  exact ⟨_, frameBytes request, _, sendFrame_apply writable request, rfl, rfl, receives, rfl⟩

theorem undelivered_of_long (encodable : request.length < 2 ^ 32) (long : maxFrame < request.length) :
    ¬ Delivered hmac c2sKey request expected := by
  intro delivered
  obtain ⟨client', written, server', sends, output, _, receives, _⟩ := delivered (.opened []) (.opened []) rfl
  rw [sendFrame_apply rfl] at sends
  obtain ⟨_, rfl⟩ := Prod.mk.inj sends
  have same : frameBytes request = written := List.append_cancel_left output
  have input : ({ Conn.opened [] with input := written } : Conn UInt8).input = frameBytes request ++ [] := by
    rw [List.append_nil, same]
  obtain ⟨after, refuses⟩ := recvFrame_long encodable long input
  rw [receiveRequest, Effect.bind_of_error refuses] at receives
  cases receives

/-- The requests that can be delivered are those of at most 4020 bytes of device id and payload. -/
theorem request_delivered_iff
    (built : buildProtectedRequest hmac deviceId payload c2sKey nonce timestampMs = .ok request) :
    Delivered hmac c2sKey request ⟨deviceId, timestampMs, payload.length⟩ ↔
      (utf8Bytes deviceId).length + payload.length ≤ 4020 := by
  have encodes := buildProtectedRequest_ok.mp built
  have length := encodes.length
  have frame : maxFrame = 4096 := rfl
  constructor
  · intro delivered
    by_contra long
    have encodable : request.length < 2 ^ 32 := by
      have short := encodes.short
      have fits := encodes.fits
      omega
    exact undelivered_of_long encodable (by omega) delivered
  · intro short
    exact delivered_of_short (by omega) (parseAndVerifyRequest_complete encodes)

/-- A request of one byte of device id and 4020 bytes of payload. -/
theorem long_request_undelivered :
    ∃ request, buildProtectedRequest zeroHmac "d" (List.replicate 4020 0) zeroBlock zeroBlock 0 = .ok request ∧
      ¬ Delivered zeroHmac zeroBlock request ⟨"d", 0, 4020⟩ := by
  have encodes : Encodes zeroHmac zeroBlock _ "d" 0 zeroBlock (List.replicate 4020 0) :=
    ⟨by decide, by decide, by rw [List.length_replicate]; decide, rfl⟩
  have length := encodes.length
  rw [List.length_replicate] at length
  have name : (utf8Bytes "d").length = 1 := by decide
  have frame : maxFrame = 4096 := rfl
  exact ⟨_, buildProtectedRequest_ok.mpr encodes, undelivered_of_long (by omega) (by omega)⟩

theorem request_delivered_iff_short :
    ∃ request, buildProtectedRequest zeroHmac "d" [7] zeroBlock zeroBlock 0 = .ok request ∧
      Delivered zeroHmac zeroBlock request ⟨"d", 0, 1⟩ := by
  have encodes : Encodes zeroHmac zeroBlock _ "d" 0 zeroBlock [7] := ⟨by decide, by decide, by decide, rfl⟩
  have built := buildProtectedRequest_ok.mpr encodes
  exact ⟨_, built, (request_delivered_iff built).mpr (by decide)⟩

end ZkArche.Edhoc

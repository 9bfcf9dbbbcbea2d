import BrandBlitz.Chat.Wire

/-!
# BrandBlitz.Chat.Control

**Close and pong frames** (`encodeCloseFrame` and `encodePongFrame` of
`apps/api/src/lib/ws-frame.ts`, and where the chat sends them).

Both hand their payload to `encodeWsFrame` as a buffer. It takes a buffer for an object and
writes its JSON, so what is sent is a frame of the right opcode with the text
`\x7b"type":"Buffer","data":[…]\x7d` as its payload. The text is longer than the bytes, so it is
never the payload that was meant, and from fifty bytes on it is too long for a control frame.
-/

namespace BrandBlitz.Chat

open BrandBlitz.Lib

/-! ### The text of a buffer -/

theorem length_le_encode (text : Text) : text.length ≤ (Utf8.encode text).length := by
  induction text with
  | nil => exact Nat.le_refl 0
  | cons c text ih =>
      have hc := Char.utf8Size_pos c
      have hencode : Utf8.encode (c :: text) = String.utf8EncodeChar c ++ Utf8.encode text := rfl
      rw [hencode, List.length_append, String.length_utf8EncodeChar, List.length_cons]
      omega

theorem encode_length_le (text : Text) : (Utf8.encode text).length ≤ 4 * text.length := by
  induction text with
  | nil => exact Nat.le_refl 0
  | cons c text ih =>
      have hc := Char.utf8Size_le_four c
      have hencode : Utf8.encode (c :: text) = String.utf8EncodeChar c ++ Utf8.encode text := rfl
      rw [hencode, List.length_append, String.length_utf8EncodeChar, List.length_cons]
      omega

theorem length_digits (b : UInt8) :
    0 < (Nat.toDigits 10 b.toNat).length ∧ (Nat.toDigits 10 b.toNat).length ≤ 3 := by
  refine ⟨List.length_pos_iff.mpr Nat.toDigits_ne_nil, ?_⟩
  have hb : b.toNat < 10 ^ 3 := Nat.lt_trans b.toNat_lt (by decide)
  exact (Nat.length_toDigits_le_iff (by decide) (by decide)).mpr hb

/-- Every byte takes one to three digits, and a comma between two. -/
theorem length_items (bytes : List UInt8) :
    2 * bytes.length ≤
      ([','].intercalate (bytes.map fun b => Nat.toDigits 10 b.toNat)).length + 1 ∧
    ([','].intercalate (bytes.map fun b => Nat.toDigits 10 b.toNat)).length ≤
      4 * bytes.length := by
  induction bytes with
  | nil => simp
  | cons b bytes ih =>
      have hb := length_digits b
      cases bytes with
      | nil =>
          simp only [List.map_cons, List.map_nil, List.intercalate_singleton, List.length_cons,
            List.length_nil]
          omega
      | cons c bytes =>
          simp only [List.map_cons, List.intercalate_cons_cons, List.length_append,
            List.length_cons, List.length_nil] at ih ⊢
          omega

theorem length_bufferJson (bytes : List UInt8) :
    26 + 2 * bytes.length ≤ (bufferJson bytes).length ∧
      (bufferJson bytes).length ≤ 27 + 4 * bytes.length := by
  have hopen : bufferJsonOpen.length = 25 := by decide
  have hclose : bufferJsonClose.length = 2 := by decide
  have hitems := length_items bytes
  rw [bufferJson, List.length_append, List.length_append, hopen, hclose]
  omega

/-! ### What is sent -/

/-- The frame of a buffer is one frame, with the JSON as its payload. -/
theorem decode_buffer {bytes : List UInt8} (hbytes : bytes.length ≤ 125) (opcode : UInt8) :
    decodeWsFrames (encodeWsFrame (.buffer bytes) opcode) =
      ⟨[⟨opcode &&& 0x0f, Utf8.encode (bufferJson bytes),
        if opcode &&& 0x0f = 1 then some (bufferJson bytes) else none, true⟩], []⟩ := by
  have hlt : (Utf8.encode (WsData.buffer bytes).text).length < 2 ^ 64 := by
    have hencode := encode_length_le (bufferJson bytes)
    have hjson := (length_bufferJson bytes).2
    show (Utf8.encode (bufferJson bytes)).length < 2 ^ 64
    omega
  have hframes : ∀ data ∈ [WsData.buffer bytes], ∃ w : WireFrame,
      encodeWsFrame data opcode = wsFraming.units w ∧
        DecodedWsFrame.mk (opcode &&& 0x0f) (Utf8.encode data.text)
          (if opcode &&& 0x0f = 1 then some data.text else none) true = wsFraming.content w := by
    intro data hdata
    obtain rfl := List.mem_singleton.mp hdata
    refine ⟨dataFrame opcode none _ hlt, (bytes_dataFrame _ opcode hlt).symm, ?_⟩
    have hcontent := content_dataFrame opcode none hlt
    rw [Utf8.decode_encode] at hcontent
    exact hcontent.symm
  have hdecode := Framing.decode_flatMap hframes Framing.not_startsWithFrame_nil
  rw [List.append_nil, List.flatMap_singleton] at hdecode
  exact decodeWsFrames_eq hdecode

/-- The JSON is no payload that was meant. -/
theorem encode_bufferJson_ne (bytes : List UInt8) : Utf8.encode (bufferJson bytes) ≠ bytes := by
  intro h
  have hlength := congrArg List.length h
  have hencode := length_le_encode (bufferJson bytes)
  have hjson := (length_bufferJson bytes).1
  omega

/-! ### Control frames -/

/-- The bytes are read as one control frame with this payload, which is not too long. -/
def SendsControl (bytes : List UInt8) (opcode : UInt8) (payload : List UInt8) : Prop :=
  ∃ frame, decodeWsFrames bytes = ⟨[frame], []⟩ ∧ frame.opcode = opcode ∧
    frame.payload = payload ∧ frame.payload.length ≤ 125

def closePayload (code : Nat) (reason : Text) : List UInt8 :=
  BigEndian.toBytes 2 code ++ Utf8.encode reason

theorem not_sendsControl_buffer {bytes : List UInt8} (hbytes : bytes.length ≤ 125)
    (opcode : UInt8) : ¬ SendsControl (encodeWsFrame (.buffer bytes) opcode) opcode bytes := by
  rintro ⟨frame, hdecode, -, hpayload, -⟩
  rw [decode_buffer hbytes] at hdecode
  obtain ⟨rfl, -⟩ := List.cons.inj (DecodedWsFrames.mk.inj hdecode).1
  exact encode_bufferJson_ne bytes hpayload

/-- **No close and no pong frame carries its payload.** -/
theorem control_frames_invalid (code : Nat) (reason : Text) (payload : List UInt8)
    (hreason : (Utf8.encode reason).length ≤ 123) (hpayload : payload.length ≤ 125) :
    ¬ SendsControl (encodeCloseFrame code reason) 0x08 (closePayload code reason) ∧
      ¬ SendsControl (encodePongFrame payload) 0x0a payload := by
  have hclose : (closePayload code reason).length ≤ 125 := by
    rw [closePayload, List.length_append, BigEndian.length_toBytes]
    omega
  exact ⟨not_sendsControl_buffer hclose 0x08, not_sendsControl_buffer hpayload 0x0a⟩

theorem bye_and_ping_invalid :
    ¬ SendsControl (encodeCloseFrame 1000 "bye".toList) 0x08 (closePayload 1000 "bye".toList) ∧
      ¬ SendsControl (encodePongFrame [1, 2]) 0x0a [1, 2] :=
  control_frames_invalid 1000 "bye".toList [1, 2] (by decide) (by decide)

/-- The pong to an empty ping has a payload of 27 bytes. -/
theorem empty_ping_answered_with_json :
    decodeWsFrames (encodePongFrame []) = ⟨[⟨0x0a, Utf8.encode (bufferJson []), none, true⟩], []⟩ ∧
    (Utf8.encode (bufferJson [])).length = 27 ∧
    ¬ ∀ payload : List UInt8, payload.length ≤ 125 →
      SendsControl (encodePongFrame payload) 0x0a payload := by
  refine ⟨decode_buffer (by decide) 0x0a, by decide, fun h => ?_⟩
  exact not_sendsControl_buffer (by decide) 0x0a (h [] (by decide))

/-! ### The chat -/

/-- What the chat writes for a control frame of a client. -/
def controlReply (frame : DecodedWsFrame) : Option (List UInt8) :=
  if frame.opcode = 0x08 then some (encodeCloseFrame 1000 "Closed by client".toList)
  else if frame.opcode = 0x09 then some (encodePongFrame frame.payload)
  else none

/-- **No ping is answered with its payload.** -/
theorem ping_reply_invalid {frame : DecodedWsFrame} (hping : frame.opcode = 0x09)
    (hpayload : frame.payload.length ≤ 125) :
    ∃ reply, controlReply frame = some reply ∧ ¬ SendsControl reply 0x0a frame.payload := by
  refine ⟨encodePongFrame frame.payload, ?_, not_sendsControl_buffer hpayload 0x0a⟩
  rw [controlReply, hping]
  rfl

end BrandBlitz.Chat

import BrandBlitz.Chat.Frames

/-!
# BrandBlitz.Chat.Wire

**What a WebSocket frame is**, apart from how it is read: a first byte, a mask or none, one of
the three forms of the length, and the payload as it is sent. `readFrame` finds exactly these
frames (`readFrame_iff`), so what is known of a `Framing` is known of `decodeWsFrames`.

* Text frames are read as they were written, by the server or by a client
  (`text_frames_round_trip`).
* It does not matter how the bytes of a connection are cut into chunks
  (`chunks_do_not_matter`).
-/

namespace BrandBlitz.Chat

open BrandBlitz.Lib

/-! ### Frames on the wire -/

/-- How the length of the payload is written. -/
inductive LengthForm where
  | short | medium | long
deriving DecidableEq, Repr

namespace LengthForm

/-- The lengths that can be written so are below. -/
def bound : LengthForm → Nat
  | .short => 126
  | .medium => 65536
  | .long => 2 ^ 64

/-- The seven bits of the second byte. -/
def code : LengthForm → Nat → UInt8
  | .short, n => UInt8.ofNat n
  | .medium, _ => 126
  | .long, _ => 127

/-- The bytes after the second one. -/
def extra : LengthForm → Nat → List UInt8
  | .short, _ => []
  | .medium, n => BigEndian.toBytes 2 n
  | .long, n => BigEndian.toBytes 8 n

end LengthForm

abbrev MaskKey := Vector UInt8 4

structure WireFrame where
  b0 : UInt8
  key : Option MaskKey
  form : LengthForm
  /-- the payload as it is sent -/
  sent : List UInt8
  fits : sent.length < form.bound

namespace WireFrame

def maskBit (key : Option MaskKey) : UInt8 := if key.isSome then 0x80 else 0

def keyBytes (key : Option MaskKey) : List UInt8 := (key.map Vector.toList).getD []

def bytes (w : WireFrame) : List UInt8 :=
  w.b0 :: (maskBit w.key ||| w.form.code w.sent.length) ::
    (w.form.extra w.sent.length ++ (keyBytes w.key ++ w.sent))

def payload (w : WireFrame) : List UInt8 :=
  match w.key with
  | some key => applyMask key.toList w.sent
  | none => w.sent

def content (w : WireFrame) : DecodedWsFrame where
  opcode := w.b0 &&& 0x0f
  payload := w.payload
  text := if w.b0 &&& 0x0f = 1 then some (Utf8.decode w.payload) else none
  isFinal := w.b0 &&& 0x80 ≠ 0

end WireFrame

/-! ### The second byte -/

theorem masked_code : ∀ n : Fin 128, (0x80 ||| UInt8.ofNat n.val) &&& 0x7f = UInt8.ofNat n.val ∧
    (0x80 ||| UInt8.ofNat n.val) &&& 0x80 ≠ 0 := by decide +kernel

theorem unmasked_code : ∀ n : Fin 128, UInt8.ofNat n.val &&& 0x7f = UInt8.ofNat n.val ∧
    UInt8.ofNat n.val &&& 0x80 = 0 := by decide +kernel

theorem split_byte : ∀ n : Fin 256,
    (if UInt8.ofNat n.val &&& 0x80 ≠ 0 then 0x80 else 0) ||| (UInt8.ofNat n.val &&& 0x7f) =
      UInt8.ofNat n.val := by decide +kernel

/-- A byte is its mask bit and its seven other bits. -/
theorem eq_maskBit_or (b : UInt8) :
    (if b &&& 0x80 ≠ 0 then 0x80 else 0) ||| (b &&& 0x7f) = b := by
  simpa using split_byte ⟨b.toNat, b.toNat_lt⟩

section
variable {form : LengthForm} {n : Nat}

theorem code_eq_ofNat (h : n < form.bound) : ∃ c : Fin 128, form.code n = UInt8.ofNat c.val := by
  cases form with
  | short => exact ⟨⟨n, by simp only [LengthForm.bound] at h; omega⟩, rfl⟩
  | medium => exact ⟨126, rfl⟩
  | long => exact ⟨127, rfl⟩

theorem or_code_and_127 (h : n < form.bound) (key : Option MaskKey) :
    (WireFrame.maskBit key ||| form.code n) &&& 0x7f = form.code n := by
  obtain ⟨c, hc⟩ := code_eq_ofNat h
  cases key with
  | none => simpa [WireFrame.maskBit, hc] using (unmasked_code c).1
  | some key => simpa [WireFrame.maskBit, hc] using (masked_code c).1

theorem or_code_and_128 (h : n < form.bound) (key : Option MaskKey) :
    (WireFrame.maskBit key ||| form.code n) &&& 0x80 ≠ 0 ↔ key.isSome := by
  obtain ⟨c, hc⟩ := code_eq_ofNat h
  cases key with
  | none => simpa [WireFrame.maskBit, hc] using (unmasked_code c).2
  | some key => simpa [WireFrame.maskBit, hc] using (masked_code c).2

end

/-! ### Reading a frame -/

/-- What `payloadLength` finds is a length in one of the three forms. -/
theorem payloadLength_iff {b0 b1 : UInt8} {tail : List UInt8} {n headerSize : Nat} :
    payloadLength (b0 :: b1 :: tail) b1 = some (n, headerSize) ↔
      ∃ (form : LengthForm) (rest : List UInt8), n < form.bound ∧ b1 &&& 0x7f = form.code n ∧
        tail = form.extra n ++ rest ∧ headerSize = 2 + (form.extra n).length := by
  have hsmall : (b1 &&& 0x7f).toNat < 128 := by
    rw [UInt8.toNat_and]
    exact Nat.lt_of_le_of_lt Nat.and_le_right (by decide)
  simp only [payloadLength, List.length_cons, List.drop_succ_cons, List.drop_zero]
  constructor
  · intro h
    -- the code says how many more bytes there are; what they spell fits, and spells itself
    split_ifs at h with h126 hlength h127 hlength
    · obtain ⟨rfl, rfl⟩ := Prod.mk.inj (Option.some.inj h)
      have htake : (tail.take 2).length = 2 := by rw [List.length_take]; omega
      refine ⟨.medium, tail.drop 2, ?_, UInt8.toNat_inj.mp h126, ?_, by simp [LengthForm.extra]⟩
      · have hlt := BigEndian.ofBytes_lt (tail.take 2)
        rw [htake] at hlt
        exact hlt
      · have hback := BigEndian.toBytes_ofBytes (tail.take 2)
        rw [htake] at hback
        rw [LengthForm.extra, hback, List.take_append_drop]
    · obtain ⟨rfl, rfl⟩ := Prod.mk.inj (Option.some.inj h)
      have htake : (tail.take 8).length = 8 := by rw [List.length_take]; omega
      refine ⟨.long, tail.drop 8, ?_, UInt8.toNat_inj.mp h127, ?_, by simp [LengthForm.extra]⟩
      · have hlt := BigEndian.ofBytes_lt (tail.take 8)
        rw [htake] at hlt
        exact hlt
      · have hback := BigEndian.toBytes_ofBytes (tail.take 8)
        rw [htake] at hback
        rw [LengthForm.extra, hback, List.take_append_drop]
    · obtain ⟨rfl, rfl⟩ := Prod.mk.inj (Option.some.inj h)
      refine ⟨.short, tail, ?_, by simp [LengthForm.code], rfl, rfl⟩
      show (b1 &&& 0x7f).toNat < 126
      omega
  · rintro ⟨form, rest, hfits, hcode, rfl, rfl⟩
    rw [hcode]
    cases form with
    | short =>
        have hn : n < 126 := hfits
        have htoNat : (UInt8.ofNat n).toNat = n := Utf8.toNat_ofNat (by omega)
        simp only [LengthForm.code, LengthForm.extra, htoNat]
        rw [if_neg (by omega), if_neg (by omega)]
        rfl
    | medium =>
        simp only [LengthForm.code, LengthForm.extra, List.length_append,
          BigEndian.length_toBytes]
        rw [if_pos (by decide), if_neg (by omega), List.take_left' (by simp),
          BigEndian.ofBytes_toBytes hfits]
    | long =>
        simp only [LengthForm.code, LengthForm.extra, List.length_append,
          BigEndian.length_toBytes]
        rw [if_neg (by decide), if_pos (by decide), if_neg (by omega), List.take_left' (by simp),
          BigEndian.ofBytes_toBytes hfits]

/-- A frame behind a header that is complete. -/
theorem readFrame_of_header {b0 b1 : UInt8} {header tail : List UInt8} {n : Nat}
    (hlength : payloadLength (b0 :: b1 :: (header ++ tail)) b1 = some (n, 2 + header.length)) :
    readFrame (b0 :: b1 :: (header ++ tail)) =
      let maskSize := if b1 &&& 0x80 ≠ 0 then 4 else 0
      let sent := (tail.drop maskSize).take n
      let payload := if b1 &&& 0x80 ≠ 0 then applyMask (tail.take 4) sent else sent
      if tail.length < maskSize + n then none
      else some (⟨b0 &&& 0x0f, payload,
        if b0 &&& 0x0f = 1 then some (Utf8.decode payload) else none, b0 &&& 0x80 ≠ 0⟩,
        2 + header.length + maskSize + n) := by
  have hsplit : b0 :: b1 :: (header ++ tail) = (b0 :: b1 :: header) ++ tail := rfl
  have hheader : (b0 :: b1 :: header).length = 2 + header.length := by
    simp only [List.length_cons]
    omega
  generalize hsize : (if b1 &&& 0x80 ≠ 0 then 4 else 0) = maskSize
  have hsent : ((b0 :: b1 :: (header ++ tail)).take (2 + header.length + maskSize + n)).drop
      (2 + header.length + maskSize) = (tail.drop maskSize).take n := by
    rw [List.drop_take, hsplit, ← hheader, List.drop_length_add_append]
    congr 1
    omega
  have hmask : (b0 :: b1 :: (header ++ tail)).drop (2 + header.length) = tail := by
    rw [hsplit, ← hheader, List.drop_left]
  have hlengths : (b0 :: b1 :: (header ++ tail)).length < 2 + header.length + maskSize + n ↔
      tail.length < maskSize + n := by
    simp only [List.length_cons, List.length_append]
    omega
  simp only [readFrame, hlength, Option.bind_eq_bind, Option.bind_some, hsize, hsent, hmask,
    hlengths]

theorem readFrame_bytes (w : WireFrame) (rest : List UInt8) :
    readFrame (w.bytes ++ rest) = some (w.content, w.bytes.length) := by
  obtain ⟨b0, key, form, sent, hfits⟩ := w
  have hlength : payloadLength (b0 :: (WireFrame.maskBit key ||| form.code sent.length) ::
      (form.extra sent.length ++ (WireFrame.keyBytes key ++ sent ++ rest)))
      (WireFrame.maskBit key ||| form.code sent.length) =
        some (sent.length, 2 + (form.extra sent.length).length) :=
    payloadLength_iff.mpr ⟨form, _, hfits, or_code_and_127 hfits key, rfl, rfl⟩
  have hbytes : (WireFrame.mk b0 key form sent hfits).bytes ++ rest =
      b0 :: (WireFrame.maskBit key ||| form.code sent.length) ::
        (form.extra sent.length ++ (WireFrame.keyBytes key ++ sent ++ rest)) := by
    simp [WireFrame.bytes]
  rw [hbytes, readFrame_of_header hlength]
  simp only [or_code_and_128 hfits key]
  cases key with
  | none =>
      simp [WireFrame.keyBytes, WireFrame.content, WireFrame.payload, WireFrame.bytes]
      omega
  | some key =>
      have hkey : key.toList.length = 4 := by simp
      simp [WireFrame.keyBytes, WireFrame.content, WireFrame.payload, WireFrame.bytes]
      omega

/-- **`readFrame` finds the frames of the wire.** -/
theorem readFrame_iff {buffer : List UInt8} {frame : DecodedWsFrame} {size : Nat} :
    readFrame buffer = some (frame, size) ↔
      ∃ (w : WireFrame) (rest : List UInt8),
        buffer = w.bytes ++ rest ∧ frame = w.content ∧ size = w.bytes.length := by
  constructor
  · intro hread
    obtain ⟨b0, b1, tail, rfl⟩ : ∃ b0 b1 tail, buffer = b0 :: b1 :: tail := by
      match buffer, hread with
      | b0 :: b1 :: tail, _ => exact ⟨b0, b1, tail, rfl⟩
    obtain ⟨⟨n, headerSize⟩, hlength⟩ :
        ∃ found, payloadLength (b0 :: b1 :: tail) b1 = some found := by
      cases hlength : payloadLength (b0 :: b1 :: tail) b1 with
      | none => simp [readFrame, hlength] at hread
      | some found => exact ⟨found, rfl⟩
    obtain ⟨form, rest, hfits, hcode, rfl, rfl⟩ := payloadLength_iff.mp hlength
    rw [readFrame_of_header hlength] at hread
    have hb1 := eq_maskBit_or b1
    rw [hcode] at hb1
    -- what follows the header is the mask, if there is one, and the payload
    by_cases hmasked : b1 &&& 0x80 ≠ 0
    · simp only [if_pos hmasked] at hread hb1
      by_cases hshort : rest.length < 4 + n
      · rw [if_pos hshort] at hread
        cases hread
      · rw [if_neg hshort] at hread
        obtain ⟨hframe, hsize⟩ := Prod.mk.inj (Option.some.inj hread)
        have hkey : (rest.take 4).length = 4 := by rw [List.length_take]; omega
        have hsent : ((rest.drop 4).take n).length = n := by
          rw [List.length_take, List.length_drop]
          omega
        refine ⟨⟨b0, some ⟨(rest.take 4).toArray, by simpa using hkey⟩, form,
          (rest.drop 4).take n, by rwa [hsent]⟩, rest.drop (4 + n), ?_, hframe.symm, ?_⟩
        · simp [WireFrame.bytes, WireFrame.maskBit, WireFrame.keyBytes, hsent, hb1,
            ← List.drop_drop]
        · simp only [WireFrame.bytes, WireFrame.keyBytes, hsent, List.length_cons,
            List.length_append, Option.map_some, Option.getD_some, Vector.length_toList]
          omega
    · simp only [if_neg hmasked] at hread hb1
      by_cases hshort : rest.length < 0 + n
      · rw [if_pos hshort] at hread
        cases hread
      · rw [if_neg hshort] at hread
        obtain ⟨hframe, hsize⟩ := Prod.mk.inj (Option.some.inj hread)
        have hsent : (rest.take n).length = n := by rw [List.length_take]; omega
        refine ⟨⟨b0, none, form, rest.take n, by rwa [hsent]⟩, rest.drop n, ?_, hframe.symm, ?_⟩
        · simp [WireFrame.bytes, WireFrame.maskBit, WireFrame.keyBytes, hsent, ← hb1]
        · simp only [WireFrame.bytes, WireFrame.keyBytes, hsent, List.length_cons,
            List.length_append, Option.map_none, Option.getD_none, List.length_nil]
          omega
  · rintro ⟨w, rest, rfl, rfl, rfl⟩
    exact readFrame_bytes w rest

/-! ### Reading a buffer -/

def wsFraming : Framing UInt8 DecodedWsFrame WireFrame where
  units := WireFrame.bytes
  content := WireFrame.content
  units_ne_nil w := by simp [WireFrame.bytes]
  read := readFrame
  read_iff := readFrame_iff

structure DecodedWsFrames where
  frames : List DecodedWsFrame
  remaining : List UInt8
deriving DecidableEq, Repr

def decodeWsFrames (buffer : List UInt8) : DecodedWsFrames :=
  let (frames, remaining) := wsFraming.decode buffer
  ⟨frames, remaining⟩

theorem decodeWsFrames_eq {buffer remaining : List UInt8} {frames : List DecodedWsFrame}
    (h : wsFraming.decode buffer = (frames, remaining)) :
    decodeWsFrames buffer = ⟨frames, remaining⟩ := by
  rw [decodeWsFrames, h]

/-! ### Data frames -/

/-- `encodeWsFrame` as a client sends it: with the mask bit, the key behind the header, and a
masked payload. -/
def maskedFrame (key : MaskKey) (data : WsData) (opcode : UInt8) : List UInt8 :=
  let payload := Utf8.encode data.text
  (frameHeader opcode payload.length).modify 1 (0x80 ||| ·) ++ key.toList ++
    applyMask key.toList payload

/-- Masking is its own inverse. -/
theorem applyMask_applyMask (mask payload : List UInt8) :
    applyMask mask (applyMask mask payload) = payload := by
  refine List.ext_getElem (by simp [applyMask]) fun i _ _ => ?_
  simp only [applyMask, List.getElem_mapIdx]
  rw [UInt8.xor_assoc, UInt8.xor_self, UInt8.xor_zero]

theorem length_applyMask (mask payload : List UInt8) :
    (applyMask mask payload).length = payload.length := by
  simp [applyMask]

/-- The payload under a mask, if there is one. -/
def underMask (key : Option MaskKey) (payload : List UInt8) : List UInt8 :=
  match key with
  | some key => applyMask key.toList payload
  | none => payload

theorem length_underMask (key : Option MaskKey) (payload : List UInt8) :
    (underMask key payload).length = payload.length := by
  cases key with
  | none => rfl
  | some key => exact length_applyMask _ _

def formOf (length : Nat) : LengthForm :=
  if length ≤ 125 then .short else if length ≤ 65535 then .medium else .long

theorem lt_bound_formOf {length : Nat} (h : length < 2 ^ 64) : length < (formOf length).bound := by
  unfold formOf
  split_ifs <;> simp only [LengthForm.bound] <;> omega

/-- A frame of the wire with this payload. -/
def dataFrame (opcode : UInt8) (key : Option MaskKey) (payload : List UInt8)
    (h : payload.length < 2 ^ 64) : WireFrame where
  b0 := 0x80 ||| (opcode &&& 0x0f)
  key := key
  form := formOf payload.length
  sent := underMask key payload
  fits := by
    rw [length_underMask]
    exact lt_bound_formOf h

theorem and_15_of_final : ∀ n : Fin 256,
    (0x80 ||| (UInt8.ofNat n.val &&& 0x0f)) &&& 0x0f = UInt8.ofNat n.val &&& 0x0f ∧
      (0x80 ||| (UInt8.ofNat n.val &&& 0x0f)) &&& 0x80 ≠ 0 := by decide +kernel

/-- What a data frame is read as. -/
theorem content_dataFrame (opcode : UInt8) (key : Option MaskKey) {payload : List UInt8}
    (h : payload.length < 2 ^ 64) :
    (dataFrame opcode key payload h).content =
      ⟨opcode &&& 0x0f, payload,
        if opcode &&& 0x0f = 1 then some (Utf8.decode payload) else none, true⟩ := by
  have hpayload : (dataFrame opcode key payload h).payload = payload := by
    cases key with
    | none => rfl
    | some key => exact applyMask_applyMask _ _
  obtain ⟨hopcode, hfinal⟩ := and_15_of_final ⟨opcode.toNat, opcode.toNat_lt⟩
  simp only [UInt8.ofNat_toNat] at hopcode hfinal
  have hb0 : (dataFrame opcode key payload h).b0 = 0x80 ||| (opcode &&& 0x0f) := rfl
  simp only [WireFrame.content, hpayload, hb0, hopcode, hfinal, ne_eq, not_false_eq_true,
    decide_true]

theorem frameHeader_eq (opcode : UInt8) (length : Nat) :
    frameHeader opcode length = (0x80 ||| (opcode &&& 0x0f)) ::
      (formOf length).code length :: (formOf length).extra length := by
  unfold frameHeader formOf
  split_ifs <;> rfl

/-- The server's frames are frames of the wire. -/
theorem bytes_dataFrame (data : WsData) (opcode : UInt8)
    (h : (Utf8.encode data.text).length < 2 ^ 64) :
    (dataFrame opcode none (Utf8.encode data.text) h).bytes = encodeWsFrame data opcode := by
  simp [WireFrame.bytes, WireFrame.maskBit, WireFrame.keyBytes, dataFrame, underMask,
    encodeWsFrame, frameHeader_eq]

/-- So are the client's. -/
theorem bytes_dataFrame_masked (key : MaskKey) (data : WsData) (opcode : UInt8)
    (h : (Utf8.encode data.text).length < 2 ^ 64) :
    (dataFrame opcode (some key) (Utf8.encode data.text) h).bytes =
      maskedFrame key data opcode := by
  simp [WireFrame.bytes, WireFrame.maskBit, WireFrame.keyBytes, dataFrame, underMask,
    maskedFrame, frameHeader_eq, length_applyMask]

/-! ### Text frames -/

/-- What a string is read as. -/
def textFrame (text : Text) : DecodedWsFrame := ⟨1, Utf8.encode text, some text, true⟩

theorem content_textFrame (key : Option MaskKey) {text : Text}
    (h : (Utf8.encode text).length < 2 ^ 64) :
    (dataFrame 0x01 key (Utf8.encode text) h).content = textFrame text := by
  rw [content_dataFrame, textFrame, Utf8.decode_encode]
  rfl

/-- **Text frames are read as they were written**, by the server or by a client, one after
another. -/
theorem text_frames_round_trip (strings : List Text)
    (hsize : ∀ text ∈ strings, (Utf8.encode text).length < 2 ^ 53) :
    decodeWsFrames (strings.flatMap fun text => encodeWsFrame (.string text) 0x01) =
      ⟨strings.map textFrame, []⟩ ∧
    ∀ sent : List (MaskKey × Text), sent.map Prod.snd = strings →
      decodeWsFrames (sent.flatMap fun (key, text) => maskedFrame key (.string text) 0x01) =
        ⟨strings.map textFrame, []⟩ := by
  have hfits : ∀ text ∈ strings, (Utf8.encode text).length < 2 ^ 64 := fun text htext =>
    Nat.lt_trans (hsize text htext) (by decide)
  constructor
  · have hframes : ∀ text ∈ strings, ∃ w : WireFrame,
        encodeWsFrame (.string text) 0x01 = wsFraming.units w ∧
          textFrame text = wsFraming.content w := by
      intro text htext
      have hlt := hfits text htext
      exact ⟨dataFrame 0x01 none _ hlt, (bytes_dataFrame (.string text) 0x01 hlt).symm,
        (content_textFrame none hlt).symm⟩
    have hdecode := Framing.decode_flatMap hframes Framing.not_startsWithFrame_nil
    rw [List.append_nil] at hdecode
    exact decodeWsFrames_eq hdecode
  · rintro sent rfl
    have hframes : ∀ frame ∈ sent, ∃ w : WireFrame,
        maskedFrame frame.1 (.string frame.2) 0x01 = wsFraming.units w ∧
          textFrame frame.2 = wsFraming.content w := by
      intro frame hframe
      have hlt := hfits frame.2 (List.mem_map_of_mem hframe)
      exact ⟨dataFrame 0x01 (some frame.1) _ hlt,
        (bytes_dataFrame_masked frame.1 (.string frame.2) 0x01 hlt).symm,
        (content_textFrame (some frame.1) hlt).symm⟩
    have hdecode := Framing.decode_flatMap hframes Framing.not_startsWithFrame_nil
    rw [List.append_nil] at hdecode
    rw [decodeWsFrames_eq hdecode, List.map_map]
    rfl

/-- A short and a medium frame. -/
theorem two_frames_round_trip :
    decodeWsFrames (encodeWsFrame (.string "hi".toList) 0x01 ++
      encodeWsFrame (.string (List.replicate 126 'a')) 0x01) =
        ⟨[textFrame "hi".toList, textFrame (List.replicate 126 'a')], []⟩ := by
  have h := (text_frames_round_trip ["hi".toList, List.replicate 126 'a'] (by decide +kernel)).1
  simpa using h

/-! ### Chunks -/

/-- One `data` event: the frames that the chunk completes, and the new buffer. -/
def onData (buffer chunk : List UInt8) : DecodedWsFrames := decodeWsFrames (buffer ++ chunk)

/-- The `data` events of a connection, which starts with the buffer `head`. -/
def receive (head : List UInt8) (chunks : List (List UInt8)) : DecodedWsFrames :=
  chunks.foldl (fun state chunk =>
    let next := onData state.remaining chunk
    ⟨state.frames ++ next.frames, next.remaining⟩) ⟨[], head⟩

theorem foldl_onData (chunks : List (List UInt8)) (frames : List DecodedWsFrame)
    (buffer : List UInt8) :
    chunks.foldl (fun state chunk =>
      let next := onData state.remaining chunk
      DecodedWsFrames.mk (state.frames ++ next.frames) next.remaining) ⟨frames, buffer⟩ =
      let (frames, remaining) := chunks.foldl wsFraming.feed (frames, buffer)
      ⟨frames, remaining⟩ := by
  induction chunks generalizing frames buffer with
  | nil => rfl
  | cons chunk chunks ih => exact ih _ _

/-- **It does not matter how the bytes are cut into chunks.** What came with the upgrade is read
with the first chunk. -/
theorem chunks_do_not_matter (chunks : List (List UInt8)) :
    receive [] chunks = decodeWsFrames chunks.flatten ∧
    (∀ head chunk, receive head (chunk :: chunks) =
      decodeWsFrames (head ++ (chunk :: chunks).flatten)) ∧
    ∀ (w : WireFrame) (rest : List UInt8), (receive [] chunks).remaining ≠ w.bytes ++ rest := by
  have hall : receive [] chunks = decodeWsFrames chunks.flatten := by
    rw [receive, foldl_onData, Framing.foldl_feed chunks Framing.not_startsWithFrame_nil]
    rfl
  -- the buffer at the upgrade counts as a part of the first chunk
  refine ⟨hall, fun head chunk => ?_, fun w rest hremaining => ?_⟩
  · have hfirst : receive head (chunk :: chunks) = receive [] ((head ++ chunk) :: chunks) := rfl
    rw [hfirst, receive, foldl_onData, Framing.foldl_feed _ Framing.not_startsWithFrame_nil,
      List.flatten_cons, List.flatten_cons, ← List.append_assoc head]
    rfl
  · rw [hall] at hremaining
    exact wsFraming.not_startsWithFrame_decode chunks.flatten ⟨w, rest, hremaining⟩

/-- **What a connection is read as**: whatever arrives, in whatever chunks, its complete frames,
of any opcode, masked or not, final or not, and a rest that does not start with one. -/
theorem receive_eq_iff (chunks : List (List UInt8)) (frames : List DecodedWsFrame)
    (remaining : List UInt8) :
    receive [] chunks = ⟨frames, remaining⟩ ↔ ∃ ws : List WireFrame,
      chunks.flatten = ws.flatMap WireFrame.bytes ++ remaining ∧
        frames = ws.map WireFrame.content ∧
          ∀ (w : WireFrame) (rest : List UInt8), remaining ≠ w.bytes ++ rest := by
  have hrest : ¬ wsFraming.StartsWithFrame remaining ↔
      ∀ (w : WireFrame) (rest : List UInt8), remaining ≠ w.bytes ++ rest :=
    not_exists.trans (forall_congr' fun _ => not_exists)
  rw [receive, foldl_onData, Framing.foldl_feed chunks Framing.not_startsWithFrame_nil, ← hrest]
  refine Iff.trans ?_ (Framing.decode_eq_iff (F := wsFraming))
  simp [Prod.ext_iff]

end BrandBlitz.Chat

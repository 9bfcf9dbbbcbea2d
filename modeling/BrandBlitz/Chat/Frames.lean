import BrandBlitz.Lib.BigEndian
import BrandBlitz.Lib.Framing
import BrandBlitz.Lib.Utf8
import BrandBlitz.Stellar.Client

/-!
# BrandBlitz.Chat.Frames

**WebSocket frames** (`apps/api/src/lib/ws-frame.ts`, and what the chat does with the bytes of a
connection in `apps/api/src/routes/challenges.chat.ts`).

* A buffer has fewer than 2^53 bytes, so offsets are exact and a length that `Number` rounds
  lies beyond every buffer.
* The loop of `decodeWsFrames` is over the bytes from the offset on: `readFrame` is one turn.
* What UTF-8 does not write (a lone surrogate) `Buffer.from` replaces by U+FFFD; a string stands
  for what it is after that.
-/

namespace BrandBlitz.Chat

open BrandBlitz.Lib

/-! ### Encoding -/

/-- What a frame is made of. -/
inductive WsData where
  | string (text : Text)
  | buffer (bytes : List UInt8)
  /-- any other object, by its `JSON.stringify` -/
  | object (stringified : Text)

def bufferJsonOpen : Text := "\x7b\"type\":\"Buffer\",\"data\":[".toList

def bufferJsonClose : Text := "]\x7d".toList

/-- `JSON.stringify(buffer)`. -/
def bufferJson (bytes : List UInt8) : Text :=
  bufferJsonOpen ++ [','].intercalate (bytes.map fun b => Nat.toDigits 10 b.toNat) ++
    bufferJsonClose

/-- `typeof data === "string" ? data : JSON.stringify(data)`. -/
def WsData.text : WsData → Text
  | .string text => text
  | .buffer bytes => bufferJson bytes
  | .object stringified => stringified

def frameHeader (opcode : UInt8) (length : Nat) : List UInt8 :=
  if length ≤ 125 then [0x80 ||| (opcode &&& 0x0f), UInt8.ofNat length]
  else if length ≤ 65535 then
    [0x80 ||| (opcode &&& 0x0f), 126] ++ BigEndian.toBytes 2 length
  else [0x80 ||| (opcode &&& 0x0f), 127] ++ BigEndian.toBytes 8 length

def encodeWsFrame (data : WsData) (opcode : UInt8) : List UInt8 :=
  let payload := Utf8.encode data.text
  frameHeader opcode payload.length ++ payload

def encodeCloseFrame (code : Nat) (reason : Text) : List UInt8 :=
  encodeWsFrame (.buffer (BigEndian.toBytes 2 code ++ Utf8.encode reason)) 0x08

def encodePongFrame (payload : List UInt8) : List UInt8 := encodeWsFrame (.buffer payload) 0x0a

/-! ### Decoding -/

structure DecodedWsFrame where
  opcode : UInt8
  payload : List UInt8
  text : Option Text
  isFinal : Bool
deriving DecidableEq, Repr

/-- `payload[i] ^ mask[i % 4]`, for every byte. -/
def applyMask (mask payload : List UInt8) : List UInt8 :=
  payload.mapIdx fun i b => b ^^^ mask.getD (i % 4) 0

/-- The payload's length and the size of the header without the mask, if the header is there. -/
def payloadLength (buffer : List UInt8) (b1 : UInt8) : Option (Nat × Nat) :=
  let payloadLen := (b1 &&& 0x7f).toNat
  if payloadLen = 126 then
    if buffer.length < 4 then none
    else some (BigEndian.ofBytes ((buffer.drop 2).take 2), 4)
  else if payloadLen = 127 then
    if buffer.length < 10 then none
    else some (BigEndian.ofBytes ((buffer.drop 2).take 8), 10)
  else some (payloadLen, 2)

/-- The frame at the start of the buffer and its size. -/
def readFrame (buffer : List UInt8) : Option (DecodedWsFrame × Nat) :=
  match buffer with
  | b0 :: b1 :: _ => do
    let isFinal := b0 &&& 0x80 ≠ 0
    let opcode := b0 &&& 0x0f
    let isMasked := b1 &&& 0x80 ≠ 0
    let (payloadLen, headerSize) ← payloadLength buffer b1
    let maskSize := if isMasked then 4 else 0
    let totalSize := headerSize + maskSize + payloadLen
    if buffer.length < totalSize then none
    else
      let sent := (buffer.take totalSize).drop (headerSize + maskSize)
      let payload :=
        if isMasked then applyMask ((buffer.drop headerSize).take 4) sent else sent
      some (⟨opcode, payload, if opcode = 1 then some (Utf8.decode payload) else none, isFinal⟩,
        totalSize)
  | _ => none

end BrandBlitz.Chat

import BrandBlitz.Lib.BigEndian

/-!
# BrandBlitz.Lib.EncryptedContent

**Encrypted content as a user agent receives it**: the content coding `aes128gcm` of RFC 8188, with
the keys of RFC 8291, for content of one record.

* The primitives are parameters. Of the encryption it is assumed that what is sealed is opened with
  the key, the nonce and the additional data that it was sealed with, and with no others
  (`OpensOnly`).
* The coding has no additional data. `receiveWith` is the receiver for any other choice, and opens
  a message just when the choice is what the message was sealed with (`receiveWith_sealed`).
-/

namespace BrandBlitz.Lib.EncryptedContent

abbrev Bytes := List UInt8

/-! ### Primitives -/

/-- The plaintext of a ciphertext, by key, nonce and additional data. -/
abbrev Opener := Bytes → Bytes → Bytes → Bytes → Option Bytes

/-- Nothing else than what was used to seal opens a ciphertext. -/
structure OpensOnly (encrypt : Bytes → Bytes → Bytes → Bytes → Bytes) (opener : Opener) : Prop where
  same : ∀ key nonce additional plaintext,
    opener key nonce additional (encrypt key nonce additional plaintext) = some plaintext
  other : ∀ key nonce additional key' nonce' additional' plaintext,
    (key', nonce', additional') ≠ (key, nonce, additional) →
      opener key' nonce' additional' (encrypt key nonce additional plaintext) = none

structure Primitives where
  hmacSha256 : Bytes → Bytes → Bytes
  /-- the shared secret of a private key and a public key -/
  ecdh : Bytes → Bytes → Option Bytes
  opener : Opener

/-! ### The header -/

structure Header where
  salt : Bytes
  recordSize : Nat
  keyId : Bytes
deriving DecidableEq, Repr

def Header.bytes (h : Header) : Bytes :=
  h.salt ++ (BigEndian.toBytes 4 h.recordSize ++ (UInt8.ofNat h.keyId.length :: h.keyId))

/-- A header that can be written. -/
structure Header.Fits (h : Header) : Prop where
  salt : h.salt.length = 16
  recordSize : h.recordSize < 2 ^ 32
  keyId : h.keyId.length < 2 ^ 8

theorem Header.Fits.bytes_ne_nil {h : Header} (hfits : h.Fits) : h.bytes ≠ [] := by
  intro hnil
  have hlength := congrArg List.length hnil
  rw [Header.bytes, List.length_append, hfits.salt] at hlength
  simp at hlength

/-- The header of a message, and what follows it. -/
def parseHeader (message : Bytes) : Option (Header × Bytes) :=
  match message.drop 20 with
  | [] => none
  | idlen :: rest =>
    if rest.length < idlen.toNat then none
    else
      some (⟨message.take 16, BigEndian.ofBytes ((message.drop 16).take 4), rest.take idlen.toNat⟩,
        rest.drop idlen.toNat)

theorem parseHeader_bytes {h : Header} (hfits : h.Fits) (record : Bytes) :
    parseHeader (h.bytes ++ record) = some (h, record) := by
  obtain ⟨salt, recordSize, keyId⟩ := h
  obtain ⟨hsalt, hsize, hid⟩ := hfits
  have hlength : (UInt8.ofNat keyId.length).toNat = keyId.length := by
    rw [UInt8.toNat_ofNat']
    exact Nat.mod_eq_of_lt hid
  have hsize : recordSize < 256 ^ 4 := hsize
  have hsalted : ((⟨salt, recordSize, keyId⟩ : Header).bytes ++ record).drop 16 =
      BigEndian.toBytes 4 recordSize ++ (UInt8.ofNat keyId.length :: (keyId ++ record)) := by
    simp only [Header.bytes, List.append_assoc, List.cons_append]
    rw [← hsalt, List.drop_left]
  have hrest : ((⟨salt, recordSize, keyId⟩ : Header).bytes ++ record).drop 20 =
      UInt8.ofNat keyId.length :: (keyId ++ record) := by
    rw [show 20 = 16 + 4 from rfl, ← List.drop_drop, hsalted]
    exact List.drop_left' (BigEndian.length_toBytes 4 recordSize)
  have htake : ((⟨salt, recordSize, keyId⟩ : Header).bytes ++ record).take 16 = salt := by
    simp only [Header.bytes, List.append_assoc]
    rw [← hsalt, List.take_left]
  unfold parseHeader
  rw [hrest]
  simp only [hlength, hsalted, htake, List.take_left, List.drop_left,
    List.take_left' (BigEndian.length_toBytes 4 recordSize), BigEndian.ofBytes_toBytes hsize]
  rw [if_neg (by simp)]

/-! ### Keys -/

namespace Primitives

variable (P : Primitives)

/-- HKDF, for no more than 32 bytes. -/
def hkdf (salt ikm info : Bytes) (length : Nat) : Bytes :=
  (P.hmacSha256 (P.hmacSha256 salt ikm) (info ++ [1])).take length

end Primitives

/-- The bytes of an ASCII text, and a zero. -/
def label (text : String) : Bytes := text.toList.map (fun c => UInt8.ofNat c.toNat) ++ [0]

/-- A user agent with a subscription. -/
structure UserAgent where
  privateKey : Bytes
  publicKey : Bytes
  authSecret : Bytes
deriving DecidableEq, Repr

/-- The key and the nonce of a message whose sender has the public key `serverKey`. -/
def contentKeys (P : Primitives) (ua : UserAgent) (salt serverKey secret : Bytes) : Bytes × Bytes :=
  let ikm := P.hkdf ua.authSecret secret (label "WebPush: info" ++ ua.publicKey ++ serverKey) 32
  (P.hkdf salt ikm (label "Content-Encoding: aes128gcm") 16,
    P.hkdf salt ikm (label "Content-Encoding: nonce") 12)

/-! ### Records -/

/-- The data of the last record: before the delimiter 2 and the zeros that follow it. -/
def unpad (plaintext : Bytes) : Option Bytes :=
  match plaintext.reverse.dropWhile (· = 0) with
  | 2 :: data => some data.reverse
  | _ => none

theorem unpad_delimiter (data : Bytes) : unpad (data ++ [2]) = some data := by
  have htwo : (data ++ [2]).reverse.dropWhile (· = 0) = 2 :: data.reverse := by
    rw [List.reverse_append]
    rfl
  rw [unpad, htwo]
  simp

/-- What a user agent reads that takes `additional header` for the additional data of a message
with this header. The record is single: with its tag of 16 bytes it is no longer than the record
size. -/
def receiveWith (P : Primitives) (additional : Bytes → Bytes) (ua : UserAgent) (message : Bytes) :
    Option Bytes := do
  let (header, record) ← parseHeader message
  let secret ← P.ecdh ua.privateKey header.keyId
  let keys := contentKeys P ua header.salt header.keyId secret
  let plaintext ← P.opener keys.1 keys.2 (additional header.bytes) record
  if header.recordSize < plaintext.length + 16 then none else unpad plaintext

/-- What a user agent reads. -/
def receive (P : Primitives) (ua : UserAgent) (message : Bytes) : Option Bytes :=
  receiveWith P (fun _ => []) ua message

section
variable {P : Primitives} {encrypt : Bytes → Bytes → Bytes → Bytes → Bytes} {ua : UserAgent}
  {header : Header} {secret data sealedWith : Bytes}

/-- **A message is read just with the additional data that it was sealed with.** -/
theorem receiveWith_sealed (additional : Bytes → Bytes) (hopens : OpensOnly encrypt P.opener)
    (hfits : header.Fits) (hsecret : P.ecdh ua.privateKey header.keyId = some secret)
    (hsize : data.length + 1 + 16 ≤ header.recordSize) :
    receiveWith P additional ua
        (header.bytes ++
          encrypt (contentKeys P ua header.salt header.keyId secret).1
            (contentKeys P ua header.salt header.keyId secret).2 sealedWith (data ++ [2])) =
      if additional header.bytes = sealedWith then some data else none := by
  unfold receiveWith
  simp only [parseHeader_bytes hfits, Option.bind_eq_bind, Option.bind_some, hsecret]
  split
  next hsame =>
    rw [hsame, hopens.same, Option.bind_some, if_neg, unpad_delimiter]
    rw [List.length_append, List.length_singleton]
    omega
  next hother =>
    rw [hopens.other _ _ _ _ _ _ _ (by simpa using hother), Option.bind_none]

end

end BrandBlitz.Lib.EncryptedContent

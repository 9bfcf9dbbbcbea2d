import BrandBlitz.Lib.EncryptedContent
import BrandBlitz.Network.WebPush

/-!
# BrandBlitz.Network.PushDecryption

**Can a push message be read?** What `encryptPushPayload` of `apps/api/src/lib/web-push.ts` makes,
and what a user agent does with it that follows RFC 8291 and RFC 8188.

The keys agree, and so do the header and the padding. But the message is sealed with its header as
additional data, and the content coding has none, so that no message is ever read
(`receive_encrypted`); a user agent that takes the header for the additional data reads all of them
(`receiveWith_encrypted`).
-/

namespace BrandBlitz.Network

open BrandBlitz.Lib BrandBlitz.Lib.EncryptedContent

/-- `crypto` with the decryption of the user agent. -/
def PushCrypto.primitives (crypto : PushCrypto) (opener : Opener) : Primitives where
  hmacSha256 := crypto.hmacSha256
  ecdh privateKey publicKey := (crypto.computeSecret privateKey publicKey).toOption
  opener := opener

/-- What is known of the primitives. -/
structure PushCrypto.IsSound (crypto : PushCrypto) (opener : Opener) : Prop where
  /-- both ends compute one secret -/
  commutes : ∀ a b A B, crypto.publicKey a = .ok A → crypto.publicKey b = .ok B →
    crypto.computeSecret a B = crypto.computeSecret b A
  /-- uncompressed points of P-256 -/
  point : ∀ a A, crypto.publicKey a = .ok A → A.length = 65
  opens : OpensOnly crypto.aes128gcm opener

/-- The subscription is that of the user agent. -/
structure Subscribed (crypto : PushCrypto) (ua : UserAgent) (keys : WebPushKeys) : Prop where
  pair : crypto.publicKey ua.privateKey = .ok ua.publicKey
  p256dh : base64UrlDecode keys.p256dh = .ok ua.publicKey
  auth : base64UrlDecode keys.auth = .ok ua.authSecret

section
variable {crypto : PushCrypto} {opener : Opener} {ua : UserAgent} {keys : WebPushKeys}
  {draw : PushDraw} {message : WebPushMessage} {recordSize : Nat} {payload : EncryptedPushPayload}

/-! ### What is sent -/

theorem label_eq : label "WebPush: info" = Utf8.encode "WebPush: info\x00".toList ∧
    label "Content-Encoding: aes128gcm" = Utf8.encode "Content-Encoding: aes128gcm\x00".toList ∧
    label "Content-Encoding: nonce" = Utf8.encode "Content-Encoding: nonce\x00".toList := by
  decide

/-- The body is a header, and the message sealed with the keys of the user agent and that header. -/
theorem body_of_encryptPushPayload (opener : Opener) (hkeys : Subscribed crypto ua keys)
    (h : crypto.encryptPushPayload draw keys message recordSize = .ok payload) :
    ∃ serverKey secret, crypto.publicKey draw.localKey = .ok serverKey ∧
      crypto.computeSecret draw.localKey ua.publicKey = .ok secret ∧
      (Utf8.encode message.json).length + 1 + 16 ≤ recordSize ∧ recordSize < 2 ^ 32 ∧
      payload.body =
        (⟨draw.salt, recordSize, serverKey⟩ : Header).bytes ++
          crypto.aes128gcm
            (contentKeys (crypto.primitives opener) ua draw.salt serverKey secret).1
            (contentKeys (crypto.primitives opener) ua draw.salt serverKey secret).2
            (⟨draw.salt, recordSize, serverKey⟩ : Header).bytes
            (Utf8.encode message.json ++ [2]) := by
  unfold PushCrypto.encryptPushPayload at h
  rw [hkeys.p256dh, hkeys.auth] at h
  simp only [bind, Except.bind, pure, Except.pure] at h
  split at h
  next => cases h
  next =>
    split at h
    next => cases h
    next =>
      split at h
      next => cases h
      next serverKey hserver =>
        split at h
        next => cases h
        next secret hsecret =>
          split at h
          next => cases h
          next hsize =>
            split at h
            next => cases h
            next hfits =>
              obtain rfl := Except.ok.inj h
              rw [List.length_append, List.length_singleton, not_lt] at hsize
              refine ⟨serverKey, secret, hserver, hsecret, hsize, not_le.mp hfits, ?_⟩
              simp only [Header.bytes, List.append_assoc, List.cons_append, List.nil_append,
                contentKeys, Primitives.hkdf, PushCrypto.hkdfExpand, PushCrypto.hkdfExtract,
                PushCrypto.primitives, label_eq]

/-! ### What is read -/

/-- The header of a message is the one choice of additional data with which it is read. -/
theorem receiveWith_encrypted (hsound : crypto.IsSound opener) (hkeys : Subscribed crypto ua keys)
    (hsalt : draw.salt.length = 16)
    (h : crypto.encryptPushPayload draw keys message recordSize = .ok payload) :
    ∃ header : Header, header.Fits ∧ ∀ additional : Bytes → Bytes,
      receiveWith (crypto.primitives opener) additional ua payload.body =
        if additional header.bytes = header.bytes then some (Utf8.encode message.json)
        else none := by
  obtain ⟨serverKey, secret, hserver, hsecret, hsize, hfits, hbody⟩ :=
    body_of_encryptPushPayload opener hkeys h
  have hheader : (⟨draw.salt, recordSize, serverKey⟩ : Header).Fits := by
    refine ⟨hsalt, hfits, ?_⟩
    show serverKey.length < 2 ^ 8
    rw [hsound.point _ _ hserver]
    decide
  have hsame : crypto.computeSecret ua.privateKey serverKey = .ok secret := by
    rw [hsound.commutes _ _ _ _ hkeys.pair hserver, hsecret]
  refine ⟨_, hheader, fun additional => ?_⟩
  rw [hbody]
  refine receiveWith_sealed additional hsound.opens hheader ?_ hsize
  show (crypto.computeSecret ua.privateKey serverKey).toOption = some secret
  rw [hsame]
  rfl

theorem receive_encrypted (hsound : crypto.IsSound opener) (hkeys : Subscribed crypto ua keys)
    (hsalt : draw.salt.length = 16)
    (h : crypto.encryptPushPayload draw keys message recordSize = .ok payload) :
    receive (crypto.primitives opener) ua payload.body = none := by
  obtain ⟨header, hfits, hreceive⟩ := receiveWith_encrypted hsound hkeys hsalt h
  rw [receive, hreceive, if_neg hfits.bytes_ne_nil.symm]

end

/-- **No push message can be read** by a user agent that follows the two RFCs: whatever the keys,
the message and the record size are, as long as they are accepted. -/
theorem push_message_unreadable (crypto : PushCrypto) (opener : Opener)
    (hsound : crypto.IsSound opener) (ua : UserAgent) (keys : WebPushKeys)
    (hkeys : Subscribed crypto ua keys) (draw : PushDraw) (hsalt : draw.salt.length = 16)
    (message : WebPushMessage) (recordSize : Nat) (payload : EncryptedPushPayload)
    (h : crypto.encryptPushPayload draw keys message recordSize = .ok payload) :
    receive (crypto.primitives opener) ua payload.body ≠ some (Utf8.encode message.json) := by
  rw [receive_encrypted hsound hkeys hsalt h]
  exact (Option.some_ne_none _).symm

/-! ### A cipher that opens only what it sealed -/

/-- Bytes, marked one by one. -/
def marked (bytes : Bytes) : Bytes := bytes.flatMap (fun b => [1, b]) ++ [0]

theorem marked_append_inj {bytes bytes' rest rest' : Bytes}
    (h : marked bytes ++ rest = marked bytes' ++ rest') : bytes = bytes' ∧ rest = rest' := by
  induction bytes generalizing bytes' with
  | nil =>
      cases bytes' with
      | nil => exact ⟨rfl, (List.cons.inj h).2⟩
      | cons b bytes' => exact absurd (List.cons.inj h).1 (by decide)
  | cons b bytes ih =>
      cases bytes' with
      | nil => exact absurd (List.cons.inj h).1 (by decide)
      | cons b' bytes' =>
          obtain ⟨hb, htail⟩ := List.cons.inj (List.cons.inj h).2
          obtain ⟨hbytes, hrest⟩ := ih htail
          exact ⟨by rw [hb, hbytes], hrest⟩

def markWith (key nonce additional : Bytes) : Bytes :=
  marked key ++ (marked nonce ++ marked additional)

/-- The sample platform, with a cipher that writes down what it is used with. -/
def markingCrypto : PushCrypto :=
  { samplePlatform.crypto with
    aes128gcm := fun key nonce additional plaintext => markWith key nonce additional ++ plaintext }

def markingOpener : Opener := fun key nonce additional ciphertext =>
  let mark := markWith key nonce additional
  if mark.isPrefixOf ciphertext then some (ciphertext.drop mark.length) else none

theorem markingCrypto_isSound : markingCrypto.IsSound markingOpener where
  commutes _ _ _ _ _ _ := rfl
  point _ _ h := by
    obtain rfl := Except.ok.inj h
    rfl
  opens := {
    same := fun key nonce additional plaintext => by
      have hprefix : (markWith key nonce additional).isPrefixOf
          (markWith key nonce additional ++ plaintext) = true :=
        List.isPrefixOf_iff_prefix.mpr (List.prefix_append _ _)
      exact (if_pos hprefix).trans (congrArg some List.drop_left)
    other := fun key nonce additional key' nonce' additional' plaintext hne => by
      refine if_neg fun hprefix => hne ?_
      obtain ⟨rest, hrest⟩ := List.isPrefixOf_iff_prefix.mp hprefix
      simp only [markingCrypto, markWith, List.append_assoc] at hrest
      obtain ⟨hkey, hrest⟩ := marked_append_inj hrest
      obtain ⟨hnonce, hrest⟩ := marked_append_inj hrest
      rw [hkey, hnonce, (marked_append_inj hrest).1] }

def sampleAgent : UserAgent where
  privateKey := List.replicate 32 1
  publicKey := 4 :: List.replicate 64 0
  authSecret := [0, 1, 2, 3, 4, 5, 6, 7, 8, 9, 10, 11, 12, 13, 14, 15]

def agentKeys : WebPushKeys where
  p256dh := 'B' :: List.replicate 86 'A'
  auth := "AAECAwQFBgcICQoLDA0ODw".toList

theorem sampleAgent_subscribed : Subscribed markingCrypto sampleAgent agentKeys where
  pair := rfl
  p256dh := by decide +kernel
  auth := by decide +kernel

def sampleDraw : PushDraw := ⟨List.replicate 32 1, List.replicate 16 2⟩

def sampleMessage : WebPushMessage :=
  ⟨"New challenge".toList, "Play now".toList, none, none, none⟩

theorem sampleMessage_accepted :
    ∃ payload,
      markingCrypto.encryptPushPayload sampleDraw agentKeys sampleMessage = .ok payload := by
  have hok : (markingCrypto.encryptPushPayload sampleDraw agentKeys sampleMessage).isOk = true := by
    decide +kernel
  cases h : markingCrypto.encryptPushPayload sampleDraw agentKeys sampleMessage with
  | ok payload => exact ⟨payload, rfl⟩
  | error err =>
      rw [h] at hok
      cases hok

theorem sampleMessage_unreadable :
    ∃ payload,
      markingCrypto.encryptPushPayload sampleDraw agentKeys sampleMessage = .ok payload ∧
      receive (markingCrypto.primitives markingOpener) sampleAgent payload.body ≠
        some (Utf8.encode sampleMessage.json) := by
  obtain ⟨payload, h⟩ := sampleMessage_accepted
  exact ⟨payload, h, push_message_unreadable markingCrypto markingOpener markingCrypto_isSound
    sampleAgent agentKeys sampleAgent_subscribed sampleDraw rfl sampleMessage DEFAULT_RECORD_SIZE
    payload h⟩

theorem not_all_messages_readable :
    ¬ ∀ (crypto : PushCrypto) (opener : Opener), crypto.IsSound opener →
      ∀ ua keys, Subscribed crypto ua keys → ∀ draw : PushDraw, draw.salt.length = 16 →
        ∀ message recordSize payload,
          crypto.encryptPushPayload draw keys message recordSize = .ok payload →
            receive (crypto.primitives opener) ua payload.body =
              some (Utf8.encode message.json) := by
  intro hall
  obtain ⟨payload, h⟩ := sampleMessage_accepted
  have hread := hall markingCrypto markingOpener markingCrypto_isSound sampleAgent agentKeys
    sampleAgent_subscribed sampleDraw rfl sampleMessage DEFAULT_RECORD_SIZE payload h
  rw [receive_encrypted markingCrypto_isSound sampleAgent_subscribed rfl h] at hread
  cases hread

end BrandBlitz.Network

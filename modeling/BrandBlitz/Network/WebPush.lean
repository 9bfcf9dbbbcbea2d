import BrandBlitz.Deposit.Memo
import BrandBlitz.Lib.BigEndian
import BrandBlitz.Lib.Bits
import BrandBlitz.Lib.IpText
import BrandBlitz.Lib.Utf8

/-!
# BrandBlitz.Network.WebPush

**Push messages**: `isSafePushEndpoint` and `sendWebPush` of `apps/api/src/lib/web-push.ts`, with
what they call.

The browser of a user names the URL that messages go to, and the server posts them there. The URL is
parsed by the platform; a host that is an address is written in its canonical text. The texts that
are refused are those of internal IPv4 addresses, and of internal IPv6 addresses only `::1`.
-/

namespace BrandBlitz.Network

open BrandBlitz.Deposit (base64url base64Char byteLength)
open BrandBlitz.Lib BrandBlitz.Lib.IpText BrandBlitz.Lib.NumberText

/-! ### The platform -/

inductive Host where
  | domain (name : Text)
  | ipv4 (ip : Ipv4)
  | ipv6 (ip : Ipv6)

/-- The canonical text of a host. -/
def Host.text : Host → Text
  | .domain name => name
  | .ipv4 ip => ip.text
  | .ipv6 ip => '[' :: (ip.serialize ++ [']'])

/-- What `new URL` makes of a text. -/
structure Url where
  protocol : Text
  username : Text
  password : Text
  host : Option Host
  origin : Text

def Url.hostname (url : Url) : Text := (url.host.map Host.text).getD []

/-- The key that signs: a PEM text, or the scalar and the point of a JWK. -/
inductive VapidKey where
  | pem (text : Text)
  | jwk (d x y : Text)

/-- `crypto`, where it computes what no branch depends on. -/
structure PushCrypto where
  /-- the point of a scalar of P-256 -/
  publicKey : List UInt8 → Except Text (List UInt8)
  /-- `x` and `y` of the point of a PEM key -/
  pemPublicKey : Text → Except Text (Option Text × Option Text)
  computeSecret : List UInt8 → List UInt8 → Except Text (List UInt8)
  hmacSha256 : List UInt8 → List UInt8 → List UInt8
  /-- by key, nonce and header; the tag comes last -/
  aes128gcm : List UInt8 → List UInt8 → List UInt8 → List UInt8 → List UInt8
  sign : VapidKey → Text → Except Text (List UInt8)

structure Request where
  url : Text
  method : Text
  headers : List (Text × Text)
  body : List UInt8

inductive Delivery where
  | response (status : Nat)
  | failed (aborted : Bool)

structure PushPlatform where
  parseUrl : Text → Option Url
  toLowerCase : Text → Text
  crypto : PushCrypto
  fetch : Request → Delivery
  now : Int
  toLowerCase_eq : ∀ text : Text, (∀ c ∈ text, c.toNat < 128) →
    toLowerCase text = text.map Char.toLower

/-! ### Endpoints -/

/-- The rules for hosts in dotted decimal. -/
def isPrivateQuad (host : Text) : Bool :=
  isQuad host &&
    match (host.splitOn '.').map (Nat.ofDigitChars 10 · 0) with
    | a :: b :: _ =>
      (a = 10 || a = 127 || a = 0) || (a = 169 && b = 254) || (a = 172 && 16 ≤ b && b ≤ 31) ||
        (a = 192 && b = 168)
    | _ => false

def isSafeHost (host : Text) : Bool :=
  if host = "localhost".toList ∨ ".localhost".toList <:+ host ∨ ".local".toList <:+ host then false
  else if host = "[::1]".toList ∨ ".internal".toList <:+ host then false
  else !isPrivateQuad host

def PushPlatform.isSafePushEndpoint (p : PushPlatform) (endpoint : Text) : Bool :=
  match p.parseUrl endpoint with
  | none => false
  | some url =>
    if url.protocol ≠ "https:".toList ∨ url.username ≠ [] ∨ url.password ≠ [] then false
    else isSafeHost (p.toLowerCase url.hostname)

/-! ### Texts and bytes -/

/-- A character in a JSON string. -/
def jsonChar (c : Char) : Text :=
  match c with
  | '"' => ['\\', '"']
  | '\\' => ['\\', '\\']
  | '\x08' => ['\\', 'b']
  | '\x0c' => ['\\', 'f']
  | '\n' => ['\\', 'n']
  | '\r' => ['\\', 'r']
  | '\t' => ['\\', 't']
  | c => if c.toNat < 0x20 then "\\u".toList ++ (toHex c.toNat).leftpad 4 '0' else [c]

def jsonString (text : Text) : Text := '"' :: (text.flatMap jsonChar ++ ['"'])

def jsonObject (fields : List (Text × Text)) : Text :=
  "\x7b".toList ++
    [','].intercalate (fields.map fun field => jsonString field.1 ++ ':' :: field.2) ++
      "\x7d".toList

def isBase64UrlChar (c : Char) : Bool := c.isAlphanum || c = '_' || c = '-'

/-- `Buffer.from(text, "base64url")` of characters of the alphabet. -/
def bytesOfBase64Url (text : Text) : List UInt8 :=
  let value := fun c => ((List.range 64).map base64Char).idxOf c
  (Bits.groups 8 (text.flatMap fun c => Bits.bits 6 (value c))).map fun byte =>
    UInt8.ofNat (Bits.ofBits byte)

-- named, so that the test for a member refers to it
local instance : LawfulBEq Text := inferInstance

/-- `^[A-Za-z0-9_-]+={0,2}$`, and what is before the padding. -/
def base64UrlDecode (input : Text) : Except Text (List UInt8) :=
  let text := input.takeWhile isBase64UrlChar
  if text ≠ [] ∧ input.drop text.length ∈ ["".toList, "=".toList, "==".toList] then
    .ok (bytesOfBase64Url text)
  else .error "Invalid base64url value".toList

/-! ### Keys -/

structure VapidCredentials where
  publicKey : Text
  privateKey : Text
  subject : Text

structure PushConfig where
  vapidPrivateKey : Option Text
  vapidPublicKey : Option Text
  vapidSubject : Text

/-- The scalar of a key that is not PEM. -/
def scalarOf (privateKey : Text) : Except Text (List UInt8) := do
  let scalar ← base64UrlDecode privateKey
  if scalar.length ≠ 32 then
    throw "VAPID private key must be a 32-byte base64url scalar".toList
  return scalar

namespace PushCrypto

variable (crypto : PushCrypto)

def toVapidPrivateKey (privateKey : Text) : Except Text VapidKey :=
  if includes privateKey "BEGIN".toList then .ok (.pem privateKey)
  else do
    let scalar ← scalarOf privateKey
    let publicKey ← crypto.publicKey scalar
    return .jwk (base64url scalar) (base64url ((publicKey.take 33).drop 1))
      (base64url ((publicKey.take 65).drop 33))

def deriveVapidPublicKey (privateKey : Text) : Except Text Text :=
  if includes privateKey "BEGIN".toList then do
    let publicKey ← crypto.pemPublicKey privateKey
    match publicKey.1.filter (· ≠ []), publicKey.2.filter (· ≠ []) with
    | some x, some y => return base64url (4 :: ((← base64UrlDecode x) ++ (← base64UrlDecode y)))
    | _, _ => throw "VAPID public key could not be derived from the configured key".toList
  else do
    let scalar ← scalarOf privateKey
    return base64url (← crypto.publicKey scalar)

/-- The public key is derived where the configuration has none. -/
def getVapidCredentials (config : PushConfig) : Option VapidCredentials := do
  let privateKey ← config.vapidPrivateKey.filter (· ≠ [])
  let publicKey ← config.vapidPublicKey <|> (crypto.deriveVapidPublicKey privateKey).toOption
  return { publicKey, privateKey, subject := config.vapidSubject }

end PushCrypto

/-! ### Messages -/

structure WebPushKeys where
  p256dh : Text
  auth : Text

structure WebPushSubscription where
  endpoint : Text
  keys : WebPushKeys

structure WebPushMessage where
  title : Text
  body : Text
  url : Option Text
  tag : Option Text
  notificationId : Option Text

/-- `JSON.stringify(message)`, which leaves out what is undefined. -/
def WebPushMessage.json (message : WebPushMessage) : Text :=
  let optional := [("url".toList, message.url), ("tag".toList, message.tag),
    ("notificationId".toList, message.notificationId)]
  jsonObject ([("title".toList, jsonString message.title), ("body".toList, jsonString message.body)]
    ++ optional.filterMap fun field => field.2.map fun value => (field.1, jsonString value))

structure EncryptedPushPayload where
  body : List UInt8
  headers : List (Text × Text)

/-- What is drawn for one message. -/
structure PushDraw where
  localKey : List UInt8
  salt : List UInt8

def MAX_PAYLOAD_BYTES : Nat := 3072
def DEFAULT_RECORD_SIZE : Nat := 4096
def DEFAULT_PUSH_TTL_SECONDS : Int := 24 * 60 * 60
def VAPID_JWT_TTL_SECONDS : Int := 12 * 60 * 60

namespace PushCrypto

variable (crypto : PushCrypto)

def hkdfExtract (salt ikm : List UInt8) : List UInt8 := crypto.hmacSha256 salt ikm

def hkdfExpand (prk info : List UInt8) (length : Nat) : List UInt8 :=
  (crypto.hmacSha256 prk (info ++ [1])).take length

def encryptPushPayload (draw : PushDraw) (keys : WebPushKeys) (message : WebPushMessage)
    (recordSize : Nat := DEFAULT_RECORD_SIZE) : Except Text EncryptedPushPayload := do
  let userAgentPublicKey ← base64UrlDecode keys.p256dh
  if userAgentPublicKey.length ≠ 65 ∨ userAgentPublicKey.head? ≠ some 4 then
    throw "p256dh must be an uncompressed P-256 public key".toList
  let authSecret ← base64UrlDecode keys.auth
  if authSecret.length < 16 then
    throw "auth must be at least 16 bytes".toList
  let applicationServerPublicKey ← crypto.publicKey draw.localKey
  let sharedSecret ← crypto.computeSecret draw.localKey userAgentPublicKey
  let prkKey := crypto.hkdfExtract authSecret sharedSecret
  let ikm := crypto.hkdfExpand prkKey
    (Utf8.encode "WebPush: info\x00".toList ++ userAgentPublicKey ++ applicationServerPublicKey) 32
  let prk := crypto.hkdfExtract draw.salt ikm
  let contentEncryptionKey :=
    crypto.hkdfExpand prk (Utf8.encode "Content-Encoding: aes128gcm\x00".toList) 16
  let nonce := crypto.hkdfExpand prk (Utf8.encode "Content-Encoding: nonce\x00".toList) 12
  let plaintext := Utf8.encode message.json ++ [2]
  if recordSize < plaintext.length + 16 then
    throw "Push payload exceeds the maximum record size".toList
  -- `writeUInt32BE`
  if 2 ^ 32 ≤ recordSize then throw "ERR_OUT_OF_RANGE".toList
  let headerBlock := draw.salt ++ BigEndian.toBytes 4 recordSize ++
    [UInt8.ofNat applicationServerPublicKey.length] ++ applicationServerPublicKey
  return {
    body := headerBlock ++ crypto.aes128gcm contentEncryptionKey nonce headerBlock plaintext
    headers := [("Content-Encoding".toList, "aes128gcm".toList),
      ("Content-Type".toList, "application/octet-stream".toList)] }

end PushCrypto

namespace PushPlatform

variable (p : PushPlatform)

def buildVapidHeaders (credentials : VapidCredentials) (endpoint : Text) (now : Int) :
    Except Text (List (Text × Text)) := do
  let audience ← match p.parseUrl endpoint with
    | none => throw "Invalid URL".toList
    | some url => pure url.origin
  let header := jsonObject [("typ".toList, jsonString "JWT".toList),
    ("alg".toList, jsonString "ES256".toList)]
  let claims := jsonObject [("aud".toList, jsonString audience),
    ("exp".toList, numberText (some (now / 1000 + VAPID_JWT_TTL_SECONDS))),
    ("sub".toList, jsonString credentials.subject)]
  let signingInput := base64url (Utf8.encode header) ++ '.' :: base64url (Utf8.encode claims)
  let key ← p.crypto.toVapidPrivateKey credentials.privateKey
  let signature ← p.crypto.sign key signingInput
  return [("Authorization".toList, "vapid t=".toList ++ signingInput ++ '.' ::
    base64url signature ++ ", k=".toList ++ credentials.publicKey)]

end PushPlatform

/-! ### Delivery -/

structure WebPushResult where
  ok : Bool
  statusCode : Option Nat
  expired : Bool
  error : Option Text
deriving DecidableEq

structure SendWebPushOptions where
  credentials : Option VapidCredentials
  ttlSeconds : Option Int
  now : Option Int

def isExpiredStatus (status : Nat) : Bool := status = 404 || status = 410

def rejected (error : String) : WebPushResult := ⟨false, none, false, some error.toList⟩

/-- The result by what the push service answers. -/
def resultOf : Delivery → WebPushResult
  | .response status =>
    if 200 ≤ status ∧ status ≤ 299 then ⟨true, some status, false, none⟩
    else ⟨false, some status, isExpiredStatus status,
      some ("push_service_".toList ++ numberText (some status))⟩
  | .failed aborted => rejected (if aborted then "timeout" else "network_error")

/-- The result, and the requests that are sent. -/
def PushPlatform.sendWebPush (p : PushPlatform) (config : PushConfig) (draw : PushDraw)
    (subscription : WebPushSubscription) (message : WebPushMessage) (options : SendWebPushOptions) :
    WebPushResult × List Request :=
  match options.credentials <|> p.crypto.getVapidCredentials config with
  | none => (rejected "push_not_configured", [])
  | some credentials =>
    if p.isSafePushEndpoint subscription.endpoint = false then (rejected "invalid_subscription", [])
    else if MAX_PAYLOAD_BYTES < byteLength message.json then (rejected "payload_too_large", [])
    else
      let prepared : Except Text (EncryptedPushPayload × List (Text × Text)) := do
        let encrypted ← p.crypto.encryptPushPayload draw subscription.keys message
        let authorization ←
          p.buildVapidHeaders credentials subscription.endpoint (options.now.getD p.now)
        return (encrypted, authorization)
      match prepared with
      | .error _ => (rejected "invalid_subscription", [])
      | .ok (encrypted, authorization) =>
        let request := {
          url := subscription.endpoint
          method := "POST".toList
          headers := encrypted.headers ++ authorization ++
            [("TTL".toList,
              numberText (some (options.ttlSeconds.getD DEFAULT_PUSH_TTL_SECONDS)))]
          body := encrypted.body }
        (resultOf (p.fetch request), [request])

/-! ### Internal addresses -/

/-- Unspecified, loopback, private or link-local. -/
def IsInternalIpv4 (ip : Ipv4) : Prop :=
  let a : Nat := ip.a
  let b : Nat := ip.b
  ip.octets = [0, 0, 0, 0] ∨ a = 127 ∨ a = 10 ∨ (a = 172 ∧ 16 ≤ b ∧ b ≤ 31) ∨
    (a = 192 ∧ b = 168) ∨ (a = 169 ∧ b = 254)

def IsLoopback (ip : Ipv6) : Prop := ip.groups = [0, 0, 0, 0, 0, 0, 0, 1]

/-- The same for IPv6, where IPv4 addresses are mapped into. -/
def IsInternalIpv6 (ip : Ipv6) : Prop :=
  ip.groups = [0, 0, 0, 0, 0, 0, 0, 0] ∨ IsLoopback ip ∨
    (∃ g ∈ ip.groups.head?, (0xfc00 ≤ g ∧ g ≤ 0xfdff) ∨ (0xfe80 ≤ g ∧ g ≤ 0xfebf)) ∨
    ∃ v4 ∈ ip.mapped, IsInternalIpv4 v4

def Host.IsInternal : Host → Prop
  | .domain _ => False
  | .ipv4 ip => IsInternalIpv4 ip
  | .ipv6 ip => IsInternalIpv6 ip

/-- **What the rules are enough for**: IPv4, and the loopback address of IPv6. -/
def Host.IsCovered : Host → Prop
  | .domain _ => False
  | .ipv4 _ => True
  | .ipv6 ip => IsLoopback ip

def Url.IsCovered (url : Url) (host : Host) : Prop :=
  url.protocol ≠ "https:".toList ∨ url.username ≠ [] ∨ url.password ≠ [] ∨ host.IsCovered

section

variable {p : PushPlatform} {config : PushConfig} {draw : PushDraw} {endpoint : Text}
  {subscription : WebPushSubscription} {message : WebPushMessage} {options : SendWebPushOptions}

/-! ### Requests -/

/-- At most one request is sent, and only to a safe endpoint. -/
theorem sendWebPush_requests {request : Request}
    (h : request ∈ (p.sendWebPush config draw subscription message options).2) :
    request.url = subscription.endpoint ∧ p.isSafePushEndpoint subscription.endpoint = true := by
  unfold PushPlatform.sendWebPush at h
  split at h
  next => cases h
  next credentials _ =>
    split at h
    next => cases h
    next hsafe =>
      have hsafe' : p.isSafePushEndpoint subscription.endpoint = true := by simpa using hsafe
      split at h
      next => cases h
      next =>
        simp only at h
        split at h
        next => cases h
        next =>
          rw [List.mem_singleton] at h
          subst h
          exact ⟨rfl, hsafe'⟩

theorem sendWebPush_unsafe (h : p.isSafePushEndpoint subscription.endpoint = false) :
    (p.sendWebPush config draw subscription message options).2 = [] := by
  refine List.eq_nil_iff_forall_not_mem.mpr fun request hrequest => ?_
  have hsafe := (sendWebPush_requests hrequest).2
  rw [h] at hsafe
  cases hsafe

/-! ### Hosts -/

theorem isSuffixOf_getLast {suffix host : Text} {c d : Char} (hsuffix : suffix.getLast? = some c)
    (hhost : host.getLast? = some d) (hne : c ≠ d) : ¬ suffix <:+ host := by
  rintro ⟨init, rfl⟩
  have hnil : suffix ≠ [] := by
    rintro rfl
    cases hsuffix
  rw [List.getLast?_append_of_ne_nil _ hnil, hsuffix] at hhost
  exact hne (Option.some.inj hhost)

/-- The rules for names say nothing about a text that ends in another letter than theirs. -/
theorem isSafeHost_iff {host : Text} {d : Char} (hlast : host.getLast? = some d)
    (hd : d ≠ 't' ∧ d ≠ 'l') :
    isSafeHost host = true ↔ host ≠ "[::1]".toList ∧ isPrivateQuad host = false := by
  have hlocalhost : host ≠ "localhost".toList := by
    rintro rfl
    exact hd.1 (Option.some.inj hlast).symm
  have hnone : ¬ (host = "localhost".toList ∨ ".localhost".toList <:+ host ∨
      ".local".toList <:+ host) := by
    rintro (h | h | h)
    · exact hlocalhost h
    · exact isSuffixOf_getLast rfl hlast (Ne.symm hd.1) h
    · exact isSuffixOf_getLast rfl hlast (Ne.symm hd.2) h
  have hinternal : ¬ ".internal".toList <:+ host := isSuffixOf_getLast rfl hlast (Ne.symm hd.2)
  unfold isSafeHost
  rw [if_neg hnone]
  by_cases hone : host = "[::1]".toList
  · rw [if_pos (.inl hone)]
    exact iff_of_false Bool.false_ne_true fun h => h.1 hone
  · rw [if_neg (not_or.mpr ⟨hone, hinternal⟩), Bool.not_eq_true']
    exact (and_iff_right hone).symm

theorem isPrivateQuad_text {ip : Ipv4} (h : IsInternalIpv4 ip) : isPrivateQuad ip.text = true := by
  unfold isPrivateQuad
  rw [ip.isQuad_text, ip.octets_text]
  simp only [IsInternalIpv4, Ipv4.octets, List.cons.injEq] at h
  simp only [Ipv4.octets, Bool.true_and, Bool.or_eq_true, Bool.and_eq_true, decide_eq_true_eq]
  omega

theorem isSafeHost_ipv4 {ip : Ipv4} (h : IsInternalIpv4 ip) : isSafeHost ip.text = false := by
  have hne : ip.text ≠ [] := List.ne_nil_of_mem ip.dot_mem_text
  have hlast := List.getLast?_eq_some_getLast hne
  have hletter : ip.text.getLast hne ≠ 't' ∧ ip.text.getLast hne ≠ 'l' := by
    rcases ip.mem_text (List.getLast_mem hne) with hc | hc
    · constructor
      · intro heq
        rw [heq] at hc
        exact absurd hc (by decide)
      · intro heq
        rw [heq] at hc
        exact absurd hc (by decide)
    · rw [hc]
      decide
  have hprivate := isPrivateQuad_text h
  rw [Bool.eq_false_iff, ne_eq, isSafeHost_iff hlast hletter, hprivate]
  simp

/-- `::1` is the text of the loopback address only. -/
theorem serialize_eq_iff (ip : Ipv6) : ip.serialize = "::1".toList ↔ IsLoopback ip := by
  have hone (ip : Ipv6) (h : IsLoopback ip) : ip.serialize = "::1".toList := by
    unfold Ipv6.serialize
    rw [h]
    decide
  let loopback : Ipv6 := ⟨[0, 0, 0, 0, 0, 0, 0, 1], rfl, by decide⟩
  refine ⟨fun h => ?_, hone ip⟩
  obtain ⟨s, htext, haddress⟩ := exists_spelling_serialize ip
  obtain ⟨t, htext', haddress'⟩ := exists_spelling_serialize loopback
  have hsame : s.text = t.text := by rw [htext, htext', h, hone loopback rfl]
  have hip : ip = loopback := by rw [← haddress, ← haddress', address_of_text hsame]
  rw [hip]
  rfl

theorem isSafeHost_ipv6 (ip : Ipv6) :
    isSafeHost (Host.ipv6 ip).text = true ↔ ¬ IsLoopback ip := by
  have hlast : (Host.ipv6 ip).text.getLast? = some ']' := by
    show (('[' :: ip.serialize) ++ [']']).getLast? = some ']'
    exact List.getLast?_concat
  have hquad : isPrivateQuad (Host.ipv6 ip).text = false := by
    rw [isPrivateQuad, Host.text, isQuad_cons (by decide) (by decide), Bool.false_and]
  rw [isSafeHost_iff hlast (by decide), hquad, ← serialize_eq_iff]
  have htext : (Host.ipv6 ip).text = "[::1]".toList ↔ ip.serialize = "::1".toList := by
    constructor
    · intro h
      have hrest : ip.serialize ++ [']'] = "::1".toList ++ [']'] := (List.cons.inj h).2
      exact List.append_cancel_right hrest
    · intro h
      rw [Host.text, h]
      rfl
  rw [ne_eq, htext]
  simp

theorem isSafeHost_internal {host : Host} (h : host.IsInternal) :
    isSafeHost host.text = true ↔ ¬ host.IsCovered := by
  cases host with
  | domain name => exact absurd h id
  | ipv4 ip =>
    rw [show isSafeHost (Host.ipv4 ip).text = false from isSafeHost_ipv4 h]
    simp [Host.IsCovered]
  | ipv6 ip => exact isSafeHost_ipv6 ip

/-! ### Lower case -/

/-- A canonical text of an address is in lower case. -/
theorem lower_text {host : Host} (h : host.IsInternal) :
    (∀ c ∈ host.text, c.toNat < 128) ∧ host.text.map Char.toLower = host.text := by
  have hhex : ∀ c ∈ hexDigits, c.toNat < 128 := forall_mem_of_all (by decide)
  have hchar : ∀ c ∈ host.text, c.toNat < 128 ∧ c.toLower = c := by
    intro c hc
    cases host with
    | domain name => exact absurd h id
    | ipv4 ip =>
      rcases ip.mem_text hc with hc | rfl
      · refine ⟨?_, toLower_of_isDigit hc⟩
        exact Nat.lt_of_le_of_lt (isDigit_range hc).2 (by decide)
      · decide
    | ipv6 ip =>
      rcases List.mem_cons.mp hc with rfl | hc
      · decide
      · rcases List.mem_append.mp hc with hc | hc
        · rcases ip.mem_serialize hc with rfl | ⟨hc, hlower⟩
          · decide
          · exact ⟨hhex c hc, hlower⟩
        · rw [List.mem_singleton.mp hc]
          decide
  refine ⟨fun c hc => (hchar c hc).1, ?_⟩
  exact (List.map_congr_left fun c hc => (hchar c hc).2).trans (List.map_id' _)

/-- **Which internal addresses push delivery cannot reach**: for every endpoint whose host is one,
whatever the message and the configuration are, the endpoint is refused and no request is sent, if
and only if the URL is covered. -/
theorem internal_unreachable_iff (p : PushPlatform) (endpoint : Text) {url : Url} {host : Host}
    (hurl : p.parseUrl endpoint = some url) (hhost : url.host = some host)
    (hinternal : host.IsInternal) :
    (p.isSafePushEndpoint endpoint = false ∧ ∀ config draw keys message options,
      (p.sendWebPush config draw ⟨endpoint, keys⟩ message options).2 = []) ↔
        url.IsCovered host := by
  have hlower := lower_text hinternal
  have hname : url.hostname = host.text := by simp [Url.hostname, hhost]
  have hsafe : p.isSafePushEndpoint endpoint = false ↔ url.IsCovered host := by
    unfold PushPlatform.isSafePushEndpoint
    rw [hurl]
    simp only [hname, p.toLowerCase_eq _ hlower.1, hlower.2, Url.IsCovered]
    by_cases hform : url.protocol ≠ "https:".toList ∨ url.username ≠ [] ∨ url.password ≠ []
    · rw [if_pos hform]
      exact iff_of_true rfl (by tauto)
    · rw [if_neg hform, Bool.eq_false_iff, ne_eq, isSafeHost_internal hinternal]
      tauto
  rw [← hsafe]
  exact and_iff_left_of_imp fun hunsafe _ _ _ _ _ => sendWebPush_unsafe hunsafe

end

/-! ### An address that is reached -/

/-- `::ffff:127.0.0.1` -/
def mappedLoopback : Ipv6 := ⟨[0, 0, 0, 0, 0, 0xffff, 0x7f00, 1], rfl, by decide⟩

def addressUrl (host : Host) : Url where
  protocol := "https:".toList
  username := []
  password := []
  host := some host
  origin := "https://".toList ++ host.text

/-- Lower case of ASCII only. -/
def lowerAscii (text : Text) : Text := text.map fun c => if c.toNat < 128 then c.toLower else c

theorem lowerAscii_eq (text : Text) (h : ∀ c ∈ text, c.toNat < 128) :
    lowerAscii text = text.map Char.toLower :=
  List.map_congr_left fun c hc => if_pos (h c hc)

/-- A platform that knows ASCII and two URLs, with a push service that takes every message. -/
def samplePlatform : PushPlatform where
  parseUrl endpoint :=
    if endpoint = "https://127.0.0.1/".toList then some (addressUrl (.ipv4 (.ofNats 127 0 0 1)))
    else if endpoint = "https://[::ffff:127.0.0.1]/".toList then
      some (addressUrl (.ipv6 mappedLoopback))
    else none
  toLowerCase := lowerAscii
  crypto := {
    publicKey _ := .ok (4 :: List.replicate 64 0)
    pemPublicKey _ := .error []
    computeSecret _ _ := .ok (List.replicate 32 0)
    hmacSha256 _ _ := List.replicate 32 0
    aes128gcm _ _ _ plaintext := plaintext ++ List.replicate 16 0
    sign _ _ := .ok (List.replicate 64 0) }
  fetch _ := .response 201
  now := 1750000000000
  toLowerCase_eq := lowerAscii_eq

theorem loopback_unreachable :
    samplePlatform.isSafePushEndpoint "https://127.0.0.1/".toList = false :=
  let host := Host.ipv4 ⟨127, 0, 0, 1⟩
  have hparse : samplePlatform.parseUrl "https://127.0.0.1/".toList = some (addressUrl host) := rfl
  have hinternal : host.IsInternal := .inr (.inl rfl)
  ((internal_unreachable_iff samplePlatform "https://127.0.0.1/".toList hparse rfl hinternal).mpr
    (.inr (.inr (.inr trivial)))).1

def sampleConfig : PushConfig where
  vapidPrivateKey := some "AAAAAAAAAAAAAAAAAAAAAAAAAAAAAAAAAAAAAAAAAAE".toList
  vapidPublicKey := none
  vapidSubject := "mailto:push@brandblitz.app".toList

def sampleKeys : WebPushKeys where
  p256dh :=
    "BGsX0fLhLEJH-Lzm5WOkQPJ3A32BLeszoPShOUXYmMKWT-NC4v4af5uO5-tKfA-eFivOM1drMV7Oy7ZAaDe_UfU".toList
  auth := "AAECAwQFBgcICQoLDA0ODw".toList

theorem mapped_loopback_reached :
    (Host.ipv6 mappedLoopback).text = "[::ffff:7f00:1]".toList ∧ IsInternalIpv6 mappedLoopback ∧
      samplePlatform.isSafePushEndpoint "https://[::ffff:127.0.0.1]/".toList = true ∧
      ((samplePlatform.sendWebPush sampleConfig ⟨List.replicate 32 1, List.replicate 16 2⟩
        ⟨"https://[::ffff:127.0.0.1]/".toList, sampleKeys⟩
        ⟨"New challenge".toList, "Play now".toList, none, none, none⟩ ⟨none, none, none⟩).2.map
          Request.url) = ["https://[::ffff:127.0.0.1]/".toList] := by
  refine ⟨by decide, ?_, by decide +kernel, by decide +kernel⟩
  exact .inr (.inr (.inr ⟨⟨127, 0, 0, 1⟩, rfl, .inr (.inl rfl)⟩))

end BrandBlitz.Network

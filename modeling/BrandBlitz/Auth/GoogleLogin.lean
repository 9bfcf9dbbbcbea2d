import BrandBlitz.Deposit.Memo
import BrandBlitz.Lib.Crew

/-!
# BrandBlitz.Auth.GoogleLogin

**Login with Google**: `apps/api/src/services/google-auth.ts`, which starts an authorization with a
random state and a code challenge, and exchanges the code that Google grants for it.

* Google grants codes to whoever asks for one, each for the challenge of the request, and takes a
  code once and only with a verifier of that challenge. It may refuse or fail at any time.
* `randomBytes` is an argument, SHA-256 a parameter. Two draws of 32 bytes are never the same, and
  no two of the verifiers drawn have the same challenge (`Drawn`).
* What a schema does not accept is an error of the call that fetched it.
-/

namespace BrandBlitz.Auth.GoogleLogin

open BrandBlitz.Lib
open BrandBlitz.Deposit (base64url)

structure Config where
  GOOGLE_CLIENT_ID : Text
  GOOGLE_CLIENT_SECRET : Text
  GOOGLE_REDIRECT_URI : Option Text
  WEB_URL : Text
  GOOGLE_OAUTH_PKCE_TTL_SECONDS : Nat
  /-- is it `"true"`? -/
  E2E_MOCK_GOOGLE_OAUTH : Bool
  sha256 : Text → List UInt8

variable (config : Config)

abbrev Bytes32 := Vector UInt8 32

def createCodeChallenge (codeVerifier : Text) : Text := base64url (config.sha256 codeVerifier)

/-- `url.replace(/\/$/, "")`. -/
def withoutSlash (url : Text) : Text :=
  if url.getLast? = some '/' then url.dropLast else url

def googleRedirectUri : Text :=
  config.GOOGLE_REDIRECT_URI.getD
    (withoutSlash config.WEB_URL ++ "/api/auth/callback/google".toList)

/-! ### Messages -/

/-- The parameters of the authorization URL. -/
structure AuthorizationParams where
  clientId : Text
  redirectUri : Text
  responseType : Text
  scope : Text
  state : Text
  codeChallenge : Text
  codeChallengeMethod : Text
  accessType : Text
  prompt : Text
deriving DecidableEq, Repr

/-- The body of a token request. -/
structure TokenParams where
  code : Text
  clientId : Text
  clientSecret : Text
  redirectUri : Text
  grantType : Text
  codeVerifier : Text
deriving DecidableEq, Repr

/-- `GoogleTokenInfoSchema`. -/
structure TokenInfo where
  sub : Text
  email : Text
  emailVerified : Option Bool
  aud : Text
  name : Option Text
  picture : Option Text
deriving DecidableEq, Repr

structure VerifiedGoogleUser where
  googleId : Text
  email : Text
  name : Option Text
  avatarUrl : Option Text
deriving DecidableEq, Repr

/-- The value of a key `oauth:google:pkce:…`. -/
structure Pkce where
  codeVerifier : Text
  callbackUrl : Text
deriving DecidableEq, Repr

/-! ### The world -/

/-- history: a state and its verifier, as they were stored -/
structure Authorization where
  state : Text
  codeVerifier : Text
  time : Nat
deriving DecidableEq, Repr

/-- What Google knows of a code. -/
structure Grant where
  codeChallenge : Text
  used : Bool
deriving DecidableEq, Repr

/-- history: a request has read the verifier of a state, and deleting it has not failed -/
structure Reading where
  program : Nat
  state : Text
  codeVerifier : Text
  time : Nat
deriving DecidableEq, Repr

/-- history: Google has taken a code -/
structure Exchange where
  program : Nat
  code : Text
  codeVerifier : Text
  idToken : Text
deriving DecidableEq, Repr

/-- history: what Google has said about a token -/
structure Info where
  program : Nat
  idToken : Text
  payload : TokenInfo
deriving DecidableEq, Repr

structure World where
  now : Nat
  /-- `oauth:google:pkce:…`, and the last instant of each key -/
  keys : Text → Option (Pkce × Nat)
  codes : Text → Option Grant
  authorizations : List Authorization
  readings : List Reading
  /-- history: states whose key was deleted -/
  deleted : List Text
  exchanges : List Exchange
  infos : List Info

def World.start (now : Nat) : World := ⟨now, fun _ => none, fun _ => none, [], [], [], [], []⟩

/-- The value, if the key has not run out. -/
def World.live (w : World) (state : Text) : Option Pkce :=
  ((w.keys state).filter fun stored => w.now ≤ stored.2).map (·.1)

/-- Time passes, and Google grants a code for a challenge of anybody's choice. -/
inductive Google : World → World → Prop
  | later {w : World} (t : Nat) : w.now ≤ t → Google w { w with now := t }
  | grants {w : World} (code codeChallenge : Text) : w.codes code = none →
      Google w { w with codes := Function.update w.codes code (some ⟨codeChallenge, false⟩) }

/-! ### Calls -/

inductive OAuthOp where
  /-- `SET … EX ttl NX`: was it stored? -/
  | set (state : Text) (value : Pkce) (ttl : Nat)
  | get (state : Text)
  | del (state : Text)
  /-- `POST https://oauth2.googleapis.com/token`: the `id_token`, if the response is ok -/
  | token (body : TokenParams)
  /-- `GET https://oauth2.googleapis.com/tokeninfo` -/
  | tokeninfo (idToken : Text)

abbrev oauthSig : Sig where
  Op := OAuthOp
  Ans
    | .set .. => Bool
    | .get _ => Option Pkce
    | .del _ => Unit
    | .token _ => Option Text
    | .tokeninfo _ => Option TokenInfo

/-- What the environment contributes to one call. -/
structure OAuthEnv where
  /-- the error, and whether the call took effect all the same -/
  fault : Option (ApiError × Bool)
  idToken : Option Text
  payload : Option TokenInfo

namespace World

variable (w : World) (i : Nat)

def store (state : Text) (value : Pkce) (ttl : Nat) : World :=
  { w with
    keys := Function.update w.keys state (some (value, w.now + 1000 * ttl))
    authorizations := ⟨state, value.codeVerifier, w.now⟩ :: w.authorizations }

def read (state : Text) : World :=
  match w.live state with
  | none => w
  | some value => { w with readings := ⟨i, state, value.codeVerifier, w.now⟩ :: w.readings }

def delete (state : Text) : World :=
  { w with
    keys := Function.update w.keys state none
    deleted := if (w.keys state).isSome then state :: w.deleted else w.deleted }

/-- Google takes the code. -/
def exchange (body : TokenParams) (grant : Grant) (idToken : Text) : World :=
  { w with
    codes := Function.update w.codes body.code (some { grant with used := true })
    exchanges := ⟨i, body.code, body.codeVerifier, idToken⟩ :: w.exchanges }

/-- The request is over without a verifier. -/
def forget : World := { w with readings := w.readings.filter fun reading => reading.program ≠ i }

end World

/-- The answer to program `i`, and the effect. -/
def perform (i : Nat) (e : OAuthEnv) (w : World) :
    (op : OAuthOp) → Except ApiError (oauthSig.Ans op) × World
  | .set state value ttl =>
    match w.live state with
    | some _ => (.ok false, w)
    | none => (.ok true, w.store state value ttl)
  | .get state => (.ok (w.live state), w.read i state)
  | .del state => (.ok (), w.delete state)
  | .token body =>
    match w.codes body.code, e.idToken with
    | some grant, some idToken =>
      if grant.used = false ∧
          grant.codeChallenge = createCodeChallenge config body.codeVerifier then
        (.ok (some idToken), w.exchange i body grant idToken)
      else (.ok none, w)
    | _, _ => (.ok none, w)
  | .tokeninfo idToken =>
    match e.payload with
    | some payload => (.ok (some payload), { w with infos := ⟨i, idToken, payload⟩ :: w.infos })
    | none => (.ok none, w)

def machine (i : Nat) : Machine oauthSig ApiError World OAuthEnv where
  exec e op w :=
    match e.fault with
    | some (err, applied) =>
      (.error err, (if applied then (perform config i e w op).2 else w).forget i)
    | none => perform config i e w op

/-- What is drawn was not drawn before. -/
def Drawn (_ : Nat) (w : World) (op : OAuthOp) (_ : OAuthEnv) : Prop :=
  match op with
  | .set state value _ => ∀ a ∈ w.authorizations, a.state ≠ state ∧
      createCodeChallenge config a.codeVerifier ≠ createCodeChallenge config value.codeVerifier
  | _ => True

instance (i : Nat) (w : World) (op : OAuthOp) (e : OAuthEnv) : Decidable (Drawn config i w op e) :=
  match op with
  | .set .. => inferInstanceAs (Decidable (∀ a ∈ w.authorizations, _ ∧ _))
  | .get _ | .del _ | .token _ | .tokeninfo _ => .isTrue trivial

/-! ### The service -/

abbrev OAuth := Prog oauthSig ApiError

def call (op : OAuthOp) : OAuth (oauthSig.Ans op) := Prog.call (S := oauthSig) op

structure AuthorizationUrl where
  params : AuthorizationParams
  state : Text
  codeChallenge : Text
  expiresIn : Nat
deriving DecidableEq, Repr

def createGooglePkceAuthorizationUrl (stateBytes verifierBytes : Bytes32) (callbackUrl : Text) :
    OAuth AuthorizationUrl := do
  let state := base64url stateBytes.toList
  let codeVerifier := base64url verifierBytes.toList
  let codeChallenge := createCodeChallenge config codeVerifier
  let expiresIn := config.GOOGLE_OAUTH_PKCE_TTL_SECONDS
  let stored ← call (.set state ⟨codeVerifier, callbackUrl⟩ expiresIn)
  if !stored then
    .raise (createError "Unable to start Google OAuth flow" 500 "OAUTH_STATE_STORE_FAILED")
  else
    return ⟨⟨config.GOOGLE_CLIENT_ID, googleRedirectUri config, "code".toList,
      "openid email profile".toList, state, codeChallenge, "S256".toList, "offline".toList,
      "select_account".toList⟩, state, codeChallenge, expiresIn⟩

def PKCE_VERIFIER_LENGTH : Nat := 43

def consumeCodeVerifier (state : Text) : OAuth Text := do
  let raw ← call (.get state)
  match raw with
  | none => .raise (createError "Invalid or expired OAuth state" 400 "INVALID_OAUTH_STATE")
  | some parsed => do
    call (.del state)
    if PKCE_VERIFIER_LENGTH ≤ parsed.codeVerifier.length then return parsed.codeVerifier
    else .raise ⟨"String must contain at least 43 character(s)".toList, none, none⟩

/-- `e2e:email:name`. -/
def mockUser (idToken : Text) : VerifiedGoogleUser :=
  let parts : List Text := idToken.splitOn ':'
  let rawEmail := (parts[1]?).getD "e2e-player@example.com".toList
  ⟨"e2e-".toList ++ rawEmail, rawEmail, some ((parts[2]?).getD "E2E Player".toList), none⟩

def verifyGoogleIdToken (idToken : Text) : OAuth VerifiedGoogleUser :=
  if config.E2E_MOCK_GOOGLE_OAUTH && "e2e:".toList.isPrefixOf idToken then
    return mockUser idToken
  else do
    let response ← call (.tokeninfo idToken)
    match response with
    | none => .raise (createError "Invalid Google token" 401 "INVALID_GOOGLE_TOKEN")
    | some payload =>
      if payload.emailVerified = some false then
        .raise (createError "Google email is not verified" 401 "UNVERIFIED_GOOGLE_EMAIL")
      else if config.GOOGLE_CLIENT_ID ≠ [] ∧ payload.aud ≠ config.GOOGLE_CLIENT_ID then
        .raise (createError "Invalid Google token audience" 401 "INVALID_GOOGLE_TOKEN")
      else return ⟨payload.sub, payload.email, payload.name, payload.picture⟩

def exchangeGoogleAuthorizationCode (code state : Text) : OAuth VerifiedGoogleUser := do
  let codeVerifier ← consumeCodeVerifier state
  let response ← call (.token ⟨code, config.GOOGLE_CLIENT_ID, config.GOOGLE_CLIENT_SECRET,
    googleRedirectUri config, "authorization_code".toList, codeVerifier⟩)
  match response with
  | none => .raise (createError "Invalid Google authorization code" 401 "INVALID_GOOGLE_CODE")
  | some idToken => verifyGoogleIdToken config idToken

/-! ### Requests -/

/-- What a request returned. -/
inductive Returned where
  | url (url : AuthorizationUrl)
  /-- of `POST /auth/google/callback` with `code` and `state` -/
  | exchanged (code state : Text) (user : VerifiedGoogleUser)
  /-- of `POST /auth/google/callback` with `idToken` -/
  | verified (idToken : Text) (user : VerifiedGoogleUser)

def IsRequest (p : OAuth Returned) : Prop :=
  (∃ stateBytes verifierBytes callbackUrl,
    p = Returned.url <$>
      createGooglePkceAuthorizationUrl config stateBytes verifierBytes callbackUrl) ∨
  (∃ code state,
    p = Returned.exchanged code state <$> exchangeGoogleAuthorizationCode config code state) ∨
  ∃ idToken, p = Returned.verified idToken <$> verifyGoogleIdToken config idToken

end BrandBlitz.Auth.GoogleLogin

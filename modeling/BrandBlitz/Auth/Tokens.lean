import BrandBlitz.Paging.Cursor
import BrandBlitz.Stellar.Client

/-!
# BrandBlitz.Auth.Tokens

**The tokens of the service and those who check them**: `apps/api/src/lib/tokens.ts`, the
bearer tokens of `middleware/authenticate.ts`, the pending tokens of `routes/auth.2fa.ts`, the
impersonation tokens of `routes/admin/users.ts` and the upgrade of `routes/challenges.chat.ts`.

* The library `jsonwebtoken` is a `Jwt`: what a token says, if it was signed with the secret
  and has not expired. Where it matters who can make a token, a token is what was signed and
  with which secret (`SignedToken`).
* `auth:revoked:<token>` is `"1"` as long as the token could be used, or is not there.
* A request with a personal API key is not checked here (see `ApiKeys`): a signed token never
  begins with `bb_`.
-/

namespace BrandBlitz.Auth

open BrandBlitz.Paging

/-! ### Configuration and claims -/

structure AuthConfig where
  jwtSecret : Text
  jwtSecretPrevious : Option Text
  jwtRefreshSecret : Option Text
  jwtIssuer : Text
  jwtAudience : Text

/-- The payload of a token. -/
structure Claims where
  sub : Uuid
  email : Text
  role : Option Text
  type : Option Text
  jti : Option Uuid
  iss : Option Text
  aud : Option Text
  isImpersonated : Bool
  impersonatedBy : Option Uuid
  iat : Timestamp
  exp : Timestamp
deriving DecidableEq, Repr

/-- `jwt.verify(token, secret)` at an instant, in seconds. -/
structure Jwt (Token : Type) where
  verify : Token → Text → Timestamp → Option Claims

/-- The revocation list: does Redis answer, and is there a key for the token? -/
structure Revocations (Token : Type) where
  answers : Bool
  revoked : Token → Bool

/-- `redis.get(tokenRevocationKey(token))`. -/
def Revocations.get {Token : Type} (redis : Revocations Token) (token : Token) :
    Except Unit (Option Text) :=
  if redis.answers then .ok (if redis.revoked token then some "1".toList else none) else .error ()

/-! ### Signing -/

/-- A token: what was signed, and with which secret. -/
structure SignedToken where
  claims : Claims
  secret : Text
deriving DecidableEq, Repr

/-- `jwt.sign(…, { expiresIn })` at an instant. -/
def signJwt (claims : Claims) (secret : Text) (now expiresIn : Timestamp) : SignedToken :=
  ⟨{ claims with iat := now, exp := now + expiresIn }, secret⟩

/-- No token counts that was not signed with the secret, or has expired. -/
def unforgeable (issued : List SignedToken) : Jwt SignedToken where
  verify token secret now :=
    if token ∈ issued ∧ token.secret = secret ∧ now < token.claims.exp then some token.claims
    else none

section Unforgeable

variable {issued : List SignedToken} {token : SignedToken} {secret : Text} {now : Timestamp}

theorem unforgeable_verify {payload : Claims} :
    (unforgeable issued).verify token secret now = some payload ↔
      token ∈ issued ∧ token.secret = secret ∧ now < token.claims.exp ∧ token.claims = payload := by
  simp only [unforgeable]
  split
  next h => simp [h]
  next h => exact iff_of_false (by simp) fun h' => h ⟨h'.1, h'.2.1, h'.2.2.1⟩

theorem unforgeable_other (h : token.secret ≠ secret) :
    (unforgeable issued).verify token secret now = none := if_neg fun hverify => h hverify.2.1

end Unforgeable

/-- The columns of a user's row that go into tokens. -/
structure AuthUser where
  id : Uuid
  email : Text
  role : Option Text
deriving DecidableEq, Repr

/-- `ACCESS_TOKEN_TTL`, in seconds. -/
def accessTokenTtl : Timestamp := 15 * 60

/-- `REFRESH_TOKEN_TTL`. -/
def refreshTokenTtl : Timestamp := 30 * 24 * 60 * 60

/-- `PENDING_TOTP_TTL`. -/
def pendingTotpTtl : Timestamp := 5 * 60

/-- `PENDING_TOTP_TYPE`. -/
def pendingTotpType : Text := "pending_totp".toList

def refreshType : Text := "refresh".toList

section Sign

variable (cfg : AuthConfig)

def refreshSecret : Text := cfg.jwtRefreshSecret.getD cfg.jwtSecret

/-- `JWT_SECRET_PREVIOUS`, if it is set. -/
def previousAccessSecret : Option Text := cfg.jwtSecretPrevious.filter (!·.isEmpty)

def signAccessToken (user : AuthUser) (jti : Uuid) (now : Timestamp) : SignedToken :=
  signJwt ⟨user.id, user.email, some (user.role.getD "player".toList), none, some jti,
    some cfg.jwtIssuer, some cfg.jwtAudience, false, none, 0, 0⟩ cfg.jwtSecret now accessTokenTtl

def signRefreshToken (user : AuthUser) (jti : Uuid) (now : Timestamp) : SignedToken :=
  signJwt ⟨user.id, user.email, none, some refreshType, some jti, none, none, false, none, 0, 0⟩
    (refreshSecret cfg) now refreshTokenTtl

def signPendingTotpToken (user : AuthUser) (jti : Uuid) (now : Timestamp) : SignedToken :=
  signJwt ⟨user.id, user.email, none, some pendingTotpType, some jti, some cfg.jwtIssuer,
    some cfg.jwtAudience, false, none, 0, 0⟩ cfg.jwtSecret now pendingTotpTtl

/-- The token of `POST /admin/users/:userId/impersonate-token`. -/
def signImpersonationToken (target : AuthUser) (admin : Uuid) (now : Timestamp) : SignedToken :=
  signJwt ⟨target.id, target.email, target.role, none, none, some cfg.jwtIssuer,
    some cfg.jwtAudience, true, some admin, 0, 0⟩ cfg.jwtSecret now 900

end Sign

/-! ### Verifying -/

inductive Method
  | get
  | head
  | options
  | post
  | put
  | patch
  | delete
deriving DecidableEq, Repr

/-- `["GET", "HEAD", "OPTIONS"].includes(method)`. -/
def Method.isSafe : Method → Bool
  | .get | .head | .options => true
  | _ => false

/-- What is answered instead of going on. -/
structure Rejection where
  status : Nat
  error : String
  code : Option String
deriving DecidableEq, Repr

def invalidToken : Rejection := ⟨401, "Invalid or expired token", none⟩

def impersonationReadOnly : Rejection :=
  ⟨403, "Impersonated sessions cannot perform mutating actions (read-only mode)",
    some "IMPERSONATION_READ_ONLY"⟩

/-- Where an impersonated session may not do what it asks for. -/
def Claims.mayNotMutate (payload : Claims) (method : Method) (path : Text) : Bool :=
  let isExit := "/impersonate-exit".toList.isSuffixOf path
  payload.isImpersonated && (!method.isSafe && !isExit)

section Verify

variable {Token : Type} (cfg : AuthConfig) (jwt : Jwt Token) (redis : Revocations Token)
  (now : Timestamp)

def verifyAccessToken (token : Token) : Option Claims :=
  match jwt.verify token cfg.jwtSecret now with
  | some payload => some payload
  | none =>
    match previousAccessSecret cfg with
    | some prev => jwt.verify token prev now
    | none => none

def verifyRefreshToken (token : Token) : Option Claims :=
  match jwt.verify token (refreshSecret cfg) now with
  | some p => if p.type ≠ some refreshType then none else some p
  | none => none

/-- The library compares the issuer and the audience with the options. -/
def verifyPendingTotpToken (token : Token) : Option Claims :=
  match jwt.verify token cfg.jwtSecret now with
  | some payload =>
    if payload.iss = some cfg.jwtIssuer ∧ payload.aud = some cfg.jwtAudience then
      if payload.type ≠ some pendingTotpType then none else some payload
    else none
  | none => none

/-- `authenticate`: the payload that becomes `req.user`. -/
def authenticate (method : Method) (path : Text) (bearer : Option Token) :
    Except Rejection Claims :=
  match bearer with
  | none => .error ⟨401, "No token provided", none⟩
  | some token =>
    match jwt.verify token cfg.jwtSecret now with
    | none => .error invalidToken
    | some payload =>
      if payload.iss ≠ some cfg.jwtIssuer ∨ payload.aud ≠ some cfg.jwtAudience then
        .error invalidToken
      else
        match redis.get token with
        -- the `catch` around all of it
        | .error _ => .error invalidToken
        | .ok (some _) => .error invalidToken
        | .ok none =>
          if payload.mayNotMutate method path then .error impersonationReadOnly else .ok payload

/-- `optionalAuth`: `req.user`, if it is set. -/
def optionalAuth (bearer : Option Token) : Option Claims :=
  match bearer with
  | none => none
  | some token =>
    match jwt.verify token cfg.jwtSecret now with
    | none => none
    | some payload =>
      if payload.iss ≠ some cfg.jwtIssuer ∨ payload.aud ≠ some cfg.jwtAudience then none
      else
        match redis.get token with
        | .error _ => none
        | .ok (some _) => none
        | .ok none => some payload

/-- The first step of `handleChatUpgrade`. A Redis that does not answer is taken to say that
the token is not revoked. -/
def authenticateUpgrade (bearer : Option Token) : Except Rejection Claims :=
  match bearer with
  | none => .error ⟨401, "No token provided", none⟩
  | some token =>
    match jwt.verify token cfg.jwtSecret now with
    | none => .error invalidToken
    | some verified =>
      if verified.iss ≠ some cfg.jwtIssuer ∨ verified.aud ≠ some cfg.jwtAudience then
        .error ⟨401, "Invalid token issuer or audience", none⟩
      else
        match redis.get token with
        | .ok (some _) => .error ⟨401, "Token has been revoked", none⟩
        | .ok none => .ok verified
        | .error _ => .ok verified

end Verify

/-! ### What they accept -/

section Accept

variable {Token : Type} {cfg : AuthConfig} {jwt : Jwt Token} {redis : Revocations Token}
  {now : Timestamp} {token : Token} {payload : Claims}

/-- What `authenticate`, `optionalAuth` and the chat upgrade all look at in a token: the current
secret, the issuer and the audience. -/
def verifyBearer (cfg : AuthConfig) (jwt : Jwt Token) (now : Timestamp) (token : Token) :
    Option Claims :=
  (jwt.verify token cfg.jwtSecret now).filter fun payload =>
    payload.iss = some cfg.jwtIssuer ∧ payload.aud = some cfg.jwtAudience

theorem verifyBearer_eq_some : verifyBearer cfg jwt now token = some payload ↔
    jwt.verify token cfg.jwtSecret now = some payload ∧
      payload.iss = some cfg.jwtIssuer ∧ payload.aud = some cfg.jwtAudience := by
  rw [verifyBearer, Option.filter_eq_some_iff]
  simp

/-- A payload that was verified and does not count has the wrong issuer or audience. -/
theorem mismatch_of_verifyBearer (h : verifyBearer cfg jwt now token = none)
    (hverify : jwt.verify token cfg.jwtSecret now = some payload) :
    payload.iss ≠ some cfg.jwtIssuer ∨ payload.aud ≠ some cfg.jwtAudience := by
  by_contra hmatch
  rw [not_or, not_not, not_not] at hmatch
  rw [verifyBearer_eq_some.mpr ⟨hverify, hmatch⟩] at h
  cases h

theorem match_of_verifyBearer (h : verifyBearer cfg jwt now token = some payload) :
    ¬ (payload.iss ≠ some cfg.jwtIssuer ∨ payload.aud ≠ some cfg.jwtAudience) := by
  rw [not_or, not_not, not_not]
  exact (verifyBearer_eq_some.mp h).2

theorem authenticate_none {method : Method} {path : Text}
    (h : verifyBearer cfg jwt now token = none) :
    authenticate cfg jwt redis now method path (some token) = .error invalidToken := by
  rw [authenticate]
  split
  · rfl
  next payload hverify => rw [if_pos (mismatch_of_verifyBearer h hverify)]

theorem optionalAuth_none (h : verifyBearer cfg jwt now token = none) :
    optionalAuth cfg jwt redis now (some token) = none := by
  rw [optionalAuth]
  split
  · rfl
  next payload hverify => rw [if_pos (mismatch_of_verifyBearer h hverify)]

theorem authenticateUpgrade_none (redis : Revocations Token)
    (h : verifyBearer cfg jwt now token = none) :
    ∃ rejection, rejection.status = 401 ∧
      authenticateUpgrade cfg jwt redis now (some token) = .error rejection := by
  rw [authenticateUpgrade]
  split
  · exact ⟨_, rfl, rfl⟩
  next payload hverify =>
    rw [if_pos (mismatch_of_verifyBearer h hverify)]
    exact ⟨_, rfl, rfl⟩

/-- A token that counts is refused if it was revoked, or Redis cannot say. -/
theorem authenticate_some {method : Method} {path : Text}
    (h : verifyBearer cfg jwt now token = some payload) :
    authenticate cfg jwt redis now method path (some token) =
      if redis.answers = true ∧ redis.revoked token = false then
        if payload.mayNotMutate method path then .error impersonationReadOnly else .ok payload
      else .error invalidToken := by
  simp only [authenticate, (verifyBearer_eq_some.mp h).1, if_neg (match_of_verifyBearer h),
    Revocations.get]
  cases redis.answers <;> cases redis.revoked token <;> rfl

theorem optionalAuth_some (h : verifyBearer cfg jwt now token = some payload) :
    optionalAuth cfg jwt redis now (some token) =
      if redis.answers = true ∧ redis.revoked token = false then some payload else none := by
  simp only [optionalAuth, (verifyBearer_eq_some.mp h).1, if_neg (match_of_verifyBearer h),
    Revocations.get]
  cases redis.answers <;> cases redis.revoked token <;> rfl

/-- The upgrade refuses it only if Redis says so. -/
theorem authenticateUpgrade_some (h : verifyBearer cfg jwt now token = some payload) :
    authenticateUpgrade cfg jwt redis now (some token) =
      if redis.answers = true ∧ redis.revoked token = true then
        .error ⟨401, "Token has been revoked", none⟩
      else .ok payload := by
  simp only [authenticateUpgrade, (verifyBearer_eq_some.mp h).1, if_neg (match_of_verifyBearer h),
    Revocations.get]
  cases redis.answers <;> cases redis.revoked token <;> rfl

end Accept

end BrandBlitz.Auth

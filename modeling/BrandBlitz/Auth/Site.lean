import BrandBlitz.Auth.Tokens
import Mathlib.Logic.Function.Basic

/-!
# BrandBlitz.Auth.Site

**The site, as far as tokens go**: which tokens its requests have signed and revoked, whose
second factor is confirmed, and what was let in where. A route is what its check and its handler
amount to, so that what is proved holds of every table of routes.

The signature is taken to be unforgeable: whatever token a request brings, it counts only if the
site has signed it.
-/

namespace BrandBlitz.Auth

open BrandBlitz.Paging

/-! ### The site -/

inductive Door
  | authenticate
  | optionalAuth
  | chat
  | twoFactorVerify
  | refresh
  | logout
deriving DecidableEq, Repr

/-- Behind these doors one acts as the user that the token names. -/
def Door.isAccess : Door → Bool
  | .authenticate | .optionalAuth | .chat => true
  | _ => false

inductive AuthEvent
  | accepted (door : Door) (token : SignedToken)
  /-- a write, or a chat message, in somebody's name -/
  | wrote (name : Uuid) (token : SignedToken)
  /-- a TOTP code or a backup code of the user was right -/
  | codeAccepted (user : Uuid)
deriving DecidableEq, Repr

structure AuthSite where
  /-- `user_totp_secrets.confirmed` -/
  confirmed : Uuid → Bool
  issued : List SignedToken
  revoked : List SignedToken
  /-- history -/
  events : List AuthEvent

/-- Nobody has logged in yet. -/
def AuthSite.start (confirmed : Uuid → Bool) : AuthSite := ⟨confirmed, [], [], []⟩

/-- What a request meets. -/
structure Moment where
  now : Timestamp
  redisAnswers : Bool
  /-- the row that `findUserById` finds: the e-mail address and the role -/
  row : Option (Text × Option Text)
  /-- Does everything come out well that has nothing to do with tokens? -/
  succeeds : Bool
  /-- `randomUUID()` -/
  jti : Uuid
  jti' : Uuid

/-- What the check of a route is followed by. -/
inductive Effect
  | reads
  /-- stores something in the name of `req.user` -/
  | writes
  /-- of these, a handler that sets or clears `confirmed` of `req.user` -/
  | setsTwoFactor (confirmed : Bool)
  /-- or one that revokes the token it was sent, and may sign another one for `req.user` -/
  | revokesToken (signs : Bool)
deriving DecidableEq, Repr

structure Route where
  method : Method
  /-- `optionalAuth` instead of `authenticate` -/
  optional : Bool
  /-- `requireAdmin` -/
  adminOnly : Bool
  /-- `requireActiveUser` -/
  activeOnly : Bool
  effect : Effect
deriving DecidableEq, Repr

inductive AuthCall
  /-- `POST /auth/google/callback`, by somebody whom Google knows as this user -/
  | googleCallback (user : AuthUser)
  /-- `POST /auth/2fa/verify` -/
  | twoFactorVerify (pendingToken : SignedToken) (codeIsRight : Bool)
  /-- `POST /auth/refresh`; `fresh`: the token was not used or revoked -/
  | refresh (refreshToken : SignedToken) (fresh : Bool)
  /-- `POST /auth/logout` -/
  | logout (refreshToken : SignedToken)
  /-- `POST /admin/users/:userId/impersonate-token` -/
  | impersonateToken (bearer : SignedToken) (userId : Uuid)
  /-- `POST /admin/users/impersonate-exit` -/
  | impersonateExit (bearer : SignedToken)
  /-- a chat upgrade, and what is said then, if anything -/
  | chat (bearer : SignedToken) (speaks : Bool)
  /-- any other route -/
  | route (route : Route) (path : Text) (bearer : SignedToken)
deriving DecidableEq, Repr

namespace AuthSite

variable (s : AuthSite)

def log (event : AuthEvent) : AuthSite := { s with events := event :: s.events }

def issue (tokens : List SignedToken) : AuthSite := { s with issued := tokens ++ s.issued }

def jwt : Jwt SignedToken := unforgeable s.issued

def redis (m : Moment) : Revocations SignedToken := ⟨m.redisAnswers, fun token => token ∈ s.revoked⟩

/-- The pair of a login. -/
def issuePair (cfg : AuthConfig) (m : Moment) (user : AuthUser) : AuthSite :=
  s.issue [signAccessToken cfg user m.jti m.now, signRefreshToken cfg user m.jti' m.now]

/-- `authenticate`, and what it is followed by. -/
def authenticated (cfg : AuthConfig) (m : Moment) (method : Method) (path : Text)
    (bearer : SignedToken) (next : Claims → AuthSite → AuthSite) : AuthSite :=
  match authenticate cfg s.jwt (s.redis m) m.now method path (some bearer) with
  | .error _ => s
  | .ok payload => next payload (s.log (.accepted .authenticate bearer))

/-- `optionalAuth` with a token: what follows if it sets `req.user`. -/
def optionally (cfg : AuthConfig) (m : Moment) (bearer : SignedToken)
    (next : Claims → AuthSite → AuthSite) : AuthSite :=
  match optionalAuth cfg s.jwt (s.redis m) m.now (some bearer) with
  | none => s
  | some payload => next payload (s.log (.accepted .optionalAuth bearer))

/-- A chat upgrade, and what follows. -/
def upgraded (cfg : AuthConfig) (m : Moment) (bearer : SignedToken)
    (next : Claims → AuthSite → AuthSite) : AuthSite :=
  match authenticateUpgrade cfg s.jwt (s.redis m) m.now (some bearer) with
  | .error _ => s
  | .ok payload => next payload (s.log (.accepted .chat bearer))

/-- What a handler does for `req.user`. -/
def perform (cfg : AuthConfig) (m : Moment) (token : SignedToken) (user : Claims) :
    Effect → AuthSite
  | .reads => s
  | .writes => s.log (.wrote user.sub token)
  | .setsTwoFactor confirmed =>
      { s.log (.wrote user.sub token) with
        confirmed := Function.update s.confirmed user.sub confirmed }
  | .revokesToken signs =>
      let s := { s.log (.wrote user.sub token) with revoked := token :: s.revoked }
      match signs, m.row with
      | true, some (email, _) =>
          s.issue [signAccessToken cfg ⟨user.sub, email, user.role⟩ m.jti m.now]
      | _, _ => s

end AuthSite

/-- `requireAdmin`. -/
def Claims.isAdmin (user : Claims) : Bool :=
  user.role = some "admin".toList || user.role = some "super_admin".toList

/-- Is `req.user` let through to the handler? -/
def Route.admits (route : Route) (m : Moment) (user : Claims) : Bool :=
  (!route.adminOnly || user.isAdmin) && (!route.activeOnly || !user.isImpersonated) && m.succeeds

/-- What a request does. -/
def serve (cfg : AuthConfig) (s : AuthSite) (m : Moment) : AuthCall → AuthSite
  | .googleCallback user =>
      if s.confirmed user.id then s.issue [signPendingTotpToken cfg user m.jti m.now]
      else s.issuePair cfg m user
  | .twoFactorVerify pendingToken codeIsRight =>
      match verifyPendingTotpToken cfg s.jwt m.now pendingToken with
      | none => s
      | some pending =>
        let s := s.log (.accepted .twoFactorVerify pendingToken)
        match m.row with
        | none => s
        | some (email, role) =>
          if s.confirmed pending.sub && codeIsRight then
            (s.log (.codeAccepted pending.sub)).issuePair cfg m ⟨pending.sub, email, role⟩
          else s
  | .refresh refreshToken fresh =>
      match verifyRefreshToken cfg s.jwt m.now refreshToken with
      | none => s
      | some payload =>
        let s := s.log (.accepted .refresh refreshToken)
        match m.row with
        | none => s
        | some (email, role) =>
          if fresh then s.issuePair cfg m ⟨payload.sub, email, role⟩ else s
  | .logout refreshToken =>
      match verifyRefreshToken cfg s.jwt m.now refreshToken with
      | none => s
      | some _ => s.log (.accepted .logout refreshToken)
  | .impersonateToken bearer userId =>
      -- the user's id comes before
      s.authenticated cfg m .post "/impersonate-token".toList bearer fun admin s =>
        if admin.isAdmin then
          match m.row with
          | none => s
          | some (email, role) =>
            if role = some "admin".toList then s
            else (s.log (.wrote admin.sub bearer)).issue
              [signImpersonationToken cfg ⟨userId, email, role⟩ admin.sub m.now]
        else s
  | .impersonateExit bearer =>
      s.authenticated cfg m .post "/impersonate-exit".toList bearer fun user s =>
        { s.log (.wrote (user.impersonatedBy.getD user.sub) bearer) with
          revoked := if m.redisAnswers then bearer :: s.revoked else s.revoked }
  | .chat bearer speaks =>
      s.upgraded cfg m bearer fun user s =>
        if m.succeeds && speaks then s.log (.wrote user.sub bearer) else s
  | .route route path bearer =>
      let handler user (s : AuthSite) :=
        if route.admits m user then s.perform cfg m bearer user route.effect else s
      if route.optional then s.optionally cfg m bearer handler
      else s.authenticated cfg m route.method path bearer handler

def run (cfg : AuthConfig) (s : AuthSite) (requests : List (Moment × AuthCall)) : AuthSite :=
  requests.foldl (fun s request => serve cfg s request.1 request.2) s

/-! ### The tokens that there are -/

/-- The four kinds of tokens. -/
inductive Minted (cfg : AuthConfig) : SignedToken → Prop
  | access (user : AuthUser) (jti : Uuid) (now : Timestamp) :
      Minted cfg (signAccessToken cfg user jti now)
  | refresh (user : AuthUser) (jti : Uuid) (now : Timestamp) :
      Minted cfg (signRefreshToken cfg user jti now)
  | pending (user : AuthUser) (jti : Uuid) (now : Timestamp) :
      Minted cfg (signPendingTotpToken cfg user jti now)
  | impersonation (target : AuthUser) (admin : Uuid) (now : Timestamp) :
      Minted cfg (signImpersonationToken cfg target admin now)

section Tokens

variable {cfg : AuthConfig} {token : SignedToken}

theorem pending_ne_refresh : pendingTotpType ≠ refreshType := by decide

/-- A refresh token has no issuer. -/
theorem Minted.iss_of_refresh (h : Minted cfg token)
    (htype : token.claims.type = some refreshType) :
    token.claims.iss = none := by
  cases h with
  | refresh user jti now => rfl
  | access user jti now => cases htype
  | impersonation target admin now => cases htype
  | pending user jti now => exact absurd (Option.some.inj htype) pending_ne_refresh

/-- A token with a type is its owner's. -/
theorem Minted.own_of_type (h : Minted cfg token) (htype : token.claims.type ≠ none) :
    token.claims.isImpersonated = false := by
  cases h with
  | pending user jti now => rfl
  | access user jti now => rfl
  | refresh user jti now => rfl
  | impersonation target admin now => exact absurd rfl htype

end Tokens

section Verified

variable {cfg : AuthConfig} {s : AuthSite} {now : Timestamp} {token : SignedToken}
  {payload : Claims}

theorem verifyBearer_issued (h : verifyBearer cfg s.jwt now token = some payload) :
    token ∈ s.issued ∧ payload = token.claims ∧ token.claims.iss = some cfg.jwtIssuer := by
  obtain ⟨hverify, hiss, -⟩ := verifyBearer_eq_some.mp h
  obtain ⟨hissued, -, -, rfl⟩ := unforgeable_verify.mp hverify
  exact ⟨hissued, rfl, hiss⟩

theorem verifyPendingTotpToken_issued
    (h : verifyPendingTotpToken cfg s.jwt now token = some payload) :
    payload = token.claims ∧ token.claims.type = some pendingTotpType := by
  rw [verifyPendingTotpToken] at h
  split at h
  next payload' hverify =>
    obtain ⟨-, -, -, rfl⟩ := unforgeable_verify.mp hverify
    split at h
    · split at h
      · cases h
      next htype =>
        cases h
        exact ⟨rfl, not_not.mp htype⟩
    · cases h
  · cases h

theorem verifyRefreshToken_issued (h : verifyRefreshToken cfg s.jwt now token = some payload) :
    token ∈ s.issued ∧ payload = token.claims ∧ token.claims.type = some refreshType := by
  rw [verifyRefreshToken] at h
  split at h
  next payload' hverify =>
    obtain ⟨hissued, -, -, rfl⟩ := unforgeable_verify.mp hverify
    split at h
    · cases h
    next htype =>
      cases h
      exact ⟨hissued, rfl, not_not.mp htype⟩
  · cases h

end Verified

/-! ### What each check lets through -/

/-- `authenticate` and `optionalAuth` would take the token. -/
def AuthSite.honours (cfg : AuthConfig) (s : AuthSite) (m : Moment) (token : SignedToken) : Prop :=
  (verifyBearer cfg s.jwt m.now token).isSome = true ∧ m.redisAnswers = true ∧ token ∉ s.revoked

/-- The chat upgrade would. -/
def AuthSite.welcomes (cfg : AuthConfig) (s : AuthSite) (m : Moment) (token : SignedToken) : Prop :=
  (verifyBearer cfg s.jwt m.now token).isSome = true ∧
    (m.redisAnswers = true → token ∉ s.revoked)

section Checks

variable {cfg : AuthConfig} {s : AuthSite} {m : Moment} {bearer : SignedToken}

theorem honours_spec (h : s.honours cfg m bearer) :
    verifyBearer cfg s.jwt m.now bearer = some bearer.claims ∧ bearer ∈ s.issued ∧
      bearer.claims.iss = some cfg.jwtIssuer := by
  obtain ⟨payload, hpayload⟩ := Option.isSome_iff_exists.mp h.1
  obtain ⟨hissued, rfl, hiss⟩ := verifyBearer_issued hpayload
  exact ⟨hpayload, hissued, hiss⟩

theorem honours_iff_redis : m.redisAnswers = true ∧ bearer ∉ s.revoked ↔
    (s.redis m).answers = true ∧ (s.redis m).revoked bearer = false := by
  simp [AuthSite.redis]

theorem authenticated_cases (cfg : AuthConfig) (s : AuthSite) (m : Moment) (method : Method)
    (path : Text) (bearer : SignedToken) (next : Claims → AuthSite → AuthSite) :
    (s.honours cfg m bearer ∧ bearer.claims.mayNotMutate method path = false ∧
      s.authenticated cfg m method path bearer next =
        next bearer.claims (s.log (.accepted .authenticate bearer))) ∨
    (¬ (s.honours cfg m bearer ∧ bearer.claims.mayNotMutate method path = false) ∧
      s.authenticated cfg m method path bearer next = s) := by
  unfold AuthSite.authenticated
  cases hbearer : verifyBearer cfg s.jwt m.now bearer with
  | none =>
      refine .inr ⟨fun h => ?_, by rw [authenticate_none hbearer]⟩
      rw [(honours_spec h.1).1] at hbearer
      cases hbearer
  | some payload =>
      obtain ⟨-, rfl, -⟩ := verifyBearer_issued hbearer
      rw [authenticate_some hbearer]
      by_cases hlive : m.redisAnswers = true ∧ bearer ∉ s.revoked
      · rw [if_pos (honours_iff_redis.mp hlive)]
        cases hmay : bearer.claims.mayNotMutate method path with
        | true => exact .inr ⟨fun h => (by cases h.2), rfl⟩
        | false => exact .inl ⟨⟨by rw [hbearer]; rfl, hlive⟩, rfl, rfl⟩
      · rw [if_neg fun h => hlive (honours_iff_redis.mpr h)]
        exact .inr ⟨fun h => hlive h.1.2, rfl⟩

theorem optionally_cases (cfg : AuthConfig) (s : AuthSite) (m : Moment) (bearer : SignedToken)
    (next : Claims → AuthSite → AuthSite) :
    (s.honours cfg m bearer ∧ s.optionally cfg m bearer next =
      next bearer.claims (s.log (.accepted .optionalAuth bearer))) ∨
    (¬ s.honours cfg m bearer ∧ s.optionally cfg m bearer next = s) := by
  unfold AuthSite.optionally
  cases hbearer : verifyBearer cfg s.jwt m.now bearer with
  | none =>
      refine .inr ⟨fun h => ?_, by rw [optionalAuth_none hbearer]⟩
      rw [(honours_spec h).1] at hbearer
      cases hbearer
  | some payload =>
      obtain ⟨-, rfl, -⟩ := verifyBearer_issued hbearer
      rw [optionalAuth_some hbearer]
      by_cases hlive : m.redisAnswers = true ∧ bearer ∉ s.revoked
      · rw [if_pos (honours_iff_redis.mp hlive)]
        exact .inl ⟨⟨by rw [hbearer]; rfl, hlive⟩, rfl⟩
      · rw [if_neg fun h => hlive (honours_iff_redis.mpr h)]
        exact .inr ⟨fun h => hlive h.2, rfl⟩

theorem upgraded_cases (cfg : AuthConfig) (s : AuthSite) (m : Moment) (bearer : SignedToken)
    (next : Claims → AuthSite → AuthSite) :
    (s.welcomes cfg m bearer ∧ bearer ∈ s.issued ∧ bearer.claims.iss = some cfg.jwtIssuer ∧
      s.upgraded cfg m bearer next = next bearer.claims (s.log (.accepted .chat bearer))) ∨
    (¬ s.welcomes cfg m bearer ∧ s.upgraded cfg m bearer next = s) := by
  unfold AuthSite.upgraded
  cases hbearer : verifyBearer cfg s.jwt m.now bearer with
  | none =>
      obtain ⟨rejection, -, hanswer⟩ := authenticateUpgrade_none (s.redis m) hbearer
      refine .inr ⟨fun h => ?_, by rw [hanswer]⟩
      obtain ⟨payload, hpayload⟩ := Option.isSome_iff_exists.mp h.1
      rw [hpayload] at hbearer
      cases hbearer
  | some payload =>
      obtain ⟨hissued, rfl, hiss⟩ := verifyBearer_issued hbearer
      rw [authenticateUpgrade_some hbearer]
      by_cases hrevoked : m.redisAnswers = true ∧ bearer ∈ s.revoked
      · rw [if_pos (by simpa [AuthSite.redis] using hrevoked)]
        exact .inr ⟨fun h => h.2 hrevoked.1 hrevoked.2, rfl⟩
      · rw [if_neg (by simpa [AuthSite.redis] using hrevoked)]
        refine .inl ⟨⟨by rw [hbearer]; rfl, fun hanswers hmem => ?_⟩, hissued, hiss, rfl⟩
        exact hrevoked ⟨hanswers, hmem⟩

/-! What holds of the site, and of what follows a check that lets the token through, holds of
the site afterwards. -/

section Keeps

variable {P : AuthSite → Prop} {next : Claims → AuthSite → AuthSite}

theorem authenticated_keeps {method : Method} {path : Text} (hs : P s)
    (hnext : s.honours cfg m bearer → bearer.claims.mayNotMutate method path = false →
      P (next bearer.claims (s.log (.accepted .authenticate bearer)))) :
    P (s.authenticated cfg m method path bearer next) := by
  obtain ⟨hhonours, hmay, hserved⟩ | ⟨-, hserved⟩ :=
    authenticated_cases cfg s m method path bearer next
  · rw [hserved]
    exact hnext hhonours hmay
  · rwa [hserved]

theorem optionally_keeps (hs : P s) (hnext : s.honours cfg m bearer →
      P (next bearer.claims (s.log (.accepted .optionalAuth bearer)))) :
    P (s.optionally cfg m bearer next) := by
  obtain ⟨hhonours, hserved⟩ | ⟨-, hserved⟩ := optionally_cases cfg s m bearer next
  · rw [hserved]
    exact hnext hhonours
  · rwa [hserved]

theorem upgraded_keeps (hs : P s) (hnext : s.welcomes cfg m bearer → bearer ∈ s.issued →
      bearer.claims.iss = some cfg.jwtIssuer →
      P (next bearer.claims (s.log (.accepted .chat bearer)))) :
    P (s.upgraded cfg m bearer next) := by
  obtain ⟨hwelcomes, hissued, hiss, hserved⟩ | ⟨-, hserved⟩ :=
    upgraded_cases cfg s m bearer next
  · rw [hserved]
    exact hnext hwelcomes hissued hiss
  · rwa [hserved]

end Keeps

end Checks

end BrandBlitz.Auth

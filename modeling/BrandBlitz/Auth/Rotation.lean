import BrandBlitz.Auth.Tokens

/-!
# BrandBlitz.Auth.Rotation

**Which tokens the entry points accept while the secret is rotated.** `verifyAccessToken` takes
a token that was signed with the current secret or with the previous one. Nothing calls it:
`authenticate`, `optionalAuth` and the chat upgrade each verify with the current secret alone.

So the three agree with it exactly on the tokens for which the current secret is enough, as
long as Redis answers. When it does not, the first two refuse everybody, and the third lets in
also those whose token was revoked.
-/

namespace BrandBlitz.Auth

open BrandBlitz.Paging

section Doors

variable {Token : Type} {cfg : AuthConfig} {jwt : Jwt Token} {redis : Revocations Token}
  {now : Timestamp} {token : Token}

/-! ### The property -/

/-- `verifyAccessToken` accepts the token, which is for this service and not revoked. -/
def Acceptable (cfg : AuthConfig) (jwt : Jwt Token) (redis : Revocations Token)
    (now : Timestamp) (token : Token) : Prop :=
  (∃ payload, verifyAccessToken cfg jwt now token = some payload ∧
    payload.iss = some cfg.jwtIssuer ∧ payload.aud = some cfg.jwtAudience) ∧
  redis.revoked token = false

/-- The caller is not told to authenticate, whatever else may be wrong. -/
def TakenAsValid (answer : Except Rejection Claims) : Prop :=
  ∀ rejection, answer = .error rejection → rejection.status ≠ 401

/-- All three entry points take exactly the acceptable tokens as valid. -/
structure Seamless (cfg : AuthConfig) (jwt : Jwt Token) (redis : Revocations Token)
    (now : Timestamp) (token : Token) : Prop where
  authenticate : ∀ method path,
    TakenAsValid (authenticate cfg jwt redis now method path (some token)) ↔
      Acceptable cfg jwt redis now token
  optionalAuth : (optionalAuth cfg jwt redis now (some token)).isSome = true ↔
    Acceptable cfg jwt redis now token
  upgrade : TakenAsValid (authenticateUpgrade cfg jwt redis now (some token)) ↔
    Acceptable cfg jwt redis now token

/-! ### What each of them takes as valid -/

/-- The current secret is enough for what it accepts. -/
theorem acceptable_of_verifyBearer (h : (verifyBearer cfg jwt now token).isSome = true)
    (hrevoked : redis.revoked token = false) : Acceptable cfg jwt redis now token := by
  obtain ⟨payload, hpayload⟩ := Option.isSome_iff_exists.mp h
  obtain ⟨hverify, hmatch⟩ := verifyBearer_eq_some.mp hpayload
  refine ⟨⟨payload, ?_, hmatch⟩, hrevoked⟩
  rw [verifyAccessToken, hverify]

theorem not_takenAsValid {rejection : Rejection} (h : rejection.status = 401) :
    ¬ TakenAsValid (.error rejection) := fun hvalid => hvalid rejection rfl h

theorem takenAsValid_ok (payload : Claims) : TakenAsValid (.ok payload) := by
  intro rejection h
  cases h

theorem takenAsValid_authenticate {method : Method} {path : Text} :
    TakenAsValid (authenticate cfg jwt redis now method path (some token)) ↔
      (verifyBearer cfg jwt now token).isSome = true ∧ redis.answers = true ∧
        redis.revoked token = false := by
  cases hbearer : verifyBearer cfg jwt now token with
  | none => simp [authenticate_none hbearer, not_takenAsValid, invalidToken]
  | some payload =>
      rw [authenticate_some hbearer]
      by_cases hlive : redis.answers = true ∧ redis.revoked token = false
      · rw [if_pos hlive]
        refine iff_of_true ?_ ⟨rfl, hlive⟩
        split
        · -- told that the session is read-only
          intro rejection h
          cases h
          decide
        · exact takenAsValid_ok payload
      · rw [if_neg hlive]
        exact iff_of_false (not_takenAsValid rfl) fun h => hlive h.2

theorem optionalAuth_isSome : (optionalAuth cfg jwt redis now (some token)).isSome = true ↔
    (verifyBearer cfg jwt now token).isSome = true ∧ redis.answers = true ∧
      redis.revoked token = false := by
  cases hbearer : verifyBearer cfg jwt now token with
  | none => simp [optionalAuth_none hbearer]
  | some payload =>
      rw [optionalAuth_some hbearer]
      by_cases hlive : redis.answers = true ∧ redis.revoked token = false
      · simp [hlive]
      · rw [if_neg hlive]
        exact iff_of_false (by simp) fun h => hlive h.2

theorem takenAsValid_upgrade :
    TakenAsValid (authenticateUpgrade cfg jwt redis now (some token)) ↔
      (verifyBearer cfg jwt now token).isSome = true ∧
        (redis.answers = true → redis.revoked token = false) := by
  cases hbearer : verifyBearer cfg jwt now token with
  | none =>
      obtain ⟨rejection, hstatus, hanswer⟩ := authenticateUpgrade_none redis hbearer
      rw [hanswer]
      exact iff_of_false (not_takenAsValid hstatus) (by simp)
  | some payload =>
      rw [authenticateUpgrade_some hbearer]
      by_cases hrevoked : redis.answers = true ∧ redis.revoked token = true
      · rw [if_pos hrevoked]
        refine iff_of_false (not_takenAsValid rfl) fun h => ?_
        rw [h.2 hrevoked.1] at hrevoked
        cases hrevoked.2
      · rw [if_neg hrevoked]
        refine iff_of_true (takenAsValid_ok payload) ⟨rfl, fun hanswers => ?_⟩
        by_contra hnot
        exact hrevoked ⟨hanswers, by simpa using hnot⟩

/-! ### The condition -/

/-- An acceptable token verifies with the current secret. Redis answers, or the token is one
that neither secret verifies. -/
def SeamlessWhen (cfg : AuthConfig) (jwt : Jwt Token) (redis : Revocations Token)
    (now : Timestamp) (token : Token) : Prop :=
  (Acceptable cfg jwt redis now token → (verifyBearer cfg jwt now token).isSome = true) ∧
  (redis.answers = false → ¬ Acceptable cfg jwt redis now token ∧
    (verifyBearer cfg jwt now token).isSome = false)

/-- **The entry points accept what `verifyAccessToken` does** exactly when the current secret
is enough, and Redis answers. -/
theorem seamless_iff (cfg : AuthConfig) (jwt : Jwt Token) (redis : Revocations Token)
    (now : Timestamp) (token : Token) :
    Seamless cfg jwt redis now token ↔ SeamlessWhen cfg jwt redis now token := by
  constructor
  · intro h
    have hoptional := optionalAuth_isSome.symm.trans h.optionalAuth
    have hupgrade := takenAsValid_upgrade.symm.trans h.upgrade
    refine ⟨fun hacceptable => (hoptional.mpr hacceptable).1, fun hanswers => ?_⟩
    have hnot : ¬ Acceptable cfg jwt redis now token := by
      intro hacceptable
      rw [(hoptional.mpr hacceptable).2.1] at hanswers
      cases hanswers
    refine ⟨hnot, ?_⟩
    by_contra hsome
    refine hnot (hupgrade.mp ⟨Bool.not_eq_false _ ▸ hsome, fun hanswers' => ?_⟩)
    rw [hanswers] at hanswers'
    cases hanswers'
  · intro ⟨hcurrent, hredis⟩
    have hiff : ((verifyBearer cfg jwt now token).isSome = true ∧ redis.answers = true ∧
        redis.revoked token = false) ↔ Acceptable cfg jwt redis now token := by
      constructor
      · intro ⟨hsome, _, hrevoked⟩
        exact acceptable_of_verifyBearer hsome hrevoked
      · intro hacceptable
        refine ⟨hcurrent hacceptable, ?_, hacceptable.2⟩
        by_contra hanswers
        exact (hredis (by simpa using hanswers)).1 hacceptable
    refine ⟨fun method path => takenAsValid_authenticate.trans hiff,
      optionalAuth_isSome.trans hiff, takenAsValid_upgrade.trans ⟨?_, ?_⟩⟩
    · intro ⟨hsome, hrevoked⟩
      cases hanswers : redis.answers with
      | true => exact acceptable_of_verifyBearer hsome (hrevoked hanswers)
      | false =>
          rw [(hredis hanswers).2] at hsome
          cases hsome
    · intro hacceptable
      exact ⟨hcurrent hacceptable, fun _ => hacceptable.2⟩

end Doors

/-! ### A rotation -/

section Rotation

variable {before after : AuthConfig} {user : AuthUser} {jti : Uuid} {issued : List SignedToken}
  {redis : Revocations SignedToken} {signedAt now : Timestamp}

/-- The current secret does not verify what was signed with another. -/
theorem verifyBearer_other_secret {token : SignedToken} (h : token.secret ≠ after.jwtSecret) :
    verifyBearer after (unforgeable issued) now token = none := by
  rw [verifyBearer, unforgeable_other h]
  rfl

/-- `verifyAccessToken` accepts an access token from before a rotation until it expires. -/
theorem acceptable_previous (hnew : before.jwtSecret ≠ after.jwtSecret)
    (hprevious : previousAccessSecret after = some before.jwtSecret)
    (hissuer : after.jwtIssuer = before.jwtIssuer)
    (haudience : after.jwtAudience = before.jwtAudience)
    (hissued : signAccessToken before user jti signedAt ∈ issued)
    (hlive : now < signedAt + accessTokenTtl)
    (hrevoked : redis.revoked (signAccessToken before user jti signedAt) = false) :
    Acceptable after (unforgeable issued) redis now (signAccessToken before user jti signedAt) := by
  refine ⟨⟨(signAccessToken before user jti signedAt).claims, ?_, ?_, ?_⟩, hrevoked⟩
  · rw [verifyAccessToken, unforgeable_other hnew, hprevious]
    exact unforgeable_verify.mpr ⟨hissued, rfl, hlive, rfl⟩
  · exact congrArg some hissuer.symm
  · exact congrArg some haudience.symm

end Rotation

def beforeRotation : AuthConfig := ⟨"first".toList, none, none, "api".toList, "client".toList⟩

def afterRotation : AuthConfig :=
  { beforeRotation with
    jwtSecret := "second".toList
    jwtSecretPrevious := some "first".toList }

/-- A token that was signed a minute before the rotation. -/
def oldToken : SignedToken := signAccessToken beforeRotation ⟨1, [], none⟩ 7 0

/-- It is refused a second after the rotation, fourteen minutes too early. -/
theorem rotation_signs_out : ¬ ∀ (cfg : AuthConfig) (jwt : Jwt SignedToken)
    (redis : Revocations SignedToken) (now : Timestamp) (token : SignedToken),
    redis.answers = true → Seamless cfg jwt redis now token := by
  intro hall
  have hseamless :=
    hall afterRotation (unforgeable [oldToken]) ⟨true, fun _ => false⟩ 61 oldToken rfl
  have hacceptable : Acceptable afterRotation (unforgeable [oldToken]) ⟨true, fun _ => false⟩ 61
      oldToken :=
    @acceptable_previous beforeRotation afterRotation ⟨1, [], none⟩ 7 [oldToken] _ 0 61
      (by decide) (by decide) rfl rfl
      List.mem_cons_self (by decide) rfl
  have hvalid := (hseamless.authenticate .get []).mpr hacceptable
  rw [authenticate_none (verifyBearer_other_secret (by decide))] at hvalid
  exact not_takenAsValid rfl hvalid

end BrandBlitz.Auth

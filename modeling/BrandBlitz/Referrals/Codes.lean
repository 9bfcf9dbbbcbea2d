import BrandBlitz.Lib.Crew
import BrandBlitz.Referrals.Attribution
import BrandBlitz.Sessions.Table

/-!
# BrandBlitz.Referrals.Codes

**Referral codes and vanity slugs**: `ensureUserReferralCode` and `generateUniqueReferralCode` of
`apps/api/src/services/referrals.ts`, their queries (`apps/api/src/db/queries/users.ts`), and
`PATCH /users/me/referral-code` of `apps/api/src/routes/users.ts`.

* A row of `users` is what the queries see of it. `UNIQUE (referral_code)` counts deleted users,
  `idx_users_vanity_slug` does not.
* `randomBytes` is an argument: what is proved holds whatever is drawn.
* Users register, and are deleted and restored, while the calls run (`Outside`). No row is ever
  removed.
-/

namespace BrandBlitz.Referrals.Codes

open BrandBlitz.Lib
open BrandBlitz.Referrals.Attribution (normalizeCode isValidCode)
open BrandBlitz.Sessions (dbError)

/-! ### The table -/

structure User where
  id : Id
  referralCode : Option Text
  vanitySlug : Option Text
  deleted : Bool
deriving DecidableEq, Repr

/-- What `GET /users/me/referrals` gives the owner to share. -/
def User.sharedCode (u : User) : Option Text := u.vanitySlug <|> u.referralCode

variable (lower : Text → Text)

/-- The primary key, `UNIQUE (referral_code)` and `idx_users_vanity_slug`. -/
structure Apart (u v : User) : Prop where
  id : u.id ≠ v.id
  code : ∀ code ∈ u.referralCode, v.referralCode ≠ some code
  slug : u.deleted = false → v.deleted = false →
    ∀ slug ∈ u.vanitySlug, ∀ slug' ∈ v.vanitySlug, lower slug ≠ lower slug'

instance (u v : User) : Decidable (Apart lower u v) :=
  decidable_of_iff (u.id ≠ v.id ∧ (∀ code ∈ u.referralCode, v.referralCode ≠ some code) ∧
      (u.deleted = false → v.deleted = false →
        ∀ slug ∈ u.vanitySlug, ∀ slug' ∈ v.vanitySlug, lower slug ≠ lower slug'))
    ⟨fun h => ⟨h.1, h.2.1, h.2.2⟩, fun h => ⟨h.id, h.code, h.slug⟩⟩

/-- `users`. -/
structure Users where
  rows : List User
  apart : rows.Pairwise (Apart lower)

variable {lower}

namespace Users

/-- An `UPDATE`, unless it breaks a unique index. -/
def update (users : Users lower) (selects : User → Bool) (set : User → User) :
    Except ApiError (Users lower) :=
  let rows := users.rows.map fun u => if selects u then set u else u
  if h : rows.Pairwise (Apart lower) then .ok ⟨rows, h⟩
  else .error (dbError "duplicate key value violates unique constraint" "23505")

variable (users : Users lower) (id : Id)

/-- `UPDATE users SET referral_code = $1 … WHERE id = $2 AND referral_code IS NULL`. -/
def setUserReferralCode (code : Text) : Except ApiError (Users lower) :=
  users.update (fun u => u.id = id && u.referralCode.isNone)
    fun u => { u with referralCode := some code }

/-- `UPDATE users SET vanity_slug = $1 … WHERE id = $2 AND deleted_at IS NULL`. -/
def setUserVanitySlug (slug : Text) : Except ApiError (Users lower) :=
  users.update (fun u => u.id = id && !u.deleted) fun u => { u with vanitySlug := some slug }

def getUserReferralCode : Option Text :=
  (users.rows.find? fun u => u.id = id && !u.deleted).bind (·.referralCode)

/-- `(referral_code = $1 OR vanity_slug = $1) AND deleted_at IS NULL`. -/
def matching (code : Text) : List User :=
  users.rows.filter fun u =>
    (u.referralCode = some code || u.vanitySlug = some code) && !u.deleted

/-- There is no order, so that a `LIMIT 1` takes any of them. -/
def findUserByReferralCode (pick : Nat) (code : Text) : Option User :=
  (users.matching code)[pick % (users.matching code).length]?

/-- Whom a link with this code leads to, in `consumePendingReferralAttribution`. -/
def attributed (pick : Nat) (link : Text) : Option User :=
  let code := normalizeCode link
  if isValidCode code then users.findUserByReferralCode pick code else none

/-- What stands in the row of a user, deleted or not. -/
def codeOf : Option Text := (users.rows.find? fun u => u.id = id).bind (·.referralCode)

end Users

/-- Users register without a code and without a slug, and others come and go. -/
structure Outside (users users' : Users lower) : Prop where
  kept : ∀ u ∈ users.rows, ∃ deleted, { u with deleted := deleted } ∈ users'.rows
  fresh : ∀ v ∈ users'.rows, (∃ u ∈ users.rows, ∃ deleted, v = { u with deleted := deleted }) ∨
    v.referralCode = none ∧ v.vanitySlug = none

/-! ### Calls -/

inductive CodeOp where
  | findUserByReferralCode (code : Text)
  | getUserReferralCode (userId : Id)
  | setUserReferralCode (userId : Id) (code : Text)
  | setUserVanitySlug (userId : Id) (slug : Text)

abbrev codeSig : Sig where
  Op := CodeOp
  Ans
    | .findUserByReferralCode _ => Option Id
    | .getUserReferralCode _ => Option Text
    | .setUserReferralCode .. | .setUserVanitySlug .. => Unit

/-- What the environment contributes to one call. -/
structure CodeEnv where
  /-- the error, and whether the statement took effect all the same -/
  fault : Option (ApiError × Bool)
  pick : Nat

/-- An answer, or nothing changed. -/
def written (users : Users lower) :
    Except ApiError (Users lower) → Except ApiError Unit × Users lower
  | .ok users' => (.ok (), users')
  | .error err => (.error err, users)

def perform (e : CodeEnv) :
    (op : CodeOp) → Users lower → Except ApiError (codeSig.Ans op) × Users lower
  | .findUserByReferralCode code, users =>
      (.ok ((users.findUserByReferralCode e.pick code).map (·.id)), users)
  | .getUserReferralCode userId, users => (.ok (users.getUserReferralCode userId), users)
  | .setUserReferralCode userId code, users =>
      written users (users.setUserReferralCode userId code)
  | .setUserVanitySlug userId slug, users => written users (users.setUserVanitySlug userId slug)

/-- The database. -/
def machine (lower : Text → Text) : Machine codeSig ApiError (Users lower) CodeEnv where
  exec e op users :=
    match e.fault with
    | some (err, applied) => (.error err, if applied then (perform e op users).2 else users)
    | none => perform e op users

/-! ### Programs -/

abbrev Service := Prog codeSig ApiError

def call (op : CodeOp) : Service (codeSig.Ans op) := Prog.call (S := codeSig) op

def CODE_ALPHABET : Text := "ABCDEFGHJKLMNPQRSTUVWXYZ23456789".toList

def CODE_LENGTH : Nat := 6

/-- `randomBytes(CODE_LENGTH)`. -/
abbrev Bytes := Fin CODE_LENGTH → UInt8

def codeFrom (bytes : Bytes) : Text :=
  (List.finRange CODE_LENGTH).map fun i =>
    CODE_ALPHABET.getD ((bytes i).toNat % CODE_ALPHABET.length) 'A'

/-- The attempts that are left; `draw` says what is drawn in each. -/
def generateFrom (draw : Nat → Bytes) (attempt : Nat) : Nat → Service Text
  | 0 => .raise ⟨"Unable to generate unique referral code".toList, none, none⟩
  | left + 1 => do
    let code := codeFrom (draw attempt)
    let existing ← call (.findUserByReferralCode code)
    match existing with
    | none => return code
    | some _ => generateFrom draw (attempt + 1) left

def generateUniqueReferralCode (draw : Nat → Bytes) : Service Text := generateFrom draw 0 20

def assignFrom (draws : Nat → Nat → Bytes) (userId : Id) (attempt : Nat) : Nat → Service Text
  | 0 => .raise ⟨"Unable to assign referral code".toList, none, none⟩
  | left + 1 => do
    let code ← generateUniqueReferralCode (draws attempt)
    let set ← (call (.setUserReferralCode userId code)).attempt
    match set with
    | .error err =>
      if err.code = some "23505".toList then assignFrom draws userId (attempt + 1) left
      else .raise err
    | .ok _ =>
      let updated ← call (.getUserReferralCode userId)
      match updated.filter (· ≠ []) with
      | some updated => return updated
      | none => assignFrom draws userId (attempt + 1) left

def ensureUserReferralCode (draws : Nat → Nat → Bytes) (userId : Id) : Service Text := do
  let existing ← call (.getUserReferralCode userId)
  match existing.filter (· ≠ []) with
  | some existing => return existing
  | none => assignFrom draws userId 0 10

/-- `[a-z0-9-]`. -/
def isSlugChar (c : Char) : Bool := c.isLower || c.isDigit || c = '-'

def reserved : List Text :=
  ["admin", "support", "api", "www", "help", "official", "brandblitz"].map String.toList

/-- Trimmed, in small letters, and checked. -/
def slugSchema (toLowerCase : Text → Text) (input : Text) : Option Text :=
  let slug := toLowerCase (trim input)
  if 3 ≤ slug.length ∧ slug.length ≤ 32 ∧ slug.all isSlugChar ∧ !reserved.contains slug then
    some slug
  else none

/-- `PATCH /users/me/referral-code`. -/
def patchReferralCode (toLowerCase : Text → Text) (userId : Id) (input : Text) : Service Text :=
  match slugSchema toLowerCase input with
  | none =>
    .raise (createError "Vanity slug must be 3-32 lowercase letters, numbers, or hyphens" 400
      "INVALID_VANITY_SLUG")
  | some slug => do
    Prog.tryCatch (call (.setUserVanitySlug userId slug)) fun err =>
      if err.code = some "23505".toList then
        .raise (createError "That vanity slug is already in use" 409 "VANITY_SLUG_TAKEN")
      else .raise err
    return slug

/-- What a call returned. -/
inductive Returned where
  | code (userId : Id) (code : Text)
  | slug (slug : Text)
deriving DecidableEq, Repr

def IsCall (p : Service Returned) : Prop :=
  (∃ draws userId, p = Returned.code userId <$> ensureUserReferralCode draws userId) ∨
    ∃ toLowerCase userId input, p = Returned.slug <$> patchReferralCode toLowerCase userId input

end BrandBlitz.Referrals.Codes

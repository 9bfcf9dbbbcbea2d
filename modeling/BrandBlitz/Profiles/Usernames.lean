import Mathlib.Data.List.Pairwise
import Mathlib.Logic.Function.Basic
import BrandBlitz.Paging.Cursor
import BrandBlitz.Payout.Rows

/-!
# BrandBlitz.Profiles.Usernames

**Usernames and profiles**: `GET /users/profile/:username` and `PATCH /users/me/profile` of
`apps/api/src/routes/users.ts`, and their queries.

Who changes a username is to leave a redirect under the old one, in Redis, which is looked up
before the name is. But `updateUserProfile` writes an entry of `audit_log` before it returns, and
this statement is always rejected: `$1` is the value of `actor_id UUID` and of `entity_key TEXT`
(42P08). By then the new name is committed, so a request renames its user and answers with an
error, and the redirect is never stored.

* Requests come one after the other, and no statement fails that PostgreSQL takes.
* `users_username_unique` is on `LOWER(username)`, of deleted users too.
-/

namespace BrandBlitz.Profiles

open BrandBlitz.Lib
open BrandBlitz.Paging (Uuid Timestamp)
open BrandBlitz.Payout.Rows (utf16Length)

/-! ### Users -/

/-- What a profile shows of a row as it is. -/
structure Standing where
  league : Option Text
  totalEarnedUsdc : Text
  challengesPlayed : Nat
  avatarUrl : Option Text
  streak : Nat
  createdAt : Timestamp
deriving DecidableEq, Repr

structure User where
  id : Uuid
  displayName : Text
  username : Option Text
  deleted : Bool
  standing : Standing
deriving DecidableEq, Repr

section

variable (lower : Text → Text)

/-- The primary key, and `users_username_unique`. -/
def Distinct (user other : User) : Prop :=
  user.id ≠ other.id ∧
    ∀ name ∈ user.username, ∀ name' ∈ other.username, lower name ≠ lower name'

instance (user other : User) : Decidable (Distinct lower user other) :=
  inferInstanceAs (Decidable (_ ∧ _))

/-- `users`. -/
structure Users where
  rows : List User
  distinct : rows.Pairwise (Distinct lower)

end

variable {lower : Text → Text}

/-- `SET display_name = $2, username = $3`. -/
def User.renamed (displayName : Text) (username : Option Text) (user : User) : User :=
  { user with displayName := displayName, username := username }

namespace Users

variable (users : Users lower)

/-- No one else has the username. -/
def Free (userId : Uuid) (username : Option Text) : Prop :=
  ∀ name ∈ username, ∀ other ∈ users.rows, other.id ≠ userId →
    ∀ name' ∈ other.username, lower name ≠ lower name'

instance (userId : Uuid) (username : Option Text) : Decidable (users.Free userId username) :=
  inferInstanceAs (Decidable (∀ _ ∈ username, _))

variable {users}

theorem distinct_renamed {userId : Uuid} {username : Option Text}
    (h : users.Free userId username) (displayName : Text) :
    (users.rows.map fun user =>
      if user.id = userId then user.renamed displayName username else user).Pairwise
        (Distinct lower) := by
  refine List.pairwise_map.mpr
    (users.distinct.imp_of_mem fun {user other} huser hother hdistinct => ?_)
  obtain ⟨hid, hnames⟩ := hdistinct
  by_cases hself : user.id = userId
  · have hne : other.id ≠ userId := fun heq => hid (hself.trans heq.symm)
    rw [if_pos hself, if_neg hne]
    exact ⟨hid, fun name hname name' hname' => h name hname other hother hne name' hname'⟩
  · rw [if_neg hself]
    split
    · exact ⟨hid, fun name hname name' hname' =>
        (h name' hname' user huser hself name hname).symm⟩
    · exact ⟨hid, hnames⟩

/-- `UPDATE users SET display_name = $2, username = $3 … WHERE id = $1`. -/
def update (users : Users lower) (userId : Uuid) (displayName : Text) (username : Option Text) :
    Except ApiError (Users lower) :=
  if h : users.Free userId username then .ok ⟨_, distinct_renamed h displayName⟩
  else
    .error (Sessions.dbError "duplicate key value violates unique constraint \"users_username_unique\""
      "23505")

/-- `SELECT … WHERE id = $1 AND deleted_at IS NULL`. -/
def byId (users : Users lower) (userId : Uuid) : Option User :=
  users.rows.find? fun user => user.id = userId && !user.deleted

end Users

structure ProfileBody where
  displayName : Option Text
  username : Option Text
deriving DecidableEq, Repr

structure Renamed where
  oldUsername : Option Text
  newUsername : Option Text
deriving DecidableEq, Repr

/-- The columns of `INSERT INTO audit_log` in `updateUserProfile` that have a parameter as value:
`actor_id`, `entity_key`, `before` and `after`. -/
def auditParams : List (Nat × String) :=
  [(1, "uuid"), (1, "text"), (2, "jsonb"), (3, "jsonb")]

def insertAudit : Except ApiError Unit :=
  (Statements.checkParams auditParams).mapError Sessions.rejection

/-- Each statement is a transaction of its own. -/
def updateUserProfile (users : Users lower) (userId : Uuid) (data : ProfileBody) :
    Except ApiError Renamed × Users lower :=
  match users.byId userId with
  | none => (.error ⟨"User not found".toList, none, none⟩, users)
  | some current =>
    let displayName := data.displayName.getD current.displayName
    let newUsername := data.username <|> current.username
    match users.update userId displayName newUsername with
    | .error err => (.error err, users)
    | .ok updated =>
      -- the new name is committed, whatever becomes of the entry
      (insertAudit.map fun _ => ⟨current.username, newUsername⟩, updated)

def getUserPublicProfileByUsername (users : Users lower) (username : Text) : Option User :=
  users.rows.find? fun user => user.username = some username && !user.deleted

/-! ### Requests -/

structure Site (lower : Text → Text) where
  users : Users lower
  /-- `user_blocks`: the one blocks the other -/
  blocks : Uuid → Uuid → Bool
  /-- `username:redirect:…` -/
  redirects : Text → Option Text
  /-- history: who gave a name up last -/
  gaveUp : Text → Option Uuid

/-- No one has been renamed. -/
def Site.start (users : Users lower) (blocks : Uuid → Uuid → Bool) : Site lower :=
  ⟨users, blocks, fun _ => none, fun _ => none⟩

structure Profile where
  userId : Option Uuid
  displayName : Text
  username : Option Text
  standing : Standing
  isOwner : Bool
deriving DecidableEq, Repr

inductive ProfileAnswer where
  | redirect (target : Text)
  | user (profile : Profile)
deriving DecidableEq, Repr

def zodFailure : ApiError := ⟨"Validation Error".toList, none, none⟩

def displayNameSchema (displayName : Text) : Except ApiError Text :=
  let trimmed := trim displayName
  if 1 ≤ utf16Length trimmed ∧ utf16Length trimmed ≤ 100 then .ok trimmed else .error zodFailure

/-- `[a-z0-9-]`. -/
def isUsernameChar (c : Char) : Bool := c.isLower || c.isDigit || c = '-'

def usernameSchema (username : Text) : Except ApiError Text :=
  let trimmed := trim username
  if 1 ≤ utf16Length trimmed ∧ utf16Length trimmed ≤ 30 ∧ trimmed.all isUsernameChar then
    .ok trimmed
  else .error zodFailure

def profileSchema (body : ProfileBody) : Except ApiError ProfileBody := do
  let displayName ← body.displayName.mapM displayNameSchema
  let username ← body.username.mapM usernameSchema
  return ⟨displayName, username⟩

namespace Site

variable (site : Site lower)

/-- The old username leads to the new one. -/
def leaveRedirect : Renamed → Site lower
  | ⟨some oldUsername, some newUsername⟩ =>
    if oldUsername ≠ [] ∧ oldUsername ≠ newUsername then
      { site with redirects := Function.update site.redirects oldUsername (some newUsername) }
    else site
  | _ => site

/-- `PATCH /users/me/profile`: the answer, and what the request leaves. -/
def patchProfile (userId : Uuid) (request : ProfileBody) : Except ApiError Renamed × Site lower :=
  match profileSchema request with
  | .error err => (.error err, site)
  | .ok body =>
    if body.displayName.isNone && body.username.isNone then
      (.error (createError "Nothing to update" 400), site)
    else
      match updateUserProfile site.users userId body with
      | (.error err, users) => (.error err, { site with users := users })
      | (.ok renamed, users) => (.ok renamed, { site with users := users }.leaveRedirect renamed)

/-- Has the user this name? The empty name has no page. -/
def isNamed (userId : Uuid) (name : Text) : Bool :=
  name ≠ [] && (site.users.byId userId).any fun user => user.username = some name

/-- A request, with the name that its user had and has no more. -/
def apply (request : Uuid × ProfileBody) : Site lower :=
  let after := (site.patchProfile request.1 request.2).2
  { after with
    gaveUp := fun name =>
      if site.isNamed request.1 name && !after.isNamed request.1 name then some request.1
      else site.gaveUp name }

/-- What a viewer sees of a user. -/
def shown (viewer : Option Uuid) (user : User) : Except ApiError ProfileAnswer :=
  if viewer.any (site.blocks · user.id) then .error (createError "User not found" 404)
  else
    let isOwner : Bool := viewer = some user.id
    .ok (.user
      { userId := if isOwner then some user.id else none
        displayName := user.displayName
        username := user.username
        standing := user.standing
        isOwner := isOwner })

/-- `GET /users/profile/:username`. -/
def getProfile (viewer : Option Uuid) (username : Text) : Except ApiError ProfileAnswer :=
  match (site.redirects username).filter (· ≠ []) with
  | some redirectTarget => .ok (.redirect redirectTarget)
  | none =>
    match getUserPublicProfileByUsername site.users username with
    | none => .error (createError "User not found" 404)
    | some user => site.shown viewer user

end Site

end BrandBlitz.Profiles

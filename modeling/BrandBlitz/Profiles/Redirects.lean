import BrandBlitz.Lib.Constrained
import BrandBlitz.Profiles.Usernames

/-!
# BrandBlitz.Profiles.Redirects

**Old usernames lead to profiles**, in exactly the runs in which no one gives a name up. A PATCH
fails at the entry of `audit_log`, after the new name is committed and before the redirect is
stored (`updateUserProfile_fails`). So no redirect ever exists: who has a name is found under it,
and who gave one up is not.

A step that changes the table rewrites the row of one user (`patchProfile_cases`), and where the
name that is asked for is free it does (`patchProfile_free`).
-/

namespace BrandBlitz.Profiles

open BrandBlitz.Lib
open BrandBlitz.Paging (Uuid Timestamp)

variable {lower : Text → Text}

/-! ### The property -/

/-- Following `next` from one name ends at another. -/
inductive Ends (next : Text → Option Text) : Text → Text → Prop
  | here {a : Text} : next a = none → Ends next a a
  | follow {a b c : Text} : next a = some b → Ends next b c → Ends next a c

/-- Where an answer sends the viewer. -/
def Site.redirectOf (site : Site lower) (viewer : Option Uuid) (name : Text) : Option Text :=
  match site.getProfile viewer name with
  | .ok (.redirect target) => some target
  | _ => none

structure RedirectsResolve (site : Site lower) : Prop where
  held : ∀ viewer, ∀ user ∈ site.users.rows, user.deleted = false → ∀ name ∈ user.username,
    name ≠ [] → site.getProfile viewer name = site.shown viewer user
  left : ∀ viewer name userId, site.gaveUp name = some userId →
    (∀ user ∈ site.users.rows, user.deleted = false → user.username ≠ some name) →
      ∃ user ∈ site.users.rows, user.id = userId ∧ user.deleted = false ∧
        ∃ last, Ends (site.redirectOf viewer) name last ∧
          site.getProfile viewer last = site.shown viewer user

/-- Who has a name, and asks for one that is free, asks for the one that they have. -/
def KeepsUsername (site : Site lower) (request : Uuid × ProfileBody) : Prop :=
  ∀ body, profileSchema request.2 = .ok body → ∀ name ∈ body.username,
    site.users.Free request.1 (some name) → ∀ user ∈ site.users.byId request.1,
      ∀ old ∈ user.username, old ≠ [] → old = name

/-! ### The table -/

section Table

variable {users users' : Users lower} {user other : User} {userId : Uuid}

instance : Std.Symm (Distinct lower) where
  symm _ _ h := ⟨h.1.symm, fun name hname name' hname' => (h.2 name' hname' name hname).symm⟩

theorem eq_of_id (huser : user ∈ users.rows) (hother : other ∈ users.rows)
    (h : user.id = other.id) : user = other := by
  by_contra hne
  exact (users.distinct.forall huser hother hne).1 h

theorem eq_of_username (huser : user ∈ users.rows) (hother : other ∈ users.rows) {name : Text}
    (h : user.username = some name) (h' : other.username = some name) : user = other := by
  by_contra hne
  exact (users.distinct.forall huser hother hne).2 name h name h' rfl

theorem find?_eq_some_of_unique {α : Type} {p : α → Bool} {l : List α} {a : α} (ha : a ∈ l)
    (hp : p a = true) (hunique : ∀ b ∈ l, p b = true → b = a) : l.find? p = some a := by
  cases h : l.find? p with
  | none => exact absurd hp (List.find?_eq_none.mp h a ha)
  | some b => rw [hunique b (List.mem_of_find?_eq_some h) (List.find?_some h)]

theorem byId_eq_some :
    users.byId userId = some user ↔
      user ∈ users.rows ∧ user.id = userId ∧ user.deleted = false := by
  constructor
  · intro h
    have hfound := List.find?_some h
    simp at hfound
    exact ⟨List.mem_of_find?_eq_some h, hfound⟩
  · rintro ⟨hmem, rfl, hlive⟩
    refine find?_eq_some_of_unique hmem (by simp [hlive]) fun other hother hp => ?_
    simp at hp
    exact eq_of_id hother hmem hp.1

theorem byUsername_eq_some {name : Text} (hmem : user ∈ users.rows)
    (hname : user.username = some name) (hlive : user.deleted = false) :
    getUserPublicProfileByUsername users name = some user := by
  refine find?_eq_some_of_unique hmem (by simp [hname, hlive]) fun other hother hp => ?_
  simp at hp
  exact eq_of_username hother hmem hp.1 hname

/-- One row is rewritten. -/
theorem byId_update {displayName : Text} {username : Option Text}
    (h : users.update userId displayName username = .ok users') (id : Uuid) :
    users'.byId id = (users.byId id).map fun user =>
      if user.id = userId then user.renamed displayName username else user := by
  unfold Users.update at h
  split at h
  · cases h
    rw [Users.byId, List.find?_map]
    refine congrArg (Option.map _) (congrFun (congrArg _ (funext fun user => ?_)) _)
    show (decide ((if _ then _ else user : User).id = id) &&
        !(if _ then _ else user : User).deleted)
      = _
    split <;> rfl
  · cases h

theorem update_ok_iff {displayName : Text} {username : Option Text} :
    (∃ users', users.update userId displayName username = .ok users') ↔
      users.Free userId username := by
  unfold Users.update
  split
  · simpa
  · simpa

/-- The row of the user whose name it is, and no other. -/
theorem byUsername_eq_none {name : Text}
    (h : ∀ user ∈ users.rows, user.deleted = false → user.username ≠ some name) :
    getUserPublicProfileByUsername users name = none := by
  refine List.find?_eq_none.mpr fun user hmem hp => ?_
  simp only [Bool.and_eq_true, decide_eq_true_eq, Bool.not_eq_true'] at hp
  exact h user hmem hp.2 hp.1

end Table

/-! ### A request -/

section Requests

variable {site : Site lower} {userId : Uuid} {user : User} {name : Text}

/-- **The entry is rejected**, whatever the change is: the actor and the key have two types. -/
theorem insertAudit_fails : ∃ err, insertAudit = .error err := by
  obtain ⟨rejection, h⟩ : ∃ rejection, Statements.checkParams auditParams = .error rejection :=
    Statements.checkParams_of_two_types (1, "uuid") (1, "text") (by decide) (by decide) rfl (by decide)
  exact ⟨Sessions.rejection rejection, congrArg (Except.mapError Sessions.rejection) h⟩

/-- **It always fails**, and what it changed by then stays. -/
theorem updateUserProfile_fails (users : Users lower) (userId : Uuid) (data : ProfileBody) :
    ∃ err users', updateUserProfile users userId data = (.error err, users') ∧
      (users' = users ∨ ∃ user, users.byId userId = some user ∧
        users.update userId (data.displayName.getD user.displayName)
          (data.username <|> user.username) = .ok users') := by
  unfold updateUserProfile
  cases huser : users.byId userId with
  | none => exact ⟨_, users, rfl, .inl rfl⟩
  | some user =>
      dsimp only
      cases hupdate : users.update userId (data.displayName.getD user.displayName)
          (data.username <|> user.username) with
      | error err => exact ⟨err, users, rfl, .inl rfl⟩
      | ok users' =>
          obtain ⟨err, hfails⟩ := insertAudit_fails
          rw [hfails]
          exact ⟨err, users', rfl, .inr ⟨user, rfl, hupdate⟩⟩

/-- A request leaves the site as it is, or a row rewritten. -/
theorem patchProfile_cases (site : Site lower) (userId : Uuid) (request : ProfileBody) :
    (site.patchProfile userId request).2 = site ∨
      ∃ body user users', profileSchema request = .ok body ∧
        site.users.byId userId = some user ∧
        site.users.update userId (body.displayName.getD user.displayName)
          (body.username <|> user.username) = .ok users' ∧
        (site.patchProfile userId request).2 = { site with users := users' } := by
  unfold Site.patchProfile
  cases hbody : profileSchema request with
  | error err => exact .inl rfl
  | ok body =>
      dsimp only
      split
      · exact .inl rfl
      · obtain ⟨err, users', hfails, rfl | ⟨user, huser, hupdate⟩⟩ :=
          updateUserProfile_fails site.users userId body
        · rw [hfails]
          exact .inl rfl
        · rw [hfails]
          exact .inr ⟨body, user, users', rfl, huser, hupdate, rfl⟩

/-- Where the name is free, the row is rewritten. -/
theorem patchProfile_free {request body : ProfileBody} (hbody : profileSchema request = .ok body)
    (hname : body.username = some name) (huser : site.users.byId userId = some user)
    (hfree : site.users.Free userId (some name)) :
    ∃ users', site.users.update userId (body.displayName.getD user.displayName) (some name)
        = .ok users' ∧
      (site.patchProfile userId request).2 = { site with users := users' } := by
  obtain ⟨users', hupdate⟩ := update_ok_iff.mpr hfree
  refine ⟨users', hupdate, ?_⟩
  unfold Site.patchProfile updateUserProfile
  simp only [hbody, hname, huser, Option.isNone_some, Bool.and_false]
  rw [if_neg Bool.false_ne_true]
  simp only [Option.orElse_eq_orElse, Option.orElse_eq_or, Option.some_or]
  obtain ⟨err, hfails⟩ := insertAudit_fails
  rw [hupdate, hfails]
  rfl

end Requests

/-! ### No redirects -/

section Steps

variable {site : Site lower} {user : User} {name : Text}

/-- Nothing redirects, and no one has given a name up. -/
structure Site.Inv (site : Site lower) : Prop where
  redirects : ∀ name, site.redirects name = none
  gaveUp : ∀ name, site.gaveUp name = none

theorem isNamed_iff (site : Site lower) {userId : Uuid}
    (huser : site.users.byId userId = some user) :
    site.isNamed userId name = true ↔ name ≠ [] ∧ user.username = some name := by
  rw [Site.isNamed, huser]
  simp

theorem apply_redirects (request : Uuid × ProfileBody) :
    (site.apply request).redirects = site.redirects := by
  show (site.patchProfile request.1 request.2).2.redirects = _
  rcases patchProfile_cases site request.1 request.2 with h | ⟨_, _, _, -, -, -, h⟩
  · rw [h]
  · rw [h]

/-- The row of the user, after it is rewritten. -/
theorem byId_renamed {userId : Uuid} {users users' : Users lower} {displayName : Text}
    {username : Option Text} (huser : users.byId userId = some user)
    (hupdate : users.update userId displayName username = .ok users') :
    users'.byId userId = some (user.renamed displayName username) := by
  rw [byId_update hupdate, huser, Option.map_some, if_pos (byId_eq_some.mp huser).2.1]

/-- **Who keeps their name gives none up.** -/
theorem isNamed_apply {request : Uuid × ProfileBody} (hkeeps : KeepsUsername site request)
    (hnamed : site.isNamed request.1 name = true) :
    (site.patchProfile request.1 request.2).2.isNamed request.1 name = true := by
  rcases patchProfile_cases site request.1 request.2 with
    h | ⟨body, user, users', hbody, huser, hupdate, h⟩
  · rwa [h]
  · obtain ⟨hne, hname⟩ := (isNamed_iff site huser).mp hnamed
    rw [h, isNamed_iff { site with users := users' } (byId_renamed huser hupdate)]
    refine ⟨hne, ?_⟩
    show (body.username <|> user.username) = some name
    cases hasked : body.username with
    | none => exact hname
    | some new =>
        rw [hasked] at hupdate
        have hfree : site.users.Free request.1 (some new) := update_ok_iff.mp ⟨users', hupdate⟩
        exact congrArg some (hkeeps body hbody new hasked hfree user huser name hname hne).symm

theorem apply_inv {request : Uuid × ProfileBody} (h : site.Inv)
    (hkeeps : KeepsUsername site request) : (site.apply request).Inv where
  redirects name := by rw [apply_redirects, h.redirects]
  gaveUp name := by
    refine (if_neg fun hgave => ?_).trans (h.gaveUp name)
    rw [Bool.and_eq_true, Bool.not_eq_true'] at hgave
    rw [isNamed_apply hkeeps hgave.1] at hgave
    exact Bool.noConfusion hgave.2

/-- The holder of a name is found under it. -/
theorem Site.Inv.resolve (h : site.Inv) : RedirectsResolve site where
  held viewer user hmem hlive name hname _ := by
    unfold Site.getProfile
    rw [h.redirects, Option.filter_none]
    dsimp only
    rw [byUsername_eq_some hmem hname hlive]
  left viewer name userId hgave := by
    rw [h.gaveUp] at hgave
    cases hgave

/-- Where nothing redirects, a name that no one has leads nowhere. -/
theorem not_found (hredirects : site.redirects name = none)
    (h : ∀ user ∈ site.users.rows, user.deleted = false → user.username ≠ some name)
    (viewer : Option Uuid) :
    site.getProfile viewer name = .error (createError "User not found" 404) := by
  unfold Site.getProfile
  rw [hredirects, Option.filter_none]
  dsimp only
  rw [byUsername_eq_none h]

theorem shown_none (site : Site lower) (user : User) :
    ∃ profile, site.shown none user = .ok (.user profile) :=
  ⟨_, if_neg Bool.false_ne_true⟩

/-- A name that was given up is not to be missing. -/
theorem RedirectsResolve.not_missing (h : RedirectsResolve site) {userId : Uuid} {err : ApiError}
    (hgave : site.gaveUp name = some userId)
    (hnone : ∀ user ∈ site.users.rows, user.deleted = false → user.username ≠ some name) :
    site.getProfile none name ≠ .error err := by
  intro hmissing
  obtain ⟨user, -, -, -, last, hends, hshown⟩ := h.left none name userId hgave hnone
  cases hends with
  | here _ =>
      -- the path ends where it starts
      obtain ⟨profile, hprofile⟩ := shown_none site user
      rw [hmissing, hprofile] at hshown
      cases hshown
  | follow hsome _ =>
      unfold Site.redirectOf at hsome
      rw [hmissing] at hsome
      cases hsome

/-- No one else has the name. -/
theorem not_held_renamed {userId : Uuid} {users users' : Users lower} {displayName new : Text}
    (huser : users.byId userId = some user) (hname : user.username = some name) (hne : name ≠ new)
    (hupdate : users.update userId displayName (some new) = .ok users') :
    ∀ other ∈ users'.rows, other.deleted = false → other.username ≠ some name := by
  intro other hother hlive hheld
  have hrow := byId_renamed huser hupdate
  have hsame : other.id = userId := by
    by_contra hid
    have hafter := byId_eq_some.mpr ⟨hother, rfl, hlive⟩
    rw [byId_update hupdate, Option.map_eq_some_iff] at hafter
    obtain ⟨before, hbefore, hafter⟩ := hafter
    obtain ⟨hmem, hidb, -⟩ := byId_eq_some.mp hbefore
    rw [if_neg (hidb ▸ hid)] at hafter
    obtain rfl := hafter
    exact hid ((eq_of_username hmem (byId_eq_some.mp huser).1 hheld hname) ▸
      (byId_eq_some.mp huser).2.1)
  have hlookup := byId_eq_some.mpr ⟨hother, hsame, hlive⟩
  obtain rfl := Option.some.inj (hrow.symm.trans hlookup)
  exact hne (Option.some.inj hheld).symm

/-- **Who gives a name up is not found under it.** -/
theorem keepsUsername_of_resolve {request : Uuid × ProfileBody} (h : site.Inv)
    (hresolve : RedirectsResolve (site.apply request)) : KeepsUsername site request := by
  intro body hbody new hnew hfree user huser old hold hne
  by_contra hother
  obtain ⟨users', hupdate, hpatch⟩ := patchProfile_free hbody hnew huser hfree
  have hrow := byId_renamed huser hupdate
  have hnone : ∀ other ∈ (site.apply request).users.rows, other.deleted = false →
      other.username ≠ some old := by
    show ∀ other ∈ (site.patchProfile request.1 request.2).2.users.rows, _
    rw [hpatch]
    exact not_held_renamed huser hold hother hupdate
  have hgave : (site.apply request).gaveUp old = some request.1 := by
    refine if_pos ?_
    rw [Bool.and_eq_true, Bool.not_eq_true', hpatch, isNamed_iff site huser, ← Bool.not_eq_true,
      isNamed_iff { site with users := users' } hrow]
    exact ⟨⟨hne, hold⟩, fun hstill => hother (Option.some.inj hstill.2).symm⟩
  have hredirects : (site.apply request).redirects old = none := by
    rw [apply_redirects, h.redirects]
  exact hresolve.not_missing hgave hnone (not_found hredirects hnone none)

end Steps

/-! ### Every run -/

/-- **After every request of a run usernames lead to profiles**, if and only if no request gives
a user who has a name another one that is free. -/
theorem redirects_resolve_iff (users : Users lower) (blocks : Uuid → Uuid → Bool)
    (requests : List (Uuid × ProfileBody)) :
    Along Site.apply (fun site request => RedirectsResolve (site.apply request))
        (.start users blocks) requests ↔
      Along Site.apply KeepsUsername (.start users blocks) requests :=
  along_iff_of_invariant (fun _ _ h hkeeps => apply_inv h hkeeps)
    (fun _ _ h => ⟨keepsUsername_of_resolve h, fun hkeeps => (apply_inv h hkeeps).resolve⟩)
    ⟨fun _ => rfl, fun _ => rfl⟩ requests

/-! ### A rename -/

/-- Users 1 and 2, `a` and `b`. -/
def twoUsers : Users (List.map Char.toLower) where
  rows :=
    [⟨1, ['A'], some ['a'], false, ⟨none, "0.0000000".toList, 0, none, 0, 0⟩⟩,
      ⟨2, ['B'], some ['b'], false, ⟨none, "0.0000000".toList, 0, none, 0, 0⟩⟩]
  distinct := by decide

/-- User 1 asks to be `c`. -/
def rename : Uuid × ProfileBody := (1, ⟨none, some ['c']⟩)

def beforeRename : Site (List.map Char.toLower) := .start twoUsers fun _ _ => false

/-- The answer is an error and the new name is stored; the old one leads nowhere. -/
theorem old_name_lost :
    (beforeRename.patchProfile rename.1 rename.2).1 =
        .error (Sessions.dbError "inconsistent types deduced for parameter $1" "42P08") ∧
      (beforeRename.apply rename).users.rows.map (·.username) = [some ['c'], some ['b']] ∧
      (beforeRename.apply rename).getProfile none ['a'] =
        .error (createError "User not found" 404) ∧
      ¬ RedirectsResolve (beforeRename.apply rename) := by
  have hmissing : (beforeRename.apply rename).getProfile none ['a'] =
      .error (createError "User not found" 404) := by decide +kernel
  have hgave : (beforeRename.apply rename).gaveUp ['a'] = some 1 := by decide +kernel
  refine ⟨by decide +kernel, by decide +kernel, hmissing, fun h => ?_⟩
  exact h.not_missing hgave (by decide +kernel) hmissing

end BrandBlitz.Profiles

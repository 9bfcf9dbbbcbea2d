import Mathlib.Logic.Function.Basic
import BrandBlitz.Lib.Crew
import BrandBlitz.Paging.Cursor
import BrandBlitz.Stellar.Client

/-!
# BrandBlitz.Auth.Refresh

**The rotation of refresh tokens**: `POST /auth/refresh` and `POST /auth/logout` of
`apps/api/src/routes/auth.ts`, the logins that register tokens, and the keys of
`apps/api/src/lib/tokens.ts`.

`jti:<jti>` says that a token was used, or that it was revoked. A refresh marks its token as
used, and takes a token that is marked in any way for a revoked one: it has just marked its own.
So no refresh ever succeeds. What else was promised holds, as long as nothing is registered for
a user while the tokens registered before are revoked.

A refresh token is known by its `jti`, of which no two are the same. No key expires, and every
command to Redis takes effect at once; a pipeline is its commands, one after the other.
-/

namespace BrandBlitz.Auth

open BrandBlitz.Lib BrandBlitz.Paging

/-! ### The world -/

inductive JtiMark
  | used
  | revoked
deriving DecidableEq, Repr

/-- How a refresh is answered once it has marked its token. -/
inductive RefreshOutcome
  | pair
  | tokenReuse
  | tokenRevoked
  | userNotFound
deriving DecidableEq, Repr

structure Presentation where
  program : Nat
  jti : Nat
  /-- not presented before, not logged out and not revoked -/
  first : Bool
  /-- what is registered for the user -/
  registered : List Nat
deriving DecidableEq, Repr

structure RefreshAnswer where
  program : Nat
  jti : Nat
  outcome : RefreshOutcome
deriving DecidableEq, Repr

structure RefreshWorld where
  /-- `jti:<jti>` -/
  marks : Nat → Option JtiMark
  /-- `user_refresh_jtis:<user>` -/
  registered : Uuid → List Nat
  /-- the refresh tokens that were signed, by their `jti`: whose they are -/
  signed : List Uuid
  /-- history -/
  presented : List Presentation
  loggedOut : List Nat
  revoked : List Nat
  /-- the last one first -/
  answers : List RefreshAnswer

/-- Nobody has logged in. -/
def RefreshWorld.start : RefreshWorld := ⟨fun _ => none, fun _ => [], [], [], [], [], []⟩

inductive RefreshOp
  | verifyRefreshToken (token : Nat)
  /-- `SET jti:<jti> used NX`, by a refresh or by a logout -/
  | markJtiUsed (jti : Nat) (sub : Uuid) (refresh : Bool)
  | isJtiRevoked (jti : Nat)
  | smembers (userId : Uuid)
  | setRevoked (jti : Nat)
  | delSet (userId : Uuid)
  | hasTotpEnabled
  | findUserById (userId : Uuid)
  | signRefreshToken (userId : Uuid)
  | registerRefreshJti (userId : Uuid) (jti : Nat)
  /-- history -/
  | answer (jti : Nat) (outcome : RefreshOutcome)
deriving DecidableEq, Repr

abbrev refreshSig : Sig where
  Op := RefreshOp
  Ans
    | .verifyRefreshToken _ => Option Uuid
    | .markJtiUsed _ _ _ | .isJtiRevoked _ | .hasTotpEnabled | .findUserById _ => Bool
    | .smembers _ => List Nat
    | .signRefreshToken _ => Nat
    | _ => Unit

abbrev Refreshing := Prog refreshSig ApiError

structure RefreshEnv where
  totpEnabled : Bool
  userExists : Bool

namespace RefreshWorld

variable (w : RefreshWorld)

/-- The token was not presented, logged out or revoked yet. -/
def untouched (jti : Nat) : Bool :=
  w.presented.all (·.jti ≠ jti) && jti ∉ w.loggedOut && jti ∉ w.revoked

def isMarked (jti : Nat) : Bool := (w.marks jti).isSome

end RefreshWorld

/-- The effect of a call that program `i` makes. -/
def performRefresh (i : Nat) (e : RefreshEnv) (w : RefreshWorld) :
    (op : RefreshOp) → refreshSig.Ans op × RefreshWorld
  | .verifyRefreshToken token => (w.signed[token]?, w)
  | .markJtiUsed jti sub refresh =>
      (w.isMarked jti, { w with
        marks := Function.update w.marks jti (some ((w.marks jti).getD .used))
        presented := if refresh then ⟨i, jti, w.untouched jti, w.registered sub⟩ :: w.presented
          else w.presented
        loggedOut := if refresh then w.loggedOut else jti :: w.loggedOut })
  | .isJtiRevoked jti => (w.isMarked jti, w)
  | .smembers userId => (w.registered userId, w)
  | .setRevoked jti => ((), { w with
      marks := Function.update w.marks jti (some .revoked)
      revoked := jti :: w.revoked })
  | .delSet userId => ((), { w with registered := Function.update w.registered userId [] })
  | .hasTotpEnabled => (e.totpEnabled, w)
  | .findUserById _ => (e.userExists, w)
  | .signRefreshToken userId => (w.signed.length, { w with signed := w.signed ++ [userId] })
  | .registerRefreshJti userId jti => ((), { w with
      registered := Function.update w.registered userId (jti :: w.registered userId) })
  | .answer jti outcome => ((), { w with answers := ⟨i, jti, outcome⟩ :: w.answers })

def refreshMachine (i : Nat) : Machine refreshSig ApiError RefreshWorld RefreshEnv where
  exec e op w := (.ok (performRefresh i e w op).1, (performRefresh i e w op).2)

/-! ### The routes -/

def callRefresh (op : RefreshOp) : Refreshing (refreshSig.Ans op) := Prog.call (S := refreshSig) op

def revokeAllUserRefreshTokens (userId : Uuid) : Refreshing Unit := do
  let jtis ← callRefresh (.smembers userId)
  if 0 < jtis.length then
    Prog.forEach jtis fun jti => callRefresh (.setRevoked jti)
    callRefresh (.delSet userId)

/-- The pair of a login, or of a refresh. -/
def issueRefreshToken (userId : Uuid) : Refreshing Unit := do
  let jti ← callRefresh (.signRefreshToken userId)
  callRefresh (.registerRefreshJti userId jti)

/-- `POST /auth/google/callback`, as far as refresh tokens go. -/
def googleCallback (userId : Uuid) : Refreshing Unit := do
  revokeAllUserRefreshTokens userId
  let enabled ← callRefresh .hasTotpEnabled
  if enabled then return () else issueRefreshToken userId

/-- `POST /auth/2fa/verify`, once the code was right. -/
def twoFactorVerify (userId : Uuid) : Refreshing Unit := issueRefreshToken userId

/-- `throw`, and what the error handler answers. -/
def refuse (jti : Nat) (outcome : RefreshOutcome) (err : ApiError) : Refreshing Unit := do
  callRefresh (.answer jti outcome)
  .raise err

def invalidRefreshToken : ApiError :=
  createError "Invalid refresh token" 401 "INVALID_REFRESH_TOKEN"

/-- `POST /auth/refresh`. -/
def postRefresh (refreshToken : Nat) : Refreshing Unit := do
  let payload ← callRefresh (.verifyRefreshToken refreshToken)
  match payload with
  | none => .raise invalidRefreshToken
  | some sub =>
    let alreadyUsed ← callRefresh (.markJtiUsed refreshToken sub true)
    if alreadyUsed then do
      revokeAllUserRefreshTokens sub
      refuse refreshToken .tokenReuse
        (createError "Refresh token reuse detected — all sessions revoked" 401 "TOKEN_REUSE")
    else do
      let revoked ← callRefresh (.isJtiRevoked refreshToken)
      if revoked then
        refuse refreshToken .tokenRevoked (createError "Refresh token revoked" 401 "TOKEN_REVOKED")
      else do
        let user ← callRefresh (.findUserById sub)
        if user then do
          issueRefreshToken sub
          callRefresh (.answer refreshToken .pair)
        else refuse refreshToken .userNotFound invalidRefreshToken

/-- `POST /auth/logout`: `none` when the body has no token. -/
def postLogout (refreshToken : Option Nat) : Refreshing Unit :=
  match refreshToken with
  | none => .ret ()
  | some token => do
    let p ← callRefresh (.verifyRefreshToken token)
    match p with
    | none => .ret ()
    | some sub =>
      let _ ← callRefresh (.markJtiUsed token sub false)
      return ()

/-! ### The property -/

/-- What is promised of refresh tokens. -/
structure RotationKept (w : RefreshWorld) : Prop where
  /-- the first presentation of a token that is still good returns a pair -/
  first : ∀ p ∈ w.presented, p.first = true → ∀ a ∈ w.answers, a.program = p.program →
    a.outcome = .pair ∨ a.outcome = .userNotFound
  once : ∀ jti, (w.answers.filter fun a => a.jti = jti && a.outcome = .pair).length ≤ 1
  /-- presenting a token that was used before, or revoked, revokes what is registered for the
  user -/
  reuse : ∀ later a earlier, w.answers = later ++ a :: earlier →
    ∀ p ∈ w.presented, p.program = a.program → p.first = false → ∀ jti ∈ p.registered,
      w.isMarked jti = true ∧ ∀ b ∈ later, ¬ (b.jti = jti ∧ b.outcome = .pair)

/-- Any number of requests. -/
def RefreshProgram (p : Refreshing Unit) : Prop :=
  (∃ userId, p = googleCallback userId) ∨ (∃ userId, p = twoFactorVerify userId) ∨
    (∃ token, p = postRefresh token) ∨ ∃ token, p = postLogout token

/-- When the set of a user is deleted, all that is in it was marked. -/
def DeletesMarked (_ : Nat) (w : RefreshWorld) (op : RefreshOp) (_ : RefreshEnv) : Prop :=
  match op with
  | .delSet userId => ∀ jti ∈ w.registered userId, w.isMarked jti = true
  | _ => True

/-! ### The invariant -/

structure RefreshInv (w : RefreshWorld) : Prop where
  /-- a token that was presented is marked, so it is always taken to be revoked -/
  refused : ∀ a ∈ w.answers, a.outcome ≠ .pair ∧ a.outcome ≠ .userNotFound
  reuse : ∀ a ∈ w.answers, ∀ p ∈ w.presented, p.program = a.program → p.first = false →
    ∀ jti ∈ p.registered, w.isMarked jti = true
  /-- a token that was presented, logged out or revoked is marked -/
  touched : ∀ jti, w.isMarked jti = false → w.untouched jti = true

theorem start_refreshInv : RefreshInv .start :=
  ⟨fun a h => (by cases h), fun a h => (by cases h), fun _ _ => rfl⟩

/-- Program `i` has presented nothing and got no answer. -/
structure Silent (i : Nat) (w : RefreshWorld) : Prop where
  presented : ∀ p ∈ w.presented, p.program ≠ i
  answers : ∀ a ∈ w.answers, a.program ≠ i

/-- Marks stay, and a registered token goes only when it is marked. -/
structure Marked (w w' : RefreshWorld) : Prop where
  marks : ∀ jti, w.isMarked jti = true → w'.isMarked jti = true
  registered : ∀ userId, ∀ jti ∈ w.registered userId,
    jti ∈ w'.registered userId ∨ w'.isMarked jti = true

/-- What program `i` counts on, whatever the others do. -/
structure RefreshRely (i : Nat) (w w' : RefreshWorld) : Prop where
  inv : RefreshInv w'
  marked : Marked w w'
  presented : ∀ p ∈ w'.presented, p.program = i → p ∈ w.presented
  answers : ∀ a ∈ w'.answers, a.program = i → a ∈ w.answers

theorem Marked.refl (w : RefreshWorld) : Marked w w := ⟨fun _ h => h, fun _ _ h => .inl h⟩

theorem Marked.trans {w w' w'' : RefreshWorld} (h : Marked w w') (h' : Marked w' w'') :
    Marked w w'' where
  marks jti hjti := h'.marks jti (h.marks jti hjti)
  registered userId jti hjti := by
    rcases h.registered userId jti hjti with hkept | hmarked
    · exact h'.registered userId jti hkept
    · exact .inr (h'.marks jti hmarked)

section Steps

variable {i : Nat} {e : RefreshEnv} {w : RefreshWorld} {op : RefreshOp}

theorem isMarked_update {jti jti' : Nat} {mark : JtiMark} (h : w.isMarked jti = true) :
    (Function.update w.marks jti' (some mark) jti).isSome = true := by
  by_cases heq : jti = jti'
  · rw [heq, Function.update_self]
    rfl
  · rwa [Function.update_of_ne heq]

theorem perform_marked (hguard : DeletesMarked i w op e) :
    Marked w (performRefresh i e w op).2 := by
  cases op with
  | markJtiUsed jti sub refresh =>
      exact ⟨fun jti' h => isMarked_update h, fun _ _ h => .inl h⟩
  | setRevoked jti => exact ⟨fun jti' h => isMarked_update h, fun _ _ h => .inl h⟩
  | delSet userId =>
      refine ⟨fun _ h => h, fun userId' jti hjti => ?_⟩
      by_cases heq : userId' = userId
      · subst heq
        exact .inr (hguard jti hjti)
      · left
        simpa only [performRefresh, Function.update_of_ne heq] using hjti
  | registerRefreshJti userId jti =>
      refine ⟨fun _ h => h, fun userId' jti' hjti' => .inl ?_⟩
      by_cases heq : userId' = userId
      · subst heq
        simp [performRefresh, hjti']
      · simpa only [performRefresh, Function.update_of_ne heq] using hjti'
  | _ => exact ⟨fun _ h => h, fun _ _ h => .inl h⟩

/-- What is true of the world where program `i` makes a call. -/
def RefreshReady (i : Nat) (w : RefreshWorld) : RefreshOp → Prop
  | .markJtiUsed _ _ true => ∀ a ∈ w.answers, a.program ≠ i
  | .answer _ outcome => outcome ≠ .pair ∧ outcome ≠ .userNotFound ∧
      ∀ p ∈ w.presented, p.program = i → p.first = false →
        ∀ jti ∈ p.registered, w.isMarked jti = true
  | _ => True

/-- Whatever uses a token marks it. -/
theorem perform_touched (h : RefreshInv w) (i : Nat) (e : RefreshEnv) (op : RefreshOp)
    (jti : Nat) (hunmarked : (performRefresh i e w op).2.isMarked jti = false) :
    (performRefresh i e w op).2.untouched jti = true := by
  have hne {jti' : Nat} {mark : JtiMark}
      (hupdate : (Function.update w.marks jti' (some mark) jti).isSome = false) :
      jti ≠ jti' ∧ w.untouched jti = true := by
    have hne : jti ≠ jti' := by
      rintro rfl
      simp at hupdate
    rw [Function.update_of_ne hne] at hupdate
    exact ⟨hne, h.touched jti hupdate⟩
  cases op with
  | markJtiUsed jti' sub refresh =>
      obtain ⟨hne, huntouched⟩ := hne hunmarked
      cases refresh <;> simp_all [performRefresh, RefreshWorld.untouched, hne.symm]
  | setRevoked jti' =>
      obtain ⟨hne, huntouched⟩ := hne hunmarked
      simp_all [performRefresh, RefreshWorld.untouched]
  | _ => exact h.touched jti hunmarked

theorem RefreshInv.of_same {w' : RefreshWorld} (h : RefreshInv w) (hmarked : Marked w w')
    (htouched : ∀ jti, w'.isMarked jti = false → w'.untouched jti = true)
    (hpresented : w'.presented = w.presented) (hanswers : w'.answers = w.answers) :
    RefreshInv w' where
  refused := by rw [hanswers]; exact h.refused
  reuse := by
    rw [hpresented, hanswers]
    exact fun a ha p hp hprogram hfirst jti hjti =>
      hmarked.marks jti (h.reuse a ha p hp hprogram hfirst jti hjti)
  touched := htouched

theorem perform_refreshInv (h : RefreshInv w) (hready : RefreshReady i w op)
    (hguard : DeletesMarked i w op e) : RefreshInv (performRefresh i e w op).2 := by
  have hmarked := perform_marked hguard
  have htouched := perform_touched h i e op
  cases op with
  | markJtiUsed jti sub refresh =>
      cases refresh with
      | false => exact h.of_same hmarked htouched rfl rfl
      | true =>
          refine ⟨h.refused, fun a ha p hp hprogram hfirst jti' hjti' => ?_, htouched⟩
          rcases List.mem_cons.mp hp with rfl | hp
          · exact absurd hprogram.symm (hready a ha)
          · exact hmarked.marks jti' (h.reuse a ha p hp hprogram hfirst jti' hjti')
  | answer jti outcome =>
      refine ⟨fun a ha => ?_, fun a ha p hp hprogram hfirst jti' hjti' => ?_, htouched⟩
      all_goals rcases List.mem_cons.mp ha with rfl | ha
      · exact ⟨hready.1, hready.2.1⟩
      · exact h.refused a ha
      · exact hready.2.2 p hp hprogram hfirst jti' hjti'
      · exact h.reuse a ha p hp hprogram hfirst jti' hjti'
  | verifyRefreshToken _ | isJtiRevoked _ | smembers _ | hasTotpEnabled | findUserById _ => exact h
  | setRevoked _ | delSet _ | signRefreshToken _ | registerRefreshJti _ _ =>
      exact h.of_same hmarked htouched rfl rfl

/-- Nobody presents or answers for another program. -/
theorem perform_own {j : Nat} (hij : i ≠ j) :
    (∀ p ∈ (performRefresh j e w op).2.presented, p.program = i → p ∈ w.presented) ∧
      ∀ a ∈ (performRefresh j e w op).2.answers, a.program = i → a ∈ w.answers := by
  cases op with
  | markJtiUsed jti sub refresh =>
      refine ⟨fun p hp hprogram => ?_, fun a ha _ => ha⟩
      cases refresh with
      | false => exact hp
      | true => exact mem_of_recorded hp hprogram hij
  | answer jti outcome =>
      exact ⟨fun p hp _ => hp, fun a ha hprogram => mem_of_recorded ha hprogram hij⟩
  | _ => exact ⟨fun p hp _ => hp, fun a ha _ => ha⟩

end Steps

/-! ### The programs -/

section Programs

variable {i : Nat} {w : RefreshWorld}

/-- Program `i` keeps the invariant while the others move, and ends in `Q` or throws. -/
def Rotates (i : Nat) {α : Type} (p : Refreshing α) (Q : α → RefreshWorld → Prop)
    (w : RefreshWorld) : Prop :=
  p.wp (refreshMachine i).among (Among (RefreshRely i) (DeletesMarked i)) RefreshInv
    (Prog.Ends Q fun _ _ => True) w

/-- An assertion that the others leave alone. -/
def Alone (i : Nat) (A : RefreshWorld → Prop) : Prop := ∀ w w', A w → RefreshRely i w w' → A w'

theorem alone_true : Alone i fun _ => True := fun _ _ _ _ => trivial

theorem rotates_call {op : RefreshOp} {A : RefreshWorld → Prop}
    {Q : refreshSig.Ans op → RefreshWorld → Prop} (halone : Alone i A) (hw : A w)
    (hready : ∀ w', A w' → RefreshReady i w' op)
    (h : ∀ w' e, A w' → DeletesMarked i w' op e →
      Q (performRefresh i e w' op).1 (performRefresh i e w' op).2) :
    Rotates i (callRefresh op) Q w :=
  Prog.wp_call_among halone hw fun w' e hrely hw' hguard =>
    ⟨perform_refreshInv hrely.inv (hready w' hw') hguard, h w' e hw' hguard⟩

/-- A call of which neither the answer nor the effect counts. -/
theorem rotates_any {op : RefreshOp} (hready : ∀ w', RefreshReady i w' op) :
    Rotates i (callRefresh op) (fun _ _ => True) w :=
  rotates_call alone_true trivial (fun w' _ => hready w') fun _ _ _ _ => trivial

theorem issueRefreshToken_rotates (userId : Uuid) :
    Rotates i (issueRefreshToken userId) (fun _ _ => True) w :=
  Prog.wp_bind (rotates_any fun _ => trivial) fun _ _ _ => rotates_any fun _ => trivial

/-- Program `i` has presented its token when `jtis` were registered. -/
structure Presented (i : Nat) (jtis : List Nat) (w : RefreshWorld) : Prop where
  presented : ∀ p ∈ w.presented, p.program = i → p.registered = jtis
  answers : ∀ a ∈ w.answers, a.program ≠ i

/-- Each of them is marked, or about to be. -/
structure Revoking (i : Nat) (jtis rest : List Nat) (w : RefreshWorld) : Prop where
  presented : Presented i jtis w
  pending : ∀ jti ∈ jtis, jti ∈ rest ∨ w.isMarked jti = true

theorem alone_silent : Alone i (Silent i) := fun _ _ h hrely =>
  ⟨fun p hp hprogram => h.presented p (hrely.presented p hp hprogram) hprogram,
    fun a ha hprogram => h.answers a (hrely.answers a ha hprogram) hprogram⟩

/-- The others keep the invariant. -/
theorem alone_silent_inv : Alone i fun w => Silent i w ∧ RefreshInv w := fun w w' h hrely =>
  ⟨alone_silent w w' h.1 hrely, hrely.inv⟩

/-- What program `i` has presented was good. -/
def PresentedGood (i : Nat) (w : RefreshWorld) : Prop :=
  ∀ p ∈ w.presented, p.program = i → p.first = true

theorem alone_presentedGood : Alone i (PresentedGood i) := fun _ _ h hrely p hp hprogram =>
  h p (hrely.presented p hp hprogram) hprogram

theorem alone_presented (jtis : List Nat) : Alone i (Presented i jtis) := fun _ _ h hrely =>
  ⟨fun p hp hprogram => h.presented p (hrely.presented p hp hprogram) hprogram,
    fun a ha hprogram => h.answers a (hrely.answers a ha hprogram) hprogram⟩

theorem alone_revoking (jtis rest : List Nat) : Alone i (Revoking i jtis rest) :=
  fun _ _ h hrely => ⟨alone_presented jtis _ _ h.presented hrely,
    fun jti hjti => (h.pending jti hjti).imp_right (hrely.marked.marks jti)⟩

/-- All of the set is marked one by one. -/
theorem forEach_setRevoked {jtis : List Nat} (rest : List Nat) (h : Revoking i jtis rest w) :
    Rotates i (Prog.forEach rest fun jti => callRefresh (.setRevoked jti))
      (fun _ => Revoking i jtis []) w := by
  induction rest generalizing w with
  | nil => exact h
  | cons first rest ih =>
      refine Prog.wp_bind (P := fun _ => Revoking i jtis rest)
        (rotates_call (alone_revoking jtis (first :: rest)) h (fun _ _ => trivial)
          fun w' e h hguard => ?_) fun _ w' h => ih h
      refine ⟨⟨h.presented.presented, h.presented.answers⟩, fun jti hjti => ?_⟩
      rcases h.pending jti hjti with hrest | hmarked
      · rcases List.mem_cons.mp hrest with rfl | hrest
        · exact .inr (by simp [performRefresh, RefreshWorld.isMarked])
        · exact .inl hrest
      · exact .inr ((perform_marked hguard).marks jti hmarked)

/-- **A reuse revokes** what was registered when the token was presented, though it may have
been taken out of the set meanwhile. -/
theorem revokeAll_rotates (userId : Uuid) (jtis : List Nat) (hpresented : Presented i jtis w)
    (hregistered : ∀ jti ∈ jtis, jti ∈ w.registered userId ∨ w.isMarked jti = true) :
    Rotates i (revokeAllUserRefreshTokens userId) (fun _ => Revoking i jtis []) w := by
  have halone : Alone i fun w => Presented i jtis w ∧
      ∀ jti ∈ jtis, jti ∈ w.registered userId ∨ w.isMarked jti = true := by
    intro w w' h hrely
    refine ⟨alone_presented jtis _ _ h.1 hrely, fun jti hjti => ?_⟩
    rcases h.2 jti hjti with hset | hmarked
    · exact hrely.marked.registered userId jti hset
    · exact .inr (hrely.marked.marks jti hmarked)
  refine Prog.wp_bind (P := fun rest => Revoking i jtis rest)
    (rotates_call halone ⟨hpresented, hregistered⟩ (fun _ _ => trivial)
      fun w' e h _ => ⟨h.1, h.2⟩) fun rest w h => ?_
  show Prog.wp _ _ _ (ite _ _ _) _ _
  split
  · refine Prog.wp_bind (forEach_setRevoked rest h) fun _ w h => ?_
    exact rotates_call (alone_revoking jtis []) h (fun _ _ => trivial)
      fun w' e h _ => ⟨⟨h.presented.presented, h.presented.answers⟩, h.pending⟩
  next hempty =>
    obtain rfl : rest = [] := List.length_eq_zero_iff.mp (by omega)
    exact h

/-- The same for a login, which has presented nothing. -/
theorem revokeAll_silent (userId : Uuid) (h : Silent i w) :
    Rotates i (revokeAllUserRefreshTokens userId) (fun _ _ => True) w :=
  Prog.wp_weaken (revokeAll_rotates userId []
    ⟨fun p hp hprogram => absurd hprogram (h.presented p hp), h.answers⟩
    fun _ hjti => by cases hjti) (fun _ _ _ => trivial) fun _ _ h => h

theorem googleCallback_rotates (userId : Uuid) (h : Silent i w) :
    Rotates i (googleCallback userId) (fun _ _ => True) w := by
  refine Prog.wp_bind (revokeAll_silent userId h) fun _ w _ => ?_
  refine Prog.wp_bind (rotates_any fun _ => trivial) fun enabled w _ => ?_
  cases enabled with
  | false => exact issueRefreshToken_rotates userId
  | true => trivial

theorem postLogout_rotates (refreshToken : Option Nat) :
    Rotates i (postLogout refreshToken) (fun _ _ => True) w := by
  cases refreshToken with
  | none => trivial
  | some token =>
      refine Prog.wp_bind (rotates_any fun _ => trivial) fun p w _ => ?_
      cases p with
      | none => trivial
      | some sub => exact Prog.wp_bind (rotates_any fun _ => trivial) fun _ _ _ => trivial

/-- An answer that does not give a pair. -/
theorem refuse_rotates {jti : Nat} {outcome : RefreshOutcome} {err : ApiError}
    {A : RefreshWorld → Prop} (halone : Alone i A) (hw : A w)
    (hready : ∀ w', A w' → RefreshReady i w' (.answer jti outcome)) :
    Rotates i (refuse jti outcome err) (fun _ _ => True) w :=
  Prog.wp_bind (P := fun _ _ => True) (rotates_call halone hw hready fun _ _ _ _ => trivial)
    fun _ _ _ => trivial

/-- A refresh finds the mark that it has just made. -/
theorem postRefresh_rotates (refreshToken : Nat) (h : Silent i w) (hinv : RefreshInv w) :
    Rotates i (postRefresh refreshToken) (fun _ _ => True) w := by
  refine Prog.wp_bind (P := fun _ w => Silent i w ∧ RefreshInv w)
    (rotates_call alone_silent_inv ⟨h, hinv⟩ (fun _ _ => trivial) fun _ _ h _ => h)
    fun payload w h => ?_
  cases payload with
  | none => trivial
  | some sub =>
      refine Prog.wp_bind (P := fun alreadyUsed w => w.isMarked refreshToken = true ∧
          (alreadyUsed = false → PresentedGood i w) ∧
          ∃ jtis, Presented i jtis w ∧
            ∀ jti ∈ jtis, jti ∈ w.registered sub ∨ w.isMarked jti = true)
        (rotates_call alone_silent_inv h (fun _ h => h.1.answers) fun w' e h _ => ?_)
        fun alreadyUsed w hw => ?_
      · refine ⟨by simp [performRefresh, RefreshWorld.isMarked], fun hunused p hp hprogram => ?_,
          w'.registered sub, ⟨fun p hp hprogram => ?_, h.1.answers⟩, fun _ hjti => .inl hjti⟩
        all_goals rcases List.mem_cons.mp hp with rfl | hp
        · exact h.2.touched refreshToken hunused
        · exact absurd hprogram (h.1.presented p hp)
        · rfl
        · exact absurd hprogram (h.1.presented p hp)
      obtain ⟨hmarked, hfirst, jtis, hpresented, hregistered⟩ := hw
      cases alreadyUsed with
      | true =>
          refine Prog.wp_bind (revokeAll_rotates sub jtis hpresented hregistered) fun _ w hw => ?_
          refine refuse_rotates (alone_revoking jtis []) hw fun w' h =>
            ⟨by decide, by decide, fun p hp hprogram _ jti hjti => ?_⟩
          rw [h.presented.presented p hp hprogram] at hjti
          exact (h.pending jti hjti).resolve_left List.not_mem_nil
      | false =>
          refine Prog.wp_bind (P := fun revoked w => revoked = true ∧ PresentedGood i w)
            (rotates_call (A := fun w => w.isMarked refreshToken = true ∧ PresentedGood i w)
              (fun w w' h hrely => ⟨hrely.marked.marks refreshToken h.1,
                alone_presentedGood w w' h.2 hrely⟩)
              ⟨hmarked, hfirst rfl⟩ (fun _ _ => trivial) fun w' e h _ => h)
            fun revoked w hrevoked => ?_
          obtain ⟨rfl, hgood⟩ := hrevoked
          refine refuse_rotates alone_presentedGood hgood fun w' h =>
            ⟨by decide, by decide, fun p hp hprogram hfirst => ?_⟩
          rw [h p hp hprogram] at hfirst
          cases hfirst

end Programs

/-! ### Every interleaving -/

theorem refresh_verified : Crew.Verified refreshMachine DeletesMarked RefreshProgram Never
    RefreshInv RefreshRely Silent where
  refl i w h := ⟨h, .refl w, fun p hp _ => hp, fun a ha _ => ha⟩
  trans i w w' w'' h h' := ⟨h'.inv, h.marked.trans h'.marked,
    fun p hp hprogram => h.presented p (h'.presented p hp hprogram) hprogram,
    fun a ha hprogram => h.answers a (h'.answers a ha hprogram) hprogram⟩
  stays i w w' h hrely := alone_silent w w' h hrely
  spawned i w p hp hinv hsilent := by
    have hwell : Rotates i p (fun _ _ => True) w := by
      obtain ⟨userId, rfl⟩ | ⟨userId, rfl⟩ | ⟨token, rfl⟩ | ⟨token, rfl⟩ := hp
      · exact googleCallback_rotates userId hsilent
      · exact issueRefreshToken_rotates userId
      · exact postRefresh_rotates token hsilent hinv
      · exact postLogout_rotates token
    exact Prog.wp_world (K := fun _ => True) hwell
  others i j w op e hij hinv hguard hinv' :=
    ⟨hinv', perform_marked hguard, (perform_own hij).1, (perform_own hij).2⟩
  drifted i w w' _ h := h.elim

/-- What was promised holds exactly as long as nobody is answered who presents a good token. -/
theorem RefreshInv.kept_iff {w : RefreshWorld} (h : RefreshInv w) :
    RotationKept w ↔
      ∀ p ∈ w.presented, p.first = true → ∀ a ∈ w.answers, a.program ≠ p.program := by
  constructor
  · intro hkept p hp hfirst a ha hprogram
    rcases hkept.first p hp hfirst a ha hprogram with hpair | hgone
    · exact (h.refused a ha).1 hpair
    · exact (h.refused a ha).2 hgone
  · intro hunanswered
    refine ⟨fun p hp hfirst a ha hprogram => absurd hprogram (hunanswered p hp hfirst a ha),
      fun jti => ?_, fun later a earlier hanswers p hp hprogram hfirst jti hjti => ⟨?_, ?_⟩⟩
    · have hnone : (w.answers.filter fun a => a.jti = jti && a.outcome = .pair) = [] := by
        refine List.filter_eq_nil_iff.mpr fun a ha => ?_
        simp [(h.refused a ha).1]
      rw [hnone]
      exact Nat.zero_le 1
    · exact h.reuse a (by simp [hanswers]) p hp hprogram hfirst jti hjti
    · rintro b hb ⟨-, hpair⟩
      exact (h.refused b (by simp [hanswers, hb])).1 hpair

/-- **The rotation keeps its promises** exactly where no good token is presented and answered,
in every interleaving in which a user's set is deleted only when all of it was marked. -/
theorem rotationKept_iff {w : RefreshWorld} {ps : List (Refreshing Unit)}
    (h : Crew refreshMachine DeletesMarked RefreshProgram Never .start w ps) :
    RotationKept w ↔
      ∀ p ∈ w.presented, p.first = true → ∀ a ∈ w.answers, a.program ≠ p.program :=
  (refresh_verified.sound start_refreshInv (fun _ => ⟨fun _ h => (by cases h),
    fun _ h => by cases h⟩) h).1.kept_iff

/-! ### One user -/

def calmRefresh : RefreshEnv := ⟨false, true⟩

def refreshSteps (i n : Nat) : List (Nat × RefreshEnv) := List.replicate n (i, calmRefresh)

/-- The user logs in, and presents the token. -/
def loggedIn : RefreshWorld × List (Refreshing Unit) :=
  playCrew refreshMachine (refreshSteps 0 4 ++ refreshSteps 1 4) .start
    [googleCallback 1, postRefresh 0]

/-- The user logs in and out, and then somebody presents the token. -/
def loggedOutFirst : RefreshWorld × List (Refreshing Unit) :=
  playCrew refreshMachine (refreshSteps 0 4 ++ refreshSteps 1 2 ++ refreshSteps 2 6) .start
    [googleCallback 1, postLogout (some 0), postRefresh 0]

theorem logged_out_token_reused :
    loggedOutFirst.1.answers = [⟨2, 0, .tokenReuse⟩] ∧ RotationKept loggedOutFirst.1 := by
  have hreached : Crew refreshMachine DeletesMarked RefreshProgram Never .start
      loggedOutFirst.1 loggedOutFirst.2 := by
    refine Crew.play _ (Crew.spawn (Crew.spawn (Crew.spawn .init (.inl ⟨1, rfl⟩))
      (.inr (.inr (.inr ⟨some 0, rfl⟩)))) (.inr (.inr (.inl ⟨0, rfl⟩)))) ?_
    refine ⟨trivial, trivial, trivial, trivial, trivial, trivial, trivial, trivial, trivial,
      trivial, ?_, trivial, trivial⟩
    show ∀ jti ∈ [0], _
    decide +kernel
  exact ⟨by decide +kernel, (rotationKept_iff hreached).mpr (by decide +kernel)⟩

/-- The token is refused. -/
theorem refresh_never_succeeds : ¬ ∀ (w : RefreshWorld) (ps : List (Refreshing Unit)),
    Crew refreshMachine (fun _ _ _ _ => True) RefreshProgram Never .start w ps →
      RotationKept w := by
  intro hall
  have hreached : Crew refreshMachine (fun _ _ _ _ => True) RefreshProgram Never .start
      loggedIn.1 loggedIn.2 :=
    Crew.play _ (Crew.spawn (Crew.spawn .init (.inl ⟨1, rfl⟩)) (.inr (.inr (.inl ⟨0, rfl⟩))))
      (playCrewOk_of_forall _ fun _ _ _ _ => trivial)
  have hfirst := (hall _ _ hreached).first ⟨1, 0, true, [0]⟩ (by decide +kernel) rfl
    ⟨1, 0, .tokenRevoked⟩ (by decide +kernel) rfl
  revert hfirst
  decide

end BrandBlitz.Auth

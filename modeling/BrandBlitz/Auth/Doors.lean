import BrandBlitz.Auth.Site
import BrandBlitz.Lib.Constrained

/-!
# BrandBlitz.Auth.Doors

**Which token opens which door.** All tokens of the service are signed with one secret, for one
issuer and audience (refresh tokens aside, which have neither). They are told apart by a claim
that whoever verifies them has to look at: `type` in those that wait for a second factor,
`isImpersonated` in those of an administrator's look at somebody's account.

`authenticate`, `optionalAuth` and the chat upgrade never look at `type`. Only `authenticate`
looks at `isImpersonated`, and it lets every request of a safe method through, also to a handler
that stores something. What is promised of these tokens holds in exactly the runs that do not
bring them there.
-/

namespace BrandBlitz.Auth

open BrandBlitz.Lib BrandBlitz.Paging

/-! ### The property, and when it holds -/

/-- Restricted tokens stay restricted. An administrator's look at an account is not taken for
an action of its owner. -/
structure Restricted (confirmed : Uuid → Bool) (events : List AuthEvent) : Prop where
  pending : ∀ door token, .accepted door token ∈ events →
    token.claims.type = some pendingTotpType → door = .twoFactorVerify
  refresh : ∀ door token, .accepted door token ∈ events →
    token.claims.type = some refreshType → door = .refresh ∨ door = .logout
  impersonated : ∀ name token, .wrote name token ∈ events →
    token.claims.isImpersonated = true → name ≠ token.claims.sub
  secondFactor : ∀ door token, .accepted door token ∈ events → door.isAccess = true →
    confirmed token.claims.sub = true → token.claims.isImpersonated = false →
    .codeAccepted token.claims.sub ∈ events

/-- An impersonated session reaches a handler that stores something. -/
def Route.slips (route : Route) (m : Moment) (path : Text) (user : Claims) : Bool :=
  user.isImpersonated && (route.optional || !user.mayNotMutate route.method path) &&
    route.admits m user && route.effect != .reads

/-- A token that waits for the second factor is not taken anywhere else, and an impersonated
session neither speaks nor gets to a handler that stores something. -/
def InBounds (cfg : AuthConfig) (s : AuthSite) (m : Moment) : AuthCall → Prop
  | .impersonateToken bearer _ => s.honours cfg m bearer →
      bearer.claims.type ≠ some pendingTotpType
  | .impersonateExit bearer => s.honours cfg m bearer →
      bearer.claims.type ≠ some pendingTotpType ∧
        ¬ (bearer.claims.isImpersonated = true ∧
          bearer.claims.impersonatedBy.getD bearer.claims.sub = bearer.claims.sub)
  | .chat bearer speaks => s.welcomes cfg m bearer →
      bearer.claims.type ≠ some pendingTotpType ∧
        ¬ (bearer.claims.isImpersonated = true ∧ m.succeeds = true ∧ speaks = true)
  | .route route path bearer => s.honours cfg m bearer →
      bearer.claims.type ≠ some pendingTotpType ∧ route.slips m path bearer.claims = false
  | _ => True

/-! ### The invariant -/

/-- What holds in every state of a history in bounds. -/
structure DoorInv (cfg : AuthConfig) (confirmed : Uuid → Bool) (s : AuthSite) : Prop where
  minted : ∀ token ∈ s.issued, Minted cfg token
  restricted : Restricted confirmed s.events
  /-- before a right code, a user has no token to act with -/
  guarded : ∀ u, confirmed u = true → .codeAccepted u ∉ s.events → s.confirmed u = true ∧
    ∀ token ∈ s.issued, token.claims.sub = u →
      token.claims.type = some pendingTotpType ∨ token.claims.isImpersonated = true

section Invariant

variable {cfg : AuthConfig} {confirmed : Uuid → Bool} {s : AuthSite} {m : Moment}
  {token : SignedToken}

theorem start_inv (cfg : AuthConfig) (confirmed : Uuid → Bool) :
    DoorInv cfg confirmed (.start confirmed) where
  minted token h := by cases h
  restricted := ⟨fun _ _ h => (by cases h), fun _ _ h => (by cases h), fun _ _ h => (by cases h),
    fun _ _ h => (by cases h)⟩
  guarded u hu _ := ⟨hu, fun token h => by cases h⟩

/-- May this be the next event? -/
def AuthEvent.Fits (confirmed : Uuid → Bool) (events : List AuthEvent) : AuthEvent → Prop
  | .accepted door token =>
      (token.claims.type = some pendingTotpType → door = .twoFactorVerify) ∧
      (token.claims.type = some refreshType → door = .refresh ∨ door = .logout) ∧
      (door.isAccess = true → confirmed token.claims.sub = true →
        token.claims.isImpersonated = false → .codeAccepted token.claims.sub ∈ events)
  | .wrote name token => token.claims.isImpersonated = true → name ≠ token.claims.sub
  | .codeAccepted _ => True

theorem Restricted.cons {events : List AuthEvent} (h : Restricted confirmed events)
    {event : AuthEvent} (hfits : event.Fits confirmed events) :
    Restricted confirmed (event :: events) := by
  refine ⟨fun door token hmem => ?_, fun door token hmem => ?_, fun name token hmem => ?_,
    fun door token hmem => ?_⟩
  all_goals rcases List.mem_cons.mp hmem with rfl | hmem
  · exact hfits.1
  · exact h.pending door token hmem
  · exact hfits.2.1
  · exact h.refresh door token hmem
  · exact hfits
  · exact h.impersonated name token hmem
  · exact fun haccess hconfirmed hown =>
      List.mem_cons_of_mem _ (hfits.2.2 haccess hconfirmed hown)
  · exact fun haccess hconfirmed hown =>
      List.mem_cons_of_mem _ (h.secondFactor door token hmem haccess hconfirmed hown)

theorem DoorInv.log (h : DoorInv cfg confirmed s) (event : AuthEvent)
    (hfits : event.Fits confirmed s.events) : DoorInv cfg confirmed (s.log event) where
  minted := h.minted
  restricted := h.restricted.cons hfits
  guarded u hu hcode := h.guarded u hu fun hmem => hcode (List.mem_cons_of_mem _ hmem)

theorem DoorInv.issue (h : DoorInv cfg confirmed s) {tokens : List SignedToken}
    (hminted : ∀ token ∈ tokens, Minted cfg token)
    (hguarded : ∀ token ∈ tokens, confirmed token.claims.sub = true →
      .codeAccepted token.claims.sub ∉ s.events →
      token.claims.type = some pendingTotpType ∨ token.claims.isImpersonated = true) :
    DoorInv cfg confirmed (s.issue tokens) where
  minted token hmem := (List.mem_append.mp hmem).elim (hminted token) (h.minted token)
  restricted := h.restricted
  guarded u hu hcode := by
    obtain ⟨hconfirmed, htokens⟩ := h.guarded u hu hcode
    refine ⟨hconfirmed, fun token hmem hsub => ?_⟩
    rcases List.mem_append.mp hmem with hmem | hmem
    · subst hsub
      exact hguarded token hmem hu hcode
    · exact htokens token hmem hsub

theorem DoorInv.issuePair (h : DoorInv cfg confirmed s) {user : AuthUser}
    (huser : confirmed user.id = true → .codeAccepted user.id ∈ s.events) :
    DoorInv cfg confirmed (s.issuePair cfg m user) := by
  refine h.issue (fun token hmem => ?_) fun token hmem hconfirmed hcode => ?_
  all_goals
    simp only [List.mem_cons, List.not_mem_nil, or_false] at hmem
    rcases hmem with rfl | rfl
  · exact .access _ _ _
  · exact .refresh _ _ _
  · exact absurd (huser hconfirmed) hcode
  · exact absurd (huser hconfirmed) hcode

/-- A token that is there, and does not wait for the second factor, is an impersonated one, or
its owner needed no code, or has given one. -/
theorem DoorInv.own (h : DoorInv cfg confirmed s) (hissued : token ∈ s.issued)
    (hpending : token.claims.type ≠ some pendingTotpType)
    (hown : token.claims.isImpersonated = false) (hconfirmed : confirmed token.claims.sub = true) :
    .codeAccepted token.claims.sub ∈ s.events := by
  by_contra hcode
  rcases (h.guarded _ hconfirmed hcode).2 token hissued rfl with htype | himpersonated
  · exact hpending htype
  · rw [hown] at himpersonated
    cases himpersonated

/-- Whatever else is let in behind the three doors is no refresh token. -/
theorem DoorInv.access (h : DoorInv cfg confirmed s) (door : Door) (hissued : token ∈ s.issued)
    (hiss : token.claims.iss = some cfg.jwtIssuer)
    (hpending : token.claims.type ≠ some pendingTotpType) :
    DoorInv cfg confirmed (s.log (.accepted door token)) := by
  refine h.log _ ⟨fun htype => absurd htype hpending, fun htype => ?_,
    fun _ hconfirmed hown => h.own hissued hpending hown hconfirmed⟩
  rw [(h.minted token hissued).iss_of_refresh htype] at hiss
  cases hiss

theorem DoorInv.perform (h : DoorInv cfg confirmed s) (hissued : token ∈ s.issued)
    (hpending : token.claims.type ≠ some pendingTotpType) {effect : Effect}
    (hslip : effect ≠ .reads → token.claims.isImpersonated = false) :
    DoorInv cfg confirmed (s.perform cfg m token token.claims effect) := by
  have hwrote : effect ≠ .reads →
      DoorInv cfg confirmed (s.log (.wrote token.claims.sub token)) := by
    intro heffect
    refine h.log _ fun himpersonated => ?_
    rw [hslip heffect] at himpersonated
    cases himpersonated
  cases effect with
  | reads => exact h
  | writes => exact hwrote (by decide)
  | setsTwoFactor on =>
      have hown := hslip (by simp)
      refine ⟨h.minted, (hwrote (by simp)).restricted, fun u hu hcode => ?_⟩
      have hne : u ≠ token.claims.sub := by
        rintro rfl
        exact hcode (List.mem_cons_of_mem _ (h.own hissued hpending hown hu))
      have hguarded := (hwrote (by simp)).guarded u hu hcode
      refine ⟨?_, hguarded.2⟩
      simp only [AuthSite.perform, Function.update_of_ne hne]
      exact hguarded.1
  | revokesToken signs =>
      have hlogged := hwrote (by simp)
      have hrevoked : DoorInv cfg confirmed
          { s.log (.wrote token.claims.sub token) with revoked := token :: s.revoked } :=
        ⟨hlogged.minted, hlogged.restricted, hlogged.guarded⟩
      simp only [AuthSite.perform]
      split
      · refine hrevoked.issue (fun token' hmem => ?_) fun token' hmem hconfirmed hcode => ?_
        all_goals rw [List.mem_singleton.mp hmem] at *
        · exact .access _ _ _
        -- whoever holds the old token has given a code
        · exact absurd (List.mem_cons_of_mem _
            (h.own hissued hpending (hslip (by simp)) hconfirmed)) hcode
      · exact hrevoked

theorem mayNotMutate_impersonateToken {user : Claims} (h : user.isImpersonated = true) :
    user.mayNotMutate .post "/impersonate-token".toList = true := by
  rw [Claims.mayNotMutate, h]
  decide

/-! One lemma for each request. -/

theorem DoorInv.googleCallback (h : DoorInv cfg confirmed s) (user : AuthUser) :
    DoorInv cfg confirmed (serve cfg s m (.googleCallback user)) := by
  rw [serve]
  split
  · refine h.issue (fun token hmem => ?_) fun token hmem _ _ => .inl ?_
    all_goals rw [List.mem_singleton.mp hmem]
    · exact .pending _ _ _
    · rfl
  next hunconfirmed =>
    refine h.issuePair fun huser => ?_
    by_contra hcode
    exact hunconfirmed (h.guarded _ huser hcode).1

theorem DoorInv.twoFactorVerify (h : DoorInv cfg confirmed s) (pendingToken : SignedToken)
    (codeIsRight : Bool) :
    DoorInv cfg confirmed (serve cfg s m (.twoFactorVerify pendingToken codeIsRight)) := by
  rw [serve]
  split
  · exact h
  next pending hverify =>
    obtain ⟨rfl, htype⟩ := verifyPendingTotpToken_issued hverify
    have haccepted : DoorInv cfg confirmed (s.log (.accepted .twoFactorVerify pendingToken)) := by
      refine h.log _ ⟨fun _ => rfl, fun hrefresh => ?_, fun haccess => by cases haccess⟩
      rw [htype] at hrefresh
      exact absurd (Option.some.inj hrefresh) pending_ne_refresh
    split
    · exact haccepted
    · dsimp only
      split
      · exact (haccepted.log (.codeAccepted _) trivial).issuePair fun _ => List.mem_cons_self
      · exact haccepted

theorem DoorInv.refresh (h : DoorInv cfg confirmed s) (refreshToken : SignedToken) (fresh : Bool) :
    DoorInv cfg confirmed (serve cfg s m (.refresh refreshToken fresh)) := by
  rw [serve]
  split
  · exact h
  next payload hverify =>
    obtain ⟨hissued, rfl, htype⟩ := verifyRefreshToken_issued hverify
    have hpending : refreshToken.claims.type ≠ some pendingTotpType := by
      rw [htype]
      exact fun heq => pending_ne_refresh (Option.some.inj heq).symm
    have haccepted : DoorInv cfg confirmed (s.log (.accepted .refresh refreshToken)) :=
      h.log _ ⟨fun htype => absurd htype hpending, fun _ => .inl rfl,
        fun haccess => by cases haccess⟩
    split
    · exact haccepted
    · split
      · refine haccepted.issuePair fun hconfirmed => ?_
        exact haccepted.own hissued hpending
          ((h.minted _ hissued).own_of_type (by simp [htype])) hconfirmed
      · exact haccepted

theorem DoorInv.logout (h : DoorInv cfg confirmed s) (refreshToken : SignedToken) :
    DoorInv cfg confirmed (serve cfg s m (.logout refreshToken)) := by
  rw [serve]
  split
  · exact h
  next payload hverify =>
    obtain ⟨-, rfl, htype⟩ := verifyRefreshToken_issued hverify
    refine h.log _ ⟨fun hpending => ?_, fun _ => .inr rfl, fun haccess => by cases haccess⟩
    rw [htype] at hpending
    exact absurd (Option.some.inj hpending).symm pending_ne_refresh

theorem DoorInv.impersonateToken (h : DoorInv cfg confirmed s) {bearer : SignedToken}
    {userId : Uuid} (hbounds : InBounds cfg s m (.impersonateToken bearer userId)) :
    DoorInv cfg confirmed (serve cfg s m (.impersonateToken bearer userId)) := by
  rw [serve]
  refine authenticated_keeps h fun hhonours hmay => ?_
  obtain ⟨-, hissued, hiss⟩ := honours_spec hhonours
  have haccepted := h.access .authenticate hissued hiss (hbounds hhonours)
  split
  · split
    · exact haccepted
    · split
      · exact haccepted
      · have hwrote := haccepted.log (.wrote bearer.claims.sub bearer) (by
          intro himpersonated
          rw [mayNotMutate_impersonateToken himpersonated] at hmay
          cases hmay)
        refine hwrote.issue (fun token hmem => ?_) fun token hmem _ _ => .inr ?_
        all_goals rw [List.mem_singleton.mp hmem]
        · exact .impersonation _ _ _
        · rfl
  · exact haccepted

theorem DoorInv.impersonateExit (h : DoorInv cfg confirmed s) {bearer : SignedToken}
    (hbounds : InBounds cfg s m (.impersonateExit bearer)) :
    DoorInv cfg confirmed (serve cfg s m (.impersonateExit bearer)) := by
  rw [serve]
  refine authenticated_keeps h fun hhonours _ => ?_
  obtain ⟨-, hissued, hiss⟩ := honours_spec hhonours
  obtain ⟨hpending, hself⟩ := hbounds hhonours
  have hwrote := (h.access .authenticate hissued hiss hpending).log
    (.wrote (bearer.claims.impersonatedBy.getD bearer.claims.sub) bearer)
    fun himpersonated hsub => hself ⟨himpersonated, hsub⟩
  exact ⟨hwrote.minted, hwrote.restricted, hwrote.guarded⟩

theorem DoorInv.chat (h : DoorInv cfg confirmed s) {bearer : SignedToken} {speaks : Bool}
    (hbounds : InBounds cfg s m (.chat bearer speaks)) :
    DoorInv cfg confirmed (serve cfg s m (.chat bearer speaks)) := by
  rw [serve]
  refine upgraded_keeps h fun hwelcomes hissued hiss => ?_
  obtain ⟨hpending, hspeaks⟩ := hbounds hwelcomes
  have haccepted := h.access .chat hissued hiss hpending
  split
  next hsaid =>
    rw [Bool.and_eq_true] at hsaid
    exact haccepted.log _ fun himpersonated => absurd ⟨himpersonated, hsaid⟩ hspeaks
  · exact haccepted

/-- Through whichever door a route lets the token in, its handler does nothing it must not. -/
theorem DoorInv.handler (h : DoorInv cfg confirmed s) {route : Route} {path : Text}
    {bearer : SignedToken} (hbounds : InBounds cfg s m (.route route path bearer)) (door : Door)
    (hhonours : s.honours cfg m bearer)
    (hreached : (route.optional || !bearer.claims.mayNotMutate route.method path) = true) :
    DoorInv cfg confirmed (if route.admits m bearer.claims then
      (s.log (.accepted door bearer)).perform cfg m bearer bearer.claims route.effect
      else s.log (.accepted door bearer)) := by
  obtain ⟨-, hissued, hiss⟩ := honours_spec hhonours
  obtain ⟨hpending, hslips⟩ := hbounds hhonours
  have haccepted := h.access door hissued hiss hpending
  split
  next hadmits =>
    refine haccepted.perform hissued hpending fun heffect => ?_
    by_contra hown
    rw [Route.slips, hreached, hadmits] at hslips
    simp [hown, heffect] at hslips
  · exact haccepted

theorem DoorInv.route (h : DoorInv cfg confirmed s) {route : Route} {path : Text}
    {bearer : SignedToken} (hbounds : InBounds cfg s m (.route route path bearer)) :
    DoorInv cfg confirmed (serve cfg s m (.route route path bearer)) := by
  rw [serve]
  split
  next hoptional =>
    exact optionally_keeps h fun hhonours =>
      h.handler hbounds .optionalAuth hhonours (by simp [hoptional])
  · exact authenticated_keeps h fun hhonours hmay =>
      h.handler hbounds .authenticate hhonours (by simp [hmay])

/-- One request in bounds keeps the invariant. -/
theorem serve_inv (h : DoorInv cfg confirmed s) (call : AuthCall)
    (hbounds : InBounds cfg s m call) :
    DoorInv cfg confirmed (serve cfg s m call) := by
  cases call with
  | googleCallback user => exact h.googleCallback user
  | twoFactorVerify pendingToken codeIsRight => exact h.twoFactorVerify pendingToken codeIsRight
  | refresh refreshToken fresh => exact h.refresh refreshToken fresh
  | logout refreshToken => exact h.logout refreshToken
  | impersonateToken bearer userId => exact h.impersonateToken hbounds
  | impersonateExit bearer => exact h.impersonateExit hbounds
  | chat bearer speaks => exact h.chat hbounds
  | route route path bearer => exact h.route hbounds

end Invariant

/-! ### Out of bounds -/

section Damage

variable {cfg : AuthConfig} {confirmed : Uuid → Bool} {s : AuthSite} {m : Moment}
  {token : SignedToken} {event : AuthEvent}

/-- What is done for good when a request is out of bounds. -/
def Broken (s : AuthSite) : Prop :=
  (∃ door token, .accepted door token ∈ s.events ∧
    token.claims.type = some pendingTotpType ∧ door ≠ .twoFactorVerify) ∨
  ∃ token : SignedToken, .wrote token.claims.sub token ∈ s.events ∧
    token.claims.isImpersonated = true

theorem Restricted.not_broken (h : Restricted confirmed s.events) : ¬ Broken s := by
  rintro (⟨door, token, hmem, htype, hdoor⟩ | ⟨token, hmem, himpersonated⟩)
  · exact hdoor (h.pending door token hmem htype)
  · exact h.impersonated _ token hmem himpersonated rfl

/-- What every one of the things keeps that a request can do, a request keeps. -/
structure Kept (cfg : AuthConfig) (I : AuthSite → Prop) : Prop where
  log : ∀ s event, I s → I (s.log event)
  issue : ∀ s tokens, (∀ token ∈ tokens, Minted cfg token) → I s → I (s.issue tokens)
  revoke : ∀ s revoked, I s → I { s with revoked := revoked }
  confirm : ∀ s confirmed, I s → I { s with confirmed := confirmed }

section Kept

variable {I : AuthSite → Prop}

theorem Kept.issuePair (h : Kept cfg I) (hs : I s) (user : AuthUser) :
    I (s.issuePair cfg m user) := by
  refine h.issue s _ (fun token hmem => ?_) hs
  simp only [List.mem_cons, List.not_mem_nil, or_false] at hmem
  rcases hmem with rfl | rfl
  · exact .access _ _ _
  · exact .refresh _ _ _

theorem Kept.issueOne (h : Kept cfg I) (hs : I s) (htoken : Minted cfg token) :
    I (s.issue [token]) := by
  refine h.issue s _ (fun token' hmem => ?_) hs
  rwa [List.mem_singleton.mp hmem]

theorem Kept.perform (h : Kept cfg I) (hs : I s) (user : Claims) (effect : Effect) :
    I (s.perform cfg m token user effect) := by
  cases effect with
  | reads => exact hs
  | writes => exact h.log s _ hs
  | setsTwoFactor on => exact h.confirm _ _ (h.log s _ hs)
  | revokesToken signs =>
      have hrevoked := h.revoke _ (token :: s.revoked) (h.log s (.wrote user.sub token) hs)
      simp only [AuthSite.perform]
      split
      · exact h.issueOne hrevoked (.access _ _ _)
      · exact hrevoked

theorem Kept.handler (h : Kept cfg I) (hs : I s) (admits : Bool) (user : Claims) (effect : Effect) :
    I (if admits then s.perform cfg m token user effect else s) := by
  cases admits with
  | true => exact h.perform hs user effect
  | false => exact hs

theorem Kept.serve (h : Kept cfg I) (hs : I s) (call : AuthCall) : I (serve cfg s m call) := by
  -- a handler only logs, signs, revokes or acts, and each of these is kept
  cases call with
  | googleCallback user =>
      rw [Auth.serve]
      split
      · exact h.issueOne hs (.pending _ _ _)
      · exact h.issuePair hs user
  | twoFactorVerify pendingToken codeIsRight =>
      rw [Auth.serve]
      split
      · exact hs
      · split
        · exact h.log s _ hs
        · dsimp only
          split
          · exact h.issuePair (h.log _ _ (h.log s _ hs)) _
          · exact h.log s _ hs
  | refresh refreshToken fresh =>
      rw [Auth.serve]
      split
      · exact hs
      · split
        · exact h.log s _ hs
        · dsimp only
          split
          · exact h.issuePair (h.log s _ hs) _
          · exact h.log s _ hs
  | logout refreshToken =>
      rw [Auth.serve]
      split
      · exact hs
      · exact h.log s _ hs
  | impersonateToken bearer userId =>
      rw [Auth.serve]
      have haccepted := h.log s (.accepted .authenticate bearer) hs
      refine authenticated_keeps hs fun _ _ => ?_
      split
      · split
        · exact haccepted
        · split
          · exact haccepted
          · exact h.issueOne (h.log _ _ haccepted) (.impersonation _ _ _)
      · exact haccepted
  | impersonateExit bearer =>
      rw [Auth.serve]
      exact authenticated_keeps hs fun _ _ => h.revoke _ _ (h.log _ _ (h.log s _ hs))
  | chat bearer speaks =>
      rw [Auth.serve]
      refine upgraded_keeps hs fun _ _ _ => ?_
      split
      · exact h.log _ _ (h.log s _ hs)
      · exact h.log s _ hs
  | route route path bearer =>
      rw [Auth.serve]
      split
      · exact optionally_keeps hs fun _ => h.handler (h.log s _ hs) _ _ _
      · exact authenticated_keeps hs fun _ _ => h.handler (h.log s _ hs) _ _ _

end Kept

/-- Nothing is forgotten. -/
theorem kept_event (cfg : AuthConfig) (event : AuthEvent) : Kept cfg fun s => event ∈ s.events where
  log _ _ h := List.mem_cons_of_mem _ h
  issue _ _ _ h := h
  revoke _ _ h := h
  confirm _ _ h := h

/-- All tokens are of the four kinds. -/
theorem kept_minted (cfg : AuthConfig) :
    Kept cfg fun s => ∀ token ∈ s.issued, Minted cfg token where
  log _ _ h := h
  issue _ _ htokens h token hmem := (List.mem_append.mp hmem).elim (htokens token) (h token)
  revoke _ _ h := h
  confirm _ _ h := h

theorem Broken.serve (h : Broken s) (call : AuthCall) : Broken (serve cfg s m call) := by
  rcases h with ⟨door, token, hmem, hrest⟩ | ⟨token, hmem, hrest⟩
  · exact .inl ⟨door, token, (kept_event cfg _).serve hmem call, hrest⟩
  · exact .inr ⟨token, (kept_event cfg _).serve hmem call, hrest⟩

theorem mayNotMutate_exit {user : Claims} :
    user.mayNotMutate .post "/impersonate-exit".toList = false := by
  have hexit : "/impersonate-exit".toList.isSuffixOf "/impersonate-exit".toList = true := by decide
  rw [Claims.mayNotMutate, hexit]
  simp

theorem mayNotMutate_own {user : Claims} (h : user.isImpersonated = false) (method : Method)
    (path : Text) : user.mayNotMutate method path = false := by
  rw [Claims.mayNotMutate, h]
  rfl

/-- A token that waits for the second factor is taken by `authenticate` like any other. -/
theorem authenticated_pending (hminted : ∀ token ∈ s.issued, Minted cfg token)
    (hhonours : s.honours cfg m token) (htype : token.claims.type = some pendingTotpType)
    (method : Method) (path : Text) (next : Claims → AuthSite → AuthSite) :
    s.authenticated cfg m method path token next =
      next token.claims (s.log (.accepted .authenticate token)) := by
  have hown := (hminted _ (honours_spec hhonours).2.1).own_of_type (by simp [htype])
  obtain ⟨-, -, hserved⟩ | ⟨hnot, -⟩ := authenticated_cases cfg s m method path token next
  · exact hserved
  · exact absurd ⟨hhonours, mayNotMutate_own hown method path⟩ hnot

/-! One lemma for each request that has bounds. -/

theorem broken_impersonateToken (hminted : ∀ token ∈ s.issued, Minted cfg token)
    {bearer : SignedToken} {userId : Uuid}
    (hbounds : ¬ InBounds cfg s m (.impersonateToken bearer userId)) :
    Broken (serve cfg s m (.impersonateToken bearer userId)) := by
  rw [InBounds, Classical.not_imp, not_not] at hbounds
  obtain ⟨hhonours, htype⟩ := hbounds
  have hkept := kept_event cfg (.accepted .authenticate bearer)
  have hmem : .accepted .authenticate bearer ∈ (s.log (.accepted .authenticate bearer)).events :=
    List.mem_cons_self
  refine .inl ⟨.authenticate, bearer, ?_, htype, by decide⟩
  rw [serve, authenticated_pending hminted hhonours htype]
  split
  · split
    · exact hmem
    · split
      · exact hmem
      · exact hkept.issueOne (hkept.log _ _ hmem) (.impersonation _ _ _)
  · exact hmem

theorem broken_impersonateExit {bearer : SignedToken}
    (hbounds : ¬ InBounds cfg s m (.impersonateExit bearer)) :
    Broken (serve cfg s m (.impersonateExit bearer)) := by
  rw [InBounds, Classical.not_imp] at hbounds
  obtain ⟨hhonours, hbad⟩ := hbounds
  rw [serve]
  obtain ⟨-, -, hserved⟩ | ⟨hnot, -⟩ := authenticated_cases cfg s m .post
    "/impersonate-exit".toList bearer _
  · rw [hserved]
    by_cases htype : bearer.claims.type = some pendingTotpType
    · exact .inl ⟨.authenticate, bearer, List.mem_cons_of_mem _ List.mem_cons_self, htype,
        by decide⟩
    · have hself : bearer.claims.isImpersonated = true ∧
          bearer.claims.impersonatedBy.getD bearer.claims.sub = bearer.claims.sub := by
        by_contra hself
        exact hbad ⟨htype, hself⟩
      refine .inr ⟨bearer, ?_, hself.1⟩
      rw [hself.2]
      exact List.mem_cons_self
  · exact absurd ⟨hhonours, mayNotMutate_exit⟩ hnot

theorem broken_chat {bearer : SignedToken} {speaks : Bool}
    (hbounds : ¬ InBounds cfg s m (.chat bearer speaks)) :
    Broken (serve cfg s m (.chat bearer speaks)) := by
  rw [InBounds, Classical.not_imp] at hbounds
  obtain ⟨hwelcomes, hbad⟩ := hbounds
  rw [serve]
  obtain ⟨-, -, -, hserved⟩ | ⟨hnot, -⟩ := upgraded_cases cfg s m bearer _
  · rw [hserved]
    by_cases htype : bearer.claims.type = some pendingTotpType
    · refine .inl ⟨.chat, bearer, ?_, htype, by decide⟩
      split
      · exact List.mem_cons_of_mem _ List.mem_cons_self
      · exact List.mem_cons_self
    · have hspeaks : bearer.claims.isImpersonated = true ∧ m.succeeds = true ∧ speaks = true := by
        by_contra hspeaks
        exact hbad ⟨htype, hspeaks⟩
      refine .inr ⟨bearer, ?_, hspeaks.1⟩
      rw [hspeaks.2.1, hspeaks.2.2]
      exact List.mem_cons_self
  · exact absurd hwelcomes hnot

/-- A handler that a token gets to which must not. -/
theorem broken_handler (cfg : AuthConfig) {route : Route} {path : Text} {bearer : SignedToken}
    {door : Door}
    (hdoor : door ≠ .twoFactorVerify) (hbad : ¬ (bearer.claims.type ≠ some pendingTotpType ∧
      route.slips m path bearer.claims = false)) :
    Broken (if route.admits m bearer.claims then
      (s.log (.accepted door bearer)).perform cfg m bearer bearer.claims route.effect
      else s.log (.accepted door bearer)) := by
  have hkept := kept_event cfg (.accepted door bearer)
  by_cases htype : bearer.claims.type = some pendingTotpType
  · exact .inl ⟨door, bearer, hkept.handler List.mem_cons_self _ _ _, htype, hdoor⟩
  · have hslips : route.slips m path bearer.claims = true := by
      by_contra hslips
      exact hbad ⟨htype, by simpa using hslips⟩
    simp only [Route.slips, Bool.and_eq_true, bne_iff_ne] at hslips
    obtain ⟨⟨⟨himpersonated, -⟩, hadmits⟩, heffect⟩ := hslips
    rw [if_pos hadmits]
    refine .inr ⟨bearer, ?_, himpersonated⟩
    cases heq : route.effect with
    | reads => exact absurd heq heffect
    | writes => exact List.mem_cons_self
    | setsTwoFactor on => exact List.mem_cons_self
    | revokesToken signs =>
        simp only [AuthSite.perform]
        split <;> exact List.mem_cons_self

theorem broken_route (hminted : ∀ token ∈ s.issued, Minted cfg token) {route : Route} {path : Text}
    {bearer : SignedToken} (hbounds : ¬ InBounds cfg s m (.route route path bearer)) :
    Broken (serve cfg s m (.route route path bearer)) := by
  rw [InBounds, Classical.not_imp] at hbounds
  obtain ⟨hhonours, hbad⟩ := hbounds
  rw [serve]
  split
  · obtain ⟨-, hserved⟩ | ⟨hnot, -⟩ := optionally_cases cfg s m bearer _
    · rw [hserved]
      exact broken_handler cfg (by decide) hbad
    · exact absurd hhonours hnot
  next hoptional =>
    obtain ⟨-, -, hserved⟩ | ⟨hnot, -⟩ := authenticated_cases cfg s m route.method path bearer _
    · rw [hserved]
      exact broken_handler cfg (by decide) hbad
    · refine absurd ⟨hhonours, ?_⟩ hnot
      by_contra hmay
      refine hbad ⟨fun htype => ?_, ?_⟩
      · have hown := (hminted _ (honours_spec hhonours).2.1).own_of_type (by simp [htype])
        exact hmay (mayNotMutate_own hown _ _)
      · simp [Route.slips, hoptional, hmay]

/-- A request out of bounds breaks what was promised. -/
theorem broken_of_out_of_bounds (hminted : ∀ token ∈ s.issued, Minted cfg token) (call : AuthCall)
    (hbounds : ¬ InBounds cfg s m call) : Broken (serve cfg s m call) := by
  cases call with
  | impersonateToken bearer userId => exact broken_impersonateToken hminted hbounds
  | impersonateExit bearer => exact broken_impersonateExit hbounds
  | chat bearer speaks => exact broken_chat hbounds
  | route route path bearer => exact broken_route hminted hbounds
  | googleCallback _ | twoFactorVerify _ _ | refresh _ _ | logout _ => exact absurd trivial hbounds

end Damage

/-! ### Every run -/

/-- **Restricted tokens stay restricted** in exactly the runs whose requests are all in
bounds. -/
theorem restricted_iff (cfg : AuthConfig) (confirmed : Uuid → Bool)
    (requests : List (Moment × AuthCall)) :
    Restricted confirmed (run cfg (.start confirmed) requests).events ↔
      Along (fun s request => serve cfg s request.1 request.2)
        (fun s request => InBounds cfg s request.1 request.2) (.start confirmed) requests := by
  constructor
  · intro h
    exact along_of_undamaged (I := fun s => ∀ token ∈ s.issued, Minted cfg token) (B := Broken)
      (fun s request hminted => (kept_minted cfg).serve hminted request.2)
      (fun s request hminted hbounds => broken_of_out_of_bounds hminted request.2 hbounds)
      (fun s request hbroken => hbroken.serve request.2) (start_inv cfg confirmed).minted
      h.not_broken
  · intro h
    exact (h.invariant (I := DoorInv cfg confirmed)
      (fun s request hinv hbounds => serve_inv hinv request.2 hbounds)
      (start_inv cfg confirmed)).restricted

/-! ### Three users

User 1 has a second factor, user 2 is an administrator, and user 3 is somebody else. -/

def siteConfig : AuthConfig := ⟨"secret".toList, none, none, "api".toList, "client".toList⟩

def moment (now : Timestamp) (row : Option (Text × Option Text)) : Moment :=
  ⟨now, true, row, true, 7, 8⟩

/-- `GET /leagues/current` puts the caller into a league of the week. -/
def leaguesCurrent : Route := ⟨.get, false, false, false, .writes⟩

/-- `GET /me/export`. -/
def exportData : Route := ⟨.get, false, false, false, .reads⟩

def waitingToken : SignedToken := signPendingTotpToken siteConfig ⟨1, [], none⟩ 7 0

def adminToken : SignedToken := signAccessToken siteConfig ⟨2, [], some "admin".toList⟩ 7 0

def lookToken : SignedToken := signImpersonationToken siteConfig ⟨3, [], none⟩ 2 1

/-- The user logs in, and has not entered any code. -/
def beforeCode : List (Moment × AuthCall) :=
  [(moment 0 none, .googleCallback ⟨1, [], none⟩),
    (moment 1 none, .route exportData "/".toList waitingToken)]

/-- The administrator looks at the account of user 3. -/
def impersonatedLook : List (Moment × AuthCall) :=
  [(moment 0 none, .googleCallback ⟨2, [], some "admin".toList⟩),
    (moment 1 (some ([], none)), .impersonateToken adminToken 3),
    (moment 2 none, .route leaguesCurrent "/current".toList lookToken)]

/-- All data are exported before the second factor, and a look puts the user into a league. -/
theorem restricted_tokens_slip :
    ¬ Restricted (fun u => u = 1) (run siteConfig (.start fun u => u = 1) beforeCode).events ∧
    ¬ Restricted (fun u => u = 1)
      (run siteConfig (.start fun u => u = 1) impersonatedLook).events := by
  constructor
  · intro h
    have hdoor := h.pending .authenticate waitingToken (by decide +kernel) rfl
    cases hdoor
  · intro h
    exact h.impersonated 3 lookToken (by decide +kernel) rfl rfl

end BrandBlitz.Auth

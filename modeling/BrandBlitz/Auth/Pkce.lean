import Mathlib.Data.List.Nodup
import Mathlib.Data.List.Pairwise
import BrandBlitz.Auth.GoogleLogin
import BrandBlitz.Lib.ExpiringKeys

/-!
# BrandBlitz.Auth.Pkce

**What a login with Google proves**, in every interleaving and with Google granting codes to
anybody.

A code that logs in with a state was granted for the authorization URL that was handed out with that
state, not more than the TTL before: a code for another challenge, the attacker's or another
user's, does not. Codes log in once. A state is read and then deleted, so that it logs in once only
if no other request reads it in between.
-/

namespace BrandBlitz.Auth.GoogleLogin

open BrandBlitz.Lib
open BrandBlitz.Deposit (base64url)

variable {config : Config} {i j : Nat} {w w' : World} {op : OAuthOp} {e : OAuthEnv}

/-! ### The invariant -/

/-- Different states and different challenges. -/
structure Apart (config : Config) (a b : Authorization) : Prop where
  state : a.state ≠ b.state
  challenge : createCodeChallenge config a.codeVerifier ≠ createCodeChallenge config b.codeVerifier

instance : Std.Symm (Apart config) where
  symm _ _ h := ⟨h.state.symm, h.challenge.symm⟩

/-- The verifier was stored with the state, not too long ago. -/
structure ReadIn (config : Config) (reading : Reading) (a : Authorization) : Prop where
  state : a.state = reading.state
  verifier : a.codeVerifier = reading.codeVerifier
  after : a.time ≤ reading.time
  before : reading.time ≤ a.time + 1000 * config.GOOGLE_OAUTH_PKCE_TTL_SECONDS

structure Bound (config : Config) (w : World) : Prop where
  apart : w.authorizations.Pairwise (Apart config)
  keys : ∀ state value last, w.keys state = some (value, last) → ∃ a ∈ w.authorizations,
    a.state = state ∧ a.codeVerifier = value.codeVerifier ∧ a.time ≤ w.now ∧
      last = a.time + 1000 * config.GOOGLE_OAUTH_PKCE_TTL_SECONDS
  readings : ∀ r ∈ w.readings, ∃ a ∈ w.authorizations, ReadIn config r a
  exchanges : ∀ x ∈ w.exchanges,
    w.codes x.code = some ⟨createCodeChallenge config x.codeVerifier, true⟩
  codes : (w.exchanges.map (·.code)).Nodup

theorem bound_start (now : Nat) : Bound config (.start now) :=
  ⟨.nil, fun _ _ _ => nofun, fun _ => nofun, fun _ => nofun, .nil⟩

/-- What a program asks for: keys live as long as it says in the response. -/
def Ready (config : Config) : OAuthOp → Prop
  | .set _ _ ttl => ttl = config.GOOGLE_OAUTH_PKCE_TTL_SECONDS
  | _ => True

theorem Bound.store (h : Bound config w) {state : Text} {value : Pkce}
    (hdrawn : Drawn config i w (.set state value config.GOOGLE_OAUTH_PKCE_TTL_SECONDS) e) :
    Bound config (w.store state value config.GOOGLE_OAUTH_PKCE_TTL_SECONDS) where
  apart := List.pairwise_cons.mpr
    ⟨fun a ha => ⟨(hdrawn a ha).1.symm, (hdrawn a ha).2.symm⟩, h.apart⟩
  keys state' value' last hkey := by
    rcases some_of_update hkey with ⟨rfl, hnew⟩ | ⟨-, hold⟩
    · obtain ⟨rfl, rfl⟩ := Prod.mk.inj (Option.some.inj hnew)
      exact ⟨_, List.mem_cons_self, rfl, rfl, Nat.le_refl _, rfl⟩
    · obtain ⟨a, ha, hrest⟩ := h.keys state' value' last hold
      exact ⟨a, List.mem_cons_of_mem _ ha, hrest⟩
  readings r hr := by
    obtain ⟨a, ha, hrest⟩ := h.readings r hr
    exact ⟨a, List.mem_cons_of_mem _ ha, hrest⟩
  exchanges := h.exchanges
  codes := h.codes

theorem Bound.read (h : Bound config w) (state : Text) : Bound config (w.read i state) := by
  unfold World.read
  split
  · exact h
  · rename_i value hlive
    refine ⟨h.apart, h.keys, fun r hr => ?_, h.exchanges, h.codes⟩
    rcases List.mem_cons.mp hr with rfl | hr
    · obtain ⟨⟨stored, last⟩, hstored, rfl⟩ := Option.map_eq_some_iff.mp hlive
      obtain ⟨hkey, hnow⟩ := Option.filter_eq_some_iff.mp hstored
      obtain ⟨a, ha, hstate, hverifier, hafter, rfl⟩ := h.keys state stored last hkey
      exact ⟨a, ha, hstate, hverifier, hafter, of_decide_eq_true hnow⟩
    · exact h.readings r hr

theorem Bound.delete (h : Bound config w) (state : Text) : Bound config (w.delete state) := by
  refine ⟨h.apart, fun state' value last hkey => ?_, h.readings, h.exchanges, h.codes⟩
  rcases some_of_update hkey with ⟨-, hnew⟩ | ⟨-, hold⟩
  · cases hnew
  · exact h.keys state' value last hold

/-- Google takes a code that was not used, so nobody has exchanged it. -/
theorem Bound.exchange (h : Bound config w) {body : TokenParams} {grant : Grant} {idToken : Text}
    (hcode : w.codes body.code = some grant) (hused : grant.used = false)
    (hchallenge : grant.codeChallenge = createCodeChallenge config body.codeVerifier) :
    Bound config (w.exchange i body grant idToken) := by
  have hnew : body.code ∉ w.exchanges.map (·.code) := by
    intro hmem
    obtain ⟨x, hx, heq⟩ := List.mem_map.mp hmem
    have htaken := h.exchanges x hx
    rw [heq, hcode] at htaken
    rw [Option.some.inj htaken] at hused
    cases hused
  refine ⟨h.apart, h.keys, h.readings, fun x hx => ?_, List.nodup_cons.mpr ⟨hnew, h.codes⟩⟩
  rcases List.mem_cons.mp hx with rfl | hx
  · simp only [World.exchange, Function.update_self, hchallenge]
  · have hne : x.code ≠ body.code := fun heq => hnew (heq ▸ List.mem_map_of_mem hx)
    simp only [World.exchange, Function.update_of_ne hne]
    exact h.exchanges x hx

theorem Bound.forget (h : Bound config w) : Bound config (w.forget i) :=
  ⟨h.apart, h.keys, fun r hr => h.readings r (List.mem_filter.mp hr).1, h.exchanges, h.codes⟩

theorem Bound.google (h : Bound config w) (hgoogle : Google w w') : Bound config w' := by
  cases hgoogle with
  | later t hle =>
      refine ⟨h.apart, fun state value last hkey => ?_, h.readings, h.exchanges, h.codes⟩
      obtain ⟨a, ha, hstate, hverifier, hafter, hlast⟩ := h.keys state value last hkey
      exact ⟨a, ha, hstate, hverifier, Nat.le_trans hafter hle, hlast⟩
  | grants code codeChallenge hfree =>
      refine ⟨h.apart, h.keys, h.readings, fun x hx => ?_, h.codes⟩
      have htaken := h.exchanges x hx
      have hne : x.code ≠ code := fun heq => by rw [heq, hfree] at htaken; cases htaken
      simpa only [Function.update_of_ne hne] using htaken

/-- What a call can do. -/
inductive Does (config : Config) (i : Nat) (w : World) : OAuthOp → World → Prop
  | nothing (op : OAuthOp) : Does config i w op w
  | store (state : Text) (value : Pkce) (ttl : Nat) :
    Does config i w (.set state value ttl) (w.store state value ttl)
  | read (state : Text) : Does config i w (.get state) (w.read i state)
  | delete (state : Text) : Does config i w (.del state) (w.delete state)
  | exchange (body : TokenParams) (grant : Grant) (idToken : Text)
    (hcode : w.codes body.code = some grant) (hused : grant.used = false)
    (hchallenge : grant.codeChallenge = createCodeChallenge config body.codeVerifier) :
    Does config i w (.token body) (w.exchange i body grant idToken)
  | info (idToken : Text) (payload : TokenInfo) : Does config i w (.tokeninfo idToken)
    { w with infos := ⟨i, idToken, payload⟩ :: w.infos }

theorem perform_does : Does config i w op (perform config i e w op).2 := by
  cases op with
  | set state value ttl =>
      simp only [perform]
      split
      · exact .nothing _
      · exact .store state value ttl
  | get state => exact .read state
  | del state => exact .delete state
  | token body =>
      simp only [perform]
      split
      · rename_i grant idToken hcode _
        split
        · rename_i hok
          exact .exchange body grant idToken hcode hok.1 hok.2
        · exact .nothing _
      · exact .nothing _
  | tokeninfo idToken =>
      simp only [perform]
      split
      · exact .info idToken _
      · exact .nothing _

/-- A call that fails is the last of its request. -/
theorem exec_does (config : Config) (i : Nat) (e : OAuthEnv) (op : OAuthOp) (w : World) :
    ∃ w', Does config i w op w' ∧ (((machine config i).exec e op w).2 = w' ∨
      ((machine config i).exec e op w).2 = w'.forget i) := by
  unfold machine
  dsimp only
  split
  · split
    · exact ⟨_, perform_does, .inr rfl⟩
    · exact ⟨w, .nothing op, .inr rfl⟩
  · exact ⟨_, perform_does, .inl rfl⟩

theorem Bound.does (h : Bound config w) (hready : Ready config op) (hdrawn : Drawn config i w op e)
    (hdoes : Does config i w op w') : Bound config w' := by
  cases hdoes with
  | nothing => exact h
  | store state value ttl =>
      obtain rfl : ttl = _ := hready
      exact h.store hdrawn
  | read state => exact h.read state
  | delete state => exact h.delete state
  | exchange body grant idToken hcode hused hchallenge => exact h.exchange hcode hused hchallenge
  | info => exact ⟨h.apart, h.keys, h.readings, h.exchanges, h.codes⟩

theorem exec_bound (h : Bound config w) (hready : Ready config op)
    (hdrawn : Drawn config i w op e) : Bound config ((machine config i).exec e op w).2 := by
  obtain ⟨w', hdoes, hexec | hexec⟩ := exec_does config i e op w
  · exact hexec ▸ h.does hready hdrawn hdoes
  · exact hexec ▸ (h.does hready hdrawn hdoes).forget

/-! ### One request among others -/

/-- What program `i` knows is not forgotten. -/
structure Remembers (i : Nat) (w w' : World) : Prop where
  authorizations : ∀ a ∈ w.authorizations, a ∈ w'.authorizations
  readings : ∀ r ∈ w.readings, r.program = i → r ∈ w'.readings
  exchanges : ∀ x ∈ w.exchanges, x ∈ w'.exchanges
  infos : ∀ info ∈ w.infos, info ∈ w'.infos

theorem Remembers.refl (w : World) : Remembers i w w :=
  ⟨fun _ h => h, fun _ h _ => h, fun _ h => h, fun _ h => h⟩

theorem Remembers.trans {w'' : World} (h : Remembers i w w') (h' : Remembers i w' w'') :
    Remembers i w w'' :=
  ⟨fun a ha => h'.authorizations a (h.authorizations a ha),
    fun r hr hi => h'.readings r (h.readings r hr hi) hi,
    fun x hx => h'.exchanges x (h.exchanges x hx), fun n hn => h'.infos n (h.infos n hn)⟩

theorem Does.remembers (hdoes : Does config j w op w') : Remembers i w w' := by
  have hrefl := Remembers.refl (i := i) w
  cases hdoes with
  | nothing => exact hrefl
  | delete => exact { hrefl with }
  | store => exact { hrefl with authorizations := fun a ha => List.mem_cons_of_mem _ ha }
  | read state =>
      unfold World.read
      split
      · exact hrefl
      · exact { hrefl with readings := fun r hr _ => List.mem_cons_of_mem _ hr }
  | exchange => exact { hrefl with exchanges := fun x hx => List.mem_cons_of_mem _ hx }
  | info => exact { hrefl with infos := fun n hn => List.mem_cons_of_mem _ hn }

theorem forget_remembers (h : i ≠ j) (w : World) : Remembers i w (w.forget j) :=
  { Remembers.refl (i := i) w with
    readings := fun r hr hi => List.mem_filter.mpr ⟨hr, by simpa [hi] using h⟩ }

theorem exec_remembers (h : i ≠ j) : Remembers i w ((machine config j).exec e op w).2 := by
  obtain ⟨w', hdoes, hexec | hexec⟩ := exec_does config j e op w
  · exact hexec ▸ hdoes.remembers
  · exact hexec ▸ hdoes.remembers.trans (forget_remembers h w')

/-- What program `i` can count on. -/
structure Rely (config : Config) (i : Nat) (w w' : World) : Prop where
  bound : Bound config w'
  remembers : Remembers i w w'

/-- A request keeps the invariant, and returns what meets `Q`. -/
abbrev Safe {α : Type} (config : Config) (i : Nat) (p : OAuth α) (Q : α → World → Prop)
    (w : World) : Prop :=
  p.wp (machine config i).among (Among (Rely config i) (Drawn config i)) (Bound config)
    (Prog.Ends (fun a w => Bound config w ∧ Q a w) fun _ _ => True) w

/-- An assertion that what is remembered decides. -/
def Stable (i : Nat) (A : World → Prop) : Prop := ∀ w w', A w → Remembers i w w' → A w'

theorem safe_call {A : World → Prop} {Q : oauthSig.Ans op → World → Prop} (hready : Ready config op)
    (hstable : Stable i A) (hw : Bound config w) (hA : A w)
    (hok : ∀ w e a, Bound config w → A w → (perform config i e w op).1 = .ok a →
      Q a (perform config i e w op).2) : Safe config i (call op) Q w := by
  refine Prog.wp_call_among (A := fun w => Bound config w ∧ A w)
    (fun w w' h hrely => ⟨hrely.bound, hstable w w' h.2 hrely.remembers⟩) ⟨hw, hA⟩
    fun w' e _ h hdrawn => ?_
  have hbound := exec_bound h.1 hready hdrawn
  refine ⟨hbound, ?_⟩
  unfold machine at hbound ⊢
  dsimp only at hbound ⊢
  split
  · trivial
  · rename_i hfault
    rw [hfault] at hbound
    cases hans : (perform config i e w' op).1 with
    | ok a => exact ⟨hbound, hok w' e a h.1 h.2 hans⟩
    | error err => trivial

/-- Program `i` has read the verifier of a state. -/
def HasRead (i : Nat) (state codeVerifier : Text) (w : World) : Prop :=
  ∃ r ∈ w.readings, r.program = i ∧ r.state = state ∧ r.codeVerifier = codeVerifier

theorem hasRead_stable {state codeVerifier : Text} : Stable i (HasRead i state codeVerifier) := by
  intro w w' ⟨r, hr, hi, hrest⟩ h
  exact ⟨r, h.readings r hr hi, hi, hrest⟩

/-- Who the user is comes from what Google said about the token, for this client. -/
structure Vouches (config : Config) (payload : TokenInfo) (user : VerifiedGoogleUser) : Prop where
  verified : payload.emailVerified ≠ some false
  audience : config.GOOGLE_CLIENT_ID ≠ [] → payload.aud = config.GOOGLE_CLIENT_ID
  user : user = ⟨payload.sub, payload.email, payload.name, payload.picture⟩

def Vouched (config : Config) (i : Nat) (idToken : Text) (user : VerifiedGoogleUser) (w : World) :
    Prop :=
  (config.E2E_MOCK_GOOGLE_OAUTH = true ∧ user = mockUser idToken) ∨
    ∃ payload, ⟨i, idToken, payload⟩ ∈ w.infos ∧ Vouches config payload user

theorem vouched_stable {idToken : Text} {user : VerifiedGoogleUser} :
    Stable i (Vouched config i idToken user) := by
  intro w w' hvouched h
  rcases hvouched with hmock | ⟨payload, hmem, hrest⟩
  · exact .inl hmock
  · exact .inr ⟨payload, h.infos _ hmem, hrest⟩

theorem safe_consumeCodeVerifier (state : Text) (hw : Bound config w) :
    Safe config i (consumeCodeVerifier state) (fun codeVerifier => HasRead i state codeVerifier)
      w := by
  refine Prog.wp_bind (safe_call (A := fun _ => True) (Q := fun raw w => ∀ value, raw = some value →
    HasRead i state value.codeVerifier w) trivial (fun _ _ _ _ => trivial) hw trivial
    fun w e raw _ _ hans value hraw => ?_) fun raw w h => ?_
  · obtain rfl := Except.ok.inj hans
    simp only [perform, World.read, hraw]
    exact ⟨_, List.mem_cons_self, rfl, rfl, rfl⟩
  · cases raw with
    | none => trivial
    | some value =>
        refine Prog.wp_bind (safe_call trivial hasRead_stable h.1 (h.2 value rfl)
          fun w e _ _ hread _ => hasRead_stable _ _ hread perform_does.remembers) fun _ w h => ?_
        dsimp only
        split
        · exact h
        · trivial

theorem safe_verifyGoogleIdToken {A : World → Prop} (hstable : Stable i A) (idToken : Text)
    (hw : Bound config w) (hA : A w) :
    Safe config i (verifyGoogleIdToken config idToken)
      (fun user w => A w ∧ Vouched config i idToken user w) w := by
  unfold verifyGoogleIdToken
  split
  · rename_i hmock
    exact ⟨hw, hA, .inl ⟨(Bool.and_eq_true_iff.mp hmock).1, rfl⟩⟩
  · refine Prog.wp_bind (safe_call (Q := fun response w => A w ∧ ∀ payload,
      response = some payload → ⟨i, idToken, payload⟩ ∈ w.infos) trivial hstable hw hA
      fun w e response _ hA hans =>
        ⟨hstable _ _ hA perform_does.remembers, fun payload hpayload => ?_⟩)
      fun response w h => ?_
    · subst hpayload
      simp only [perform] at hans ⊢
      split at hans
      · rename_i payload' _
        obtain rfl := Option.some.inj (Except.ok.inj hans)
        exact List.mem_cons_self
      · cases hans
    · obtain ⟨hw, hA, hinfo⟩ := h
      cases response with
      | none => trivial
      | some payload =>
          dsimp only
          split
          · trivial
          · rename_i hverified
            split
            · trivial
            · rename_i haudience
              refine ⟨hw, hA, .inr ⟨payload, hinfo payload rfl, hverified, fun hclient => ?_, rfl⟩⟩
              by_contra hne
              exact haudience ⟨hclient, hne⟩

/-- Program `i` has exchanged the code with the verifier of the state. -/
def HasExchanged (i : Nat) (code state idToken : Text) (w : World) : Prop :=
  ∃ codeVerifier, HasRead i state codeVerifier w ∧ ⟨i, code, codeVerifier, idToken⟩ ∈ w.exchanges

theorem hasExchanged_stable {code state idToken : Text} :
    Stable i (HasExchanged i code state idToken) := by
  intro w w' ⟨codeVerifier, hread, hmem⟩ h
  exact ⟨codeVerifier, hasRead_stable w w' hread h, h.exchanges _ hmem⟩

theorem safe_exchange (code state : Text) (hw : Bound config w) :
    Safe config i (exchangeGoogleAuthorizationCode config code state)
      (fun user w => ∃ idToken, HasExchanged i code state idToken w ∧
        Vouched config i idToken user w) w := by
  refine Prog.wp_bind (safe_consumeCodeVerifier state hw) fun codeVerifier w h => ?_
  refine Prog.wp_bind (safe_call (Q := fun response w => ∀ idToken, response = some idToken →
    HasExchanged i code state idToken w) trivial hasRead_stable h.1 h.2
    fun w e response _ hread hans idToken hresponse => ?_) fun response w h => ?_
  · subst hresponse
    refine ⟨codeVerifier, hasRead_stable _ _ hread perform_does.remembers, ?_⟩
    simp only [perform] at hans ⊢
    split at hans
    · split at hans
      · rename_i hok
        obtain rfl := Option.some.inj (Except.ok.inj hans)
        simp only [hok, and_self, if_true]
        exact List.mem_cons_self
      · cases Except.ok.inj hans
    · cases Except.ok.inj hans
  · cases response with
    | none => trivial
    | some idToken =>
        refine Prog.wp_weaken (safe_verifyGoogleIdToken hasExchanged_stable idToken h.1
          (h.2 idToken rfl)) (fun user w h => ⟨h.1, idToken, h.2⟩) fun _ _ h => h

/-! ### Every interleaving -/

/-- What is known of a response. -/
def Told (config : Config) (i : Nat) : Returned → World → Prop
  | .url _, _ => True
  | .exchanged code state user, w =>
    ∃ idToken, HasExchanged i code state idToken w ∧ Vouched config i idToken user w
  | .verified idToken user, w => Vouched config i idToken user w

theorem told_stable {returned : Returned} : Stable i (Told config i returned) := by
  intro w w' htold h
  cases returned with
  | url => trivial
  | exchanged code state user =>
      obtain ⟨idToken, hexchanged, hvouched⟩ := htold
      exact ⟨idToken, hasExchanged_stable _ _ hexchanged h, vouched_stable _ _ hvouched h⟩
  | verified => exact vouched_stable _ _ htold h

/-- What requests lead to. -/
abbrev Reached (config : Config) (G : Nat → World → OAuthOp → OAuthEnv → Prop) (now : Nat) :
    World → List (OAuth Returned) → Prop :=
  Crew (machine config) G (IsRequest config) Google (.start now)

theorem logins_verified (config : Config) :
    Crew.Proved (machine config) (Drawn config) (IsRequest config) Google (Bound config)
      (Rely config) (fun _ _ => True) fun i => Prog.Ends (Told config i) fun _ _ => True where
  refl _ _ h := ⟨h, .refl _⟩
  trans _ _ _ _ h h' := ⟨h'.bound, h.remembers.trans h'.remembers⟩
  stays _ _ _ _ _ := trivial
  lasts i r w w' h hrely := by
    cases r with
    | ok returned => exact told_stable w w' h hrely.remembers
    | error err => trivial
  spawned i w p hp hw _ := by
    rcases hp with ⟨stateBytes, verifierBytes, callbackUrl, rfl⟩ | ⟨code, state, rfl⟩ |
      ⟨idToken, rfl⟩
    · have hurl : Safe config i (createGooglePkceAuthorizationUrl config stateBytes verifierBytes
          callbackUrl) (fun _ _ => True) w := by
        refine Prog.wp_bind (safe_call (A := fun _ => True) (Q := fun _ _ => True) rfl
          (fun _ _ _ _ => trivial) hw trivial fun _ _ _ _ _ _ => trivial) fun stored w h => ?_
        dsimp only
        split
        · trivial
        · exact ⟨h.1, trivial⟩
      exact Prog.wp_bind hurl fun _ _ _ => trivial
    · exact Prog.wp_bind (safe_exchange code state hw) fun _ _ h => h.2
    · exact Prog.wp_bind (safe_verifyGoogleIdToken (A := fun _ => True) (fun _ _ _ _ => trivial)
        idToken hw trivial) fun _ _ h => h.2.2
  others _ _ _ _ _ hne _ _ h := ⟨h, exec_remembers hne⟩
  drifted i w w' h hgoogle := by
    refine ⟨h.google hgoogle, h.google hgoogle, ?_⟩
    cases hgoogle <;> exact { Remembers.refl (i := i) w with }

variable {now : Nat} {ps : List (OAuth Returned)} {code state : Text} {user : VerifiedGoogleUser}

/-- **What a login proves.** The state was handed out, and read within the TTL; the code was granted
for the authorization URL that was handed out with it, and for no other; it has logged in nobody
else; and the user is who Google says the token is for, to this client. -/
theorem login_is_bound
    (h : Reached config (Drawn config) now w ps)
    (hi : ps[i]? = some (.ret (.exchanged code state user))) :
    ∃ a ∈ w.authorizations, a.state = state ∧
      (∃ r ∈ w.readings, r.program = i ∧ ReadIn config r a) ∧
      (∀ b ∈ w.authorizations, (∃ used,
        w.codes code = some ⟨createCodeChallenge config b.codeVerifier, used⟩) ↔ b = a) ∧
      (∀ j state' user', ps[j]? = some (.ret (.exchanged code state' user')) → j = i) ∧
      ∃ x ∈ w.exchanges, x.program = i ∧ x.code = code ∧ Vouched config i x.idToken user w := by
  obtain ⟨hbound, hps, -⟩ :=
    (logins_verified config).sound (bound_start now) (fun _ => trivial) h
  have htold {j : Nat} {state' : Text} {user' : VerifiedGoogleUser}
      (hj : ps[j]? = some (.ret (.exchanged code state' user'))) :
      ∃ idToken, HasExchanged j code state' idToken w ∧ Vouched config j idToken user' w :=
    hps j _ hj
  obtain ⟨idToken, ⟨codeVerifier, ⟨r, hr, hri, rfl, rfl⟩, hx⟩, hvouched⟩ := htold hi
  obtain ⟨a, ha, hread⟩ := hbound.readings r hr
  have hcode := hbound.exchanges _ hx
  dsimp only at hcode
  refine ⟨a, ha, hread.state, ⟨r, hr, hri, hread⟩, fun b hb => ⟨?_, ?_⟩, ?_, _, hx, rfl, rfl,
    hvouched⟩
  · intro ⟨used, hcode'⟩
    rw [hcode] at hcode'
    by_contra hne
    refine (hbound.apart.forall hb ha hne).challenge ?_
    rw [hread.verifier]
    exact (congrArg Grant.codeChallenge (Option.some.inj hcode')).symm
  · rintro rfl
    exact ⟨true, by rw [hcode, hread.verifier]⟩
  · intro j state' user' hj
    obtain ⟨idToken', ⟨codeVerifier', -, hx'⟩, -⟩ := htold hj
    have heq := List.inj_on_of_nodup_map hbound.codes hx' hx rfl
    exact congrArg Exchange.program heq

/-! ### One request at a time for a state -/

/-- Whoever reads a state reads it after the others that have read it have deleted it. -/
def InTurn (config : Config) (i : Nat) (w : World) (op : OAuthOp) (e : OAuthEnv) : Prop :=
  Drawn config i w op e ∧
    match op with
    | .get state => ∀ r ∈ w.readings, r.state = state → state ∈ w.deleted
    | _ => True

instance (i : Nat) (w : World) (op : OAuthOp) (e : OAuthEnv) : Decidable (InTurn config i w op e) :=
  match op with
  | .get state =>
    haveI : Decidable (state ∈ w.deleted) := decidable_of_iff _ List.contains_iff_mem
    inferInstanceAs (Decidable (Drawn config i w (.get state) e ∧ ∀ r ∈ w.readings, _ → _))
  | .set .. | .del _ | .token _ | .tokeninfo _ =>
    inferInstanceAs (Decidable (Drawn config i w _ e ∧ True))

structure Spent (w : World) : Prop where
  keys : ∀ state, w.keys state ≠ none → ∃ a ∈ w.authorizations, a.state = state
  deleted : ∀ state ∈ w.deleted, w.keys state = none ∧ ∃ a ∈ w.authorizations, a.state = state
  readings : (w.readings.map (·.state)).Nodup

theorem Spent.store (h : Spent w) {state : Text} {value : Pkce} {ttl : Nat}
    (hdrawn : Drawn config i w (.set state value ttl) e) : Spent (w.store state value ttl) where
  keys state' hkey := by
    by_cases heq : state' = state
    · exact ⟨_, List.mem_cons_self, heq.symm⟩
    · simp only [World.store, Function.update_of_ne heq] at hkey
      obtain ⟨a, ha, hstate⟩ := h.keys state' hkey
      exact ⟨a, List.mem_cons_of_mem _ ha, hstate⟩
  deleted state' hmem := by
    obtain ⟨hkey, a, ha, rfl⟩ := h.deleted state' hmem
    refine ⟨?_, a, List.mem_cons_of_mem _ ha, rfl⟩
    exact (Function.update_of_ne (hdrawn a ha).1 _ _).trans hkey
  readings := h.readings

theorem Spent.read (h : Spent w) {state : Text}
    (hturn : ∀ r ∈ w.readings, r.state = state → state ∈ w.deleted) : Spent (w.read i state) := by
  unfold World.read
  split
  · exact h
  · rename_i value hlive
    refine ⟨h.keys, h.deleted, List.nodup_cons.mpr ⟨fun hmem => ?_, h.readings⟩⟩
    obtain ⟨r, hr, hstate⟩ := List.mem_map.mp hmem
    -- it was deleted, so that there is nothing to read
    have hnone := (h.deleted state (hturn r hr hstate)).1
    rw [World.live, hnone] at hlive
    cases hlive

theorem Spent.delete (h : Spent w) (state : Text) : Spent (w.delete state) := by
  refine ⟨fun state' hkey => ?_, fun state' hmem => ?_, h.readings⟩
  · by_cases heq : state' = state
    · simp only [World.delete, heq, Function.update_self] at hkey
      exact absurd rfl hkey
    · simp only [World.delete, Function.update_of_ne heq] at hkey
      exact h.keys state' hkey
  · by_cases heq : state' = state
    · subst heq
      refine ⟨by simp only [World.delete, Function.update_self], ?_⟩
      simp only [World.delete] at hmem
      split at hmem
      · rename_i hsome
        exact h.keys state' fun hnone => by rw [hnone] at hsome; cases hsome
      · exact (h.deleted state' hmem).2
    · have hmem' : state' ∈ w.deleted := by
        simp only [World.delete] at hmem
        split at hmem
        · exact (List.mem_cons.mp hmem).resolve_left heq
        · exact hmem
      refine ⟨?_, (h.deleted state' hmem').2⟩
      simp only [World.delete, Function.update_of_ne heq]
      exact (h.deleted state' hmem').1

theorem Spent.forget (h : Spent w) : Spent (w.forget i) :=
  ⟨h.keys, h.deleted, h.readings.sublist (List.filter_sublist.map _)⟩

theorem Spent.does (h : Spent w) (hguard : InTurn config i w op e) (hdoes : Does config i w op w') :
    Spent w' := by
  cases hdoes with
  | nothing => exact h
  | store => exact h.store hguard.1
  | read => exact h.read hguard.2
  | delete state => exact h.delete state
  | exchange | info => exact ⟨h.keys, h.deleted, h.readings⟩

theorem exec_spent (h : Spent w) (hguard : InTurn config i w op e) :
    Spent ((machine config i).exec e op w).2 := by
  obtain ⟨w', hdoes, hexec | hexec⟩ := exec_does config i e op w
  · exact hexec ▸ h.does hguard hdoes
  · exact hexec ▸ (h.does hguard hdoes).forget

/-- **A state logs in once**, if no two requests read it at the same time. -/
theorem state_logs_in_once
    (h : Reached config (InTurn config) now w ps)
    {code' : Text} {user' : VerifiedGoogleUser}
    (hi : ps[i]? = some (.ret (.exchanged code state user)))
    (hj : ps[j]? = some (.ret (.exchanged code' state user'))) : i = j := by
  have hspent : Spent w := by
    refine Crew.invariant ⟨fun _ hkey => absurd rfl hkey, fun _ => nofun, .nil⟩
      (fun i w op e h hguard => exec_spent h hguard) (fun w w' h hgoogle => ?_) h
    cases hgoogle <;> exact ⟨h.keys, h.deleted, h.readings⟩
  obtain ⟨-, hps, -⟩ := (logins_verified config).sound (bound_start now) (fun _ => trivial)
    (Crew.mono (fun _ _ _ _ hguard => hguard.1) h)
  obtain ⟨_, ⟨_, ⟨r, hr, rfl, hstate, -⟩, -⟩, -⟩ := hps i _ hi
  obtain ⟨_, ⟨_, ⟨r', hr', rfl, hstate', -⟩, -⟩, -⟩ := hps j _ hj
  rw [List.inj_on_of_nodup_map hspent.readings hr hr' (hstate.trans hstate'.symm)]

/-! ### Two codes for one authorization URL -/

def site : Config where
  GOOGLE_CLIENT_ID := "client".toList
  GOOGLE_CLIENT_SECRET := "secret".toList
  GOOGLE_REDIRECT_URI := none
  WEB_URL := "https://brandblitz.app/".toList
  GOOGLE_OAUTH_PKCE_TTL_SECONDS := 300
  E2E_MOCK_GOOGLE_OAUTH := false
  sha256 text := text.map fun c => UInt8.ofNat c.toNat

def zeros : Bytes32 := Vector.replicate 32 0

def zeroText : Text := base64url zeros.toList

def ann : TokenInfo :=
  ⟨"google-1".toList, "ann@example.com".toList, some true, "client".toList, none, none⟩

def annUser : VerifiedGoogleUser := ⟨"google-1".toList, "ann@example.com".toList, none, none⟩

/-- The URL is opened twice, and both codes come back. -/
def requests : List (OAuth Returned) :=
  [Returned.url <$> createGooglePkceAuthorizationUrl site zeros zeros ['/'],
    Returned.exchanged ['c'] zeroText <$> exchangeGoogleAuthorizationCode site ['c'] zeroText,
    Returned.exchanged ['d'] zeroText <$> exchangeGoogleAuthorizationCode site ['d'] zeroText]

def googleAnswers : OAuthEnv := ⟨none, some "token".toList, some ann⟩

def handedOut : World × List (OAuth Returned) :=
  playCrew (machine site) [(0, googleAnswers)] (.start 0) requests

def granted : World :=
  let codeChallenge := createCodeChallenge site zeroText
  { handedOut.1 with
    codes := Function.update (Function.update handedOut.1.codes ['c'] (some ⟨codeChallenge, false⟩))
      ['d'] (some ⟨codeChallenge, false⟩) }

def playLogins (schedule : List (Nat × OAuthEnv)) : World × List (OAuth Returned) :=
  playCrew (machine site) schedule granted handedOut.2

theorem crew_granted : Reached site (InTurn site) 0 granted handedOut.2 := by
  have hspawned : Reached site (InTurn site) 0 (.start 0) requests :=
    Crew.spawn (Crew.spawn (Crew.spawn .init (.inl ⟨_, _, _, rfl⟩)) (.inr (.inl ⟨_, _, rfl⟩)))
      (.inr (.inl ⟨_, _, rfl⟩))
  have hout := Crew.play [(0, googleAnswers)] hspawned ⟨⟨fun _ => nofun, trivial⟩, trivial⟩
  exact (hout.drift (.grants ['c'] _ rfl)).drift (.grants ['d'] _ rfl)

def logins (programs : List Nat) : List (Nat × OAuthEnv) := programs.map (·, googleAnswers)

/-- The second request comes after the first. -/
def afterEachOther : List (Nat × OAuthEnv) := logins [1, 1, 1, 1, 2]

theorem crew_afterEachOther :
    Reached site (InTurn site) 0 (playLogins afterEachOther).1 (playLogins afterEachOther).2 :=
  Crew.play afterEachOther crew_granted
    (by decide +kernel : playCrewOk (machine site) (InTurn site) _ _ _)

theorem login_is_for_the_url :
    ∃ a ∈ (playLogins afterEachOther).1.authorizations, a.state = zeroText := by
  obtain ⟨a, ha, hstate, -⟩ := login_is_bound
    (Crew.mono (fun _ _ _ _ hguard => hguard.1) crew_afterEachOther)
    (rfl : (playLogins afterEachOther).2[1]? = some (.ret (.exchanged ['c'] zeroText annUser)))
  exact ⟨a, ha, hstate⟩

theorem only_the_first_logs_in : ¬ ∃ code user,
    (playLogins afterEachOther).2[2]? = some (.ret (.exchanged code zeroText user)) := by
  intro ⟨code, user, hsecond⟩
  have heq := state_logs_in_once crew_afterEachOther
    (rfl : (playLogins afterEachOther).2[1]? = some (.ret (.exchanged ['c'] zeroText annUser)))
    hsecond
  cases heq

/-- Both read the state before one of them deletes it. -/
def atOnce : List (Nat × OAuthEnv) := logins [1, 2, 1, 2, 1, 1, 2, 2]

/-- The state logs in twice. -/
theorem both_log_in : ∃ w ps, Reached site (Drawn site) 0 w ps ∧
    ps[1]? = some (.ret (.exchanged ['c'] zeroText annUser)) ∧
    ps[2]? = some (.ret (.exchanged ['d'] zeroText annUser)) :=
  ⟨_, _, Crew.play atOnce (Crew.mono (fun _ _ _ _ hguard => hguard.1) crew_granted)
    (by decide +kernel : playCrewOk (machine site) (Drawn site) _ _ _), rfl, rfl⟩

end BrandBlitz.Auth.GoogleLogin

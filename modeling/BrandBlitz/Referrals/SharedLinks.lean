import Mathlib.Data.List.GetD
import Mathlib.Data.List.Nodup
import BrandBlitz.Network.ClientIp
import BrandBlitz.Referrals.Codes

/-!
# BrandBlitz.Referrals.SharedLinks

**A code is for good, and its link leads to its owner**, in every interleaving of calls.

A code is only written where there is none, so that whatever a call has returned stays in the
row. What users share, though, is their vanity slug, if they have one. Attribution reads a link in
capital letters and takes nothing but six of them or digits, while a slug is stored in small
letters: unless it is six digits, its link finds whoever has these capital letters for a code.
-/

namespace BrandBlitz.Referrals.Codes

open BrandBlitz.Lib
open BrandBlitz.Lib.NumberText (forall_mem_of_all isLower_range isDigit_range)
open BrandBlitz.Network (forall_ascii trim_eq_self)
open BrandBlitz.Referrals.Attribution (normalizeCode isValidCode upperChar)

variable {lower : Text → Text} {users users' : Users lower} {op : CodeOp} {e : CodeEnv}
  {userId : Id} {code slug : Text}

/-! ### The table -/

instance : Std.Symm (Apart lower) where
  symm _ _ h := ⟨h.id.symm, fun code hv hu => h.code code hu hv,
    fun hv hu slug' hv' slug hu' heq => h.slug hu hv slug hu' slug' hv' heq.symm⟩

theorem Users.apart_of_ne {u v : User} (hu : u ∈ users.rows) (hv : v ∈ users.rows) (h : u ≠ v) :
    Apart lower u v := users.apart.forall hu hv h

theorem Users.eq_of_id {u v : User} (hu : u ∈ users.rows) (hv : v ∈ users.rows)
    (h : u.id = v.id) : u = v := by
  by_contra hne
  exact (Users.apart_of_ne hu hv hne).id h

theorem Users.eq_of_code {u v : User} (hu : u ∈ users.rows) (hv : v ∈ users.rows)
    (h : u.referralCode = some code) (h' : v.referralCode = some code) : u = v := by
  by_contra hne
  exact (Users.apart_of_ne hu hv hne).code code h h'

theorem Users.eq_of_slug {u v : User} (hu : u ∈ users.rows) (hv : v ∈ users.rows)
    (hlive : u.deleted = false) (hlive' : v.deleted = false) (h : u.vanitySlug = some slug)
    (h' : v.vanitySlug = some slug) : u = v := by
  by_contra hne
  exact (Users.apart_of_ne hu hv hne).slug hlive hlive' slug h slug h' rfl

/-- There is one row for an identifier. -/
theorem Users.codeOf_eq_some_iff :
    users.codeOf userId = some code ↔
      ∃ u ∈ users.rows, u.id = userId ∧ u.referralCode = some code := by
  unfold Users.codeOf
  constructor
  · intro h
    obtain ⟨u, hfind, hcode⟩ := Option.bind_eq_some_iff.mp h
    exact ⟨u, List.mem_of_find?_eq_some hfind, by simpa using List.find?_some hfind, hcode⟩
  · rintro ⟨u, hu, hid, hcode⟩
    cases hfind : users.rows.find? fun u => u.id = userId with
    | none => exact absurd hid (by simpa using List.find?_eq_none.mp hfind u hu)
    | some v =>
        have hv : v.id = userId := by simpa using List.find?_some hfind
        obtain rfl := Users.eq_of_id (List.mem_of_find?_eq_some hfind) hu (hv.trans hid.symm)
        exact hcode

theorem Users.update_ok {selects : User → Bool} {set : User → User}
    (h : users.update selects set = .ok users') :
    users'.rows = users.rows.map fun u => if selects u then set u else u := by
  unfold Users.update at h
  dsimp only at h
  split at h
  · rw [← Except.ok.inj h]
  · cases h

theorem update_cases (users : Users lower) (selects : User → Bool) (set : User → User) :
    (written users (users.update selects set)).2 = users ∨
      (written users (users.update selects set)).2.rows =
        users.rows.map fun u => if selects u then set u else u := by
  cases hset : users.update selects set with
  | error err => exact .inl rfl
  | ok users' => exact .inr (Users.update_ok hset)

/-- What a statement can do to the rows. -/
theorem exec_cases (lower : Text → Text) (e : CodeEnv) (op : CodeOp)
    (users : Users lower) :
    ((machine lower).exec e op users).2 = users ∨
    (∃ userId code, op = .setUserReferralCode userId code ∧
      ((machine lower).exec e op users).2.rows = users.rows.map fun u =>
        if u.id = userId && u.referralCode.isNone then { u with referralCode := some code } else u) ∨
    (∃ userId slug, op = .setUserVanitySlug userId slug ∧
      ((machine lower).exec e op users).2.rows = users.rows.map fun u =>
        if u.id = userId && !u.deleted then { u with vanitySlug := some slug } else u) := by
  have hperform : ((machine lower).exec e op users).2 = users ∨
      ((machine lower).exec e op users).2 = (perform e op users).2 := by
    unfold machine
    dsimp only
    split
    · split
      · exact .inr rfl
      · exact .inl rfl
    · exact .inr rfl
  rcases hperform with h | h
  · exact .inl h
  · rw [h]
    cases op with
    | findUserByReferralCode | getUserReferralCode => exact .inl rfl
    | setUserReferralCode userId code =>
        exact (update_cases ..).imp_right fun h => .inl ⟨userId, code, rfl, h⟩
    | setUserVanitySlug userId slug =>
        exact (update_cases ..).imp_right fun h => .inr ⟨userId, slug, rfl, h⟩

/-! ### Codes stay -/

/-- Every code that stands in a row goes on standing there. -/
def Keeps (users users' : Users lower) : Prop :=
  ∀ u ∈ users.rows, ∃ v ∈ users'.rows, v.id = u.id ∧
    ∀ code, u.referralCode = some code → v.referralCode = some code

theorem Keeps.refl (users : Users lower) : Keeps users users :=
  fun u hu => ⟨u, hu, rfl, fun _ h => h⟩

theorem Keeps.trans {users'' : Users lower} (h : Keeps users users') (h' : Keeps users' users'') :
    Keeps users users'' := by
  intro u hu
  obtain ⟨v, hv, hid, hcode⟩ := h u hu
  obtain ⟨x, hx, hid', hcode'⟩ := h' v hv
  exact ⟨x, hx, hid'.trans hid, fun code h => hcode' code (hcode code h)⟩

theorem Keeps.codeOf (h : Keeps users users') (hcode : users.codeOf userId = some code) :
    users'.codeOf userId = some code := by
  obtain ⟨u, hu, hid, hstands⟩ := Users.codeOf_eq_some_iff.mp hcode
  obtain ⟨v, hv, hid', hkept⟩ := h u hu
  exact Users.codeOf_eq_some_iff.mpr ⟨v, hv, hid'.trans hid, hkept code hstands⟩

theorem keeps_of_map {f : User → User} (hrows : users'.rows = users.rows.map f)
    (hid : ∀ u, (f u).id = u.id)
    (hcode : ∀ u code, u.referralCode = some code → (f u).referralCode = some code) :
    Keeps users users' :=
  fun u hu => ⟨f u, hrows ▸ List.mem_map_of_mem hu, hid u, hcode u⟩

theorem exec_keeps (lower : Text → Text) (e : CodeEnv) (op : CodeOp)
    (users : Users lower) : Keeps users ((machine lower).exec e op users).2 := by
  rcases exec_cases lower e op users with h | ⟨userId, code, -, h⟩ | ⟨userId, slug, -, h⟩
  · rw [h]
    exact .refl users
  · refine keeps_of_map h (fun u => by split <;> rfl) fun u code' hcode => ?_
    -- a code is written where there is none
    simp only [hcode, Option.isNone_some, Bool.and_false, Bool.false_eq_true, if_false]
  · exact keeps_of_map h (fun u => by split <;> rfl)
      fun u code' hcode => by split <;> exact hcode

theorem Outside.keeps (h : Outside users users') : Keeps users users' := by
  intro u hu
  obtain ⟨deleted, hv⟩ := h.kept u hu
  exact ⟨_, hv, rfl, fun _ h => h⟩

/-! ### What codes and slugs look like -/

/-- Six characters of the alphabet. -/
def IsCode (code : Text) : Prop := code.length = CODE_LENGTH ∧ ∀ c ∈ code, c ∈ CODE_ALPHABET

def IsSlug (slug : Text) : Prop := ∀ c ∈ slug, isSlugChar c = true

structure User.Formed (u : User) : Prop where
  code : ∀ code, u.referralCode = some code → IsCode code
  slug : ∀ slug, u.vanitySlug = some slug → IsSlug slug

def Formed (users : Users lower) : Prop := ∀ u ∈ users.rows, u.Formed

/-- What the programs write. -/
def Writes : CodeOp → Prop
  | .setUserReferralCode _ code => IsCode code
  | .setUserVanitySlug _ slug => IsSlug slug
  | _ => True

theorem isCode_codeFrom (bytes : Bytes) : IsCode (codeFrom bytes) := by
  refine ⟨by simp [codeFrom], fun c hc => ?_⟩
  obtain ⟨i, -, rfl⟩ := List.mem_map.mp hc
  have hlt : (bytes i).toNat % CODE_ALPHABET.length < CODE_ALPHABET.length :=
    Nat.mod_lt _ (by decide)
  rw [List.getD_eq_getElem _ _ hlt]
  exact List.getElem_mem hlt

theorem isSlug_of_slugSchema {toLowerCase : Text → Text} {input : Text}
    (h : slugSchema toLowerCase input = some slug) : IsSlug slug := by
  unfold slugSchema at h
  dsimp only at h
  split at h
  · rename_i hvalid
    rw [← Option.some.inj h]
    exact fun c hc => List.all_eq_true.mp hvalid.2.2.1 c hc
  · cases h

theorem Formed.map {f : User → User} (h : Formed users) (hrows : users'.rows = users.rows.map f)
    (hf : ∀ u, u.Formed → (f u).Formed) : Formed users' := by
  intro v hv
  rw [hrows] at hv
  obtain ⟨u, hu, rfl⟩ := List.mem_map.mp hv
  exact hf u (h u hu)

theorem Formed.exec (h : Formed users) (hop : Writes op) :
    Formed ((machine lower).exec e op users).2 := by
  rcases exec_cases lower e op users with heq | ⟨userId, code, rfl, hrows⟩ |
    ⟨userId, slug, rfl, hrows⟩
  · rwa [heq]
  · refine h.map hrows fun u hu => ?_
    split
    · exact ⟨fun _ hcode => Option.some.inj hcode ▸ hop, hu.slug⟩
    · exact hu
  · refine h.map hrows fun u hu => ?_
    split
    · exact ⟨hu.code, fun _ hslug => Option.some.inj hslug ▸ hop⟩
    · exact hu

theorem Formed.outside (h : Formed users) (hout : Outside users users') : Formed users' := by
  intro v hv
  rcases hout.fresh v hv with ⟨u, hu, deleted, rfl⟩ | ⟨hcode, hslug⟩
  · exact ⟨(h u hu).code, (h u hu).slug⟩
  · exact ⟨by simp [hcode], by simp [hslug]⟩

/-! ### One call among others -/

/-- What a call does while the others go on, if every step of the pool keeps codes and form. -/
def Rely (users users' : Users lower) : Prop := Keeps users users' ∧ (Formed users → Formed users')

/-- Whatever the environment contributes. -/
abbrev Anyhow (_ : Users lower) (_ : CodeOp) (_ : CodeEnv) : Prop := True

/-- A call writes nothing but codes and slugs in form, and returns what meets `Q`. -/
abbrev Safe {α : Type} (lower : Text → Text) (p : Service α) (Q : α → Users lower → Prop)
    (users : Users lower) : Prop :=
  p.wp (machine lower).among (Among Rely Anyhow) Formed
    (Prog.Ends (fun a users => Formed users ∧ Q a users) fun _ => Formed) users

theorem safe_call {A : Users lower → Prop} {Q : codeSig.Ans op → Users lower → Prop}
    (hop : Writes op) (hstable : ∀ users users', A users → Rely users users' → A users')
    (hA : A users) (hF : Formed users)
    (h : ∀ users e a, A users → ((machine lower).exec e op users).1 = .ok a →
      Q a ((machine lower).exec e op users).2) :
    Safe lower (call op) Q users := by
  refine Prog.wp_call_among (A := fun users => A users ∧ Formed users)
    (fun users users' h hrely => ⟨hstable _ _ h.1 hrely, hrely.2 h.2⟩) ⟨hA, hF⟩
    fun users' e _ h' _ => ⟨h'.2.exec hop, ?_⟩
  cases hans : ((machine lower).exec e op users').1 with
  | ok a => exact ⟨h'.2.exec hop, h users' e a h'.1 hans⟩
  | error err => exact h'.2.exec hop

/-- A call whose answer does not matter. -/
theorem safe_any (hop : Writes op) (hF : Formed users) :
    Safe lower (call op) (fun _ _ => True) users :=
  safe_call (A := fun _ => True) hop (fun _ _ _ _ => trivial) trivial hF fun _ _ _ _ _ => trivial

theorem Users.codeOf_of_getUserReferralCode (h : users.getUserReferralCode userId = some code) :
    users.codeOf userId = some code := by
  obtain ⟨u, hfind, hcode⟩ := Option.bind_eq_some_iff.mp h
  have hu := List.find?_some hfind
  rw [Bool.and_eq_true, decide_eq_true_eq] at hu
  exact Users.codeOf_eq_some_iff.mpr ⟨u, List.mem_of_find?_eq_some hfind, hu.1, hcode⟩

theorem safe_getUserReferralCode (hF : Formed users) :
    Safe lower (call (.getUserReferralCode userId))
      (fun answer users => ∀ code ∈ answer, users.codeOf userId = some code) users := by
  refine safe_call (A := fun _ => True) trivial (fun _ _ _ _ => trivial) trivial hF
    fun users e a _ hans code hcode => ?_
  unfold machine at hans ⊢
  dsimp only at hans ⊢
  split at hans
  · cases hans
  · obtain rfl := Except.ok.inj hans
    exact Users.codeOf_of_getUserReferralCode hcode

theorem safe_generateFrom (draw : Nat → Bytes) (attempt left : Nat) (hF : Formed users) :
    Safe lower (generateFrom draw attempt left) (fun code _ => IsCode code) users := by
  induction left generalizing attempt users with
  | zero => exact hF
  | succ left ih =>
      refine Prog.wp_bind (safe_any trivial hF) fun existing users h => ?_
      cases existing with
      | none => exact ⟨h.1, isCode_codeFrom _⟩
      | some _ => exact ih (attempt + 1) h.1

theorem safe_assignFrom (draws : Nat → Nat → Bytes) (attempt left : Nat) (hF : Formed users) :
    Safe lower (assignFrom draws userId attempt left)
      (fun code users => users.codeOf userId = some code) users := by
  induction left generalizing attempt users with
  | zero => exact hF
  | succ left ih =>
      refine Prog.wp_bind (safe_generateFrom _ 0 20 hF) fun code users h => ?_
      refine Prog.wp_bind (Prog.wp_attempt (safe_any h.2 h.1)) fun set users h => ?_
      cases set with
      | error err =>
          dsimp only
          -- the loop goes on after a broken index
          by_cases hbroken : err.code = some "23505".toList
          · rw [if_pos hbroken]
            exact ih (attempt + 1) h
          · rw [if_neg hbroken]
            exact h
      | ok _ =>
          refine Prog.wp_bind (safe_getUserReferralCode h.1) fun updated users h => ?_
          dsimp only
          split
          · rename_i hupdated
            exact ⟨h.1, h.2 _ (Option.eq_some_of_filter_eq_some hupdated)⟩
          · exact ih (attempt + 1) h.1

/-- The code that is returned stands in the row of the user. -/
theorem safe_ensureUserReferralCode (draws : Nat → Nat → Bytes) (hF : Formed users) :
    Safe lower (ensureUserReferralCode draws userId)
      (fun code users => users.codeOf userId = some code) users := by
  refine Prog.wp_bind (safe_getUserReferralCode hF) fun existing users h => ?_
  dsimp only
  split
  · rename_i hexisting
    exact ⟨h.1, h.2 _ (Option.eq_some_of_filter_eq_some hexisting)⟩
  · exact safe_assignFrom draws 0 10 h.1

theorem safe_patchReferralCode (toLowerCase : Text → Text) (input : Text) (hF : Formed users) :
    Safe lower (patchReferralCode toLowerCase userId input) (fun _ _ => True) users := by
  unfold patchReferralCode
  split
  · exact hF
  · rename_i slug hslug
    refine Prog.wp_bind (P := fun _ => Formed) (Prog.wp_tryCatch (P := fun _ => Formed)
      (Prog.wp_weaken (safe_any (isSlug_of_slugSchema hslug) hF) (fun _ _ h => h.1)
        fun _ _ h => h) fun err users h => ?_) fun _ users h => ⟨h, trivial⟩
    split <;> exact h

/-! ### Every interleaving -/

/-- What was returned for a user is his code. -/
def Stands (returned : Returned) (users : Users lower) : Prop :=
  ∀ userId code, returned = .code userId code → users.codeOf userId = some code

/-- What calls lead to. -/
abbrev Reached (start : Users lower) : Users lower → List (Service Returned) → Prop :=
  Pool (machine lower) Anyhow IsCall Outside start

theorem codes_verified (lower : Text → Text) :
    Pool.Verified (machine lower) Anyhow IsCall Outside Formed Rely
      (Prog.Ends Stands fun _ _ => True) where
  refl users _ := ⟨.refl users, id⟩
  trans _ _ _ h h' := ⟨h.1.trans h'.1, h'.2 ∘ h.2⟩
  stays r users users' h hrely := by
    cases r with
    | ok returned => exact fun userId code heq => hrely.1.codeOf (h userId code heq)
    | error err => trivial
  spawned users p hp hF := by
    rcases hp with ⟨draws, userId, rfl⟩ | ⟨toLowerCase, userId, input, rfl⟩
    · refine Prog.wp_weaken (Prog.wp_bind (safe_ensureUserReferralCode draws hF)
        fun code users h => ?_) (fun _ _ h => h) fun _ _ _ => trivial
      intro userId' code' heq
      obtain ⟨rfl, rfl⟩ := Returned.code.inj heq
      exact h.2
    · refine Prog.wp_weaken (Prog.wp_bind (safe_patchReferralCode toLowerCase input hF)
        fun slug users _ => ?_) (fun _ _ h => h) fun _ _ _ => trivial
      intro userId' code' heq
      cases heq
  moves users op e _ _ h := ⟨exec_keeps lower e op users, fun _ => h⟩
  drifted users users' hF h := ⟨hF.outside h, h.keeps, fun hF => hF.outside h⟩

variable {start : Users lower} {ps : List (Service Returned)}

theorem formed_of_pool (hstart : Formed start)
    (h : Reached start users ps) : Formed users :=
  ((codes_verified lower).sound hstart h).1

theorem codeOf_of_pool (hstart : Formed start)
    (h : Reached start users ps)
    (hret : .ret (.code userId code) ∈ ps) : users.codeOf userId = some code :=
  ((codes_verified lower).sound hstart h).2 _ hret userId code rfl

/-! ### Characters of codes and slugs -/

theorem mem_alphabet_spec : ∀ c ∈ CODE_ALPHABET, upperChar c = [c] ∧
    (c.isUpper || c.isDigit) = true ∧ isJsSpace c = false :=
  forall_mem_of_all (by decide)

theorem isSlugChar_spec {c : Char} (h : isSlugChar c = true) : upperChar c = [c.toUpper] ∧
    isJsSpace c = false ∧ ((c.toUpper.isUpper || c.toUpper.isDigit) = true ↔ c ≠ '-') ∧
    (isSlugChar c.toUpper = true ∧ c ≠ '-' ↔ c.isDigit = true) ∧
    (c.isDigit = true → c.toUpper = c) := by
  have hlt : c.toNat < 128 := by
    simp only [isSlugChar, Bool.or_eq_true, decide_eq_true_eq] at h
    rcases h with (hlower | hdigit) | rfl
    · exact Nat.lt_of_le_of_lt (isLower_range hlower).2 (by decide)
    · exact Nat.lt_of_le_of_lt (isDigit_range hdigit).2 (by decide)
    · decide
  exact forall_ascii (P := fun c => isSlugChar c = true → upperChar c = [c.toUpper] ∧
    isJsSpace c = false ∧ ((c.toUpper.isUpper || c.toUpper.isDigit) = true ↔ c ≠ '-') ∧
    (isSlugChar c.toUpper = true ∧ c ≠ '-' ↔ c.isDigit = true) ∧
    (c.isDigit = true → c.toUpper = c)) (by decide) hlt h

theorem flatMap_eq_map {f : Char → Text} {g : Char → Char} :
    ∀ {text : Text}, (∀ c ∈ text, f c = [g c]) → text.flatMap f = text.map g
  | [], _ => rfl
  | c :: text, h => by
      rw [List.flatMap_cons, h c List.mem_cons_self, List.map_cons,
        flatMap_eq_map fun d hd => h d (List.mem_cons_of_mem _ hd), List.singleton_append]

theorem IsCode.normalizeCode (h : IsCode code) : normalizeCode code = code := by
  rw [Attribution.normalizeCode, trim_eq_self fun c hc => (mem_alphabet_spec c (h.2 c hc)).2.2,
    flatMap_eq_map fun c hc => (mem_alphabet_spec c (h.2 c hc)).1, List.map_id']

theorem IsCode.isValidCode (h : IsCode code) : isValidCode code = true := by
  have hall : (code.all fun c => c.isUpper || c.isDigit) = true :=
    List.all_eq_true.mpr fun c hc => (mem_alphabet_spec c (h.2 c hc)).2.1
  rw [Attribution.isValidCode, hall, h.1]
  rfl

/-- A link turns a slug into capital letters. -/
theorem IsSlug.normalizeCode (h : IsSlug slug) : normalizeCode slug = slug.map Char.toUpper := by
  rw [Attribution.normalizeCode, trim_eq_self fun c hc => (isSlugChar_spec (h c hc)).2.1,
    flatMap_eq_map fun c hc => (isSlugChar_spec (h c hc)).1]

theorem IsSlug.isValidCode_iff (h : IsSlug slug) :
    isValidCode (slug.map Char.toUpper) = true ↔ slug.length = 6 ∧ '-' ∉ slug := by
  rw [Attribution.isValidCode, Bool.and_eq_true, decide_eq_true_eq, List.length_map,
    List.all_map, List.all_eq_true]
  refine and_congr_right fun _ => ⟨fun hall hmem => ?_, fun hnot c hc => ?_⟩
  · exact (isSlugChar_spec (h _ hmem)).2.2.1.mp (hall _ hmem) rfl
  · exact (isSlugChar_spec (h c hc)).2.2.1.mpr fun heq => hnot (heq ▸ hc)

/-- In capital letters, it is a slug again if it consists of digits. -/
theorem IsSlug.isSlug_upper_iff (h : IsSlug slug) (hnot : '-' ∉ slug) :
    IsSlug (slug.map Char.toUpper) ↔ slug.all Char.isDigit = true := by
  rw [List.all_eq_true]
  constructor
  · intro hupper c hc
    exact (isSlugChar_spec (h c hc)).2.2.2.1.mp
      ⟨hupper _ (List.mem_map_of_mem hc), fun heq => hnot (heq ▸ hc)⟩
  · intro hdigit d hd
    obtain ⟨c, hc, rfl⟩ := List.mem_map.mp hd
    exact ((isSlugChar_spec (h c hc)).2.2.2.1.mpr (hdigit c hc)).1

theorem IsSlug.upper_eq_self (h : IsSlug slug) (hdigit : slug.all Char.isDigit = true) :
    slug.map Char.toUpper = slug := by
  have hsame : slug.map Char.toUpper = slug.map id := List.map_congr_left fun c hc =>
    (isSlugChar_spec (h c hc)).2.2.2.2 (List.all_eq_true.mp hdigit c hc)
  rw [hsame, List.map_id]

/-! ### Whom a link leads to -/

theorem exists_findUser_iff {v : User} :
    (∃ pick, users.findUserByReferralCode pick code = some v) ↔
      v ∈ users.rows ∧ v.deleted = false ∧
        (v.referralCode = some code ∨ v.vanitySlug = some code) := by
  have hmem : v ∈ users.matching code ↔ v ∈ users.rows ∧ v.deleted = false ∧
      (v.referralCode = some code ∨ v.vanitySlug = some code) := by
    simp only [Users.matching, List.mem_filter, Bool.and_eq_true, Bool.or_eq_true,
      decide_eq_true_eq, Bool.not_eq_true']
    exact and_congr_right fun _ => and_comm
  rw [← hmem]
  constructor
  · intro ⟨pick, hfind⟩
    exact List.mem_of_getElem? hfind
  · intro hv
    obtain ⟨n, hn, hget⟩ := List.mem_iff_getElem.mp hv
    refine ⟨n, ?_⟩
    rw [Users.findUserByReferralCode, Nat.mod_eq_of_lt hn, List.getElem?_eq_getElem hn, hget]

theorem exists_attributed_iff {link : Text} {v : User} :
    (∃ pick, users.attributed pick link = some v) ↔ isValidCode (normalizeCode link) = true ∧
      v ∈ users.rows ∧ v.deleted = false ∧
        (v.referralCode = some (normalizeCode link) ∨ v.vanitySlug = some (normalizeCode link)) := by
  rw [← exists_findUser_iff]
  constructor
  · intro ⟨pick, hfind⟩
    unfold Users.attributed at hfind
    dsimp only at hfind
    split at hfind
    · rename_i hvalid
      exact ⟨hvalid, pick, hfind⟩
    · cases hfind
  · intro ⟨hvalid, pick, hfind⟩
    exact ⟨pick, by rw [Users.attributed, if_pos hvalid, hfind]⟩

variable {u v : User}

/-- Without a slug, the link leads to its owner, or to whom has these six digits for a slug. -/
theorem code_link_leads_to (hF : Formed users) (hu : u ∈ users.rows) (hlive : u.deleted = false)
    (hcode : u.referralCode = some code) :
    (∃ pick, users.attributed pick code = some v) ↔
      v = u ∨ v ∈ users.rows ∧ v.deleted = false ∧ v.vanitySlug = some code := by
  have hform := (hF u hu).code code hcode
  rw [exists_attributed_iff, hform.normalizeCode]
  constructor
  · intro ⟨_, hv, hlive', hmatch⟩
    rcases hmatch with hcode' | hslug
    · exact .inl (Users.eq_of_code hv hu hcode' hcode)
    · exact .inr ⟨hv, hlive', hslug⟩
  · intro h
    refine ⟨hform.isValidCode, ?_⟩
    rcases h with rfl | ⟨hv, hlive', hslug⟩
    · exact ⟨hu, hlive, .inl hcode⟩
    · exact ⟨hv, hlive', .inr hslug⟩

/-- A slug is shared in small letters and looked up in capital ones. -/
theorem slug_link_leads_to (hF : Formed users) (hu : u ∈ users.rows) (hlive : u.deleted = false)
    (hslug : u.vanitySlug = some slug) :
    (∃ pick, users.attributed pick slug = some v) ↔ slug.length = 6 ∧ '-' ∉ slug ∧
      (slug.all Char.isDigit = true ∧ v = u ∨ v ∈ users.rows ∧ v.deleted = false ∧
        v.referralCode = some (slug.map Char.toUpper)) := by
  have hform := (hF u hu).slug slug hslug
  rw [exists_attributed_iff, hform.normalizeCode, hform.isValidCode_iff, and_assoc]
  refine and_congr_right fun _ => and_congr_right fun hnot => ⟨fun h => ?_, fun h => ?_⟩
  · obtain ⟨hv, hlive', hcode | hslug'⟩ := h
    · exact .inr ⟨hv, hlive', hcode⟩
    · -- it can only be found as a slug if it has no letters
      have hdigit := (hform.isSlug_upper_iff hnot).mp ((hF v hv).slug _ hslug')
      rw [hform.upper_eq_self hdigit] at hslug'
      exact .inl ⟨hdigit, Users.eq_of_slug hv hu hlive' hlive hslug' hslug⟩
  · rcases h with ⟨hdigit, rfl⟩ | ⟨hv, hlive', hcode⟩
    · rw [hform.upper_eq_self hdigit]
      exact ⟨hu, hlive, .inr hslug⟩
    · exact ⟨hv, hlive', .inl hcode⟩

/-! ### Every interleaving -/

/-- **A code is for good.** Whatever a call has returned for a user is a valid code in normal form
and stands in his row from then on, and two users are never told the same code, nor one user two. -/
theorem returned_code_is_for_good (hstart : Formed start)
    (h : Reached start users ps) :
    (∀ userId code, .ret (.code userId code) ∈ ps →
      users.codeOf userId = some code ∧ isValidCode code = true ∧ normalizeCode code = code) ∧
    ∀ userId code userId' code', .ret (.code userId code) ∈ ps →
      .ret (.code userId' code') ∈ ps → (userId = userId' ↔ code = code') := by
  have hF := formed_of_pool hstart h
  constructor
  · intro userId code hret
    have hcode := codeOf_of_pool hstart h hret
    obtain ⟨u, hu, -, hstands⟩ := Users.codeOf_eq_some_iff.mp hcode
    have hform := (hF u hu).code code hstands
    exact ⟨hcode, hform.isValidCode, hform.normalizeCode⟩
  · intro userId code userId' code' hret hret'
    have hcode := codeOf_of_pool hstart h hret
    have hcode' := codeOf_of_pool hstart h hret'
    constructor
    · rintro rfl
      exact Option.some.inj (hcode.symm.trans hcode')
    · rintro rfl
      obtain ⟨u, hu, rfl, hstands⟩ := Users.codeOf_eq_some_iff.mp hcode
      obtain ⟨v, hv, rfl, hstands'⟩ := Users.codeOf_eq_some_iff.mp hcode'
      rw [Users.eq_of_code hu hv hstands hstands']

/-- **Whom the link of a user leads to**, in every state that calls in any order lead to: himself,
if he has no slug or six digits for one, and otherwise the user whose code the slug is in capital
letters, if there is one. Six digits of a slug may be somebody's code, too. -/
theorem shared_link_leads_to (hstart : Formed start)
    (h : Reached start users ps) {link : Text}
    (hu : u ∈ users.rows) (hlive : u.deleted = false) (hlink : u.sharedCode = some link)
    (v : User) :
    (∃ pick, users.attributed pick link = some v) ↔
      (u.vanitySlug = none ∨ link.length = 6 ∧ link.all Char.isDigit = true) ∧ v = u ∨
      v ∈ users.rows ∧ v.deleted = false ∧
        (u.vanitySlug = none ∧ v.vanitySlug = some link ∨
          u.vanitySlug ≠ none ∧ link.length = 6 ∧ '-' ∉ link ∧
            v.referralCode = some (link.map Char.toUpper)) := by
  have hF := formed_of_pool hstart h
  cases hslug : u.vanitySlug with
  | none =>
      have hcode : u.referralCode = some link := by
        rw [User.sharedCode, hslug] at hlink
        exact hlink
      rw [code_link_leads_to hF hu hlive hcode]
      simp
  | some slug =>
      obtain rfl : slug = link := by
        rw [User.sharedCode, hslug] at hlink
        exact Option.some.inj hlink
      have hnot (hdigit : slug.all Char.isDigit = true) : '-' ∉ slug :=
        fun hmem => absurd (List.all_eq_true.mp hdigit _ hmem) (by decide)
      rw [slug_link_leads_to hF hu hlive hslug]
      constructor
      · intro ⟨hlen, hdash, hfound⟩
        rcases hfound with ⟨hdigit, hv⟩ | ⟨hv, hlive', hcode⟩
        · exact .inl ⟨.inr ⟨hlen, hdigit⟩, hv⟩
        · exact .inr ⟨hv, hlive', .inr ⟨Option.some_ne_none _, hlen, hdash, hcode⟩⟩
      · rintro (⟨hnone | ⟨hlen, hdigit⟩, hv⟩ | ⟨hv, hlive', ⟨hnone, -⟩ | ⟨-, hlen, hdash, hcode⟩⟩)
        · cases hnone
        · exact ⟨hlen, hnot hdigit, .inl ⟨hdigit, hv⟩⟩
        · cases hnone
        · exact ⟨hlen, hdash, .inr ⟨hv, hlive', hcode⟩⟩

/-! ### The same draw for two users -/

def registered (id : Id) : User := ⟨id, none, none, false⟩

def newcomers : Users id := ⟨[registered 1, registered 2, registered 3], by decide⟩

/-- `A`s first, and `B`s after a broken index. -/
def draws (attempt _ : Nat) : Bytes := fun _ => UInt8.ofNat attempt

def codeCalls : List (Service Returned) :=
  [Returned.code 1 <$> ensureUserReferralCode draws 1,
    Returned.code 2 <$> ensureUserReferralCode draws 2,
    Returned.slug <$> patchReferralCode (List.map Char.toLower) 3 " BBBBBB ".toList]

theorem spawn_codeCalls :
    Reached newcomers newcomers codeCalls :=
  Crew.spawn (Crew.spawn (Crew.spawn .init (.inl ⟨draws, 1, rfl⟩)) (.inl ⟨draws, 2, rfl⟩))
    (.inr ⟨List.map Char.toLower, 3, _, rfl⟩)

def codeSteps (i n : Nat) : List (Nat × CodeEnv) := List.replicate n (i, ⟨none, 0⟩)

/-- Both look for the first code before one of them writes it. -/
def sameDraw : List (Nat × CodeEnv) :=
  codeSteps 0 2 ++ codeSteps 1 2 ++ codeSteps 0 2 ++ codeSteps 1 4 ++ codeSteps 2 1

def playCodes : Users id × List (Service Returned) :=
  play (machine id) sameDraw newcomers codeCalls

theorem playCodes_pool :
    Reached newcomers playCodes.1 playCodes.2 :=
  Crew.play _ spawn_codeCalls (by decide +kernel : playOk (machine id) Anyhow _ _ _)

theorem newcomers_formed : Formed newcomers := by
  intro u hu
  have hnone : ∀ u ∈ newcomers.rows, u.referralCode = none ∧ u.vanitySlug = none := by decide
  exact ⟨by simp [hnone u hu], by simp [hnone u hu]⟩

theorem second_draw_is_returned : playCodes.1.codeOf 2 = some "BBBBBB".toList := by
  have h := (returned_code_is_for_good newcomers_formed playCodes_pool).1 2 "BBBBBB".toList
    (List.mem_of_getElem? (i := 1) rfl)
  exact h.1

theorem slug_leads_to_another : ∃ pick, playCodes.1.attributed pick "bbbbbb".toList =
    some ⟨2, some "BBBBBB".toList, none, false⟩ :=
  (shared_link_leads_to newcomers_formed playCodes_pool
    (u := ⟨3, none, some "bbbbbb".toList, false⟩) (by decide +kernel) rfl rfl _).mpr
    (by decide +kernel)

end BrandBlitz.Referrals.Codes

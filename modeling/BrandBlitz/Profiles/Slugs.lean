import BrandBlitz.Lib.NumberText
import BrandBlitz.Lib.Words
import BrandBlitz.Profiles.Usernames
import Mathlib.Data.List.Nodup

/-!
# BrandBlitz.Profiles.Slugs

**Usernames for new users**: `slugify` of `apps/api/src/lib/slugify.ts`, and `allocateUsername` of
`apps/api/src/db/queries/users.ts`.

A slug is the words of a text, joined by hyphens and cut after 24 characters. The cut comes last, so
a slug ends with a hyphen where the 24th character is one.
-/

namespace BrandBlitz.Profiles

open BrandBlitz.Lib.NumberText BrandBlitz.Lib.Words

/-! ### Slugs -/

/-- `[a-z0-9]`. -/
def isSlugChar (c : Char) : Bool := c.isLower || c.isDigit

/-- `[\u0300-\u036f]`. -/
def isCombiningMark (c : Char) : Bool := 0x300 ≤ c.toNat && c.toNat ≤ 0x36f

/-- What Unicode says of lower case and of compatible characters, as far as slugs depend on it. -/
structure Folding where
  toLowerCase : Text → Text
  normalizeNFKD : Text → Text
  toLowerCase_eq : ∀ text, (∀ c ∈ text, isSlugChar c ∨ c = '-') → toLowerCase text = text
  normalizeNFKD_eq : ∀ text, (∀ c ∈ text, isSlugChar c ∨ c = '-') → normalizeNFKD text = text

namespace Folding

variable (f : Folding)

def folded (value : Text) : Text :=
  (f.normalizeNFKD (f.toLowerCase value)).filter fun c => !isCombiningMark c

/-- A run of one hyphen may be replaced as well as one of two or more. -/
def slugify (value : Text) : Text :=
  let value := f.folded value
  let value := replaceRuns (fun c => !isSlugChar c) '-' false value
  let value := (value.dropWhile fun c => c = '-').rdropWhile fun c => c = '-'
  let value := replaceRuns (fun c => c = '-') '-' false value
  value.take 24

/-- The words that a slug is made of. -/
def slugWords (value : Text) : List Text := words isSlugChar (f.folded value)

end Folding

/-- `[a-z0-9]+(-[a-z0-9]+)*`. -/
def IsSlug (text : Text) : Prop :=
  ∃ ws, ws ≠ [] ∧ (∀ w ∈ ws, IsWord isSlugChar w) ∧ text = ['-'].intercalate ws

/-! ### Usernames -/

/-- `SELECT username … WHERE (username = $1 OR username LIKE $2) AND deleted_at IS NULL`. There is no
wildcard in a base. -/
def takenNames (users : List User) (base : Text) : List Text :=
  (users.filter fun user => !user.deleted).filterMap fun user =>
    user.username.filter fun name => name = base || (base ++ ['-']).isPrefixOf name

def withSuffix (base : Text) (suffix : Nat) : Text := base ++ '-' :: Nat.toDigits 10 suffix

-- named, so that the test for a member refers to it
local instance : LawfulBEq Text := inferInstance

/-- The loop over the suffixes. -/
def freeSuffix (taken : List Text) (base : Text) : Nat → Nat → Option Nat
  | 0, _ => none
  | fuel + 1, suffix =>
    if withSuffix base suffix ∈ taken then freeSuffix taken base fuel (suffix + 1) else some suffix

namespace Folding

variable (f : Folding)

/-- `slugifyUsername(displayName) || slugifyUsername(email.split("@")[0] ?? "") || "player"`. -/
def usernameBase (displayName email : Text) : Text :=
  if f.slugify displayName ≠ [] then f.slugify displayName
  else if f.slugify (email.takeWhile (· ≠ '@')) ≠ [] then f.slugify (email.takeWhile (· ≠ '@'))
  else "player".toList

def allocateUsername (fuel : Nat) (users : List User) (displayName email : Text) : Option Text :=
  let base := f.usernameBase displayName email
  let taken := takenNames users base
  if base ∈ taken then (freeSuffix taken base fuel 2).map (withSuffix base) else some base

/-- The text that the username is made of: the first that has a word. -/
def usernameSource (displayName email : Text) : Text :=
  if f.slugWords displayName ≠ [] then displayName
  else if f.slugWords (email.takeWhile (· ≠ '@')) ≠ [] then email.takeWhile (· ≠ '@')
  else "player".toList

end Folding

/-! ### The grammar -/

theorem isSlugChar_hyphen : isSlugChar '-' = false := by decide

section

variable {f : Folding} {value text : Text} {ws : List Text}

theorem isSlug_iff : IsSlug text ↔ text ≠ [] ∧ ['-'].intercalate (words isSlugChar text) = text := by
  constructor
  · rintro ⟨ws, hne, hws, rfl⟩
    exact ⟨join_ne_nil '-' hws hne, by rw [words_join isSlugChar_hyphen hws]⟩
  · intro ⟨hne, hjoin⟩
    refine ⟨words isSlugChar text, ?_, fun w hw => isWord_of_mem_words hw, hjoin.symm⟩
    intro hnil
    rw [hnil] at hjoin
    exact hne hjoin.symm

instance (text : Text) : Decidable (IsSlug text) := decidable_of_iff' _ isSlug_iff

/-- A hyphen at the end makes no difference to the words. -/
theorem words_hyphen (text : Text) : words isSlugChar (text ++ ['-']) = words isSlugChar text := by
  rw [words_append_sep isSlugChar_hyphen]
  exact List.append_nil _

theorem isSlugChar_of_mem_join {c : Char} (hws : ∀ w ∈ ws, IsWord isSlugChar w)
    (hc : c ∈ ['-'].intercalate ws) : isSlugChar c ∨ c = '-' := by
  rcases mem_join hc with hc | ⟨w, hw, hc⟩
  · exact .inr hc
  · exact .inl ((hws w hw).2 c hc)

/-! ### Slugs and their words -/

theorem slugify_eq (f : Folding) (value : Text) :
    f.slugify value = (['-'].intercalate (f.slugWords value)).take 24 := by
  unfold Folding.slugify
  simp only
  rw [strip_replaceRuns isSlugChar_hyphen,
    replaceRuns_join isSlugChar_hyphen fun w hw => isWord_of_mem_words hw]
  rfl

theorem isCombiningMark_of_slug {c : Char} (h : isSlugChar c ∨ c = '-') :
    isCombiningMark c = false := by
  have hlt : c.toNat < 0x300 := by
    rcases h with h | rfl
    · rw [isSlugChar, Bool.or_eq_true] at h
      rcases h with h | h
      · exact Nat.lt_of_le_of_lt (isLower_range h).2 (by decide)
      · exact Nat.lt_of_le_of_lt (isDigit_range h).2 (by decide)
    · decide
  simp [isCombiningMark, Nat.not_le.mpr hlt]

/-- A text of these characters is folded to itself. -/
theorem folded_eq (f : Folding) (h : ∀ c ∈ text, isSlugChar c ∨ c = '-') : f.folded text = text := by
  rw [Folding.folded, f.toLowerCase_eq text h, f.normalizeNFKD_eq text h, List.filter_eq_self]
  intro c hc
  simp [isCombiningMark_of_slug (h c hc)]

theorem slugify_eq_nil_iff : f.slugify value = [] ↔ f.slugWords value = [] := by
  rw [slugify_eq]
  constructor
  · intro h
    by_contra hne
    rcases List.take_eq_nil_iff.mp h with h | h
    · omega
    · exact join_ne_nil '-' (fun w hw => isWord_of_mem_words hw) hne h
  · intro h
    rw [h]
    rfl

/-- **What a slug is**: words that are joined, or with a hyphen after them if the cut is there. -/
theorem slugify_cases (f : Folding) (value : Text) :
    ∃ ws, (∀ w ∈ ws, IsWord isSlugChar w) ∧
      (SepAt (f.slugWords value) 24 → f.slugify value = ['-'].intercalate ws ++ ['-']) ∧
      (¬ SepAt (f.slugWords value) 24 → f.slugify value = ['-'].intercalate ws) := by
  rw [slugify_eq]
  exact take_join isSlugChar_hyphen (fun w hw => isWord_of_mem_words hw) 24

theorem length_slugify_le (f : Folding) (value : Text) : (f.slugify value).length ≤ 24 := by
  rw [slugify_eq]
  exact List.length_take_le 24 _

/-- A slug that does not end with a hyphen is its own. -/
theorem slugify_join (f : Folding) (hws : ∀ w ∈ ws, IsWord isSlugChar w) :
    f.slugWords (['-'].intercalate ws) = ws ∧ f.slugWords (['-'].intercalate ws ++ ['-']) = ws := by
  have hchars : ∀ c ∈ ['-'].intercalate ws, isSlugChar c ∨ c = '-' := fun c hc =>
    isSlugChar_of_mem_join hws hc
  have hlast : ∀ c ∈ ['-'].intercalate ws ++ ['-'], isSlugChar c ∨ c = '-' := by
    intro c hc
    rcases List.mem_append.mp hc with hc | hc
    · exact hchars c hc
    · exact .inr (List.mem_singleton.mp hc)
  unfold Folding.slugWords
  rw [folded_eq f hchars, folded_eq f hlast, words_hyphen, words_join isSlugChar_hyphen hws]
  exact ⟨rfl, rfl⟩

theorem slug_or_empty_iff (f : Folding) (value : Text) :
    (f.slugify value = [] ∨ IsSlug (f.slugify value)) ↔ ¬ SepAt (f.slugWords value) 24 := by
  obtain ⟨ws, hws, hcut, hwhole⟩ := slugify_cases f value
  constructor
  · intro hslug hat
    rw [hcut hat] at hslug
    rcases hslug with hnil | hslug
    · simp at hnil
    · have hjoin := (isSlug_iff.mp hslug).2
      rw [words_hyphen, words_join isSlugChar_hyphen hws] at hjoin
      simp at hjoin
  · intro hnot
    rw [hwhole hnot]
    by_cases hne : ws = []
    · exact .inl (by rw [hne]; rfl)
    · exact .inr ⟨ws, hne, hws, rfl⟩

theorem slugify_idempotent_iff (f : Folding) (value : Text) :
    f.slugify (f.slugify value) = f.slugify value ↔ ¬ SepAt (f.slugWords value) 24 := by
  have hlength := length_slugify_le f value
  obtain ⟨ws, hws, hcut, hwhole⟩ := slugify_cases f value
  obtain ⟨hwords, hwordsHyphen⟩ := slugify_join f hws
  constructor
  · intro hsame hat
    rw [hcut hat] at hsame hlength
    rw [List.length_append, List.length_singleton] at hlength
    rw [slugify_eq, hwordsHyphen, List.take_of_length_le (by omega)] at hsame
    simp at hsame
  · intro hnot
    rw [hwhole hnot] at hlength ⊢
    rw [slugify_eq, hwords, List.take_of_length_le hlength]

/-! ### Free names -/

theorem slugify_player (f : Folding) :
    f.slugWords "player".toList = ["player".toList] ∧
      f.slugify "player".toList = "player".toList := by
  have hword : IsWord isSlugChar "player".toList := ⟨by decide, forall_mem_of_all (by decide)⟩
  have hwords : f.slugWords "player".toList = ["player".toList] := by
    rw [Folding.slugWords, folded_eq f fun c hc => .inl (hword.2 c hc), words_word hword]
  refine ⟨hwords, ?_⟩
  rw [slugify_eq, hwords]
  rfl

/-- The base is the slug of its source, and not empty. -/
theorem usernameBase_eq (f : Folding) (displayName email : Text) :
    f.usernameBase displayName email = f.slugify (f.usernameSource displayName email) ∧
      f.usernameBase displayName email ≠ [] := by
  unfold Folding.usernameBase Folding.usernameSource
  simp only [ne_eq, slugify_eq_nil_iff]
  split
  next hfirst => exact ⟨rfl, fun h => hfirst (slugify_eq_nil_iff.mp h)⟩
  next =>
    split
    next hsecond => exact ⟨rfl, fun h => hsecond (slugify_eq_nil_iff.mp h)⟩
    next => exact ⟨(slugify_player f).2.symm, by decide⟩

theorem withSuffix_injective (base : Text) : Function.Injective (withSuffix base) := by
  intro m n h
  exact toDigits_injective (List.cons.inj (List.append_cancel_left h)).2

theorem freeSuffix_free {taken : List Text} {base : Text} {fuel suffix k : Nat}
    (h : freeSuffix taken base fuel suffix = some k) : withSuffix base k ∉ taken := by
  induction fuel generalizing suffix with
  | zero => cases h
  | succ fuel ih =>
    rw [freeSuffix] at h
    split at h
    next => exact ih h
    next hfree =>
      cases h
      exact hfree

theorem freeSuffix_eq_none {taken : List Text} {base : Text} {fuel suffix : Nat}
    (h : freeSuffix taken base fuel suffix = none) :
    ∀ i, i < fuel → withSuffix base (suffix + i) ∈ taken := by
  induction fuel generalizing suffix with
  | zero => exact fun i hi => absurd hi (Nat.not_lt_zero i)
  | succ fuel ih =>
    rw [freeSuffix] at h
    split at h
    next htaken =>
      intro i hi
      cases i with
      | zero => exact htaken
      | succ i =>
        have hnext := ih h i (by omega)
        have heq : suffix + 1 + i = suffix + (i + 1) := by omega
        rwa [heq] at hnext
    next => cases h

/-- There are more suffixes than names that are taken. -/
theorem exists_freeSuffix {taken : List Text} {fuel : Nat} (hfuel : taken.length < fuel)
    (base : Text) (suffix : Nat) : ∃ k, freeSuffix taken base fuel suffix = some k := by
  by_contra hnone
  have hall := freeSuffix_eq_none (Option.eq_none_iff_forall_ne_some.mpr fun k hk => hnone ⟨k, hk⟩)
  have hnodup : ((List.range fuel).map fun i => withSuffix base (suffix + i)).Nodup := by
    refine List.nodup_range.map fun i j heq => ?_
    have hsum := withSuffix_injective base heq
    omega
  have hsubset : ((List.range fuel).map fun i => withSuffix base (suffix + i)) ⊆ taken := by
    intro name hname
    obtain ⟨i, hi, rfl⟩ := List.mem_map.mp hname
    exact hall i (List.mem_range.mp hi)
  have hlength := (List.subperm_of_subset hnodup hsubset).length_le
  rw [List.length_map, List.length_range] at hlength
  omega

/-- More fuel than needed changes nothing. -/
theorem freeSuffix_mono {taken : List Text} {base : Text} {fuel fuel' suffix k : Nat}
    (h : freeSuffix taken base fuel suffix = some k) (hle : fuel ≤ fuel') :
    freeSuffix taken base fuel' suffix = some k := by
  induction fuel generalizing fuel' suffix with
  | zero => cases h
  | succ fuel ih =>
    obtain ⟨fuel', rfl⟩ : ∃ n, fuel' = n + 1 := ⟨fuel' - 1, by omega⟩
    rw [freeSuffix] at h ⊢
    split at h
    next htaken =>
      rw [if_pos htaken]
      exact ih h (by omega)
    next hfree =>
      rw [if_neg hfree]
      exact h

/-- The query finds every live user whose name is the base or the base with a suffix. -/
theorem mem_takenNames {users : List User} {base name : Text}
    (hname : name = base ∨ ∃ suffix, name = withSuffix base suffix) {user : User}
    (huser : user ∈ users) (hlive : user.deleted = false) (husername : user.username = some name) :
    name ∈ takenNames users base := by
  refine List.mem_filterMap.mpr ⟨user, List.mem_filter.mpr ⟨huser, by simp [hlive]⟩, ?_⟩
  rw [husername, Option.filter_some, if_pos]
  rcases hname with rfl | ⟨suffix, rfl⟩
  · simp
  · simp [withSuffix]

/-- The name: the base, or the base with a suffix, that no live user has. -/
theorem allocateUsername_spec (f : Folding) (users : List User) (displayName email : Text) :
    ∃ name, (∀ fuel, (takenNames users (f.usernameBase displayName email)).length < fuel →
        f.allocateUsername fuel users displayName email = some name) ∧
      (∀ user ∈ users, user.deleted = false → user.username ≠ some name) ∧
      (name = f.usernameBase displayName email ∨
        ∃ suffix, name = withSuffix (f.usernameBase displayName email) suffix) := by
  unfold Folding.allocateUsername
  simp only
  generalize f.usernameBase displayName email = base
  by_cases hbase : base ∈ takenNames users base
  · obtain ⟨k, hk⟩ := exists_freeSuffix (Nat.lt_succ_self (takenNames users base).length) base 2
    refine ⟨withSuffix base k, fun fuel hfuel => ?_, ?_, .inr ⟨k, rfl⟩⟩
    · rw [if_pos hbase, freeSuffix_mono hk hfuel]
      rfl
    · intro user huser hlive husername
      exact freeSuffix_free hk (mem_takenNames (.inr ⟨k, rfl⟩) huser hlive husername)
  · refine ⟨base, fun fuel _ => if_neg hbase, ?_, .inl rfl⟩
    intro user huser hlive husername
    exact hbase (mem_takenNames (.inl rfl) huser hlive husername)

/-- A suffix makes no slug of a text that is none, and keeps one that is. -/
theorem isSlug_withSuffix_iff (f : Folding) (value : Text) (hne : f.slugify value ≠ [])
    (suffix : Nat) :
    IsSlug (withSuffix (f.slugify value) suffix) ↔ ¬ SepAt (f.slugWords value) 24 := by
  obtain ⟨ws, hws, hcut, hwhole⟩ := slugify_cases f value
  have hdigits : IsWord isSlugChar (Nat.toDigits 10 suffix) :=
    ⟨Nat.toDigits_ne_nil, fun c hc => by simp [isSlugChar, isDigit_of_mem_digits hc]⟩
  constructor
  · intro hslug hat
    have hjoin := (isSlug_iff.mp hslug).2
    rw [hcut hat, withSuffix, words_append_sep isSlugChar_hyphen, words_hyphen,
      words_join isSlugChar_hyphen hws, words_word hdigits] at hjoin
    have hlength := congrArg List.length hjoin
    by_cases hwsne : ws = []
    · rw [hwsne, List.nil_append, List.intercalate_singleton] at hlength
      simp only [List.length_append, List.length_cons, List.length_nil, List.intercalate_nil]
        at hlength
      omega
    · rw [join_concat hwsne] at hlength
      simp at hlength
  · intro hnot
    rw [hwhole hnot] at hne ⊢
    have hwsne : ws ≠ [] := by
      rintro rfl
      exact hne rfl
    refine ⟨ws ++ [Nat.toDigits 10 suffix], by simp, ?_, (join_concat hwsne _).symm⟩
    exact List.forall_mem_append.mpr ⟨hws, by simpa using hdigits⟩

/-- **Allocated usernames are clean and unused.** A slug has at most 24 characters. It is empty or
of the grammar, and its own slug, if and only if none of the hyphens between its words would be the
24th character. A name is always found that no live user has, and it is of the grammar if and only
if the slug of the text that it is made of is. -/
theorem usernames_clean_iff (f : Folding) :
    (∀ value, (f.slugify value).length ≤ 24 ∧
      ((f.slugify value = [] ∨ IsSlug (f.slugify value)) ↔ ¬ SepAt (f.slugWords value) 24) ∧
      (f.slugify (f.slugify value) = f.slugify value ↔ ¬ SepAt (f.slugWords value) 24)) ∧
    ∀ users displayName email, ∃ name,
      (∀ fuel, (takenNames users (f.usernameBase displayName email)).length < fuel →
        f.allocateUsername fuel users displayName email = some name) ∧
      (∀ user ∈ users, user.deleted = false → user.username ≠ some name) ∧
      (IsSlug name ↔ ¬ SepAt (f.slugWords (f.usernameSource displayName email)) 24) := by
  refine ⟨fun value => ⟨length_slugify_le f value, slug_or_empty_iff f value,
    slugify_idempotent_iff f value⟩, fun users displayName email => ?_⟩
  obtain ⟨name, hfound, hfree, hform⟩ := allocateUsername_spec f users displayName email
  obtain ⟨hbase, hne⟩ := usernameBase_eq f displayName email
  rw [hbase] at hform hne
  refine ⟨name, hfound, hfree, ?_⟩
  rcases hform with rfl | ⟨suffix, rfl⟩
  · rw [← slug_or_empty_iff, or_iff_right hne]
  · exact isSlug_withSuffix_iff f _ hne suffix

end

/-! ### A name that is cut -/

theorem toLower_eq {c : Char} (h : isSlugChar c ∨ c = '-') : c.toLower = c := by
  rcases h with h | rfl
  · rw [isSlugChar, Bool.or_eq_true] at h
    rcases h with h | h
    · refine dif_neg fun hupper => ?_
      have hZ : c.toNat ≤ 90 := UInt32.le_iff_toNat_le.mp hupper.2
      have ha := (isLower_range h).1
      omega
    · exact toLower_of_isDigit h
  · exact dif_neg (by decide)

/-- Folding of ASCII letters only. -/
def asciiFolding : Folding where
  toLowerCase := List.map Char.toLower
  normalizeNFKD := id
  toLowerCase_eq text h := by
    rw [List.map_congr_left fun c hc => toLower_eq (h c hc), List.map_id']
  normalizeNFKD_eq _ _ := rfl

/-- 23 letters, a blank and one letter more. -/
def longName : Text := List.replicate 23 'a' ++ " b".toList

theorem longName_cut :
    asciiFolding.slugify longName = List.replicate 23 'a' ++ ['-'] ∧
      ¬ (asciiFolding.slugify longName = [] ∨ IsSlug (asciiFolding.slugify longName)) ∧
      asciiFolding.slugify (asciiFolding.slugify longName) ≠ asciiFolding.slugify longName ∧
      asciiFolding.allocateUsername 1 [] longName [] = some (List.replicate 23 'a' ++ ['-']) := by
  decide

end BrandBlitz.Profiles

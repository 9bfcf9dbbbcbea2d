import Mathlib.Logic.Function.Basic
import Mathlib.Tactic.Common

/-!
# BrandBlitz.Lib.Ownership

**A store whose values have owners.** Whoever acts on it leaves every place as it was, or empty,
or with a value of their own (`Acts`). So what the others have is never put back once it is gone:
a sequence of actions spares it exactly when each of them does (`spares_trans_iff`), and one
action does when no value of another stands where it writes (`spares_update_iff`).
-/

namespace BrandBlitz.Lib.Ownership

variable {K V U : Type} (owner : V → Option U)

/-- Somebody else owns the value. -/
def OfAnother (u : U) (value : V) : Prop := ∃ other, owner value = some other ∧ other ≠ u

/-- A value of somebody else stands there. -/
def OthersAt (store : K → Option V) (u : U) (place : K) : Prop :=
  ∃ value, store place = some value ∧ OfAnother owner u value

/-- What the others had is still there. -/
def Spares (u : U) (store store' : K → Option V) : Prop :=
  ∀ place value, store place = some value → OfAnother owner u value → store' place = some value

def Acts (u : U) (store store' : K → Option V) : Prop :=
  ∀ place, store' place = store place ∨ ∀ value ∈ store' place, owner value = some u

variable {owner} {u : U} {store store' store'' : K → Option V} {place : K}

theorem not_ofAnother {value : V} (h : owner value = some u) : ¬ OfAnother owner u value := by
  rintro ⟨other, hother, hne⟩
  exact hne (Option.some.inj (hother.symm.trans h))

theorem Spares.refl (u : U) (store : K → Option V) : Spares owner u store store :=
  fun _ _ h _ => h

theorem Acts.refl (u : U) (store : K → Option V) : Acts owner u store store :=
  fun _ => .inl rfl

theorem Acts.trans (h : Acts owner u store store') (h' : Acts owner u store' store'') :
    Acts owner u store store'' := by
  intro place
  rcases h' place with hsame | hown
  · rw [hsame]
    exact h place
  · exact .inr hown

/-- **Two actions spare the others exactly when both do.** -/
theorem spares_trans_iff (h : Acts owner u store store') (h' : Acts owner u store' store'') :
    Spares owner u store store'' ↔ Spares owner u store store' ∧ Spares owner u store' store'' := by
  constructor
  · intro hspares
    constructor
    · intro place value hvalue hother
      have hkept := hspares place value hvalue hother
      rcases h' place with hsame | hown
      · exact hsame.symm.trans hkept
      · exact absurd hother (not_ofAnother (hown value hkept))
    · intro place value hvalue hother
      rcases h place with hsame | hown
      · exact hspares place value (hsame.symm.trans hvalue) hother
      · exact absurd hother (not_ofAnother (hown value hvalue))
  · rintro ⟨hspares, hspares'⟩ place value hvalue hother
    exact hspares' place value (hspares place value hvalue hother) hother

/-- After an action that spares them, the others' values stand where they stood. -/
theorem othersAt_iff (h : Acts owner u store store') (hspares : Spares owner u store store') :
    OthersAt owner store' u place ↔ OthersAt owner store u place := by
  constructor
  · rintro ⟨value, hvalue, hother⟩
    rcases h place with hsame | hown
    · exact ⟨value, hsame.symm.trans hvalue, hother⟩
    · exact absurd hother (not_ofAnother (hown value hvalue))
  · rintro ⟨value, hvalue, hother⟩
    exact ⟨value, hspares place value hvalue hother, hother⟩

variable [DecidableEq K] {written : Option V}

theorem acts_update (h : ∀ value ∈ written, owner value = some u) :
    Acts owner u store (Function.update store place written) := by
  intro place'
  by_cases hplace : place' = place
  · rw [hplace, Function.update_self]
    exact .inr h
  · rw [Function.update_of_ne hplace]
    exact .inl rfl

/-- **Writing spares the others exactly where no value of theirs stands.** -/
theorem spares_update_iff (h : ∀ value ∈ written, owner value = some u) :
    Spares owner u store (Function.update store place written) ↔
      ¬ OthersAt owner store u place := by
  constructor
  · rintro hspares ⟨value, hvalue, hother⟩
    have hkept := hspares place value hvalue hother
    rw [Function.update_self] at hkept
    exact not_ofAnother (h value hkept) hother
  · intro hfree place' value hvalue hother
    have hplace : place' ≠ place := by
      rintro rfl
      exact hfree ⟨value, hvalue, hother⟩
    rw [Function.update_of_ne hplace, hvalue]

end BrandBlitz.Lib.Ownership

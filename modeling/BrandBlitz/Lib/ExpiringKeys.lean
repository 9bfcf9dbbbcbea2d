import Mathlib.Logic.Function.Basic

/-!
# BrandBlitz.Lib.ExpiringKeys

**Keys that expire**: the part of a shared store behind `SET key value EX ttl NX`. A key
holds the last instant at which it is still there; a key that has run out counts as absent,
and storing it again gives it a later last instant. So a key, once stored, lives at least as
long as it was promised to (`LivesUntil`), whatever is stored afterwards.
-/

namespace BrandBlitz.Lib

/-- What is stored after an update is the new value, or was stored under another key. -/
theorem some_of_update {K V : Type} [DecidableEq K] {store : K → Option V} {k k' : K}
    {value : Option V} {v : V} (h : Function.update store k value k' = some v) :
    (k' = k ∧ value = some v) ∨ (k' ≠ k ∧ store k' = some v) := by
  by_cases heq : k' = k
  · rw [heq, Function.update_self] at h
    exact .inl ⟨heq, h⟩
  · rw [Function.update_of_ne heq] at h
    exact .inr ⟨heq, h⟩

/-- For each key the last instant at which it is there. -/
abbrev ExpiringKeys (K : Type) := K → Option Nat

namespace ExpiringKeys

variable {K : Type} [DecidableEq K] {keys : ExpiringKeys K} {now ttl t : Nat} {k k' : K}

/-- Is the key there? -/
def holds (keys : ExpiringKeys K) (now : Nat) (k : K) : Bool :=
  match keys k with
  | some last => now ≤ last
  | none => false

/-- The key is stored for `ttl` from now on. -/
def store (keys : ExpiringKeys K) (now ttl : Nat) (k : K) : ExpiringKeys K :=
  Function.update keys k (some (now + ttl))

/-- `SET k … EX ttl NX`: was the key stored, and what is stored then. -/
def setNX (keys : ExpiringKeys K) (now ttl : Nat) (k : K) : Bool × ExpiringKeys K :=
  if keys.holds now k then (false, keys) else (true, keys.store now ttl k)

/-- `DEL k`. -/
def delete (keys : ExpiringKeys K) (k : K) : ExpiringKeys K := Function.update keys k none

/-- The key is there up to `t` at least. -/
def LivesUntil (keys : ExpiringKeys K) (k : K) (t : Nat) : Prop :=
  ∃ last, keys k = some last ∧ t ≤ last

omit [DecidableEq K] in
theorem LivesUntil.holds (h : keys.LivesUntil k t) (hnow : now ≤ t) : keys.holds now k = true := by
  obtain ⟨last, hk, hle⟩ := h
  simp only [ExpiringKeys.holds, hk, decide_eq_true_eq]
  omega

omit [DecidableEq K] in
theorem exists_of_holds (h : keys.holds now k = true) :
    ∃ last, keys k = some last ∧ now ≤ last := by
  unfold ExpiringKeys.holds at h
  split at h
  · exact ⟨_, ‹_›, by simpa using h⟩
  · cases h

theorem setNX_of_holds (h : keys.holds now k = true) : keys.setNX now ttl k = (false, keys) := by
  simp [setNX, h]

theorem setNX_of_not_holds (h : keys.holds now k = false) :
    keys.setNX now ttl k = (true, keys.store now ttl k) := by
  simp [setNX, h]

theorem store_self : keys.store now ttl k k = some (now + ttl) := by
  simp [store]

theorem store_of_ne (h : k' ≠ k) : keys.store now ttl k k' = keys k' := by
  simp [store, Function.update_of_ne h]

theorem not_holds_delete : (keys.delete k).holds now k = false := by
  simp [holds, delete]

omit [DecidableEq K] in
/-- A key that is there was there before. -/
theorem holds_earlier (h : keys.holds now k = true) (hle : t ≤ now) : keys.holds t k = true := by
  obtain ⟨last, hk, hlast⟩ := exists_of_holds h
  exact LivesUntil.holds ⟨last, hk, Nat.le_refl _⟩ (Nat.le_trans hle hlast)

/-- A key that was stored lives for the given time. -/
theorem livesUntil_store : (keys.store now ttl k).LivesUntil k (now + ttl) :=
  ⟨now + ttl, store_self, Nat.le_refl _⟩

/-- Storing a key that is not there shortens no life. -/
theorem LivesUntil.store (h : keys.LivesUntil k t) (hfree : keys.holds now k' = false) :
    (keys.store now ttl k').LivesUntil k t := by
  obtain ⟨last, hk, hle⟩ := h
  by_cases hkk : k = k'
  · subst hkk
    -- the old life is over, so the new one ends later
    have hover : last < now := by simpa [ExpiringKeys.holds, hk] using hfree
    exact ⟨now + ttl, store_self, by omega⟩
  · exact ⟨last, (store_of_ne hkk).trans hk, hle⟩

end ExpiringKeys

end BrandBlitz.Lib

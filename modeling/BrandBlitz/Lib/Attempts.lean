import Mathlib.Order.Bounds.Basic

/-!
# BrandBlitz.Lib.Attempts

**Trying until something happens**, a bounded number of times. Attempts are numbered from 1 on; the
last one is the first that ends the matter, or the last there may be: the least of
`lastAttempts`.
-/

namespace BrandBlitz.Lib

/-- Where trying may end; `ends n` says that what comes after `n` attempts ends the matter. -/
def lastAttempts (maxAttempts : Nat) (ends : Nat → Prop) : Set Nat :=
  {maxAttempts} ∪ {k | 1 ≤ k ∧ ends (k - 1)}

variable {left k : Nat} {ends : Nat → Prop}

theorem pos_of_mem_lastAttempts (h : k ∈ lastAttempts (left + 1) ends) : 1 ≤ k := by
  rcases h with rfl | hk
  · exact Nat.le_add_left 1 left
  · exact hk.1

/-- The first attempt ends the matter, or is the only one. -/
theorem isLeast_lastAttempts_one (h : left = 0 ∨ ends 0) :
    IsLeast (lastAttempts (left + 1) ends) 1 := by
  refine ⟨?_, fun _ => pos_of_mem_lastAttempts⟩
  rcases h with rfl | h
  · exact .inl rfl
  · exact .inr ⟨le_rfl, h⟩

/-- If the first attempt does not end the matter, the rest of them decides. -/
theorem isLeast_lastAttempts_succ (hfirst : ¬ends 0)
    (hk : IsLeast (lastAttempts (left + 1) fun n => ends (n + 1)) k) :
    IsLeast (lastAttempts (left + 2) ends) (k + 1) := by
  have hshift (n : Nat) : n + 2 ∈ lastAttempts (left + 2) ends ↔
      n + 1 ∈ lastAttempts (left + 1) fun n => ends (n + 1) := by
    simp [lastAttempts]
  obtain ⟨n, rfl⟩ := Nat.exists_eq_add_of_le' (pos_of_mem_lastAttempts hk.1)
  refine ⟨(hshift n).mpr hk.1, fun j hj => ?_⟩
  match j with
  | 0 => simp [lastAttempts] at hj
  | 1 => simp [lastAttempts, hfirst] at hj
  | m + 2 => exact Nat.succ_le_succ (hk.2 ((hshift m).mp hj))

/-- No attempt before the last one ends the matter. -/
theorem not_ends_of_lt (hk : IsLeast (lastAttempts (left + 1) ends) k) {n : Nat}
    (hn : n + 1 < k) : ¬ends n := fun h =>
  absurd (hk.2 (.inr ⟨Nat.le_add_left 1 n, h⟩)) (not_le.mpr hn)

end BrandBlitz.Lib

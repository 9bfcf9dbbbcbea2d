import BrandBlitz.Lib.ExpiringKeys

/-!
# BrandBlitz.Lib.Counters

**Counters that expire**: the part of a shared store behind `INCR key` and `EXPIRE key seconds`. A
counter that is not there counts as zero and is created by its first `INCR`, which gives it no end;
from an `EXPIRE` on it ends.
-/

namespace BrandBlitz.Lib

/-- A counter, and the last instant at which it is there, in milliseconds. -/
structure Counter where
  value : Nat
  last : Option Nat
deriving DecidableEq, Repr

abbrev Counters (K : Type) := K → Option Counter

namespace Counters

variable {K : Type} [DecidableEq K] (counters : Counters K) (now : Nat) (k : K)

/-- The counter, if it has not run out. -/
def live : Option Counter := (counters k).filter fun counter => counter.last.all (now ≤ ·)

/-- `GET`, where nothing is zero. -/
def value : Nat := (counters.live now k).elim 0 (·.value)

/-- `INCR`, which keeps the end of a counter that is there. -/
def incr : Counters K :=
  Function.update counters k
    (some ⟨counters.value now k + 1, (counters.live now k).bind (·.last)⟩)

def expire (seconds : Nat) : Counters K :=
  match counters.live now k with
  | none => counters
  | some counter =>
    Function.update counters k (some { counter with last := some (now + 1000 * seconds) })

/-- `TTL`, in seconds. -/
def ttl : Int :=
  match counters.live now k with
  | none => -2
  | some counter => counter.last.elim (-1) fun last => (last - now : Int) / 1000

variable {counters now k} {k' : K} {counter : Counter} {seconds t : Nat}

omit [DecidableEq K] in
theorem live_eq_some_iff : counters.live now k = some counter ↔
    counters k = some counter ∧ ∀ last, counter.last = some last → now ≤ last := by
  rw [live, Option.filter_eq_some_iff]
  refine and_congr_right fun _ => ?_
  cases counter.last <;> simp

omit [DecidableEq K] in
theorem value_of_live (h : counters.live now k = some counter) :
    counters.value now k = counter.value := by
  rw [value, h]
  rfl

omit [DecidableEq K] in
/-- What is there now was there before. -/
theorem live_earlier (h : counters.live t k = some counter) (hle : now ≤ t) :
    counters.live now k = some counter := by
  rw [live_eq_some_iff] at h ⊢
  exact ⟨h.1, fun last hlast => Nat.le_trans hle (h.2 last hlast)⟩

omit [DecidableEq K] in
/-- Time only takes counters away. -/
theorem value_later_le (hle : now ≤ t) : counters.value t k ≤ counters.value now k := by
  cases h : counters.live t k with
  | none => rw [value, h]; exact Nat.zero_le _
  | some counter =>
      exact Nat.le_of_eq ((value_of_live h).trans (value_of_live (live_earlier h hle)).symm)

theorem live_incr_self : (counters.incr now k).live now k =
    some ⟨counters.value now k + 1, (counters.live now k).bind (·.last)⟩ := by
  rw [live_eq_some_iff, incr, Function.update_self]
  refine ⟨rfl, fun last hlast => ?_⟩
  obtain ⟨counter, hlive, hend⟩ := Option.bind_eq_some_iff.mp hlast
  exact (live_eq_some_iff.mp hlive).2 last hend

theorem live_incr_of_ne (h : k' ≠ k) :
    (counters.incr now k).live now k' = counters.live now k' := by
  rw [live, live, incr, Function.update_of_ne h]

@[simp] theorem value_incr_self : (counters.incr now k).value now k = counters.value now k + 1 :=
  value_of_live live_incr_self

theorem value_incr_of_ne (h : k' ≠ k) :
    (counters.incr now k).value now k' = counters.value now k' := by
  rw [value, value, live_incr_of_ne h]

theorem live_expire_self (h : counters.live now k = some counter) :
    (counters.expire now k seconds).live now k =
      some { counter with last := some (now + 1000 * seconds) } := by
  rw [live_eq_some_iff, expire, h]
  dsimp only
  rw [Function.update_self]
  refine ⟨rfl, fun last hlast => ?_⟩
  rw [← Option.some.inj hlast]
  exact Nat.le_add_right _ _

theorem live_expire_of_ne (h : k' ≠ k) :
    (counters.expire now k seconds).live now k' = counters.live now k' := by
  unfold expire
  split
  · rfl
  · rw [live, live, Function.update_of_ne h]

@[simp] theorem value_expire : (counters.expire now k seconds).value now k' =
    counters.value now k' := by
  by_cases heq : k' = k
  · subst heq
    cases h : counters.live now k' with
    | none => rw [expire, h]
    | some counter => rw [value_of_live h, value_of_live (live_expire_self h)]
  · rw [value, value, live_expire_of_ne heq]

end Counters

end BrandBlitz.Lib

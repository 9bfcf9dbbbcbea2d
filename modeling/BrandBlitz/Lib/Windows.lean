import Mathlib.Algebra.Order.Group.Defs
import Mathlib.Data.List.Basic
import Mathlib.Order.Interval.Set.Defs

/-!
# BrandBlitz.Lib.Windows

**How many events a time window can contain.** The events of a history are listed newest first,
each with its time. Some of them are resets.

A limit can be imposed on each event as it comes: what came within the last `width`, and after
the last reset, is counted (`recent`). `length_window_le` says what that is worth: no window of
that width without a reset contains more, wherever it starts.

Where events are not listed in the order of their times, what has to be counted is everything that
is not older than the width, later events included (`length_narrow_append_le`).
-/

namespace BrandBlitz.Lib.Windows

variable {α : Type} (time : α → Nat) (resets : α → Bool) (width : Nat)

/-- The events within the last `width` since the last reset. -/
def recent (now : Nat) (events : List α) : List α :=
  (events.takeWhile fun e => !resets e).filter fun e => now < time e + width

/-- The events of the window that begins at `start`. -/
def window (start : Nat) (events : List α) : List α :=
  events.filter fun e => start ≤ time e && time e < start + width

/-- No event came when more than `limit` were recent, with itself. -/
def Limited (limit : Nat) : List α → Prop
  | [] => True
  | e :: events =>
    (resets e = false → (recent time resets width (time e) (e :: events)).length ≤ limit) ∧
      Limited limit events

/-- The newest event comes first. -/
abbrev Sorted (events : List α) : Prop := events.Pairwise fun e e' => time e' ≤ time e

variable {time resets width} {now now' start limit : Nat} {e : α} {events : List α}

theorem recent_cons_of_resets (h : resets e = true) :
    recent time resets width now (e :: events) = [] := by
  simp [recent, h]

theorem length_recent_cons_le :
    (recent time resets width now (e :: events)).length ≤
      (recent time resets width now events).length + 1 := by
  cases hresets : resets e with
  | true =>
      rw [recent_cons_of_resets hresets]
      exact Nat.zero_le _
  | false =>
      rw [recent, List.takeWhile_cons_of_pos (by simp [hresets]), List.filter_cons]
      split
      · exact Nat.le_refl _
      · exact Nat.le_succ _

/-- Events only get older. -/
theorem length_recent_le (h : now ≤ now') :
    (recent time resets width now' events).length ≤
      (recent time resets width now events).length := by
  refine (List.monotone_filter_right _ fun e he => ?_).length_le
  rw [decide_eq_true_eq] at he ⊢
  exact Nat.lt_of_le_of_lt h he

/-- What is in a window that is not over is recent. -/
theorem length_window_le_recent (hsorted : Sorted time events)
    (hbefore : ∀ e ∈ events, time e < start + width) (hnow : now < start + width)
    (hnone : ∀ e ∈ window time width start events, resets e = false) :
    (window time width start events).length ≤ (recent time resets width now events).length := by
  induction events with
  | nil => exact Nat.le_refl _
  | cons e events ih =>
      obtain ⟨hlater, hsorted⟩ := List.pairwise_cons.mp hsorted
      by_cases hstart : start ≤ time e
      · have hin : (start ≤ time e && time e < start + width) = true := by
          simp [hstart, hbefore e List.mem_cons_self]
        rw [window, List.filter_cons, if_pos hin] at hnone ⊢
        have hresets := hnone e List.mem_cons_self
        rw [recent, List.takeWhile_cons_of_pos (by simp [hresets]), List.filter_cons,
          if_pos (by simp; omega)]
        exact Nat.succ_le_succ (ih hsorted (fun e' he' => hbefore e' (List.mem_cons_of_mem _ he'))
          fun e' he' => hnone e' (List.mem_cons_of_mem _ he'))
      · -- the others are older still
        have hempty : window time width start (e :: events) = [] := by
          refine List.filter_eq_nil_iff.mpr fun e' he' => ?_
          have hle : time e' ≤ time e := by
            rcases List.mem_cons.mp he' with rfl | he'
            · exact Nat.le_refl _
            · exact hlater e' he'
          simp
          omega
        rw [hempty]
        exact Nat.zero_le _

/-- **A limit on what is recent is a limit for every window without a reset.** -/
theorem length_window_le (h : Limited time resets width limit events)
    (hsorted : Sorted time events)
    (hnone : ∀ e ∈ window time width start events, resets e = false) :
    (window time width start events).length ≤ limit := by
  induction events with
  | nil => exact Nat.zero_le _
  | cons e events ih =>
      obtain ⟨hlater, hsorted'⟩ := List.pairwise_cons.mp hsorted
      by_cases hin : (start ≤ time e && time e < start + width) = true
      · have hmem : e ∈ window time width start (e :: events) :=
          List.mem_filter.mpr ⟨List.mem_cons_self, hin⟩
        rw [Bool.and_eq_true, decide_eq_true_eq, decide_eq_true_eq] at hin
        refine Nat.le_trans (length_window_le_recent hsorted (fun e' he' => ?_) hin.2 hnone)
          (h.1 (hnone e hmem))
        rcases List.mem_cons.mp he' with rfl | he'
        · exact hin.2
        · exact Nat.lt_of_le_of_lt (hlater e' he') hin.2
      · rw [window, List.filter_cons, if_neg hin] at hnone ⊢
        exact ih h.2 hsorted' hnone

/-! ### Events out of order -/

section OutOfOrder

variable {τ : Type} [AddCommGroup τ] [LinearOrder τ]

/-- No two times of `W` are `width` apart. -/
def Narrow (width : τ) (W : τ → Prop) : Prop := ∀ s t, W s → W t → s - width < t

section

variable [IsOrderedAddMonoid τ]

theorem narrow_Ico (width start : τ) : Narrow width (· ∈ Set.Ico start (start + width)) :=
  fun _ _ hs ht => lt_of_lt_of_le (sub_lt_iff_lt_add.mpr hs.2) ht.1

theorem narrow_Ioc (width start : τ) : Narrow width (· ∈ Set.Ioc start (start + width)) :=
  fun _ _ hs ht => lt_of_le_of_lt (sub_le_iff_le_add.mpr hs.2) ht.1

end

variable {time : α → τ} {width : τ} {W : τ → Prop} [DecidablePred W] {limit : Nat} {e : α}
  {events : List α}

/-- **One more event.** If fewer than `limit` events are not older than the width, none of the
windows contains more than `limit` with the new event, whenever it took place. -/
theorem length_narrow_append_le (hW : Narrow width W)
    (h : (events.filter fun e => W (time e)).length ≤ limit)
    (hroom : (events.filter fun e' => time e - width < time e').length < limit) :
    ((events ++ [e]).filter fun e => W (time e)).length ≤ limit := by
  rw [List.filter_append, List.length_append]
  by_cases hin : W (time e)
  · have hsub : (events.filter fun e' => W (time e')).length ≤
        (events.filter fun e' => time e - width < time e').length := by
      refine (List.monotone_filter_right _ fun e' he' => ?_).length_le
      exact decide_eq_true (hW _ _ hin (of_decide_eq_true he'))
    rw [List.filter_singleton, decide_eq_true hin, cond_true, List.length_singleton]
    exact Nat.succ_le_of_lt (Nat.lt_of_le_of_lt hsub hroom)
  · rw [List.filter_singleton, decide_eq_false hin, cond_false]
    exact h

end OutOfOrder

end BrandBlitz.Lib.Windows

import Mathlib.Algebra.GroupWithZero.Nat
import Mathlib.Data.List.Dedup
import Mathlib.Tactic.Common

/-!
# BrandBlitz.Lib.Joins

**Joins and groups.** A left join keeps every row of the left table, once for each match or
once with nothing. Counted by groups, the matches of all groups together are the matches of the
join (`sum_countP_groupKeys`), and those are the matches of each row on the left
(`countP_leftJoin`): a row on the right counts once for every row on the left that it matches.
-/

namespace BrandBlitz.Lib.Joins

variable {α β κ : Type}

/-- `left LEFT JOIN right ON …`. -/
def leftJoin (on : α → β → Bool) (left : List α) (right : List β) : List (α × Option β) :=
  left.flatMap fun a =>
    match right.filter (on a) with
    | [] => [(a, none)]
    | found => found.map fun b => (a, some b)

variable {on : α → β → Bool} {left : List α} {right : List β}

/-- The rows of the left table, and no others. -/
theorem mem_left_iff {a : α} : a ∈ left ↔ ∃ b, (a, b) ∈ leftJoin on left right := by
  simp only [leftJoin, List.mem_flatMap]
  constructor
  · intro ha
    cases hfound : right.filter (on a) with
    | nil => exact ⟨none, a, ha, by simp [hfound]⟩
    | cons b found => exact ⟨some b, a, ha, by simp [hfound]⟩
  · intro h
    obtain ⟨b, a', ha', hmem⟩ := h
    split at hmem
    · simp only [List.mem_singleton, Prod.mk.injEq] at hmem
      rwa [hmem.1]
    · obtain ⟨b', -, heq⟩ := List.mem_map.mp hmem
      rwa [← (Prod.mk.inj heq).1]

/-- A row on the left has the matches that it has on its own. -/
theorem countP_join_row (a : α) (p : β → Bool) :
    (leftJoin on [a] right).countP (fun row => row.2.any p) =
      right.countP fun b => on a b && p b := by
  have hmatches : (right.filter (on a)).countP p = right.countP fun b => on a b && p b := by
    rw [List.countP_filter]
    exact List.countP_congr fun b _ => by simp [and_comm]
  rw [← hmatches]
  simp only [leftJoin, List.flatMap_singleton]
  cases right.filter (on a) with
  | nil => rfl
  | cons b found => simp [List.countP_map, Function.comp_def, List.countP_cons]

/-- **The matches of a join are those of its rows.** -/
theorem countP_leftJoin (keep : α → Bool) (p : β → Bool) :
    (leftJoin on left right).countP (fun row => keep row.1 && row.2.any p) =
      ((left.filter keep).map fun a => right.countP fun b => on a b && p b).sum := by
  induction left with
  | nil => rfl
  | cons a left ih =>
      have hsplit : leftJoin on (a :: left) right =
          leftJoin on [a] right ++ leftJoin on left right := by simp [leftJoin]
      have hfst : ∀ row ∈ leftJoin on [a] right, row.1 = a := by
        intro row hrow
        have hmem : row.1 ∈ [a] := mem_left_iff.mpr ⟨row.2, hrow⟩
        exact List.mem_singleton.mp hmem
      rw [hsplit, List.countP_append, ih]
      cases hkeep : keep a with
      | true =>
          rw [List.filter_cons_of_pos hkeep, List.map_cons, List.sum_cons, ← countP_join_row]
          congr 1
          exact List.countP_congr fun row hrow => by simp [hfst row hrow, hkeep]
      | false =>
          rw [List.filter_cons_of_neg (by simp [hkeep])]
          have hnone : (leftJoin on [a] right).countP (fun row => keep row.1 && row.2.any p) = 0 :=
            List.countP_eq_zero.mpr fun row hrow => by simp [hfst row hrow, hkeep]
          rw [hnone, Nat.zero_add]

/-! ### Groups -/

variable [DecidableEq κ] {key : α → κ} {rows : List α}

/-- `GROUP BY`: the key of each group. -/
def groupKeys (key : α → κ) (rows : List α) : List κ := (rows.map key).dedup

@[simp] theorem mem_groupKeys {k : κ} : k ∈ groupKeys key rows ↔ ∃ row ∈ rows, key row = k := by
  simp [groupKeys]

theorem nodup_groupKeys : (groupKeys key rows).Nodup := List.nodup_dedup _

/-- Counted by different keys, each row counts once. -/
theorem sum_countP_keys {keys : List κ} (hkeys : keys.Nodup) (p : α → Bool) :
    (keys.map fun k => rows.countP fun row => key row = k && p row).sum =
      rows.countP fun row => key row ∈ keys && p row := by
  induction hkeys with
  | nil => simp
  | @cons k keys hk _ ih =>
      rw [List.map_cons, List.sum_cons, ih,
        List.countP_eq_countP_filter_add rows (fun row => key row ∈ k :: keys && p row)
          fun row => decide (key row = k), List.countP_filter, List.countP_filter]
      congr 1
      · exact List.countP_congr fun row _ => by simp +contextual [and_comm]
      · refine List.countP_congr fun row _ => ?_
        have hne : key row ∈ keys → key row ≠ k := fun hmem heq => hk _ hmem heq.symm
        simp only [List.mem_cons, Bool.and_eq_true, decide_eq_true_eq, Bool.not_eq_true',
          decide_eq_false_iff_not]
        constructor
        · intro h
          exact ⟨⟨.inr h.1, h.2⟩, hne h.1⟩
        · intro h
          exact ⟨h.1.1.resolve_left h.2, h.1.2⟩

/-- **Counted by groups, each row counts once.** -/
theorem sum_countP_groupKeys (keep : κ → Bool) (p : α → Bool) :
    (((groupKeys key rows).filter keep).map fun k =>
        rows.countP fun row => key row = k && p row).sum =
      rows.countP fun row => keep (key row) && p row := by
  rw [sum_countP_keys (nodup_groupKeys.filter keep)]
  refine List.countP_congr fun row hrow => ?_
  have hmem : key row ∈ groupKeys key rows := mem_groupKeys.mpr ⟨row, hrow, rfl⟩
  simp [hmem]

end BrandBlitz.Lib.Joins

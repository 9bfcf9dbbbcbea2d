import Mathlib.Data.Int.ConditionallyCompleteOrder
import Mathlib.Data.List.Sort
import Mathlib.Data.Nat.Digits.Defs
import Mathlib.Data.Prod.Lex
import Mathlib.Data.Rat.Floor
import Mathlib.Data.Set.Function
import Mathlib.Order.Interval.Set.Defs
import Mathlib.Order.WithBot
import Mathlib.Data.Option.NAry

/-!
# BrandBlitz.Lib.Sql

**A fragment of SQL queries.**

* Conditions are three-valued: a comparison with `NULL` is neither true nor false, and
  `WHERE` keeps the rows for which the condition is true (`holds`).
* `ORDER BY` is given by a sort key in a linear order, a lexicographic product for several
  columns. Where no two rows have the same key, the result does not depend on the order in
  which the rows are stored, and a condition commutes with sorting (`orderBy_filter`).
* The type `numeric` is exact in sums and products. A quotient is rounded to a scale that
  leaves at least sixteen significant digits, and a half is rounded away from zero.
-/

namespace BrandBlitz.Lib.Sql

/-! ### Three-valued conditions -/

/-- The value of a condition, `none` for `NULL`. -/
abbrev Cond := Option Bool

/-- Is the condition true? -/
def holds (c : Cond) : Bool := c == some true

/-- `a AND b`. -/
def and : Cond → Cond → Cond
  | some false, _ => some false
  | _, some false => some false
  | some true, some true => some true
  | _, _ => none

/-- `a OR b`. -/
def or : Cond → Cond → Cond
  | some true, _ => some true
  | _, some true => some true
  | some false, some false => some false
  | _, _ => none

variable {α β γ : Type}

/-- A comparison of two values that may be `NULL`. -/
def compare (r : α → β → Prop) [DecidableRel r] (a : Option α) (b : Option β) : Cond :=
  Option.map₂ (fun a b => decide (r a b)) a b

/-- `a < b`. -/
def lt [LT α] [DecidableLT α] (a b : Option α) : Cond := compare (· < ·) a b

/-- `a > b`. -/
def gt [LT α] [DecidableLT α] (a b : Option α) : Cond := compare (· > ·) a b

/-- `a >= b`. -/
def ge [LE α] [DecidableLE α] (a b : Option α) : Cond := compare (· ≥ ·) a b

/-- `a = b`. -/
def eq [DecidableEq α] (a b : Option α) : Cond := compare (· = ·) a b

/-- `(a, c) < (b, d)`. -/
def rowLt [LT α] [DecidableLT α] [DecidableEq α] [LT γ] [DecidableLT γ] (a b : Option α)
    (c d : Option γ) : Cond :=
  or (lt a b) (and (eq a b) (lt c d))

/-- `a IS NULL`. -/
def isNull (a : Option α) : Cond := some a.isNone

/-- `a IS NOT NULL`. -/
def isNotNull (a : Option α) : Cond := some a.isSome

@[simp] theorem holds_some (b : Bool) : holds (some b) = b := by cases b <;> rfl

@[simp] theorem holds_and (a b : Cond) : holds (and a b) = (holds a && holds b) := by
  rcases a with _ | _ | _ <;> rcases b with _ | _ | _ <;> rfl

@[simp] theorem holds_or (a b : Cond) : holds (or a b) = (holds a || holds b) := by
  rcases a with _ | _ | _ <;> rcases b with _ | _ | _ <;> rfl

theorem holds_compare (r : α → β → Prop) [DecidableRel r] (a : Option α) (b : Option β) :
    holds (compare r a b) = true ↔ ∃ x y, a = some x ∧ b = some y ∧ r x y := by
  cases a <;> cases b <;> simp [compare, holds]

@[simp] theorem holds_lt [LT α] [DecidableLT α] (a b : Option α) :
    holds (lt a b) = true ↔ ∃ x y, a = some x ∧ b = some y ∧ x < y :=
  holds_compare _ a b

@[simp] theorem holds_gt [LT α] [DecidableLT α] (a b : Option α) :
    holds (gt a b) = true ↔ ∃ x y, a = some x ∧ b = some y ∧ y < x :=
  holds_compare _ a b

@[simp] theorem holds_eq [DecidableEq α] (a b : Option α) :
    holds (eq a b) = true ↔ ∃ x, a = some x ∧ b = some x := by
  refine (holds_compare _ a b).trans ⟨?_, ?_⟩
  · rintro ⟨x, y, hx, hy, rfl⟩
    exact ⟨x, hx, hy⟩
  · rintro ⟨x, hx, hy⟩
    exact ⟨x, x, hx, hy, rfl⟩

theorem holds_compare_some (r : α → β → Prop) [DecidableRel r] (x : α) (y : β) :
    holds (compare r (some x) (some y)) = true ↔ r x y := by
  simp [compare, holds]

theorem holds_lt_some [LT α] [DecidableLT α] (x y : α) :
    holds (lt (some x) (some y)) = true ↔ x < y :=
  holds_compare_some _ x y

theorem holds_gt_some [LT α] [DecidableLT α] (x y : α) :
    holds (gt (some x) (some y)) = true ↔ y < x :=
  holds_compare_some _ x y

theorem holds_eq_some [DecidableEq α] (x y : α) :
    holds (eq (some x) (some y)) = true ↔ x = y :=
  holds_compare_some _ x y

theorem holds_rowLt_some [LT α] [DecidableLT α] [DecidableEq α] [LT γ] [DecidableLT γ] (x y : α)
    (z w : γ) :
    holds (rowLt (some x) (some y) (some z) (some w)) = true ↔ x < y ∨ x = y ∧ z < w := by
  rw [rowLt, holds_or, holds_and, Bool.or_eq_true, Bool.and_eq_true, holds_lt_some, holds_eq_some,
    holds_lt_some]

@[simp] theorem holds_isNull (a : Option α) : holds (isNull a) = a.isNone := holds_some _

@[simp] theorem holds_isNotNull (a : Option α) : holds (isNotNull a) = a.isSome := holds_some _

/-- Conditions joined by `AND`. -/
theorem holds_conjunction (tests : List (α → Cond)) (c : Cond) (row : α) :
    holds (tests.foldr (fun test => and (test row)) c) =
      (tests.all (fun test => holds (test row)) && holds c) := by
  induction tests with
  | nil => rfl
  | cons test tests ih => rw [List.foldr_cons, holds_and, ih, List.all_cons, Bool.and_assoc]

/-! ### Queries -/

/-- `ORDER BY`: the rows by rising key. -/
def orderBy [LinearOrder γ] (key : α → γ) (rows : List α) : List α :=
  rows.insertionSort fun a b => key a ≤ key b

/-- Where `NULLS LAST` puts a value; that is the default of an ascending order. -/
def nullsLast : Option α → WithTop α
  | some a => a
  | none => ⊤

@[simp] theorem nullsLast_inj {a b : Option α} : nullsLast a = nullsLast b ↔ a = b := by
  cases a <;> cases b <;> simp [nullsLast]

@[simp] theorem nullsLast_lt_some [Preorder α] {a : Option α} {y : α} :
    nullsLast a < nullsLast (some y) ↔ ∃ x, a = some x ∧ x < y := by
  cases a <;> simp [nullsLast]

/-- No two rows have the same key. -/
def KeyUnique (key : α → γ) (rows : List α) : Prop := (rows.map key).Nodup

theorem KeyUnique.filter {key : α → γ} {rows : List α} (h : KeyUnique key rows)
    (keep : α → Bool) : KeyUnique key (rows.filter keep) :=
  h.sublist (List.filter_sublist.map key)

/-- A key that tells apart what a unique column tells apart is unique. -/
theorem KeyUnique.of_column {key : α → γ} {rows : List α} (column : γ → β)
    (h : (rows.map fun row => column (key row)).Nodup) : KeyUnique key rows := by
  have hmap : ((rows.map key).map column).Nodup := by rwa [List.map_map]
  exact hmap.of_map column

section
variable [LinearOrder γ] {key : α → γ} {rows : List α}

theorem orderBy_perm (key : α → γ) (rows : List α) : (orderBy key rows).Perm rows :=
  List.perm_insertionSort _ rows

theorem orderBy_pairwise_le (key : α → γ) (rows : List α) :
    (orderBy key rows).Pairwise fun a b => key a ≤ key b := by
  have : Std.Total fun a b => key a ≤ key b := ⟨fun a b => le_total (key a) (key b)⟩
  have : IsTrans α fun a b => key a ≤ key b := ⟨fun _ _ _ => le_trans⟩
  exact List.pairwise_insertionSort _ rows

theorem KeyUnique.orderBy (h : KeyUnique key rows) : KeyUnique key (orderBy key rows) :=
  ((orderBy_perm key rows).map key).nodup_iff.mpr h

/-- Sorted by a key that no two rows share, the rows rise strictly. -/
theorem orderBy_pairwise_lt (h : KeyUnique key rows) :
    (orderBy key rows).Pairwise fun a b => key a < key b := by
  have hne : (Sql.orderBy key rows).Pairwise fun a b => key a ≠ key b :=
    List.pairwise_map.mp h.orderBy
  exact ((orderBy_pairwise_le key rows).and hne).imp fun hab => lt_of_le_of_ne hab.1 hab.2

theorem KeyUnique.orderBy_nodup (h : KeyUnique key rows) : (Sql.orderBy key rows).Nodup :=
  h.orderBy.of_map key

theorem eq_of_pairwise_lt {l l' : List α} (hl : l.Pairwise fun a b => key a < key b)
    (hl' : l'.Pairwise fun a b => key a < key b) (hperm : l.Perm l') : l = l' :=
  hperm.eq_of_pairwise (fun _ _ _ _ hab hba => absurd hab hba.asymm) hl hl'

/-- A condition may be tested before or after sorting. -/
theorem orderBy_filter (h : KeyUnique key rows) (keep : α → Bool) :
    orderBy key (rows.filter keep) = (orderBy key rows).filter keep :=
  eq_of_pairwise_lt (orderBy_pairwise_lt (h.filter keep))
    ((orderBy_pairwise_lt h).sublist List.filter_sublist)
    ((orderBy_perm key _).trans ((orderBy_perm key rows).symm.filter keep))

end

/-- `ROW_NUMBER() OVER (ORDER BY …)` of a row. -/
def rowNumber [LinearOrder γ] [BEq α] (key : α → γ) (rows : List α) (row : α) : Nat :=
  (orderBy key rows).idxOf row + 1

section
variable [LinearOrder γ] [BEq α] [LawfulBEq α] {key : α → γ} {rows : List α}

theorem rowNumber_inj {a b : α} (ha : a ∈ rows)
    (h : rowNumber key rows a = rowNumber key rows b) : a = b := by
  have hidx : (orderBy key rows).idxOf a = (orderBy key rows).idxOf b := Nat.succ.inj h
  exact (List.idxOf_inj ((orderBy_perm key rows).mem_iff.mpr ha)).mp hidx

/-- Numbers rise as keys do. -/
theorem rowNumber_lt_iff (h : KeyUnique key rows) {a b : α} (ha : a ∈ rows) (hb : b ∈ rows) :
    rowNumber key rows a < rowNumber key rows b ↔ key a < key b := by
  have hkey {c d : α} (hc : c ∈ rows) (hd : d ∈ rows)
      (hnumber : rowNumber key rows c < rowNumber key rows d) : key c < key d := by
    have hidxc := List.idxOf_lt_length_of_mem ((orderBy_perm key rows).mem_iff.mpr hc)
    have hidxd := List.idxOf_lt_length_of_mem ((orderBy_perm key rows).mem_iff.mpr hd)
    have hlt := List.pairwise_iff_getElem.mp (orderBy_pairwise_lt h) _ _ hidxc hidxd
      (Nat.lt_of_succ_lt_succ hnumber)
    rwa [List.getElem_idxOf, List.getElem_idxOf] at hlt
  constructor
  · exact hkey ha hb
  · intro hlt
    rcases lt_trichotomy (rowNumber key rows a) (rowNumber key rows b) with
      hnumber | hnumber | hnumber
    · exact hnumber
    · rw [rowNumber_inj ha hnumber] at hlt
      exact absurd hlt (lt_irrefl _)
    · exact absurd (hkey hb ha hnumber) hlt.asymm

/-- The numbers are those from 1 on, each for one row. -/
theorem rowNumber_bijOn (h : KeyUnique key rows) :
    Set.BijOn (rowNumber key rows) {a | a ∈ rows} (Set.Icc 1 rows.length) := by
  have hlength : (orderBy key rows).length = rows.length := (orderBy_perm key rows).length_eq
  refine ⟨?_, ?_, ?_⟩
  · intro a ha
    have hidx := List.idxOf_lt_length_of_mem ((orderBy_perm key rows).mem_iff.mpr ha)
    exact ⟨Nat.succ_pos _, by rw [rowNumber]; omega⟩
  · intro a ha b _ hab
    exact rowNumber_inj ha hab
  · intro number hnumber
    obtain ⟨hpos, hle⟩ := hnumber
    have hidx : number - 1 < (orderBy key rows).length := by omega
    refine ⟨(orderBy key rows)[number - 1],
      (orderBy_perm key rows).mem_iff.mp (List.getElem_mem hidx), ?_⟩
    rw [rowNumber, h.orderBy_nodup.idxOf_getElem]
    omega

/-- As many rows as there are numbers in a range have one of them. -/
theorem length_le_of_rowNumber {part : List α} (hnodup : part.Nodup)
    (hmem : ∀ a ∈ part, a ∈ rows) {first n : Nat}
    (hrange : ∀ a ∈ part, first ≤ rowNumber key rows a ∧ rowNumber key rows a < first + n) :
    part.length ≤ n := by
  have hnumbers : (part.map (rowNumber key rows)).Nodup :=
    hnodup.map_on fun a ha b _ h => rowNumber_inj (hmem a ha) h
  have hsubset : part.map (rowNumber key rows) ⊆ List.range' first n := by
    intro number hnumber
    obtain ⟨a, ha, rfl⟩ := List.mem_map.mp hnumber
    exact List.mem_range'_1.mpr (hrange a ha)
  have hle := (List.subperm_of_subset hnumbers hsubset).length_le
  rwa [List.length_map, List.length_range'] at hle

end

/-! ### Joins and aggregates -/

/-- Joined to at most one row each, the rows of a table stand for themselves at most once. -/
theorem join_sublist {join : α → Option β} {row : β → α} (h : ∀ a b, join a = some b → row b = a)
    (rows : List α) : ((rows.filterMap join).map row).Sublist rows := by
  induction rows with
  | nil => exact List.Sublist.refl _
  | cons a rows ih =>
      cases hjoin : join a with
      | none =>
          rw [List.filterMap_cons_none hjoin]
          exact ih.cons a
      | some b =>
          rw [List.filterMap_cons_some hjoin, List.map_cons, h a b hjoin]
          exact ih.cons_cons a

/-- Rows that the condition drops after the join need not be joined. -/
theorem filter_join {join : α → Option β} {condition : β → Bool} (keep : α → Bool)
    (h : ∀ a b, join a = some b → condition b = true → keep a = true) (rows : List α) :
    (rows.filterMap join).filter condition =
      ((rows.filter keep).filterMap join).filter condition := by
  induction rows with
  | nil => rfl
  | cons a rows ih =>
      by_cases hkeep : keep a = true
      · rw [List.filter_cons_of_pos hkeep]
        cases hjoin : join a with
        | none => rw [List.filterMap_cons_none hjoin, List.filterMap_cons_none hjoin, ih]
        | some b =>
            rw [List.filterMap_cons_some hjoin, List.filterMap_cons_some hjoin,
              List.filter_cons, List.filter_cons, ih]
      · rw [List.filter_cons_of_neg hkeep]
        cases hjoin : join a with
        | none => rw [List.filterMap_cons_none hjoin, ih]
        | some b =>
            rw [List.filterMap_cons_some hjoin,
              List.filter_cons_of_neg fun hb => hkeep (h a b hjoin hb), ih]

/-- `COALESCE(MAX(value), 0)`. -/
def maxOrZero (values : List Int) : Int := values.max?.getD 0

theorem maxOrZero_cons {v : Int} (hv : 0 ≤ v) (values : List Int) :
    maxOrZero (v :: values) = max v (maxOrZero values) := by
  unfold maxOrZero
  rw [List.max?_cons]
  cases values.max? with
  | none => exact (max_eq_left hv).symm
  | some w => rfl

theorem maxOrZero_nonneg {values : List Int} (h : ∀ v ∈ values, 0 ≤ v) : 0 ≤ maxOrZero values := by
  cases values with
  | nil => exact le_rfl
  | cons v values =>
      rw [maxOrZero_cons (h v List.mem_cons_self)]
      exact le_max_of_le_left (h v List.mem_cons_self)

/-- Rows without a value do not count for the largest one. -/
theorem maxOrZero_filter {value : α → Int} {keep : α → Bool} {rows : List α}
    (hvalue : ∀ a ∈ rows, 0 ≤ value a) (hzero : ∀ a ∈ rows, keep a = false → value a = 0) :
    maxOrZero ((rows.filter keep).map value) = maxOrZero (rows.map value) := by
  induction rows with
  | nil => rfl
  | cons a rows ih =>
      have hrows : ∀ b ∈ rows, 0 ≤ value b := fun b hb => hvalue b (List.mem_cons_of_mem a hb)
      have ih := ih hrows fun b hb => hzero b (List.mem_cons_of_mem a hb)
      rw [List.map_cons, maxOrZero_cons (hvalue a List.mem_cons_self), ← ih]
      cases hkeep : keep a with
      | true =>
          rw [List.filter_cons_of_pos hkeep, List.map_cons,
            maxOrZero_cons (hvalue a List.mem_cons_self)]
      | false =>
          rw [List.filter_cons_of_neg (by simp [hkeep]), hzero a List.mem_cons_self hkeep]
          refine (max_eq_right (maxOrZero_nonneg ?_)).symm
          intro v hv
          obtain ⟨b, hb, rfl⟩ := List.mem_map.mp hv
          exact hrows b (List.mem_filter.mp hb).1

/-! ### Numbers -/

/-- `ROUND(x)`. -/
def round (x : ℚ) : Int := if 0 ≤ x then (x + 1 / 2).floor else -(-x + 1 / 2).floor

/-- `ROUND(x, scale)`. -/
def roundTo (scale : Nat) (x : ℚ) : ℚ := round (x * 10 ^ scale) / 10 ^ scale

/-- The digits of a `numeric`, to the base 10000 and the last one first. -/
def numericDigits (n : Int) : List Nat := Nat.digits 10000 n.natAbs

/-- How many decimals a quotient of integers keeps: the digits before the point are estimated
from the first digits. -/
def divScale (a b : Int) : Nat :=
  let weight (n : Int) : Nat := (numericDigits n).length - 1
  let firstDigit (n : Int) : Nat := (numericDigits n).getLast?.getD 0
  let qweight : Int := weight a - weight b - if firstDigit a ≤ firstDigit b then 1 else 0
  (16 - qweight * 4).toNat

/-- `a / b`, of two integers as `numeric`. -/
def div (a b : Int) : ℚ := roundTo (divScale a b) (a / b)

end BrandBlitz.Lib.Sql

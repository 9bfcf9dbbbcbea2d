import BrandBlitz.Lib.Sql
import Mathlib.Data.List.Nodup

/-!
# BrandBlitz.Lib.OffsetPages

**Pages by offset.** Each page of a listing is a query of its own, with `LIMIT` and `OFFSET`.

`ORDER BY` leaves the order of rows with equal keys open, and every query may choose another one
(`Sorting`). If no key is on both sides of the end of a page (`Apart`), the pages together are the
rows, whatever each query chooses (`pages_perm`). Otherwise there are choices with which a row is
on two pages (`apart_of_pages_nodup`).
-/

namespace BrandBlitz.Lib.OffsetPages

open scoped List

variable {α β γ : Type} [LinearOrder γ]

/-- A choice of `ORDER BY`: rows with equal keys come in any order. -/
structure Sorting (key : α → γ) where
  sort : List α → List α
  perm (rows : List α) : (sort rows).Perm rows
  rising (rows : List α) : (sort rows).Pairwise fun a b => key a ≤ key b

/-- The order in which the rows are stored decides. -/
def Sorting.stable (key : α → γ) : Sorting key where
  sort := Sql.orderBy key
  perm := Sql.orderBy_perm key
  rising := Sql.orderBy_pairwise_le key

/-- `LIMIT limit OFFSET offset`. -/
def limitOffset (limit offset : Nat) (sorted : List α) : List α := (sorted.drop offset).take limit

/-- The first `n` pages, each of its own order. -/
def pages (limit : Nat) (sorted : Nat → List α) (n : Nat) : List α :=
  (List.range n).flatMap fun k => limitOffset limit (k * limit) (sorted k)

/-- No key is both among the first `p` rows and among the others. -/
def Apart (key : α → γ) (rows : List α) (p : Nat) : Prop :=
  ∀ a ∈ (Sql.orderBy key rows).take p, ∀ b ∈ (Sql.orderBy key rows).drop p, key a ≠ key b

theorem pages_succ (limit : Nat) (sorted : Nat → List α) (n : Nat) :
    pages limit sorted (n + 1) =
      pages limit sorted n ++ limitOffset limit (n * limit) (sorted n) := by
  rw [pages, pages, List.range_succ, List.flatMap_append, List.flatMap_singleton]

/-- What is known of the rows through a function that the key goes through. -/
theorem apart_map (key : β → γ) (f : α → β) (rows : List α) (p : Nat) :
    Apart key (rows.map f) p ↔ Apart (fun a => key (f a)) rows p := by
  have hsort : Sql.orderBy key (rows.map f) = (Sql.orderBy (fun a => key (f a)) rows).map f :=
    (List.map_insertionSort _ _ f rows fun _ _ _ _ => Iff.rfl).symm
  simp only [Apart, hsort, ← List.map_take, ← List.map_drop, List.forall_mem_map]

/-! ### Where no key is on both sides -/

/-- A condition that holds only up to some position keeps that many rows. -/
theorem filter_eq_take {keep : α → Bool} {l : List α}
    (h : l.Pairwise fun a b => keep b = true → keep a = true) :
    l.filter keep = l.take (l.countP keep) := by
  induction h with
  | nil => rfl
  | @cons a l hhead _ ih =>
      by_cases ha : keep a = true
      · rw [List.filter_cons_of_pos ha, List.countP_cons_of_pos ha, List.take_succ_cons, ih]
      · have hnone : ∀ b ∈ l, ¬keep b = true := fun b hb hkeep => ha (hhead b hb hkeep)
        rw [List.filter_cons_of_neg ha, List.filter_eq_nil_iff.mpr hnone,
          List.countP_cons_of_neg ha, List.countP_eq_zero.mpr hnone, List.take_zero]

section
variable {key : α → γ} {rows sorted : List α} {p limit n : Nat}

/-- Every order has the same rows up to there. -/
theorem Apart.take_perm (h : Apart key rows p) (hperm : sorted.Perm rows)
    (hrising : sorted.Pairwise fun a b => key a ≤ key b) :
    (sorted.take p).Perm ((Sql.orderBy key rows).take p) := by
  have hrows : sorted.Perm (Sql.orderBy key rows) := hperm.trans (Sql.orderBy_perm key rows).symm
  cases hdrop : (Sql.orderBy key rows).drop p with
  | nil =>
      have hp : (Sql.orderBy key rows).length ≤ p := List.drop_eq_nil_iff.mp hdrop
      rwa [List.take_of_length_le hp, List.take_of_length_le (hrows.length_eq.trans_le hp)]
  | cons x rest =>
      -- the keys before that of `x` are those of the first `p` rows
      have hsplit := List.take_append_drop p (Sql.orderBy key rows)
      have hordered := Sql.orderBy_pairwise_le key rows
      rw [← hsplit, List.pairwise_append, hdrop, List.pairwise_cons] at hordered
      obtain ⟨-, ⟨hrest, -⟩, hacross⟩ := hordered
      have hbefore : ∀ a ∈ (Sql.orderBy key rows).take p, decide (key a < key x) = true := by
        intro a ha
        have hx : x ∈ (Sql.orderBy key rows).drop p := by
          rw [hdrop]
          exact List.mem_cons_self
        exact decide_eq_true (lt_of_le_of_ne (hacross a ha x List.mem_cons_self) (h a ha x hx))
      have hafter : ∀ b ∈ x :: rest, ¬decide (key b < key x) = true := by
        intro b hb
        rw [decide_eq_true_eq, not_lt]
        rcases List.mem_cons.mp hb with rfl | hb
        · exact le_rfl
        · exact hrest b hb
      have hfilter : (Sql.orderBy key rows).filter (fun a => decide (key a < key x)) =
          (Sql.orderBy key rows).take p := by
        conv_lhs => rw [← hsplit, hdrop]
        rw [List.filter_append, List.filter_eq_self.mpr hbefore, List.filter_eq_nil_iff.mpr hafter,
          List.append_nil]
      have hp : p ≤ (Sql.orderBy key rows).length := by
        have hlength := congrArg List.length hdrop
        rw [List.length_drop, List.length_cons] at hlength
        omega
      have hcount : sorted.countP (fun a => decide (key a < key x)) = p := by
        rw [hrows.countP_eq, List.countP_eq_length_filter, hfilter, List.length_take,
          Nat.min_eq_left hp]
      have hprefix : sorted.Pairwise fun a b =>
          decide (key b < key x) = true → decide (key a < key x) = true :=
        hrising.imp fun hab hb => decide_eq_true (hab.trans_lt (of_decide_eq_true hb))
      rw [← hfilter, ← hcount, ← filter_eq_take hprefix]
      exact hrows.filter _

theorem pages_perm_take (h : ∀ k, Apart key rows (k * limit)) (sorting : Nat → Sorting key) :
    (pages limit (fun k => (sorting k).sort rows) n).Perm
      ((Sql.orderBy key rows).take (n * limit)) := by
  have htake (k m : Nat) : (((sorting k).sort rows).take (m * limit)).Perm
      ((Sql.orderBy key rows).take (m * limit)) :=
    (h m).take_perm ((sorting k).perm rows) ((sorting k).rising rows)
  induction n with
  | zero => rw [Nat.zero_mul, List.take_zero]; exact List.Perm.refl _
  | succ n ih =>
      have hpage : ((sorting n).sort rows).take ((n + 1) * limit) =
          ((sorting n).sort rows).take (n * limit) ++
            limitOffset limit (n * limit) ((sorting n).sort rows) := by
        rw [Nat.succ_mul, List.take_add]
        rfl
      calc pages limit (fun k => (sorting k).sort rows) (n + 1)
          = pages limit (fun k => (sorting k).sort rows) n ++
              limitOffset limit (n * limit) ((sorting n).sort rows) := pages_succ _ _ n
        _ ~ (Sql.orderBy key rows).take (n * limit) ++
              limitOffset limit (n * limit) ((sorting n).sort rows) := ih.append_right _
        _ ~ ((sorting n).sort rows).take (n * limit) ++
              limitOffset limit (n * limit) ((sorting n).sort rows) :=
            (htake n n).symm.append_right _
        _ = ((sorting n).sort rows).take ((n + 1) * limit) := hpage.symm
        _ ~ (Sql.orderBy key rows).take ((n + 1) * limit) := htake n (n + 1)

/-- **The pages are the rows.** -/
theorem pages_perm (h : ∀ k, Apart key rows (k * limit)) (hlength : rows.length ≤ n * limit)
    (sorting : Nat → Sorting key) :
    (pages limit (fun k => (sorting k).sort rows) n).Perm rows := by
  have hpages := pages_perm_take h sorting (n := n)
  rw [List.take_of_length_le ((Sql.orderBy_perm key rows).length_eq.trans_le hlength)] at hpages
  exact hpages.trans (Sql.orderBy_perm key rows)

/-! ### Where a key is on both sides -/

/-- The page that a row is on. -/
theorem mem_limitOffset {i : Nat} {a : α} (hlimit : 0 < limit) (h : sorted[i]? = some a) :
    a ∈ limitOffset limit (i / limit * limit) sorted := by
  refine List.mem_of_getElem? (i := i % limit) ?_
  rw [limitOffset, List.getElem?_take_of_lt (Nat.mod_lt i hlimit), List.getElem?_drop,
    Nat.div_add_mod', h]

/-- Whatever is in order may be chosen. -/
theorem Sorting.exists_sort_eq (hperm : sorted.Perm rows)
    (hrising : sorted.Pairwise fun a b => key a ≤ key b) :
    ∃ sorting : Sorting key, sorting.sort rows = sorted := by
  classical
  refine ⟨⟨fun rows' => if rows' = rows then sorted else Sql.orderBy key rows', fun rows' => ?_,
    fun rows' => ?_⟩, if_pos rfl⟩
  · split
    next h => rwa [h]
    next => exact Sql.orderBy_perm key rows'
  · split
    next => exact hrising
    next => exact Sql.orderBy_pairwise_le key rows'

/-- Two rows with equal keys may come the other way round. -/
theorem rising_swap (hrising : sorted.Pairwise fun a b => key a ≤ key b) {i j : Nat}
    (hi : i < sorted.length) (hj : j < sorted.length) (hkey : key sorted[i] = key sorted[j]) :
    ((sorted.set i sorted[j]).set j sorted[i]).Pairwise fun a b => key a ≤ key b := by
  have hset (k : Nat) (hk : k < sorted.length) :
      (sorted.map key).set k (key sorted[k]) = sorted.map key := by
    rw [← List.map_set, List.set_getElem_self hk]
  have hkeys : ((sorted.set i sorted[j]).set j sorted[i]).map key = sorted.map key := by
    rw [List.map_set, List.map_set, ← hkey, hset i hi, hkey, hset j hj]
  have hmap : (((sorted.set i sorted[j]).set j sorted[i]).map key).Pairwise (· ≤ ·) := by
    rw [hkeys]
    exact List.pairwise_map.mpr hrising
  exact List.pairwise_map.mp hmap

/-- **Every order has to separate the pages.** A key on both sides lets a row be on two pages. -/
theorem apart_of_pages_nodup (hlimit : 0 < limit) (hlength : rows.length ≤ n * limit)
    (h : ∀ sorting : Nat → Sorting key, (pages limit (fun k => (sorting k).sort rows) n).Nodup)
    (k : Nat) : Apart key rows (k * limit) := by
  intro a ha b hb hkey
  have hperm := Sql.orderBy_perm key rows
  obtain ⟨i, hi, rfl⟩ := List.mem_take_iff_getElem.mp ha
  obtain ⟨m, hm, rfl⟩ := List.mem_drop_iff_getElem.mp hb
  have hik : i < k * limit := (Nat.lt_min.mp hi).1
  have hilen : i < (Sql.orderBy key rows).length := (Nat.lt_min.mp hi).2
  have hjlen : k * limit + m < (Sql.orderBy key rows).length := by omega
  -- the second row comes first, on the pages from the `k`-th on
  obtain ⟨other, hother⟩ := Sorting.exists_sort_eq ((List.set_set_perm hilen hjlen).trans hperm)
    (rising_swap (Sql.orderBy_pairwise_le key rows) hilen hjlen hkey)
  have hdisjoint := (List.nodup_flatMap.mp
    (h fun page => if page < k then Sorting.stable key else other)).2
  have hfirst : i / limit < k := Nat.div_lt_of_lt_mul (by rwa [Nat.mul_comm])
  have hsecond : k ≤ (k * limit + m) / limit :=
    (Nat.le_div_iff_mul_le hlimit).mpr (Nat.le_add_right _ m)
  have hlast : (k * limit + m) / limit < n := by
    rw [Nat.div_lt_iff_lt_mul hlimit]
    exact hjlen.trans_le (hperm.length_eq.trans_le hlength)
  have hpair := List.pairwise_iff_getElem.mp hdisjoint (i / limit) ((k * limit + m) / limit)
    (by rw [List.length_range]; omega) (by rw [List.length_range]; exact hlast)
    (hfirst.trans_le hsecond)
  rw [List.getElem_range, List.getElem_range] at hpair
  refine hpair (a := (Sql.orderBy key rows)[i]) ?_ ?_
  · simp only [if_pos hfirst]
    exact mem_limitOffset hlimit (List.getElem?_eq_getElem hilen)
  · simp only [if_neg (Nat.not_lt.mpr hsecond), hother]
    refine mem_limitOffset hlimit (List.getElem?_set_self ?_)
    rwa [List.length_set]

end

end BrandBlitz.Lib.OffsetPages

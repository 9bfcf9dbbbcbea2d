import Mathlib.Data.List.Basic
import Mathlib.Tactic.Common

/-!
# BrandBlitz.Lib.Placeholders

**Numbered placeholders.** The text of a statement refers to its parameters by number, from one
on. Items that are given consecutive numbers as their values are appended to the parameters
(`numbered`) refer to their values, whatever stands before and after them
(`refers_numbered`), and a function of the values can be computed through the numbers
(`mapM_numbered`).
-/

namespace BrandBlitz.Lib.Placeholders

variable {W P ε β : Type}

/-- The items with consecutive numbers. -/
def numbered (start : Nat) (items : List (W × P)) : List (W × Nat) :=
  (items.zipIdx start).map fun item => (item.1.1, item.2)

/-- Every placeholder stands for the value that belongs there. -/
def Refers (params : List P) (value : W → Option P) (uses : List (W × Nat)) : Prop :=
  ∀ use ∈ uses, 0 < use.2 ∧ ∃ v, value use.1 = some v ∧ params[use.2 - 1]? = some v

variable {params before after : List P} {value : W → Option P} {uses : List (W × Nat)}
  {items : List (W × P)} {start : Nat}

@[simp] theorem numbered_nil : numbered start ([] : List (W × P)) = [] := rfl

@[simp] theorem numbered_cons (item : W × P) :
    numbered start (item :: items) = (item.1, start) :: numbered (start + 1) items := rfl

@[simp] theorem length_numbered : (numbered start items).length = items.length := by
  simp [numbered]

theorem numbered_append (items' : List (W × P)) :
    numbered start (items ++ items') =
      numbered start items ++ numbered (start + items.length) items' := by
  simp [numbered, List.zipIdx_append]

theorem numbered_map {W' : Type} (f : W → W') :
    numbered start (items.map fun item => (f item.1, item.2)) =
      (numbered start items).map fun use => (f use.1, use.2) := by
  induction items generalizing start with
  | nil => rfl
  | cons item rest ih => simp [ih]

/-- The last item has the last number. -/
theorem exists_last_numbered (h : items ≠ []) :
    ∃ w, (w, start + items.length - 1) ∈ numbered start items := by
  induction items generalizing start with
  | nil => exact absurd rfl h
  | cons item rest ih =>
      by_cases hrest : rest = []
      · subst hrest
        exact ⟨item.1, by simp⟩
      · obtain ⟨w, hw⟩ := @ih (start + 1) hrest
        refine ⟨w, ?_⟩
        rw [numbered_cons, List.length_cons, show start + (rest.length + 1) - 1 =
          start + 1 + rest.length - 1 by omega]
        exact List.mem_cons_of_mem _ hw

theorem refers_nil : Refers params value [] := by simp [Refers]

theorem refers_cons {w : W} {n : Nat} :
    Refers params value ((w, n) :: uses) ↔
      (0 < n ∧ ∃ v, value w = some v ∧ params[n - 1]? = some v) ∧ Refers params value uses := by
  simp [Refers]

/-- **Numbered items refer to their values.** -/
theorem refers_numbered (hvalue : ∀ item ∈ items, value item.1 = some item.2)
    (hstart : before.length + 1 = start) :
    Refers (before ++ items.map Prod.snd ++ after) value (numbered start items) := by
  induction items generalizing before start with
  | nil => exact refers_nil
  | cons item rest ih =>
      obtain ⟨w, p⟩ := item
      rw [numbered_cons, refers_cons]
      constructor
      · refine ⟨by omega, p, hvalue (w, p) List.mem_cons_self, ?_⟩
        rw [← hstart]
        simp
      · have hrest : Refers (before ++ [p] ++ rest.map Prod.snd ++ after) value
            (numbered (start + 1) rest) :=
          ih (fun item hitem => hvalue item (List.mem_cons_of_mem _ hitem)) (by simp [hstart])
        simpa using hrest

/-- With a use of the last parameter, the highest placeholder is the number of parameters. -/
theorem foldl_max_eq (h : Refers params value uses)
    (hlast : params = [] ∨ ∃ w, (w, params.length) ∈ uses) :
    (uses.map Prod.snd).foldl max 0 = params.length := by
  have hle : ∀ n ∈ uses.map Prod.snd, n ≤ params.length := by
    intro n hn
    obtain ⟨use, huse, rfl⟩ := List.mem_map.mp hn
    obtain ⟨hpos, v, -, hparam⟩ := h use huse
    have := (List.getElem?_eq_some_iff.mp hparam).1
    omega
  have hmax : ∀ (l : List Nat) (m : Nat), (∀ n ∈ l, n ≤ params.length) → m ≤ params.length →
      (params.length ≤ m ∨ params.length ∈ l) → l.foldl max m = params.length := by
    intro l
    induction l with
    | nil => intro m _ hm h; simpa using Nat.le_antisymm hm (by simpa using h)
    | cons n rest ih =>
        intro m hall hm hreach
        have hn := hall n List.mem_cons_self
        refine ih (max m n) (fun k hk => hall k (List.mem_cons_of_mem n hk)) (by omega) ?_
        rcases hreach with hreach | hreach
        · exact .inl (by omega)
        · rcases List.mem_cons.mp hreach with hreach | hreach
          · exact .inl (by omega)
          · exact .inr hreach
  refine hmax _ 0 hle (Nat.zero_le _) ?_
  rcases hlast with rfl | ⟨w, hw⟩
  · exact .inl (Nat.le_refl 0)
  · exact .inr (List.mem_map.mpr ⟨_, hw, rfl⟩)

/-- The value of a placeholder. -/
def bindingOf (default : P) (params : List P) (n : Nat) : P := params.getD (n - 1) default

theorem bindingOf_of_refers {default : P} {w : W} {n : Nat} (h : Refers params value uses)
    (huse : (w, n) ∈ uses) : value w = some (bindingOf default params n) := by
  obtain ⟨-, v, hv, hparam⟩ := h (w, n) huse
  rw [hv, bindingOf, List.getD_eq_getElem?_getD, hparam, Option.getD_some]

/-- **Going through the numbers is going through the values.** -/
theorem mapM_numbered {default : P} (f : W → P → Except ε β)
    (hvalue : ∀ item ∈ items, value item.1 = some item.2)
    (h : Refers params value (numbered start items)) :
    (numbered start items).mapM (fun use => f use.1 (bindingOf default params use.2)) =
      items.mapM fun item => f item.1 item.2 := by
  induction items generalizing start with
  | nil => rfl
  | cons item rest ih =>
      obtain ⟨w, p⟩ := item
      rw [numbered_cons] at h ⊢
      have hp : bindingOf default params start = p :=
        Option.some.inj ((bindingOf_of_refers h List.mem_cons_self).symm.trans
          (hvalue (w, p) List.mem_cons_self))
      rw [List.mapM_cons, List.mapM_cons, hp,
        ih (fun item hitem => hvalue item (List.mem_cons_of_mem _ hitem)) (refers_cons.mp h).2]

end BrandBlitz.Lib.Placeholders

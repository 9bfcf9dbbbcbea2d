import Mathlib.Algebra.BigOperators.Group.List.Basic
import Mathlib.Algebra.Order.Ring.Nat
import Mathlib.Data.List.Nodup

/-!
# BrandBlitz.Lib.OrderedMap

**Maps in insertion order**: what a JavaScript `Map` is. Setting a new key appends an
entry; setting a key that is there replaces its value and keeps its place. A map
carries the proof that no key occurs twice.

`total f m` sums a measure over the values. Writing a list of entries one by one
(`ofList`) can only lose value, when a later entry overwrites an earlier one, and
loses none exactly when the keys are distinct.
-/

namespace BrandBlitz.Lib

/-- A map that remembers the order in which its keys were first set. -/
structure OrderedMap (κ ν : Type) where
  entries : List (κ × ν)
  nodup : (entries.map (·.1)).Nodup

namespace OrderedMap

variable {κ ν : Type} [DecidableEq κ]

omit [DecidableEq κ] in
/-- `new Map()`. -/
def empty : OrderedMap κ ν := ⟨[], List.nodup_nil⟩

/-- Replace the entry of `k`, or append one. -/
def setEntry (k : κ) (v : ν) : List (κ × ν) → List (κ × ν)
  | [] => [(k, v)]
  | e :: rest => if e.1 = k then (k, v) :: rest else e :: setEntry k v rest

theorem mem_setEntry_keys {k : κ} {v : ν} {k' : κ} :
    ∀ {l : List (κ × ν)}, k' ∈ (setEntry k v l).map (·.1) ↔ k' = k ∨ k' ∈ l.map (·.1) := by
  intro l
  induction l with
  | nil => simp [setEntry]
  | cons e rest ih =>
      rw [setEntry]
      split
      · rename_i hk
        simp [← hk]
      · simp only [List.map_cons, List.mem_cons, ih]
        tauto

theorem setEntry_nodup {k : κ} {v : ν} :
    ∀ {l : List (κ × ν)}, (l.map (·.1)).Nodup → ((setEntry k v l).map (·.1)).Nodup := by
  intro l
  induction l with
  | nil => intro _; simp [setEntry]
  | cons e rest ih =>
      intro hl
      rw [List.map_cons, List.nodup_cons] at hl
      rw [setEntry]
      split
      · rename_i hk
        exact List.nodup_cons.mpr ⟨hk ▸ hl.1, hl.2⟩
      · rename_i hk
        refine List.nodup_cons.mpr ⟨fun hmem => ?_, ih hl.2⟩
        rcases mem_setEntry_keys.mp hmem with heq | hmem
        · exact hk heq
        · exact hl.1 hmem

/-- `map.set(k, v)`. -/
def set (m : OrderedMap κ ν) (k : κ) (v : ν) : OrderedMap κ ν :=
  ⟨setEntry k v m.entries, setEntry_nodup m.nodup⟩

/-- `map.get(k)`. -/
def get? (m : OrderedMap κ ν) (k : κ) : Option ν :=
  (m.entries.find? (·.1 = k)).map (·.2)

omit [DecidableEq κ] in
/-- `map.values()`, in order. -/
def values (m : OrderedMap κ ν) : List ν := m.entries.map (·.2)

omit [DecidableEq κ] in
/-- The sum of a measure over all values. -/
def total (f : ν → Nat) (m : OrderedMap κ ν) : Nat := (m.values.map f).sum

/-- Write a list of entries, one by one. -/
def setAll (m : OrderedMap κ ν) (l : List (κ × ν)) : OrderedMap κ ν :=
  l.foldl (fun m e => m.set e.1 e.2) m

/-- What an entry is after a write: the new one, or an old one under another key. -/
theorem mem_setEntry {k : κ} {v : ν} {e : κ × ν} :
    ∀ {l : List (κ × ν)}, (l.map (·.1)).Nodup →
      (e ∈ setEntry k v l ↔ e = (k, v) ∨ (e ∈ l ∧ e.1 ≠ k)) := by
  intro l
  induction l with
  | nil => intro _; simp [setEntry]
  | cons e' rest ih =>
      intro hl
      rw [List.map_cons, List.nodup_cons] at hl
      rw [setEntry]
      split
      · rename_i hk
        -- the key was found here, so the rest has other keys
        have hrest : ∀ x ∈ rest, x.1 ≠ k := fun x hx hxk =>
          hl.1 (hk ▸ hxk ▸ List.mem_map_of_mem hx)
        simp only [List.mem_cons]
        constructor
        · exact Or.imp_right fun he => ⟨.inr he, hrest e he⟩
        · rintro (rfl | ⟨rfl | he, hne⟩)
          · exact .inl rfl
          · exact absurd hk hne
          · exact .inr he
      · rename_i hk
        simp only [List.mem_cons, ih hl.2]
        constructor
        · rintro (rfl | rfl | ⟨he, hne⟩)
          · exact .inr ⟨.inl rfl, hk⟩
          · exact .inl rfl
          · exact .inr ⟨.inr he, hne⟩
        · rintro (rfl | ⟨rfl | he, hne⟩)
          · exact .inr (.inl rfl)
          · exact .inl rfl
          · exact .inr (.inr ⟨he, hne⟩)

theorem mem_set_iff {m : OrderedMap κ ν} {k : κ} {v : ν} {e : κ × ν} :
    e ∈ (m.set k v).entries ↔ e = (k, v) ∨ (e ∈ m.entries ∧ e.1 ≠ k) := mem_setEntry m.nodup

theorem mem_set {m : OrderedMap κ ν} {k : κ} {v : ν} {e : κ × ν}
    (h : e ∈ (m.set k v).entries) : e = (k, v) ∨ e ∈ m.entries :=
  (mem_set_iff.mp h).imp_right And.left

/-- What holds of all entries written holds of all entries. -/
theorem forall_setAll {P : κ × ν → Prop} {l : List (κ × ν)} (hl : ∀ e ∈ l, P e) :
    ∀ {m : OrderedMap κ ν}, (∀ e ∈ m.entries, P e) → ∀ e ∈ (m.setAll l).entries, P e := by
  induction l with
  | nil => intro m hm; exact hm
  | cons e rest ih =>
      intro m hm
      refine ih (fun e' he' => hl e' (List.mem_cons_of_mem _ he')) fun e' he' => ?_
      rcases mem_set he' with rfl | he'
      · exact hl _ List.mem_cons_self
      · exact hm e' he'

/-- The keys after a write. -/
theorem mem_set_keys {m : OrderedMap κ ν} {k k' : κ} {v : ν} :
    k' ∈ (m.set k v).entries.map (·.1) ↔ k' = k ∨ k' ∈ m.entries.map (·.1) := mem_setEntry_keys

theorem mem_setAll_keys {k : κ} {l : List (κ × ν)} :
    ∀ {m : OrderedMap κ ν}, k ∈ (m.setAll l).entries.map (·.1) ↔
      k ∈ m.entries.map (·.1) ∨ k ∈ l.map (·.1) := by
  induction l with
  | nil => intro m; simp [setAll]
  | cons e rest ih =>
      intro m
      show k ∈ ((m.set e.1 e.2).setAll rest).entries.map (·.1) ↔ _
      rw [ih, mem_set_keys, List.map_cons, List.mem_cons]
      tauto

/-- A write exchanges the value under its key. -/
theorem total_set (f : ν → Nat) (m : OrderedMap κ ν) (k : κ) (v : ν) :
    (m.set k v).total f + ((m.get? k).map f).getD 0 = m.total f + f v := by
  obtain ⟨entries, nodup⟩ := m
  simp only [total, values, set, get?, List.map_map]
  clear nodup
  induction entries with
  | nil => simp [setEntry]
  | cons e rest ih =>
      by_cases hk : e.1 = k
      · simp [setEntry, hk]
        omega
      · simp only [setEntry, hk, if_false, List.map_cons, List.sum_cons, decide_false,
          List.find?_cons_of_neg, Bool.false_eq_true, not_false_eq_true]
        omega

theorem get?_eq_none {m : OrderedMap κ ν} {k : κ} :
    m.get? k = none ↔ k ∉ m.entries.map (·.1) := by
  simp only [get?, Option.map_eq_none_iff, List.find?_eq_none, decide_eq_true_eq, List.mem_map,
    not_exists, not_and]

theorem mem_of_get? {m : OrderedMap κ ν} {k : κ} {v : ν} (h : m.get? k = some v) :
    (k, v) ∈ m.entries := by
  obtain ⟨e, he, rfl⟩ := Option.map_eq_some_iff.mp h
  have hk : e.1 = k := by simpa using List.find?_some he
  exact hk ▸ List.mem_of_find?_eq_some he

theorem get?_of_mem {m : OrderedMap κ ν} {k : κ} {v : ν} (h : (k, v) ∈ m.entries) :
    m.get? k = some v := by
  cases hget : m.get? k with
  | none => exact absurd (List.mem_map_of_mem h) (get?_eq_none.mp hget)
  | some v' =>
      have hsame := List.inj_on_of_nodup_map m.nodup (mem_of_get? hget) h rfl
      rw [(Prod.mk.inj hsame).2]

/-- A new key goes to the end. -/
theorem setEntry_of_notMem {k : κ} {v : ν} :
    ∀ {l : List (κ × ν)}, k ∉ l.map (·.1) → setEntry k v l = l ++ [(k, v)] := by
  intro l
  induction l with
  | nil => intro _; rfl
  | cons e rest ih =>
      intro h
      rw [List.map_cons, List.mem_cons, not_or] at h
      rw [setEntry, if_neg (Ne.symm h.1), ih h.2, List.cons_append]

/-- Entries under distinct new keys are all there, in order. -/
theorem entries_setAll {l : List (κ × ν)} (hl : (l.map (·.1)).Nodup) :
    ∀ {m : OrderedMap κ ν}, (∀ k ∈ l.map (·.1), k ∉ m.entries.map (·.1)) →
      (m.setAll l).entries = m.entries ++ l := by
  induction l with
  | nil => intro m _; rw [List.append_nil]; rfl
  | cons e rest ih =>
      intro m hfresh
      rw [List.map_cons, List.nodup_cons] at hl
      have hset : (m.set e.1 e.2).entries = m.entries ++ [e] :=
        setEntry_of_notMem (hfresh e.1 List.mem_cons_self)
      show ((m.set e.1 e.2).setAll rest).entries = _
      rw [ih hl.2, hset, List.append_assoc, List.singleton_append]
      intro k hk
      rw [mem_set_keys, not_or]
      exact ⟨fun heq => hl.1 (heq ▸ hk), hfresh k (List.mem_cons_of_mem _ hk)⟩

/-- Writing entries one by one gains at most their values, and exactly their values
when no key is written twice or was there before. -/
theorem total_setAll (f : ν → Nat) {l : List (κ × ν)} (hpos : ∀ e ∈ l, 0 < f e.2) :
    ∀ m : OrderedMap κ ν, (∀ e ∈ m.entries, 0 < f e.2) →
      (m.setAll l).total f ≤ m.total f + (l.map fun e => f e.2).sum ∧
      ((m.setAll l).total f = m.total f + (l.map fun e => f e.2).sum ↔
        (l.map (·.1)).Nodup ∧ ∀ k ∈ l.map (·.1), k ∉ m.entries.map (·.1)) := by
  induction l with
  | nil => intro m _; simp [setAll]
  | cons e rest ih =>
      intro m hm
      have hm' : ∀ e' ∈ (m.set e.1 e.2).entries, 0 < f e'.2 := by
        intro e' he'
        rcases mem_set he' with rfl | he'
        · exact hpos _ List.mem_cons_self
        · exact hm e' he'
      obtain ⟨hle, heq⟩ := ih (fun e' he' => hpos e' (List.mem_cons_of_mem _ he'))
        (m.set e.1 e.2) hm'
      have hset := total_set f m e.1 e.2
      rw [show m.setAll (e :: rest) = (m.set e.1 e.2).setAll rest from rfl]
      have hkeys : ∀ k, k ∉ (m.set e.1 e.2).entries.map (·.1) ↔
          k ≠ e.1 ∧ k ∉ m.entries.map (·.1) := by
        intro k
        rw [show (m.set e.1 e.2).entries = setEntry e.1 e.2 m.entries from rfl,
          mem_setEntry_keys, not_or]
      simp only [List.map_cons, List.sum_cons, List.nodup_cons, List.mem_cons]
      refine ⟨by omega, ?_⟩
      cases hget : m.get? e.1 with
      | none =>
          -- the key is new: nothing is lost here
          have hnew := get?_eq_none.mp hget
          rw [hget] at hset
          simp only [Option.map_none, Option.getD_none] at hset
          rw [show m.total f + (f e.2 + (rest.map fun e => f e.2).sum) =
            (m.set e.1 e.2).total f + (rest.map fun e => f e.2).sum by omega, heq]
          simp only [hkeys]
          constructor
          · intro h
            obtain ⟨hnodup, hfresh⟩ := h
            refine ⟨⟨fun hmem => (hfresh _ hmem).1 rfl, hnodup⟩, ?_⟩
            intro k h
            rcases h with rfl | hk
            · exact hnew
            · exact (hfresh k hk).2
          · intro h
            obtain ⟨⟨hne, hnodup⟩, hfresh⟩ := h
            exact ⟨hnodup, fun k hk => ⟨fun heq => hne (heq ▸ hk), hfresh k (.inr hk)⟩⟩
      | some v =>
          -- the key was there: its old value is lost for good
          have hmem := mem_of_get? hget
          have hv : 0 < f v := hm _ hmem
          rw [hget] at hset
          simp only [Option.map_some, Option.getD_some] at hset
          constructor
          · intro htotal
            omega
          · intro h
            obtain ⟨-, hfresh⟩ := h
            exact absurd (List.mem_map_of_mem hmem) (hfresh e.1 (.inl rfl))

end OrderedMap

end BrandBlitz.Lib

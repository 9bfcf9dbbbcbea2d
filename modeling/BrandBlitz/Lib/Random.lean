import Mathlib.Data.List.Basic
import Mathlib.Data.Rat.Floor
import Mathlib.Data.Set.Lattice
import Mathlib.Data.Stream.Init

/-!
# BrandBlitz.Lib.Random

**Programs that draw random numbers.** A program takes numbers of `[0, 1)` from a stream, as
many as it needs. `HasOutcomes m S` says that the results of `m`, over all streams, are the
elements of `S`: nothing else comes out, and each of them does, whatever the stream continues
with. That is what composes (`HasOutcomes.bind`).

`shuffle` is the shuffle of Fisher and Yates; its outcomes are all permutations
(`hasOutcomes_shuffle`).
-/

namespace BrandBlitz.Lib

/-- A random number. -/
abbrev UnitDraw := { r : ℚ // 0 ≤ r ∧ r < 1 }

/-- A program that draws random numbers. -/
abbrev Random (α : Type) := StateM (Stream' UnitDraw) α

namespace Random

variable {α β : Type}

/-- `Math.random()`. -/
def draw : Random ℚ := fun s => (s.head.val, s.tail)

/-- The results over all streams are the elements of `S`. -/
structure HasOutcomes (m : Random α) (S : Set α) : Prop where
  mem : ∀ s, (m.run s).1 ∈ S
  reach : ∀ a ∈ S, ∀ rest, ∃ s, m.run s = (a, rest)

/-- What is so of all results. -/
theorem HasOutcomes.forall_iff {m : Random α} {S : Set α} (h : HasOutcomes m S) (P : α → Prop) :
    (∀ s, P (m.run s).1) ↔ ∀ a ∈ S, P a := by
  constructor
  · intro hall a ha
    obtain ⟨s, hs⟩ := h.reach a ha (Stream'.const ⟨0, le_rfl, one_pos⟩)
    have hP := hall s
    rwa [hs] at hP
  · intro hall s
    exact hall _ (h.mem s)

theorem HasOutcomes.nonempty {m : Random α} {S : Set α} (h : HasOutcomes m S) : S.Nonempty :=
  ⟨_, h.mem (Stream'.const ⟨0, le_rfl, one_pos⟩)⟩

theorem HasOutcomes.congr {m : Random α} {S T : Set α} (h : HasOutcomes m S) (heq : S = T) :
    HasOutcomes m T := heq ▸ h

theorem hasOutcomes_pure (a : α) : HasOutcomes (pure a) {a} where
  mem _ := rfl
  reach := by
    intro b hb rest
    rw [Set.mem_singleton_iff.mp hb]
    exact ⟨rest, rfl⟩

/-- One program after another: the second starts with what the first leaves of the stream. -/
theorem HasOutcomes.bind {m : Random α} {f : α → Random β} {S : Set α} {T : α → Set β}
    (hm : HasOutcomes m S) (hf : ∀ a ∈ S, HasOutcomes (f a) (T a)) :
    HasOutcomes (m >>= f) {b | ∃ a ∈ S, b ∈ T a} where
  mem s := ⟨(m.run s).1, hm.mem s, (hf _ (hm.mem s)).mem (m.run s).2⟩
  reach := by
    intro b hb rest
    obtain ⟨a, ha, hb⟩ := hb
    obtain ⟨s', hs'⟩ := (hf a ha).reach b hb rest
    obtain ⟨s, hs⟩ := hm.reach a ha s'
    refine ⟨s, ?_⟩
    rw [StateT.run_bind, hs]
    exact hs'

theorem HasOutcomes.map {m : Random α} {S : Set α} (hm : HasOutcomes m S) (f : α → β) :
    HasOutcomes (do return f (← m)) (f '' S) := by
  refine (hm.bind fun a _ => hasOutcomes_pure (f a)).congr ?_
  ext b
  simp [eq_comm]

/-- Programs in a row. -/
theorem hasOutcomes_mapM {f : α → Random β} {T : α → Set β} {as : List α}
    (hf : ∀ a ∈ as, HasOutcomes (f a) (T a)) :
    HasOutcomes (as.mapM f) {bs | List.Forall₂ (fun b a => b ∈ T a) bs as} := by
  induction as with
  | nil =>
      refine (hasOutcomes_pure []).congr ?_
      ext bs
      simp
  | cons a as ih =>
      rw [List.mapM_cons]
      have hrest := ih fun a' ha' => hf a' (List.mem_cons_of_mem a ha')
      refine ((hf a List.mem_cons_self).bind fun b _ => hrest.map fun bs => b :: bs).congr ?_
      ext bs
      simp only [Set.mem_ofPred_eq, Set.mem_image, List.forall₂_cons_right_iff]
      constructor
      · intro h
        obtain ⟨b, hb, bs', hbs', heq⟩ := h
        exact ⟨b, bs', hb, hbs', heq.symm⟩
      · intro h
        obtain ⟨b, bs', hb, hbs', heq⟩ := h
        exact ⟨b, hb, bs', hbs', heq.symm⟩

theorem exists_forall₂ {T : α → Set β} {as : List α} (hT : ∀ a ∈ as, (T a).Nonempty) :
    ∃ bs, List.Forall₂ (fun b a => b ∈ T a) bs as := by
  induction as with
  | nil => exact ⟨[], .nil⟩
  | cons a as ih =>
      obtain ⟨b, hb⟩ := hT a List.mem_cons_self
      obtain ⟨bs, hbs⟩ := ih fun x hx => hT x (List.mem_cons_of_mem a hx)
      exact ⟨b :: bs, .cons hb hbs⟩

/-- What is so of all results of programs in a row is so of all results of each. -/
theorem forall_mem_forall₂_iff {T : α → Set β} {as : List α} (hT : ∀ a ∈ as, (T a).Nonempty)
    (P : β → Prop) :
    (∀ bs, List.Forall₂ (fun b a => b ∈ T a) bs as → ∀ b ∈ bs, P b) ↔
      ∀ a ∈ as, ∀ b ∈ T a, P b := by
  induction as with
  | nil => simp
  | cons a as ih =>
      have hrest : ∀ x ∈ as, (T x).Nonempty := fun x hx => hT x (List.mem_cons_of_mem a hx)
      rw [List.forall_mem_cons, ← ih hrest]
      constructor
      · intro h
        -- a result of one program is completed by any results of the others
        obtain ⟨b₀, hb₀⟩ := hT a List.mem_cons_self
        obtain ⟨bs₀, hbs₀⟩ := exists_forall₂ hrest
        exact ⟨fun b hb => h (b :: bs₀) (.cons hb hbs₀) b List.mem_cons_self,
          fun bs hbs b hb => h (b₀ :: bs) (.cons hb₀ hbs) b (List.mem_cons_of_mem b₀ hb)⟩
      · intro h bs hbs
        obtain ⟨b, bs', hb, hbs', rfl⟩ := List.forall₂_cons_right_iff.mp hbs
        exact List.forall_mem_cons.mpr ⟨h.1 b hb, h.2 bs' hbs'⟩

/-! ### Indices -/

/-- `Math.floor(Math.random() * n)`. -/
def index (n : Nat) : Random Nat := do return ⌊(← draw) * n⌋.toNat

theorem hasOutcomes_draw : HasOutcomes draw {r | 0 ≤ r ∧ r < 1} where
  mem s := s.head.property
  reach r hr rest := ⟨Stream'.cons ⟨r, hr⟩ rest, rfl⟩

theorem hasOutcomes_index {n : Nat} (hn : 0 < n) : HasOutcomes (index n) {j | j < n} := by
  have hpos : (0 : ℚ) < n := Nat.cast_pos.mpr hn
  refine (hasOutcomes_draw.map fun r => ⌊r * n⌋.toNat).congr ?_
  ext j
  simp only [Set.mem_image, Set.mem_ofPred_eq]
  constructor
  · intro h
    obtain ⟨r, ⟨hr0, hr1⟩, rfl⟩ := h
    have hlt : ⌊r * n⌋ < n := Int.floor_lt.mpr (by
      push_cast
      exact mul_lt_of_lt_one_left hpos hr1)
    omega
  · intro hj
    refine ⟨j / n, ⟨by positivity, (div_lt_one hpos).mpr (Nat.cast_lt.mpr hj)⟩, ?_⟩
    rw [div_mul_cancel₀ _ hpos.ne', Int.floor_natCast, Int.toNat_natCast]

/-! ### Shuffling -/

/-- `[arr[i], arr[j]] = [arr[j], arr[i]]`. -/
def swap (arr : List α) (i j : Nat) : List α :=
  match arr[i]?, arr[j]? with
  | some a, some b => (arr.set i b).set j a
  | _, _ => arr

/-- The rounds of the loop from `i` down to 1. -/
def shuffleFrom : Nat → List α → Random (List α)
  | 0, arr => return arr
  | i + 1, arr => do
    let j ← index (i + 2)
    shuffleFrom i (swap arr (i + 1) j)

def shuffle (array : List α) : Random (List α) := shuffleFrom (array.length - 1) array

section
variable {arr : List α} {i j : Nat}

theorem swap_eq (hi : i < arr.length) (hj : j < arr.length) :
    swap arr i j = (arr.set i arr[j]).set j arr[i] := by
  simp [swap, hi, hj]

/-- A swap of two of the first elements permutes these. -/
theorem take_swap_perm {k : Nat} (hi : i < k) (hj : j < k) (hk : k ≤ arr.length) :
    ((swap arr i j).take k).Perm (arr.take k) := by
  have hi' : i < (arr.take k).length := by rw [List.length_take]; omega
  have hj' : j < (arr.take k).length := by rw [List.length_take]; omega
  rw [swap_eq (by omega) (by omega), List.take_set, List.take_set]
  have hperm := List.set_set_perm hi' hj'
  rwa [List.getElem_take, List.getElem_take] at hperm

theorem drop_swap {k : Nat} (hi : i < k) (hj : j < k) (hk : k ≤ arr.length) :
    (swap arr i j).drop k = arr.drop k := by
  rw [swap_eq (by omega) (by omega), List.drop_set_of_lt hj, List.drop_set_of_lt hi]

@[simp] theorem length_swap : (swap arr i j).length = arr.length := by
  unfold swap
  split <;> simp

/-- The element that is swapped to its place. -/
theorem swap_getElem (hi : i < arr.length) (hj : j < arr.length) :
    (swap arr i j)[i]? = arr[j]? := by
  rw [swap_eq hi hj, List.getElem?_set]
  by_cases hij : j = i
  · subst hij
    simp [hi]
  · simp [hij, hi, hj]

end

/-- The first `k` elements are permuted, the others are left. -/
structure PermutesFirst (k : Nat) (arr out : List α) : Prop where
  take : (out.take k).Perm (arr.take k)
  drop : out.drop k = arr.drop k

theorem PermutesFirst.refl (k : Nat) (arr : List α) : PermutesFirst k arr arr :=
  ⟨List.Perm.refl _, rfl⟩

theorem PermutesFirst.trans {k : Nat} {arr mid out : List α} (h : PermutesFirst k arr mid)
    (h' : PermutesFirst k mid out) : PermutesFirst k arr out :=
  ⟨h'.take.trans h.take, h'.drop.trans h.drop⟩

/-- What is permuted among fewer is permuted among more. -/
theorem PermutesFirst.mono {k n : Nat} {arr out : List α} (h : PermutesFirst k arr out)
    (hkn : k ≤ n) : PermutesFirst n arr out := by
  obtain ⟨m, rfl⟩ := Nat.exists_eq_add_of_le hkn
  refine ⟨?_, ?_⟩
  · rw [List.take_add, List.take_add, h.drop]
    exact h.take.append_right _
  · rw [← List.drop_drop, ← List.drop_drop, h.drop]

theorem permutesFirst_length {arr out : List α} :
    PermutesFirst arr.length arr out ↔ out.Perm arr := by
  constructor
  · intro h
    have hperm : (out.take arr.length ++ out.drop arr.length).Perm
        (arr.take arr.length ++ arr.drop arr.length) := h.take.append (List.Perm.of_eq h.drop)
    rwa [List.take_append_drop, List.take_append_drop] at hperm
  · intro h
    refine ⟨?_, ?_⟩
    · rw [← h.length_eq, List.take_length, h.length_eq, List.take_length]
      exact h
    · rw [← h.length_eq, List.drop_length, h.length_eq, List.drop_length]

theorem permutesFirst_one {arr out : List α} : PermutesFirst 1 arr out ↔ out = arr := by
  constructor
  · intro h
    have htake : out.take 1 = arr.take 1 := by
      have hperm := h.take
      cases hout : out.take 1 with
      | nil =>
          rw [hout] at hperm
          exact hperm.nil_eq
      | cons a rest =>
          have hlength := List.length_take_le 1 out
          rw [hout, List.length_cons] at hlength
          have hrest : rest = [] := List.length_eq_zero_iff.mp (by omega)
          rw [hout, hrest] at hperm
          rw [hrest]
          exact List.singleton_perm.mp hperm
    rw [← List.take_append_drop 1 out, htake, h.drop, List.take_append_drop]
  · intro h
    rw [h]
    exact .refl 1 arr

/-- One round: the element that belongs at the end comes from one of the places before it. -/
theorem permutesFirst_succ_iff {arr out : List α} {i : Nat} (hi : i + 1 < arr.length) :
    PermutesFirst (i + 2) arr out ↔
      ∃ j, j < i + 2 ∧ PermutesFirst (i + 1) (swap arr (i + 1) j) out := by
  constructor
  · intro h
    have hlength : i + 2 ≤ out.length := by
      have htake := h.take.length_eq
      rw [List.length_take, List.length_take] at htake
      omega
    -- the round draws the place from which the element at `i + 1` comes
    have hmem : out[i + 1] ∈ arr.take (i + 2) :=
      h.take.mem_iff.mp (List.mem_take_iff_getElem.mpr ⟨i + 1, by omega, rfl⟩)
    obtain ⟨j, hj, hget⟩ := List.mem_take_iff_getElem.mp hmem
    have hj : j < i + 2 ∧ j < arr.length := by omega
    refine ⟨j, hj.1, ?_⟩
    have hswap : (swap arr (i + 1) j)[i + 1]? = some out[i + 1] := by
      rw [swap_getElem hi hj.2, List.getElem?_eq_getElem hj.2, hget]
    have hswapLength : i + 1 < (swap arr (i + 1) j).length := by rwa [length_swap]
    have hswapGet : (swap arr (i + 1) j)[i + 1] = out[i + 1] := by
      rw [List.getElem?_eq_getElem hswapLength] at hswap
      exact Option.some.inj hswap
    constructor
    · have hperm : (out.take (i + 2)).Perm ((swap arr (i + 1) j).take (i + 2)) :=
        h.take.trans (take_swap_perm (by omega) hj.1 (by omega)).symm
      rw [List.take_succ_eq_append_getElem (by omega),
        List.take_succ_eq_append_getElem hswapLength, hswapGet] at hperm
      exact (List.perm_append_right_iff _).mp hperm
    · rw [List.drop_eq_getElem_cons (by omega), List.drop_eq_getElem_cons hswapLength, hswapGet,
        h.drop, drop_swap (by omega) hj.1 (by omega)]
  · intro h
    obtain ⟨j, hj, hout⟩ := h
    have hswap : PermutesFirst (i + 2) arr (swap arr (i + 1) j) :=
      ⟨take_swap_perm (by omega) hj (by omega), drop_swap (by omega) hj (by omega)⟩
    exact hswap.trans (hout.mono (by omega))

theorem hasOutcomes_shuffleFrom {i : Nat} {arr : List α} (hi : i < arr.length) :
    HasOutcomes (shuffleFrom i arr) {out | PermutesFirst (i + 1) arr out} := by
  induction i generalizing arr with
  | zero =>
      refine (hasOutcomes_pure arr).congr ?_
      ext out
      simp [permutesFirst_one]
  | succ i ih =>
      have hrest : ∀ j, HasOutcomes (shuffleFrom i (swap arr (i + 1) j))
          {out | PermutesFirst (i + 1) (swap arr (i + 1) j) out} :=
        fun j => ih (by rw [length_swap]; omega)
      refine ((hasOutcomes_index (Nat.succ_pos (i + 1))).bind fun j _ => hrest j).congr ?_
      ext out
      exact (permutesFirst_succ_iff hi).symm

/-- **Shuffling an array gives each of its permutations, and nothing else.** -/
theorem hasOutcomes_shuffle (array : List α) :
    HasOutcomes (shuffle array) {out | out.Perm array} := by
  cases array with
  | nil =>
      refine (hasOutcomes_pure []).congr ?_
      ext out
      simp
  | cons a rest =>
      have hlast : rest.length < (a :: rest).length := Nat.lt_succ_self _
      refine (hasOutcomes_shuffleFrom hlast).congr ?_
      ext out
      exact @permutesFirst_length α (a :: rest) out

end Random

end BrandBlitz.Lib

import Mathlib.Algebra.Group.Nat.Defs
import Mathlib.Data.List.Induction
import Mathlib.Tactic.Common

/-!
# BrandBlitz.Lib.Bits

**Numbers as lists of bits**, the most significant first, and lists in groups of one length. A
number is read back from its bits (`ofBits_bits`), and so are the bits (`bits_ofBits`); the groups
of a list are the list (`flatten_groups`).
-/

namespace BrandBlitz.Lib.Bits

/-! ### Bits -/

/-- The last `width` bits of a number. -/
def bits : Nat → Nat → List Bool
  | 0, _ => []
  | width + 1, n => n.testBit width :: bits width n

/-- The number that the bits spell. -/
def ofBits (l : List Bool) : Nat := l.foldl (fun n b => 2 * n + b.toNat) 0

@[simp] theorem length_bits (width n : Nat) : (bits width n).length = width := by
  induction width with
  | zero => rfl
  | succ width ih => rw [bits, List.length_cons, ih]

theorem bits_congr {width m n : Nat} (h : ∀ i, i < width → m.testBit i = n.testBit i) :
    bits width m = bits width n := by
  induction width with
  | zero => rfl
  | succ width ih => rw [bits, bits, h width (by omega), ih fun i hi => h i (by omega)]

/-- The upper bits and the lower ones. -/
theorem bits_add (j k n : Nat) : bits (j + k) n = bits j (n >>> k) ++ bits k n := by
  induction j with
  | zero => simp [bits]
  | succ j ih =>
    rw [Nat.succ_add, bits, bits, ih, Nat.testBit_shiftRight, Nat.add_comm k j]
    rfl

theorem ofBits_concat (l : List Bool) (b : Bool) : ofBits (l ++ [b]) = 2 * ofBits l + b.toNat := by
  simp [ofBits]

theorem ofBits_append (l m : List Bool) : ofBits (l ++ m) = ofBits l * 2 ^ m.length + ofBits m := by
  induction m using List.reverseRecOn with
  | nil => simp [ofBits]
  | append_singleton m b ih =>
    rw [← List.append_assoc, ofBits_concat, ofBits_concat, ih, List.length_append,
      List.length_singleton, Nat.pow_succ]
    rw [Nat.mul_add, ← Nat.mul_assoc, Nat.mul_comm 2, Nat.mul_assoc, Nat.mul_comm 2 (2 ^ _)]
    omega

@[simp] theorem ofBits_bits (width n : Nat) : ofBits (bits width n) = n % 2 ^ width := by
  induction width with
  | zero => simp [bits, ofBits, Nat.mod_one]
  | succ width ih =>
    have hcons : bits (width + 1) n = [n.testBit width] ++ bits width n := rfl
    have hone : ofBits [n.testBit width] = (n.testBit width).toNat := by simp [ofBits]
    rw [hcons, ofBits_append, ih, length_bits, hone, Nat.mod_pow_succ, Nat.toNat_testBit,
      Nat.mul_comm, Nat.add_comm]

theorem ofBits_lt (l : List Bool) : ofBits l < 2 ^ l.length := by
  induction l using List.reverseRecOn with
  | nil => simp [ofBits]
  | append_singleton l b ih =>
    have hb := b.toNat_le
    rw [ofBits_concat, List.length_append, List.length_singleton, Nat.pow_succ]
    omega

theorem bits_ofBits (l : List Bool) : bits l.length (ofBits l) = l := by
  induction l using List.reverseRecOn with
  | nil => rfl
  | append_singleton l b ih =>
    have hhigh : (2 * ofBits l + b.toNat) >>> 1 = ofBits l := by
      rw [Nat.shiftRight_eq_div_pow]
      have hb := b.toNat_le
      omega
    have hlow : bits 1 (2 * ofBits l + b.toNat) = [b] := by
      simp only [bits, Nat.testBit_zero]
      cases b
      · simp
      · simp
    rw [List.length_append, List.length_singleton, bits_add, ofBits_concat, hhigh, hlow, ih]

/-! ### Groups -/

section

variable {α : Type} {k : Nat} {l group : List α}

/-- The full groups of `k` elements. -/
def groups (k : Nat) (l : List α) : List (List α) :=
  (List.range (l.length / k)).map fun i => (l.drop (k * i)).take k

theorem groups_of_short (h : l.length < k) : groups k l = [] := by
  rw [groups, Nat.div_eq_of_lt h]
  rfl

theorem groups_append (hk : 0 < k) (hgroup : group.length = k) (l : List α) :
    groups k (group ++ l) = group :: groups k l := by
  have hlength : (group ++ l).length / k = l.length / k + 1 := by
    rw [List.length_append, hgroup, Nat.add_div_left _ hk]
  rw [groups, hlength, List.range_succ_eq_map, List.map_cons, List.map_map, groups]
  congr 1
  · rw [Nat.mul_zero, List.drop_zero, ← hgroup, List.take_left]
  · apply List.map_congr_left
    intro i _
    show ((group ++ l).drop (k * (i + 1))).take k = _
    rw [Nat.mul_succ, Nat.add_comm, ← List.drop_drop, ← hgroup, List.drop_left]

theorem length_of_mem_groups (h : group ∈ groups k l) : group.length = k := by
  obtain ⟨i, hi, rfl⟩ := List.mem_map.mp h
  have hle : k * (i + 1) ≤ l.length := by
    have hlt := List.mem_range.mp hi
    calc k * (i + 1) ≤ k * (l.length / k) := Nat.mul_le_mul_left k hlt
      _ ≤ l.length := Nat.mul_div_le _ _
  rw [Nat.mul_succ] at hle
  rw [List.length_take, List.length_drop]
  omega

theorem flatten_groups (hk : 0 < k) (h : k ∣ l.length) : (groups k l).flatten = l := by
  obtain ⟨n, hn⟩ := h
  induction n generalizing l with
  | zero =>
    obtain rfl := List.length_eq_zero_iff.mp hn
    rw [groups_of_short hk]
    rfl
  | succ n ih =>
    have hsplit := List.take_append_drop k l
    have htake : (l.take k).length = k := by
      rw [List.length_take, hn, Nat.mul_succ]
      omega
    have hdrop : (l.drop k).length = k * n := by
      rw [List.length_drop, hn, Nat.mul_succ]
      omega
    rw [← hsplit, groups_append hk htake, List.flatten_cons, ih hdrop]

end

/-! ### Padding -/

section

variable {k : Nat} {l group : List Bool}

/-- Zeros on the right, up to a multiple of `k` bits. -/
def padded (k : Nat) (l : List Bool) : List Bool :=
  l ++ List.replicate ((k - l.length % k) % k) false

theorem padded_append (hgroup : group.length = k) (l : List Bool) :
    padded k (group ++ l) = group ++ padded k l := by
  rw [padded, padded, List.length_append, hgroup, Nat.add_mod_left, List.append_assoc]

theorem dvd_length_padded (hk : 0 < k) (l : List Bool) : k ∣ (padded k l).length := by
  have hlt := Nat.mod_lt l.length hk
  rw [padded, List.length_append, List.length_replicate, Nat.dvd_iff_mod_eq_zero, Nat.add_mod,
    Nat.mod_mod]
  by_cases hzero : l.length % k = 0
  · simp [hzero]
  · rw [Nat.mod_eq_of_lt (a := k - l.length % k) (by omega)]
    have hsum : l.length % k + (k - l.length % k) = k := by omega
    rw [hsum, Nat.mod_self]

end

end BrandBlitz.Lib.Bits

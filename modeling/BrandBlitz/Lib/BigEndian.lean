import Mathlib.Algebra.Order.Ring.Nat
import Mathlib.Data.List.Induction
import Mathlib.Tactic.Common

/-!
# BrandBlitz.Lib.BigEndian

**Big-endian numbers.** Writing a number that fits and reading it back, and reading bytes and
writing them back, are the identity.
-/

namespace BrandBlitz.Lib.BigEndian

/-- The number that the bytes spell, the most significant first. -/
def ofBytes (bytes : List UInt8) : Nat := bytes.foldl (fun n b => 256 * n + b.toNat) 0

/-- The last `k` bytes of a number. -/
def toBytes : Nat → Nat → List UInt8
  | 0, _ => []
  | k + 1, n => toBytes k (n / 256) ++ [UInt8.ofNat n]

@[simp] theorem length_toBytes (k n : Nat) : (toBytes k n).length = k := by
  induction k generalizing n with
  | zero => rfl
  | succ k ih => simp [toBytes, ih]

theorem ofBytes_concat (bytes : List UInt8) (b : UInt8) :
    ofBytes (bytes ++ [b]) = 256 * ofBytes bytes + b.toNat := by
  simp [ofBytes]

theorem ofBytes_toBytes {k n : Nat} (h : n < 256 ^ k) : ofBytes (toBytes k n) = n := by
  induction k generalizing n with
  | zero => simp only [Nat.pow_zero] at h; simp [toBytes, ofBytes]; omega
  | succ k ih =>
      have hhigh : n / 256 < 256 ^ k := by
        rw [Nat.pow_succ] at h
        omega
      rw [toBytes, ofBytes_concat, ih hhigh, UInt8.toNat_ofNat']
      omega

theorem ofBytes_lt (bytes : List UInt8) : ofBytes bytes < 256 ^ bytes.length := by
  induction bytes using List.reverseRecOn with
  | nil => simp [ofBytes]
  | append_singleton bytes b ih =>
      have hb := b.toNat_lt
      rw [ofBytes_concat, List.length_append, List.length_singleton, Nat.pow_succ]
      omega

theorem toBytes_ofBytes (bytes : List UInt8) : toBytes bytes.length (ofBytes bytes) = bytes := by
  induction bytes using List.reverseRecOn with
  | nil => rfl
  | append_singleton bytes b ih =>
      have hb := b.toNat_lt
      have hhigh : (256 * ofBytes bytes + b.toNat) / 256 = ofBytes bytes := by omega
      have hlow : UInt8.ofNat (256 * ofBytes bytes + b.toNat) = b := by
        apply UInt8.toNat_inj.mp
        rw [UInt8.toNat_ofNat']
        omega
      rw [List.length_append, List.length_singleton, toBytes, ofBytes_concat, hhigh, hlow, ih]

/-- The upper bytes and the lower ones. -/
theorem toBytes_add (j k n : Nat) : toBytes (j + k) n = toBytes j (n / 256 ^ k) ++ toBytes k n := by
  induction k generalizing n with
  | zero => simp [toBytes]
  | succ k ih =>
      rw [← Nat.add_assoc, toBytes, ih, toBytes, List.append_assoc, Nat.div_div_eq_div_mul,
        Nat.pow_succ']

theorem toBytes_mod (k n : Nat) : toBytes k (n % 256 ^ k) = toBytes k n := by
  induction k generalizing n with
  | zero => rfl
  | succ k ih =>
      have hhigh : n % 256 ^ (k + 1) / 256 = n / 256 % 256 ^ k := by
        rw [Nat.pow_succ', Nat.mod_mul_right_div_self]
      have hlow : UInt8.ofNat (n % 256 ^ (k + 1)) = UInt8.ofNat n := by
        apply UInt8.toNat_inj.mp
        rw [UInt8.toNat_ofNat', UInt8.toNat_ofNat', Nat.pow_succ', Nat.mod_mul_right_mod]
      rw [toBytes, hhigh, ih, hlow]
      rfl

end BrandBlitz.Lib.BigEndian

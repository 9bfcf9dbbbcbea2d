import Mathlib.Tactic.Common

/-!
# BrandBlitz.Lib.NumberText

**Integers as JavaScript writes them.** A number that is `NaN` is `none`. Different numbers have
different texts (`numberText_injective`), and a natural number that is padded with zeros is read
back (`toNumber_padded`).
-/

namespace BrandBlitz.Lib.NumberText

/-- `String(n)`. -/
def numberText : Option Int → List Char
  | none => "NaN".toList
  | some (.ofNat n) => Nat.toDigits 10 n
  | some (.negSucc n) => '-' :: Nat.toDigits 10 (n + 1)

/-- `String(n).padStart(2, "0")`. -/
def padded (n : Option Int) : List Char := (numberText n).leftpad 2 '0'

/-- `Number(text)`, for a text without sign, fraction, exponent and blanks. -/
def toNumber (text : List Char) : Option Int :=
  if text.all (·.isDigit) then some (Nat.ofDigitChars 10 text 0) else none

theorem toDigits_injective : Function.Injective (Nat.toDigits 10) := by
  intro m n h
  rw [← Nat.ofDigitChars_ten_toDigits (n := m), h, Nat.ofDigitChars_ten_toDigits]

theorem isDigit_of_mem_digits {n : Nat} {c : Char} (h : c ∈ Nat.toDigits 10 n) :
    c.isDigit = true := Nat.isDigit_of_mem_toDigits (by decide) (by decide) h

theorem not_mem_digits {n : Nat} {c : Char} (h : c.isDigit = false) : c ∉ Nat.toDigits 10 n := by
  intro hmem
  rw [isDigit_of_mem_digits hmem] at h
  cases h

/-- What each character of a list is checked for. The list decides it, not the type of characters,
which is finite too. -/
theorem forall_mem_of_all {l : List Char} {P : Char → Prop} [DecidablePred P]
    (h : l.all (fun c => decide (P c)) = true) : ∀ c ∈ l, P c := by
  simpa using h

theorem isUpper_range {c : Char} (h : c.isUpper = true) : 65 ≤ c.toNat ∧ c.toNat ≤ 90 := by
  have hrange : 'A'.val ≤ c.val ∧ c.val ≤ 'Z'.val := of_decide_eq_true h
  exact ⟨UInt32.le_iff_toNat_le.mp hrange.1, UInt32.le_iff_toNat_le.mp hrange.2⟩

theorem isLower_range {c : Char} (h : c.isLower = true) : 97 ≤ c.toNat ∧ c.toNat ≤ 122 := by
  have hrange : (decide ('a'.val ≤ c.val) && decide (c.val ≤ 'z'.val)) = true := h
  rw [Bool.and_eq_true, decide_eq_true_eq, decide_eq_true_eq] at hrange
  exact ⟨UInt32.le_iff_toNat_le.mp hrange.1, UInt32.le_iff_toNat_le.mp hrange.2⟩

theorem isDigit_range {c : Char} (h : c.isDigit = true) : 48 ≤ c.toNat ∧ c.toNat ≤ 57 := by
  have hrange : (decide ('0'.val ≤ c.val) && decide (c.val ≤ '9'.val)) = true := h
  rw [Bool.and_eq_true, decide_eq_true_eq, decide_eq_true_eq] at hrange
  exact ⟨UInt32.le_iff_toNat_le.mp hrange.1, UInt32.le_iff_toNat_le.mp hrange.2⟩

theorem toLower_of_isDigit {c : Char} (h : c.isDigit = true) : c.toLower = c := by
  refine dif_neg fun hupper => ?_
  have hA : 65 ≤ c.toNat := UInt32.le_iff_toNat_le.mp hupper.1
  have h9 := (isDigit_range h).2
  omega

theorem numberText_injective : Function.Injective numberText := by
  have hnan (n : Nat) : "NaN".toList ≠ Nat.toDigits 10 n := by
    intro h
    have hmem : 'N' ∈ "NaN".toList := by decide
    rw [h] at hmem
    exact not_mem_digits (by decide) hmem
  have hminus (m n : Nat) : '-' :: Nat.toDigits 10 (m + 1) ≠ Nat.toDigits 10 n := by
    intro h
    have hmem : '-' ∈ '-' :: Nat.toDigits 10 (m + 1) := List.mem_cons_self
    rw [h] at hmem
    exact not_mem_digits (by decide) hmem
  intro a b h
  -- the first character tells the three forms apart
  match a, b with
  | none, none => rfl
  | none, some (.ofNat n) => exact absurd h (hnan n)
  | none, some (.negSucc n) => exact absurd (List.cons.inj h).1 (by decide)
  | some (.ofNat m), none => exact absurd h.symm (hnan m)
  | some (.ofNat m), some (.ofNat n) => rw [toDigits_injective h]
  | some (.ofNat m), some (.negSucc n) => exact absurd h.symm (hminus n m)
  | some (.negSucc m), none => exact absurd (List.cons.inj h).1 (by decide)
  | some (.negSucc m), some (.ofNat n) => exact absurd h (hminus m n)
  | some (.negSucc m), some (.negSucc n) =>
      rw [Nat.succ.inj (toDigits_injective (List.cons.inj h).2)]

/-! ### Padding -/

section
variable {n m : Option Int} {c : Char}

/-- The text of `NaN` or of a natural number has no other characters than these. -/
theorem mem_numberText (hn : ∀ k ∈ n, 0 ≤ k) (hc : c ∈ numberText n) :
    c ∈ "NaN".toList ∨ c.isDigit = true := by
  match n with
  | none => exact .inl hc
  | some (.ofNat k) => exact .inr (isDigit_of_mem_digits hc)
  | some (.negSucc k) => exact absurd (hn _ rfl) (by omega)

theorem mem_padded (hn : ∀ k ∈ n, 0 ≤ k) (hc : c ∈ padded n) :
    c ∈ "NaN".toList ∨ c.isDigit = true := by
  rw [padded, List.leftpad, List.mem_append, List.mem_replicate] at hc
  rcases hc with ⟨-, rfl⟩ | hc
  · exact .inr (by decide)
  · exact mem_numberText hn hc

theorem toNumber_padded (hn : ∀ k ∈ n, 0 ≤ k) : toNumber (padded n) = n := by
  match n with
  | none => decide
  | some (.ofNat k) =>
      have hdigits : (padded (some (.ofNat k))).all (·.isDigit) = true := by
        rw [List.all_eq_true]
        intro c hc
        rw [padded, List.leftpad, List.mem_append, List.mem_replicate] at hc
        rcases hc with ⟨-, rfl⟩ | hc
        · decide
        · exact isDigit_of_mem_digits hc
      rw [toNumber, if_pos hdigits, padded, List.leftpad, Nat.ofDigitChars_append,
        Nat.ofDigitChars_replicate_zero, Nat.mul_zero, numberText, Nat.ofDigitChars_ten_toDigits]
      rfl
  | some (.negSucc k) => exact absurd (hn _ rfl) (by omega)

theorem padded_inj (hn : ∀ k ∈ n, 0 ≤ k) (hm : ∀ k ∈ m, 0 ≤ k) : padded n = padded m ↔ n = m := by
  constructor
  · intro h
    rw [← toNumber_padded hn, h, toNumber_padded hm]
  · intro h
    rw [h]

end

end BrandBlitz.Lib.NumberText

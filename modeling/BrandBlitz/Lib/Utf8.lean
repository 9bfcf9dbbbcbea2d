import Mathlib.Data.List.Basic
import Mathlib.Tactic.Common

/-!
# BrandBlitz.Lib.Utf8

**UTF-8, with replacement.** Encoding is total. Decoding is too: where the bytes are no UTF-8 it
writes U+FFFD, once for every longest start of an encoded character that is not continued, and
for every byte that starts none. What was encoded is decoded to what it was (`decode_encode`).
-/

namespace BrandBlitz.Lib.Utf8

def encode (text : List Char) : List UInt8 := text.flatMap String.utf8EncodeChar

/-! ### Decoding -/

/-- U+FFFD. -/
def replacement : Char := '\uFFFD'

/-- What is left of a character that has started. -/
structure Pending where
  /-- how many bytes are missing -/
  needed : Nat
  /-- the range of the next one -/
  lower : Nat
  upper : Nat
  /-- the bits so far -/
  codePoint : Nat
deriving DecidableEq, Repr

/-- A byte where no character has started. -/
def start (b : Nat) : List Char × Option Pending :=
  if b ≤ 0x7f then ([Char.ofNat b], none)
  else if 0xc2 ≤ b ∧ b ≤ 0xdf then ([], some ⟨1, 0x80, 0xbf, b - 0xc0⟩)
  else if 0xe0 ≤ b ∧ b ≤ 0xef then
    -- no character is written with more bytes than it needs, and none is a surrogate
    ([], some ⟨2, if b = 0xe0 then 0xa0 else 0x80, if b = 0xed then 0x9f else 0xbf, b - 0xe0⟩)
  else if 0xf0 ≤ b ∧ b ≤ 0xf4 then
    ([], some ⟨3, if b = 0xf0 then 0x90 else 0x80, if b = 0xf4 then 0x8f else 0xbf, b - 0xf0⟩)
  else ([replacement], none)

def step (pending : Option Pending) (b : Nat) : List Char × Option Pending :=
  match pending with
  | none => start b
  | some p =>
    if b < p.lower ∨ p.upper < b then (replacement :: (start b).1, (start b).2)
    else
      let codePoint := p.codePoint * 64 + (b - 0x80)
      if p.needed = 1 then ([Char.ofNat codePoint], none)
      else ([], some ⟨p.needed - 1, 0x80, 0xbf, codePoint⟩)

def decodeFrom (pending : Option Pending) : List UInt8 → List Char
  | [] => if pending.isSome then [replacement] else []
  | b :: rest => (step pending b.toNat).1 ++ decodeFrom (step pending b.toNat).2 rest

def decode (bytes : List UInt8) : List Char := decodeFrom none bytes

/-! ### The way back -/

theorem toNat_ofNat {n : Nat} (h : n < 256) : (UInt8.ofNat n).toNat = n := by
  rw [UInt8.toNat_ofNat']
  omega

theorem step_continue {p : Pending} {n : Nat} (hlower : p.lower ≤ n + 0x80)
    (hupper : n + 0x80 ≤ p.upper) (hneeded : p.needed ≠ 1) :
    step (some p) (n + 0x80) = ([], some ⟨p.needed - 1, 0x80, 0xbf, p.codePoint * 64 + n⟩) := by
  simp only [step]
  rw [if_neg (by omega), if_neg hneeded, Nat.add_sub_cancel]

theorem step_last {p : Pending} {n : Nat} (hlower : p.lower ≤ n + 0x80)
    (hupper : n + 0x80 ≤ p.upper) (hneeded : p.needed = 1) :
    step (some p) (n + 0x80) = ([Char.ofNat (p.codePoint * 64 + n)], none) := by
  simp only [step]
  rw [if_neg (by omega), if_pos hneeded, Nat.add_sub_cancel]

theorem decodeFrom_char (c : Char) (rest : List UInt8) :
    decodeFrom none (String.utf8EncodeChar c ++ rest) = c :: decodeFrom none rest := by
  have hvalid : c.toNat < 0xd800 ∨ 0xdfff < c.toNat ∧ c.toNat < 0x110000 := c.valid
  have hchar : Char.ofNat c.toNat = c := Char.ofNat_toNat c
  rw [String.utf8EncodeChar]
  have hval : c.val.toNat = c.toNat := rfl
  simp only [hval]
  generalize hv : c.toNat = v at hvalid hchar
  -- one case for each length, from one byte to four
  split_ifs with h1 h2 h3
  · simp only [List.cons_append, List.nil_append, decodeFrom, step, start]
    rw [toNat_ofNat (by omega), if_pos h1]
    simp [hchar]
  · have hlead : step none (v / 64 % 32 + 0xc0) = ([], some ⟨1, 0x80, 0xbf, v / 64⟩) := by
      simp only [step, start]
      rw [if_neg (by omega), if_pos (by omega), Nat.add_sub_cancel,
        Nat.mod_eq_of_lt (show v / 64 < 32 by omega)]
    have hpoint : v / 64 * 64 + v % 64 = v := by omega
    simp only [List.cons_append, List.nil_append, decodeFrom]
    rw [toNat_ofNat (by omega), toNat_ofNat (by omega), hlead,
      step_last (by simp) (by simp; omega) rfl]
    simp [hpoint, hchar]
  · have hlead : step none (v / 4096 % 16 + 0xe0) =
        ([], some ⟨2, if v / 4096 = 0 then 0xa0 else 0x80,
          if v / 4096 = 0xd then 0x9f else 0xbf, v / 4096⟩) := by
      simp only [step, start]
      rw [if_neg (by omega), if_neg (by omega), if_pos (by omega), Nat.add_sub_cancel,
        Nat.mod_eq_of_lt (show v / 4096 < 16 by omega)]
      simp
    have hpoint : (v / 4096 * 64 + v / 64 % 64) * 64 + v % 64 = v := by omega
    simp only [List.cons_append, List.nil_append, decodeFrom]
    rw [toNat_ofNat (by omega), toNat_ofNat (by omega), toNat_ofNat (by omega), hlead,
      step_continue (by split_ifs <;> simp <;> omega) (by dsimp only; split_ifs <;> omega)
        (by simp),
      step_last (by simp) (by simp; omega) rfl]
    simp [hpoint, hchar]
  · have hlead : step none (v / 262144 % 8 + 0xf0) =
        ([], some ⟨3, if v / 262144 = 0 then 0x90 else 0x80,
          if v / 262144 = 4 then 0x8f else 0xbf, v / 262144⟩) := by
      simp only [step, start]
      rw [if_neg (by omega), if_neg (by omega), if_neg (by omega), if_pos (by omega),
        Nat.add_sub_cancel, Nat.mod_eq_of_lt (show v / 262144 < 8 by omega)]
      simp
    have hpoint : ((v / 262144 * 64 + v / 4096 % 64) * 64 + v / 64 % 64) * 64 + v % 64 = v := by
      omega
    simp only [List.cons_append, List.nil_append, decodeFrom]
    rw [toNat_ofNat (by omega), toNat_ofNat (by omega), toNat_ofNat (by omega),
      toNat_ofNat (by omega), hlead,
      step_continue (by dsimp only; split_ifs <;> omega) (by dsimp only; split_ifs <;> omega)
        (by simp),
      step_continue (by simp) (by simp; omega) (by simp),
      step_last (by simp) (by simp; omega) rfl]
    simp [hpoint, hchar]

/-- **What was encoded is decoded to what it was.** -/
theorem decode_encode (text : List Char) : decode (encode text) = text := by
  induction text with
  | nil => rfl
  | cons c text ih =>
      rw [decode, encode, List.flatMap_cons, decodeFrom_char]
      exact congrArg (c :: ·) ih

end BrandBlitz.Lib.Utf8

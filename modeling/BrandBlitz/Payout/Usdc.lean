import Mathlib.Data.List.TakeWhile
import BrandBlitz.Lib.NumberText
import BrandBlitz.Stellar.Payout

/-!
# BrandBlitz.Payout.Usdc

**Amounts** (`apps/api/src/lib/usdc.ts`). The database and the allocation count in
stroops; the Stellar SDK takes decimal USDC with seven places. The printer and the
parser are inverse to each other, and every positive amount prints to one that
`submitBatchPayout` accepts: between them a payout keeps its exact value.
-/

namespace BrandBlitz.Payout

open BrandBlitz.Lib.NumberText
open BrandBlitz.Stellar

def STROOPS_PER_USDC : Nat := 10000000

/-- `stroopsToUsdc`: whole USDC, a point, and seven decimals. -/
def stroopsToUsdc (stroops : Nat) : Text :=
  Nat.toDigits 10 (stroops / STROOPS_PER_USDC) ++
    '.' :: (Nat.toDigits 10 (stroops % STROOPS_PER_USDC)).leftpad 7 '0'

/-- `usdcToStroops`: parses `^(\d+)(?:\.(\d{1,7})?)?$`. -/
def usdcToStroops (amount : Text) : Except Err Nat :=
  let (whole, rest) := decimalParts amount
  let fraction := rest.drop 1
  if !whole.isEmpty && (rest.isEmpty || (rest.head? = some '.' && fraction.all (·.isDigit) &&
      fraction.length ≤ 7)) then
    .ok (Nat.ofDigitChars 10 whole 0 * STROOPS_PER_USDC +
      Nat.ofDigitChars 10 (fraction.rightpad 7 '0') 0)
  else .error (Err.new
    "USDC amount must be a non-negative decimal with up to 7 places".toList)

/-- `calculatePayoutShareStroops`: a proportional share, rounded down. -/
def calculatePayoutShareStroops (userScore totalPointsAllUsers poolAmountStroops : Nat) : Nat :=
  if totalPointsAllUsers = 0 then 0
  else poolAmountStroops * userScore / totalPointsAllUsers

/-! ### Printed amounts -/

/-- A printed amount is digits, a point and seven digits that spell the value. -/
theorem stroopsToUsdc_parts (stroops : Nat) :
    ∃ whole fraction, stroopsToUsdc stroops = whole ++ '.' :: fraction ∧ whole ≠ [] ∧
      (∀ c ∈ whole, c.isDigit = true) ∧ (∀ c ∈ fraction, c.isDigit = true) ∧
      fraction.length = 7 ∧
      Nat.ofDigitChars 10 whole 0 * STROOPS_PER_USDC + Nat.ofDigitChars 10 fraction 0 =
        stroops := by
  have hlen : (Nat.toDigits 10 (stroops % STROOPS_PER_USDC)).length ≤ 7 := by
    refine (Nat.length_toDigits_le_iff (by decide) (by decide)).mpr ?_
    exact Nat.mod_lt _ (by decide)
  refine ⟨_, _, rfl, Nat.toDigits_ne_nil, fun c => isDigit_of_mem_digits, fun c hc => ?_,
    ?_, ?_⟩
  · simp only [List.leftpad, List.mem_append, List.mem_replicate] at hc
    rcases hc with ⟨-, rfl⟩ | hc
    · rfl
    · exact isDigit_of_mem_digits hc
  · simp only [List.leftpad, List.length_append, List.length_replicate]
    omega
  · rw [List.leftpad, Nat.ofDigitChars_append, Nat.ofDigitChars_replicate_zero, Nat.mul_zero,
      Nat.ofDigitChars_ten_toDigits, Nat.ofDigitChars_ten_toDigits, Nat.mul_comm,
      Nat.div_add_mod]

theorem decimalParts_digits {whole : Text} (hwhole : ∀ c ∈ whole, c.isDigit = true) :
    decimalParts whole = (whole, []) := by
  rw [decimalParts, List.takeWhile_eq_self_iff.mpr hwhole, List.dropWhile_eq_nil_iff.mpr hwhole]

theorem decimalParts_append {whole rest : Text} (hwhole : ∀ c ∈ whole, c.isDigit = true) :
    decimalParts (whole ++ '.' :: rest) = (whole, '.' :: rest) := by
  simp only [decimalParts, Prod.mk.injEq]
  constructor
  · rw [List.takeWhile_append_of_pos hwhole]
    simp
  · rw [List.dropWhile_append_of_pos hwhole]
    simp

/-- **Amounts survive printing and parsing.** -/
theorem usdcToStroops_stroopsToUsdc (stroops : Nat) :
    usdcToStroops (stroopsToUsdc stroops) = .ok stroops := by
  obtain ⟨whole, fraction, heq, hne, hwhole, hfraction, hlen, hvalue⟩ :=
    stroopsToUsdc_parts stroops
  have hpad : fraction.rightpad 7 '0' = fraction := by
    simp [List.rightpad, hlen]
  have haccept : (!whole.isEmpty && (('.' :: fraction).isEmpty ||
      (('.' :: fraction).head? = some '.' && (('.' :: fraction).drop 1).all (·.isDigit) &&
        (('.' :: fraction).drop 1).length ≤ 7))) = true := by
    simp [hne, hlen, List.all_eq_true.mpr hfraction]
  rw [heq, usdcToStroops, decimalParts_append hwhole]
  dsimp only
  rw [if_pos haccept, List.drop_one, List.tail_cons, hpad, hvalue]

theorem ofDigitChars_eq_zero {digits : Text} (h : ∀ c ∈ digits, c = '0') :
    Nat.ofDigitChars 10 digits 0 = 0 := by
  rw [List.eq_replicate_of_mem h, Nat.ofDigitChars_replicate_zero, Nat.mul_zero]

/-- A positive amount prints to one `submitBatchPayout` accepts. -/
theorem isValidStellarAmount_stroopsToUsdc {stroops : Nat} (hpos : 0 < stroops) :
    isValidStellarAmount (stroopsToUsdc stroops) = true := by
  obtain ⟨whole, fraction, heq, hne, hwhole, hfraction, hlen, hvalue⟩ :=
    stroopsToUsdc_parts stroops
  -- if every digit were zero, so would be the value
  have hdigit : ∃ c ∈ whole ++ '.' :: fraction, c.isDigit = true ∧ c ≠ '0' := by
    by_contra hnone
    have hzero : ∀ c ∈ whole ++ '.' :: fraction, c.isDigit = true → c = '0' := by
      intro c hc hd
      by_contra hc0
      exact hnone ⟨c, hc, hd, hc0⟩
    have hw := ofDigitChars_eq_zero fun c hc =>
      hzero c (List.mem_append_left _ hc) (hwhole c hc)
    have hf := ofDigitChars_eq_zero fun c hc =>
      hzero c (List.mem_append_right _ (List.mem_cons_of_mem _ hc)) (hfraction c hc)
    rw [hw, hf] at hvalue
    omega
  obtain ⟨c, hc, hd, hc0⟩ := hdigit
  rw [heq, isValidStellarAmount, decimalParts_append hwhole]
  have hany : (whole ++ '.' :: fraction).any (fun c => c.isDigit && c != '0') = true :=
    List.any_eq_true.mpr ⟨c, hc, by simp [hd, hc0]⟩
  simp [hany, hne, hlen, List.all_eq_true.mpr hfraction]

/-! ### Whole amounts

Digits alone are whole USDC to both parsers, whatever unit they were printed in. -/

theorem decimalParts_toDigits (n : Nat) :
    decimalParts (Nat.toDigits 10 n) = (Nat.toDigits 10 n, []) :=
  decimalParts_digits fun _ => isDigit_of_mem_digits

theorem usdcToStroops_toDigits (n : Nat) :
    usdcToStroops (Nat.toDigits 10 n) = .ok (n * STROOPS_PER_USDC) := by
  have hfraction : Nat.ofDigitChars 10 ['0', '0', '0', '0', '0', '0', '0'] 0 = 0 := by decide
  rw [usdcToStroops, decimalParts_toDigits]
  simp [hfraction, Nat.toDigits_ne_nil, Nat.ofDigitChars_ten_toDigits]

theorem isValidStellarAmount_toDigits {n : Nat} (hpos : 0 < n) :
    isValidStellarAmount (Nat.toDigits 10 n) = true := by
  have hdigit : ∃ c ∈ Nat.toDigits 10 n, c ≠ '0' := by
    by_contra hnone
    have hzero := ofDigitChars_eq_zero fun c hc => by_contra fun hc0 => hnone ⟨c, hc, hc0⟩
    rw [Nat.ofDigitChars_ten_toDigits] at hzero
    omega
  obtain ⟨c, hc, hc0⟩ := hdigit
  have hany : (Nat.toDigits 10 n).any (fun c => c.isDigit && c != '0') = true :=
    List.any_eq_true.mpr ⟨c, hc, by simp [isDigit_of_mem_digits hc, hc0]⟩
  rw [isValidStellarAmount, decimalParts_toDigits]
  simp [hany, Nat.toDigits_ne_nil]

end BrandBlitz.Payout

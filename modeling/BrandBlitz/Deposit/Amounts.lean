import Mathlib.Algebra.Order.Field.Rat
import Mathlib.Data.List.TakeWhile
import Mathlib.Tactic.FieldSimp
import Mathlib.Tactic.NormNum
import Mathlib.Tactic.Positivity
import Mathlib.Tactic.Ring
import BrandBlitz.Deposit.Webhook
import BrandBlitz.Payout.Usdc

/-!
# BrandBlitz.Deposit.Amounts

**One amount, three parsers** (`apps/api/src/lib/usdc.ts`, the `usdcToStroops` of
`apps/api/src/routes/webhooks.ts` and the end of `getAccountUsdcBalance` in
`packages/stellar/src/accounts.ts`).

The parser of the library accepts digits with at most seven more behind a point, which may also
be missing. On what it accepts all three read the same number of stroops, and that number
prints to the same amount with seven decimals. All of it rests on the decomposition of an
accepted text into the digits before and after the point (`usdcToStroops_ok`).
-/

namespace BrandBlitz.Deposit

open BrandBlitz.Lib
open BrandBlitz.Payout (usdcToStroops stroopsToUsdc STROOPS_PER_USDC decimalParts_digits
  decimalParts_append)
open BrandBlitz.Stellar (decimalParts isValidStellarAmount)

/-! ### What a text says -/

/-- The number that a decimal text denotes. -/
def denotes (amount : Text) : ℚ :=
  let (whole, rest) := decimalParts amount
  let fraction := rest.drop 1
  Nat.ofDigitChars 10 whole 0 + Nat.ofDigitChars 10 fraction 0 / 10 ^ fraction.length

/-- Digits, a point, and seven digits. -/
def HasSevenDecimals (amount : Text) : Prop :=
  ∃ whole fraction, amount = whole ++ '.' :: fraction ∧ whole ≠ [] ∧
    (∀ c ∈ whole, c.isDigit = true) ∧ (∀ c ∈ fraction, c.isDigit = true) ∧ fraction.length = 7

/-- The digits of an accepted text, before and after the point. -/
structure Digits (amount whole fraction : Text) : Prop where
  nonempty : whole ≠ []
  whole_digits : ∀ c ∈ whole, c.isDigit = true
  fraction_digits : ∀ c ∈ fraction, c.isDigit = true
  length_le : fraction.length ≤ 7
  spells : amount = whole ∧ fraction = [] ∨ amount = whole ++ '.' :: fraction

/-- The stroops of the digits. -/
def stroopsOf (whole fraction : Text) : Nat :=
  Nat.ofDigitChars 10 whole 0 * STROOPS_PER_USDC + Nat.ofDigitChars 10 (fraction.rightpad 7 '0') 0

/-- What the library's parser accepts. -/
theorem usdcToStroops_ok {amount : Text} {n : Nat} (h : usdcToStroops amount = .ok n) :
    ∃ whole fraction, Digits amount whole fraction ∧ n = stroopsOf whole fraction := by
  have hsplit : amount = (decimalParts amount).1 ++ (decimalParts amount).2 :=
    List.takeWhile_append_dropWhile.symm
  have hdigits : ∀ c ∈ (decimalParts amount).1, c.isDigit = true := fun c hc =>
    List.mem_takeWhile_imp hc
  generalize hparts : decimalParts amount = parts at hsplit hdigits
  obtain ⟨whole, rest⟩ := parts
  simp only [usdcToStroops, hparts] at h
  split at h
  · rename_i haccept
    simp only [Bool.and_eq_true, Bool.or_eq_true, Bool.not_eq_true', List.isEmpty_eq_false_iff,
      List.isEmpty_iff, decide_eq_true_eq, List.all_eq_true] at haccept
    obtain ⟨hnonempty, hrest⟩ := haccept
    refine ⟨whole, rest.drop 1, ?_, (Except.ok.inj h).symm⟩
    rcases hrest with rfl | ⟨⟨hpoint, hfraction⟩, hlength⟩
    · exact ⟨hnonempty, hdigits, by simp, by simp, .inl ⟨by simpa using hsplit, rfl⟩⟩
    · have hrest : rest = '.' :: rest.drop 1 := by
        cases rest with
        | nil => cases hpoint
        | cons c rest => rw [Option.some.inj hpoint]; rfl
      refine ⟨hnonempty, hdigits, hfraction, hlength, .inr ?_⟩
      rw [← hrest]
      exact hsplit
  · cases h

theorem ofDigitChars_rightpad (fraction : Text) :
    Nat.ofDigitChars 10 (fraction.rightpad 7 '0') 0 =
      10 ^ (7 - fraction.length) * Nat.ofDigitChars 10 fraction 0 := by
  rw [List.rightpad, Nat.ofDigitChars_append, Nat.ofDigitChars_replicate_zero]

namespace Digits

variable {amount whole fraction : Text} (h : Digits amount whole fraction)
include h

theorem decimalParts_eq : ∃ rest, decimalParts amount = (whole, rest) ∧ rest.drop 1 = fraction := by
  rcases h.spells with ⟨rfl, rfl⟩ | rfl
  · exact ⟨[], decimalParts_digits h.whole_digits, rfl⟩
  · exact ⟨'.' :: fraction, decimalParts_append h.whole_digits, rfl⟩

/-- An accepted text denotes its stroops. -/
theorem denotes_eq : denotes amount = (stroopsOf whole fraction : ℚ) / STROOPS_PER_USDC := by
  obtain ⟨rest, hparts, hrest⟩ := h.decimalParts_eq
  have hscale : (10 : ℚ) ^ fraction.length * 10 ^ (7 - fraction.length) = 10000000 := by
    rw [← pow_add, Nat.add_sub_cancel' h.length_le]
    norm_num
  have hpos : (10 : ℚ) ^ fraction.length ≠ 0 := by positivity
  simp only [denotes, hparts, hrest, stroopsOf, ofDigitChars_rightpad, STROOPS_PER_USDC]
  push_cast
  rw [← hscale]
  field_simp

/-- The other parsers read the same stroops. -/
theorem usdcTextToStroops_eq : usdcTextToStroops amount = .ok (stroopsOf whole fraction) := by
  have hne : ∀ {text : Text}, (∀ c ∈ text, c.isDigit = true) →
      ∀ c ∈ text, (decide (c ≠ '.')) = true := by
    intro text htext c hc
    have hdigit := htext c hc
    rw [decide_eq_true_eq]
    rintro rfl
    cases hdigit
  have hpadded : (fraction.rightpad 7 '0').length = 7 := by
    have hlength := h.length_le
    simp only [List.rightpad, List.length_append, List.length_replicate]
    omega
  have hdigits : (whole ++ fraction.rightpad 7 '0').all (·.isDigit) = true := by
    simp only [List.rightpad, List.all_append, List.all_eq_true, Bool.and_eq_true]
    exact ⟨h.whole_digits, h.fraction_digits, fun c hc => by rw [(List.mem_replicate.mp hc).2]; rfl⟩
  have hwhole : amount.takeWhile (· ≠ '.') = whole ∧
      ((amount.dropWhile (· ≠ '.')).drop 1).takeWhile (· ≠ '.') = fraction := by
    rcases h.spells with ⟨rfl, rfl⟩ | rfl
    · rw [List.takeWhile_eq_self_iff.mpr (hne h.whole_digits),
        List.dropWhile_eq_nil_iff.mpr (hne h.whole_digits)]
      exact ⟨rfl, rfl⟩
    · rw [List.takeWhile_append_of_pos (hne h.whole_digits),
        List.dropWhile_append_of_pos (hne h.whole_digits)]
      simpa using List.takeWhile_eq_self_iff.mpr (hne h.fraction_digits)
  rw [usdcTextToStroops, hwhole.1, hwhole.2]
  simp only [List.take_of_length_le hpadded.le, bigInt, hdigits, if_true]
  rw [Nat.ofDigitChars_append, Nat.ofDigitChars_eq_ofDigitChars_zero, hpadded, stroopsOf,
    Nat.mul_comm]
  rfl

end Digits

/-! ### The amounts agree -/

/-- A printed amount has seven decimals and denotes its stroops. -/
theorem stroopsToUsdc_printed (n : Nat) :
    HasSevenDecimals (stroopsToUsdc n) ∧
      denotes (stroopsToUsdc n) = (n : ℚ) / STROOPS_PER_USDC := by
  obtain ⟨whole, fraction, hprinted, hnonempty, hwhole, hfraction, hlength, hvalue⟩ :=
    Payout.stroopsToUsdc_parts n
  have hdigits : Digits (stroopsToUsdc n) whole fraction :=
    ⟨hnonempty, hwhole, hfraction, hlength.le, .inr hprinted⟩
  refine ⟨⟨whole, fraction, hprinted, hnonempty, hwhole, hfraction, hlength⟩, ?_⟩
  have hpadded : fraction.rightpad 7 '0' = fraction := by simp [List.rightpad, hlength]
  rw [hdigits.denotes_eq, stroopsOf, hpadded, hvalue]

theorem isValidStellarAmount_zero : isValidStellarAmount (stroopsToUsdc 0) = false := by
  decide +kernel

/-- `getAccountUsdcBalance`, for an account with a USDC line. -/
theorem getAccountUsdcBalance_run {deps : Deps} {W E : Type} {M : Machine apiSig Err W E}
    {env : Nat → E} {w w' : W} {balances : List BalanceLine} {line : BalanceLine} {n : Nat}
    (hload : M.exec (env 0) .loadAccount w = (.ok balances, w'))
    (hline : balances.find? (isUsdcLine deps) = some line) (hnonempty : line.balance ≠ [])
    (hparse : usdcTextToStroops line.balance = .ok n) :
    (getAccountUsdcBalance deps).run M env w = (.ok n, w') := by
  have hempty : line.balance.isEmpty = false := by simpa using hnonempty
  show (Prog.bind (Prog.call (S := apiSig) .loadAccount) _).run M env w = _
  simp only [Prog.call, Prog.bind, Prog.run, hload, Prog.ofExcept, hline, hempty, hparse]
  rfl

/-- **The parsers, the printer and the validator agree.** -/
theorem usdc_texts_agree :
    (∀ n : Nat, usdcToStroops (stroopsToUsdc n) = .ok n) ∧
    (∀ (amount : Text) (n : Nat), usdcToStroops amount = .ok n →
      denotes (stroopsToUsdc n) = denotes amount ∧ HasSevenDecimals (stroopsToUsdc n) ∧
      usdcTextToStroops amount = .ok n ∧
      ∀ (deps : Deps) {W E : Type} (M : Machine apiSig Err W E) (env : Nat → E) (w w' : W)
        (balances : List BalanceLine) (line : BalanceLine),
        M.exec (env 0) .loadAccount w = (.ok balances, w') →
        balances.find? (isUsdcLine deps) = some line → line.balance = amount →
        (getAccountUsdcBalance deps).run M env w = (.ok n, w')) ∧
    ∀ n : Nat, isValidStellarAmount (stroopsToUsdc n) = true ↔ 0 < n := by
  refine ⟨Payout.usdcToStroops_stroopsToUsdc, fun amount n hn => ?_, fun n => ⟨fun hvalid => ?_,
    Payout.isValidStellarAmount_stroopsToUsdc⟩⟩
  · obtain ⟨whole, fraction, hdigits, rfl⟩ := usdcToStroops_ok hn
    obtain ⟨hdecimals, hdenotes⟩ := stroopsToUsdc_printed (stroopsOf whole fraction)
    refine ⟨hdenotes.trans hdigits.denotes_eq.symm, hdecimals, hdigits.usdcTextToStroops_eq, ?_⟩
    rintro deps W E M env w w' balances line hload hline rfl
    have hnonempty : line.balance ≠ [] := by
      rcases hdigits.spells with ⟨hwhole, -⟩ | hpoint
      · rw [hwhole]
        exact hdigits.nonempty
      · rw [hpoint]
        simp
    exact getAccountUsdcBalance_run hload hline hnonempty hdigits.usdcTextToStroops_eq
  · by_contra hzero
    obtain rfl : n = 0 := by omega
    rw [isValidStellarAmount_zero] at hvalid
    cases hvalid

/-- One USDC line, whose balance is `01.5`. -/
def exampleLine : BalanceLine :=
  ⟨"credit_alphanum4".toList, "USDC".toList, "GISSUER".toList, "01.5".toList⟩

/-- A network that knows the account with that line and nothing else. -/
def oneAccount : Machine apiSig Err Unit Unit where
  exec _ op _ :=
    match op with
    | .loadAccount => (.ok [exampleLine], ())
    | _ => (.error (Err.new "Not Found".toList), ())

def issuerOnly : Deps := ⟨fun _ message => message, fun _ => [], fun _ => true, none,
  "GISSUER".toList⟩

theorem one_and_a_half_agrees :
    usdcToStroops (stroopsToUsdc 15000000) = .ok 15000000 ∧
    denotes (stroopsToUsdc 15000000) = denotes "01.5".toList ∧
    (getAccountUsdcBalance issuerOnly).run oneAccount (fun _ => ()) () = (.ok 15000000, ()) ∧
    isValidStellarAmount (stroopsToUsdc 15000000) = true := by
  obtain ⟨hprinted, hparsed, hvalid⟩ := usdc_texts_agree
  obtain ⟨hdenotes, -, -, haccount⟩ := hparsed "01.5".toList 15000000 (by decide +kernel)
  exact ⟨hprinted 15000000, hdenotes,
    haccount issuerOnly oneAccount (fun _ => ()) () () [exampleLine] exampleLine rfl
      (by decide +kernel) rfl,
    (hvalid 15000000).mpr (by decide)⟩

end BrandBlitz.Deposit

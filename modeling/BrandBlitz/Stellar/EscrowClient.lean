import Mathlib.Algebra.Order.Ring.Nat
import Mathlib.Data.Nat.Log
import BrandBlitz.Stellar.Payout

/-!
# BrandBlitz.Stellar.EscrowClient

What `EscrowClient.settle` (`packages/stellar/src/escrow.ts`) puts into the contract
call, and how it hands the call to the network.

* Every amount goes through `Number(amountStroops)`, a double: exact below `2^53`,
  and above that rounded to the nearest multiple of a power of two, ties to even.
* `sendTransaction` only answers whether the network has taken the transaction in. Of the
  four answers, the client tells `ERROR` from the others.
-/

namespace BrandBlitz.Stellar

open BrandBlitz.Lib

/-- One recipient of a settlement; `entry` tells whom it is meant for. -/
structure EscrowRecipient (ι : Type) where
  address : Text
  amountStroops : Nat
  entry : ι
deriving DecidableEq, Repr

/-- `Number(n)` for a natural number `n`, as an integer: 53 significant bits. -/
def toNumber (n : Nat) : Nat :=
  let unit := 2 ^ (n.log2 - 52)
  let quotient := n / unit
  let rest := n % unit
  if 2 * rest > unit || (2 * rest == unit && quotient % 2 == 1) then (quotient + 1) * unit
  else quotient * unit

/-- Below `2^53` nothing is rounded. -/
theorem toNumber_eq {n : Nat} (h : n < 2 ^ 53) : toNumber n = n := by
  have hunit : 2 ^ (n.log2 - 52) = 1 := by
    rcases Nat.eq_zero_or_pos n with rfl | hpos
    · simp [Nat.log2_zero]
    · have hlog : n.log2 < 53 := (Nat.log2_lt (by omega)).mpr h
      rw [show n.log2 - 52 = 0 by omega, Nat.pow_zero]
  simp [toNumber, hunit, Nat.mod_one]

/-- At most 53 significant bits. -/
def Representable (n : Nat) : Prop := ∃ m e, m < 2 ^ 53 ∧ n = m * 2 ^ e

theorem toNumber_eq_self_iff_dvd {n : Nat} : toNumber n = n ↔ 2 ^ (n.log2 - 52) ∣ n := by
  unfold toNumber
  simp only
  generalize hunit : 2 ^ (n.log2 - 52) = unit
  have hpos : 0 < unit := hunit ▸ Nat.two_pow_pos _
  have hsplit : n / unit * unit + n % unit = n := Nat.div_add_mod' n unit
  have hlt : n % unit < unit := Nat.mod_lt n hpos
  rw [Nat.dvd_iff_mod_eq_zero]
  split
  next hup =>
    simp only [Bool.or_eq_true, decide_eq_true_eq, Bool.and_eq_true, beq_iff_eq] at hup
    rw [Nat.add_mul, Nat.one_mul]
    omega
  next hdown => omega

theorem dvd_iff_representable {n : Nat} (hn : 0 < n) :
    2 ^ (n.log2 - 52) ∣ n ↔ Representable n := by
  constructor
  · intro ⟨m, hm⟩
    refine ⟨m, n.log2 - 52, ?_, by rw [Nat.mul_comm]; exact hm⟩
    have hlt : n < 2 ^ (n.log2 + 1) := Nat.lt_log2_self
    have hle : 2 ^ (n.log2 + 1) ≤ 2 ^ (n.log2 - 52) * 2 ^ 53 := by
      rw [← Nat.pow_add]
      exact Nat.pow_le_pow_right (by decide) (by omega)
    have hmul : 2 ^ (n.log2 - 52) * m < 2 ^ (n.log2 - 52) * 2 ^ 53 := by
      rw [← hm]
      exact hlt.trans_le hle
    exact Nat.lt_of_mul_lt_mul_left hmul
  · rintro ⟨m, e, hm, rfl⟩
    have hlt : m * 2 ^ e < 2 ^ (53 + e) := by
      rw [Nat.pow_add]
      exact Nat.mul_lt_mul_of_pos_right hm (Nat.two_pow_pos e)
    have hlog := (Nat.log2_lt hn.ne').mpr hlt
    exact (Nat.pow_dvd_pow 2 (by omega)).trans (Nat.dvd_mul_left _ _)

/-- Rounding leaves alone what has 53 significant bits at most. -/
theorem toNumber_eq_self_iff (n : Nat) : toNumber n = n ↔ Representable n := by
  rcases Nat.eq_zero_or_pos n with rfl | hpos
  · exact iff_of_true (toNumber_eq (by decide)) ⟨0, 0, by decide, rfl⟩
  · exact toNumber_eq_self_iff_dvd.trans (dvd_iff_representable hpos)

/-! ### `settle` -/

variable {ι : Type}

/-- The `status` of an answer to `sendTransaction`. -/
inductive SendStatus where
  | pending | duplicate | tryAgainLater | error
deriving DecidableEq, Repr

/-- What the client reads of an answer to `sendTransaction`. -/
structure SendTransactionResult where
  status : SendStatus
  hash : Hash
  errorDetails : Text
deriving DecidableEq, Repr

/-- A signed call of the contract's `settle`. -/
structure SettleTx (ι : Type) where
  hash : Hash
  recipients : List (EscrowRecipient ι)
deriving DecidableEq, Repr

/-- What `settle` awaits, and what the SDK may refuse. -/
inductive EscrowOp (ι : Type) where
  | loadAccount
  /-- `new Address(…)`, `nativeToScVal(…)`, `build()` and `sign(…)` -/
  | buildTransaction (sequence : Nat) (recipients : List (EscrowRecipient ι))
  | sendTransaction (tx : SettleTx ι)
deriving DecidableEq, Repr

/-- The answers: an account sequence, the transaction's hash, the network's answer. -/
abbrev escrowSig (ι : Type) : Sig where
  Op := EscrowOp ι
  Ans
    | .loadAccount => Nat
    | .buildTransaction .. => Hash
    | .sendTransaction _ => SendTransactionResult

/-- `EscrowClient.settle(recipients, …)`. -/
def EscrowClient.settle (recipients : List (EscrowRecipient ι)) :
    Prog (escrowSig ι) Err Hash := do
  let sequence ← Prog.call (S := escrowSig ι) .loadAccount
  let hash ← Prog.call (S := escrowSig ι) (.buildTransaction sequence recipients)
  let result ← withRetry (Prog.call (S := escrowSig ι) (.sendTransaction ⟨hash, recipients⟩))
    retryableStatusCodes 5
  if result.status = .error then
    .raise (Err.new ("Settle failed: ".toList ++ result.errorDetails))
  else return result.hash

end BrandBlitz.Stellar

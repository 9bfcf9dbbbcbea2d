import Mathlib.Algebra.BigOperators.Group.List.Basic

/-!
# BrandBlitz.Lib.TokenLedger

Balances of one fungible token over an arbitrary type of holders.

A `Ledger` maps every holder to a natural number, so a negative balance cannot
be written down. `move` is the effect of one transfer; a transfer is only
performed when the payer can afford it (`transfer`), and the lemmas below say
what a holder has after one transfer or after a list of transfers out of one
account, the self-transfer included.
-/

namespace BrandBlitz.Lib

/-- Balances of one fungible token. -/
structure Ledger (A : Type) where
  balance : A → Nat

namespace Ledger

variable {A : Type} [DecidableEq A]

/-- Move `amount` from `payer` to `payee`. A self-transfer leaves the balance
where it was, because the debit is done first. -/
def move (l : Ledger A) (payer payee : A) (amount : Nat) : Ledger A where
  balance x :=
    let debited := if x = payer then l.balance x - amount else l.balance x
    if x = payee then debited + amount else debited

/-- Transfer `amount`, refused when the payer's balance is insufficient. -/
def transfer (l : Ledger A) (payer payee : A) (amount : Nat) : Option (Ledger A) :=
  if amount ≤ l.balance payer then some (l.move payer payee amount) else none

theorem transfer_eq_some {l l' : Ledger A} {payer payee : A} {amount : Nat} :
    l.transfer payer payee amount = some l' ↔
      amount ≤ l.balance payer ∧ l' = l.move payer payee amount := by
  unfold transfer
  by_cases h : amount ≤ l.balance payer
  · rw [if_pos h]
    exact ⟨fun e => ⟨h, (Option.some.inj e).symm⟩, fun e => by rw [e.2]⟩
  · rw [if_neg h]
    exact ⟨fun e => absurd e (by simp), fun e => absurd e.1 h⟩

/-- What the payer has left: nothing changes when it pays itself. -/
theorem move_payer (l : Ledger A) {payer payee : A} {amount : Nat}
    (h : amount ≤ l.balance payer) :
    (l.move payer payee amount).balance payer =
      if payer = payee then l.balance payer else l.balance payer - amount := by
  simp only [move, if_true]
  split <;> omega

/-- What another holder has: the amount on top when it is the payee. -/
theorem move_of_ne (l : Ledger A) {payer payee x : A} {amount : Nat} (h : x ≠ payer) :
    (l.move payer payee amount).balance x =
      l.balance x + if x = payee then amount else 0 := by
  simp only [move, if_neg h]
  split <;> simp

end Ledger

end BrandBlitz.Lib

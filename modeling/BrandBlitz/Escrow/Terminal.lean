import BrandBlitz.Escrow.Conservation

/-!
# BrandBlitz.Escrow.Terminal

**Where the tokens go when an escrow is closed.** After `settle` or `refund` every
exit is closed for good, so what the contract still holds then is locked.

`settle` demands that the amounts sum to `Balance` exactly "to prevent permanently
locking funds", but the sum does not decide where the tokens end up: an entry
naming the escrow's own address is a transfer to itself and stays inside. The
results below say precisely what remains: the entries that name the contract
(`settle_remainder`), nothing otherwise, and nothing ever after `refund`, whose
payee is the recorded depositor and so never the contract.
-/

namespace BrandBlitz.Escrow

open BrandBlitz.Lib

variable {A : Type} [DecidableEq A] {contract : A}

/-- What a settlement pays back to the contract itself. -/
def retained (contract : A) (recipients : List (A × I128)) : Nat :=
  ((recipients.filter (·.1 = contract)).map (·.2.val.toNat)).sum

/-- Positive amounts split into what leaves the contract and what it keeps. -/
theorem outflow_add_retained (contract : A) {recipients : List (A × I128)}
    (hpos : ∀ p ∈ recipients, 0 < p.2.val) :
    ((outflow contract recipients + retained contract recipients : Nat) : Int) =
      (recipients.map (·.2.val)).sum := by
  induction recipients with
  | nil => rfl
  | cons p rest ih =>
      have hp := hpos p List.mem_cons_self
      have hrest := ih fun q hq => hpos q (List.mem_cons_of_mem p hq)
      by_cases hself : p.1 = contract
      · simp only [outflow, retained, hself, ne_eq, not_true_eq_false, decide_false,
          decide_true, Bool.false_eq_true, not_false_eq_true, List.filter_cons_of_neg,
          List.filter_cons_of_pos, List.map_cons, List.sum_cons] at hrest ⊢
        omega
      · simp only [outflow, retained, hself, ne_eq, not_false_eq_true, decide_true,
          decide_false, Bool.false_eq_true, List.filter_cons_of_neg,
          List.filter_cons_of_pos, List.map_cons, List.sum_cons] at hrest ⊢
        omega

/-- Nothing is retained exactly when no entry names the contract. -/
theorem retained_eq_zero {recipients : List (A × I128)}
    (hpos : ∀ p ∈ recipients, 0 < p.2.val) :
    retained contract recipients = 0 ↔ ∀ p ∈ recipients, p.1 ≠ contract := by
  simp only [retained, List.sum_eq_zero_iff, List.mem_map, List.mem_filter,
    decide_eq_true_eq, forall_exists_index, and_imp]
  constructor
  · intro h p hp hself
    have hzero := h _ p hp hself rfl
    have := hpos p hp
    omega
  · intro h n p hp hself _
    exact absurd hself (h p hp)

/-- After a settlement the contract holds what it held above `Balance`, plus the
entries that named it. -/
theorem settle_remainder {host : Host A contract} {recipients : List (A × I128)}
    {s s' : State A} (h : settle host recipients s = .ok s') {token : A}
    (htok : s.storage.token = some token) :
    ((s'.tokens token).balance contract : Int) =
      (s.tokens token).balance contract - (balance s).val + retained contract recipients := by
  obtain ⟨admin, token', total, s₁, -, -, -, -, hpos, hsum, htok', hpay, rfl⟩ := settle_ok h
  obtain rfl : token = token' := Option.some.inj (htok.symm.trans htok')
  obtain ⟨-, -, hbal⟩ := payRecipients_ok hpay
  have hsplit := outflow_add_retained contract hpos
  simp only [close]
  push_cast at hsplit
  omega

/-- After a refund the contract holds what it held above `Balance`. -/
theorem refund_remainder {host : Host A contract} {s s' : State A} {done : List (Call A)}
    (hi : Inv contract s done) (h : refund host s = .ok s') {token : A}
    (htok : s.storage.token = some token) :
    ((s'.tokens token).balance contract : Int) =
      (s.tokens token).balance contract - (balance s).val := by
  obtain ⟨admin, token', depositor, -, -, -, hpos, htok', hdep, hle, rfl⟩ := refund_ok h
  obtain rfl : token = token' := Option.some.inj (htok.symm.trans htok')
  have hne : contract ≠ depositor := Ne.symm (hi.depositor_ne depositor hdep)
  simp only [close, State.setLedger_tokens, Ledger.move_payer _ hle, if_neg hne]
  omega

/-- The recipients a terminal call names: those of `settle`, none of `refund`. -/
def Call.recipients : Call A → List (A × I128)
  | .settle recipients => recipients
  | _ => []

/-- **A terminal call empties the escrow exactly when no recipient is the escrow
itself.** From every reachable state whose holdings are what the deposits brought
in, a successful `settle` or `refund` leaves nothing behind if and only if it names
no recipient equal to the contract. -/
theorem terminal_call_empties_iff (tokens : A → Ledger A) (actions : List (Action A contract))
    (host : Host A contract) (c : Call A) (s' : State A) (token : A)
    (hterm : c.isTerminal = true)
    (hcall : invoke host c (run (State.initial tokens) actions).1 = .ok s')
    (htok : (run (State.initial tokens) actions).1.storage.token = some token)
    (honly : (((run (State.initial tokens) actions).1.tokens token).balance contract : Int) =
      depositSum (run (State.initial tokens) actions).2) :
    (s'.tokens token).balance contract = 0 ↔ ∀ p ∈ c.recipients, p.1 ≠ contract := by
  have hi := reachable_inv tokens actions
  generalize (run (State.initial tokens) actions).1 = s at *
  generalize (run (State.initial tokens) actions).2 = done at *
  cases c with
  | initializeEscrow admin token memo => cases hterm
  | deposit depositor amount => cases hterm
  | settle recipients =>
      obtain ⟨admin, token', total, s₁, -, -, hset, -, hpos, -⟩ := settle_ok hcall
      have hrem := settle_remainder hcall htok
      have hlive := (hi.live hset).1
      rw [Call.recipients, ← retained_eq_zero hpos]
      omega
  | refund =>
      obtain ⟨admin, token', depositor, -, -, hset, -⟩ := refund_ok hcall
      have hrem := refund_remainder hi hcall htok
      have hlive := (hi.live hset).1
      have hzero : (s'.tokens token).balance contract = 0 := by omega
      simp [hzero, Call.recipients]

/-! ### A settlement that locks its funds

The escrow is address `0`, its admin `1`, the token `2` and the depositor `3`. -/

/-- A host that lets everybody but the escrow authorise. -/
def openHost : Host Nat 0 where
  auth a := a ≠ 0
  auth_self := rfl
  refuses _ _ _ _ := false

/-- One hundred stroops as an `i128`. -/
def hundred : I128 := ⟨100, by decide, by decide⟩

/-- The depositor owns one hundred stroops and nobody else owns any. -/
def fundedDepositor (_ : Nat) : Ledger Nat := ⟨fun a => if a = 3 then 100 else 0⟩

/-- Initialise the escrow and deposit the hundred. -/
def fundEscrow : List (Action Nat 0) :=
  [.call openHost (.initializeEscrow 1 2 "memo"), .call openHost (.deposit 3 hundred)]

/-- Settling to the escrow's own address succeeds and keeps all hundred stroops
inside the closed contract. -/
theorem settle_to_self_locks_funds :
    ∃ s', invoke openHost (.settle [(0, hundred)])
        (run (State.initial fundedDepositor) fundEscrow).1 = .ok s' ∧
      (run (State.initial fundedDepositor) fundEscrow).1.storage.token = some 2 ∧
      (((run (State.initial fundedDepositor) fundEscrow).1.tokens 2).balance 0 : Int) =
        depositSum (run (State.initial fundedDepositor) fundEscrow).2 ∧
      isSettled s' = true ∧ (s'.tokens 2).balance 0 = 100 :=
  ⟨_, rfl, by decide, by decide, by decide, by decide⟩

/-- Settling to the depositor instead pays everything out. -/
theorem settle_to_depositor_empties :
    ∃ s', invoke openHost (.settle [(3, hundred)])
        (run (State.initial fundedDepositor) fundEscrow).1 = .ok s' ∧
      (s'.tokens 2).balance 0 = 0 :=
  ⟨_, rfl, (terminal_call_empties_iff fundedDepositor fundEscrow openHost
    (.settle [(3, hundred)]) _ 2 rfl rfl (by decide) (by decide)).mpr (by decide)⟩

end BrandBlitz.Escrow

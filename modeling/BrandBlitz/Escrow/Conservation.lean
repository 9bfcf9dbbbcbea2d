import BrandBlitz.Escrow.Contract

/-!
# BrandBlitz.Escrow.Conservation

**Conservation over whole runs.** The contract's `Balance` is tied to the history
of successful calls and to the token balance the contract really holds, in every
state that any sequence of calls can reach.

The invariant (`Inv`) relates a state to the calls that succeeded on the way to
it. It is preserved by one action (`Inv.perform`) and so by a run (`Inv.run`); the
stability facts (`run_of_settled`, `run_keeps_config`) are the same two-layer
shape without the invariant.

The escrow paying itself is harmless to the invariant: as the payer of a deposit
it is excluded by `Host.auth_self`, and as a recipient of `settle` it only leaves
the contract with *more* tokens than `Balance` says.
-/

namespace BrandBlitz.Escrow

open BrandBlitz.Lib

variable {A : Type}

/-! ### The history of a run -/

/-- The deposits among a list of calls. -/
def deposits (done : List (Call A)) : List (A × I128) :=
  done.filterMap fun
    | .deposit depositor amount => some (depositor, amount)
    | _ => none

/-- The exact integer sum of the deposits among a list of calls. -/
def depositSum (done : List (Call A)) : Int := ((deposits done).map (·.2.val)).sum

/-- `settle` and `refund` end the life of an escrow. -/
def Call.isTerminal : Call A → Bool
  | .settle _ | .refund => true
  | _ => false

@[simp] theorem deposits_nil : deposits ([] : List (Call A)) = [] := rfl

@[simp] theorem depositSum_nil : depositSum ([] : List (Call A)) = 0 := rfl

@[simp] theorem deposits_append (xs ys : List (Call A)) :
    deposits (xs ++ ys) = deposits xs ++ deposits ys := by
  simp [deposits]

@[simp] theorem depositSum_append (xs ys : List (Call A)) :
    depositSum (xs ++ ys) = depositSum xs + depositSum ys := by
  simp [depositSum]

variable [DecidableEq A] {contract : A}

/-! ### The invariant -/

/-- What ties a reachable state to the calls that succeeded on the way to it. -/
structure Inv (contract : A) (s : State A) (done : List (Call A)) : Prop where
  /-- Every deposit came from the recorded depositor. -/
  depositor : ∀ p ∈ deposits done, s.storage.depositor = some p.1
  /-- The recorded depositor is not the contract itself. -/
  depositor_ne : ∀ d, s.storage.depositor = some d → d ≠ contract
  /-- Before `initialize` nothing is stored and nothing has succeeded. -/
  fresh : s.storage.admin = none → s.storage = Storage.empty A ∧ done = []
  /-- While open, `Balance` is the sum of the deposits. -/
  live : isSettled s = false →
    (balance s).val = depositSum done ∧ done.countP Call.isTerminal = 0
  /-- Once closed, `Balance` is zero and exactly one terminal call succeeded. -/
  closed : isSettled s = true →
    (balance s).val = 0 ∧ done.countP Call.isTerminal = 1
  /-- The contract really holds its `Balance`. -/
  covered : ∀ token, s.storage.token = some token →
    (balance s).val ≤ (s.tokens token).balance contract

omit [DecidableEq A] in
/-- An uninitialised escrow satisfies the invariant, whatever anybody holds. -/
theorem Inv.initial (tokens : A → Ledger A) :
    Inv contract (State.initial tokens) ([] : List (Call A)) where
  depositor p hp := by simp at hp
  depositor_ne d hd := by simp [State.initial, Storage.empty] at hd
  fresh _ := ⟨rfl, rfl⟩
  live _ := ⟨rfl, rfl⟩
  closed h := by simp [isSettled, State.initial, Storage.empty] at h
  covered token h := by simp [State.initial, Storage.empty] at h

omit [DecidableEq A] in
/-- A state whose token is set has been initialised. -/
theorem Inv.admin_ne_none {s : State A} {done : List (Call A)} (hi : Inv contract s done)
    {token : A} (h : s.storage.token = some token) : s.storage.admin ≠ none := by
  intro hn
  rw [(hi.fresh hn).1] at h
  cases h

/-! ### One call -/

omit [DecidableEq A] in
theorem Inv.initializeEscrow {s s' : State A} {done : List (Call A)} {admin token : A}
    {memo : String} (hi : Inv contract s done)
    (h : initializeEscrow admin token memo s = .ok s') :
    Inv contract s' (done ++ [.initializeEscrow admin token memo]) := by
  obtain ⟨hn, rfl⟩ := initializeEscrow_ok h
  obtain ⟨hs, rfl⟩ := hi.fresh hn
  constructor
  · intro p hp
    simp [deposits] at hp
  · intro d hd
    exact hi.depositor_ne d hd
  · intro hc
    cases hc
  · intro _
    exact ⟨rfl, rfl⟩
  · intro hc
    cases hc
  · intro token' _
    exact Int.natCast_nonneg _

theorem Inv.deposit {host : Host A contract} {s s' : State A} {done : List (Call A)}
    {depositor : A} {amount : I128} (hi : Inv contract s done)
    (h : deposit host depositor amount s = .ok s') :
    Inv contract s' (done ++ [.deposit depositor amount]) := by
  obtain ⟨token, nb, hauth, hpos, hset, htok, hdep, hle, hnb, rfl⟩ := deposit_ok h
  -- the payer authorised the call, so it is not the escrow itself
  have hne : depositor ≠ contract := by
    rintro rfl
    rw [host.auth_self] at hauth
    cases hauth
  obtain ⟨hbal, hcount⟩ := hi.live hset
  constructor
  · intro p hp
    rw [deposits_append, List.mem_append] at hp
    rcases hp with hp | hp
    · rw [hdep p.1 (hi.depositor p hp)]
    · obtain rfl : p = (depositor, amount) := by simpa [deposits] using hp
      rfl
  · intro d hd
    obtain rfl : depositor = d := by simpa using hd
    exact hne
  · intro hn
    exact absurd hn (hi.admin_ne_none htok)
  · intro _
    refine ⟨?_, ?_⟩
    · simp only [balance, Option.getD_some, hnb, depositSum_append]
      rw [← hbal]
      simp [depositSum, deposits, balance]
    · simpa [Call.isTerminal] using hcount
  · intro hc
    exact absurd (hset.symm.trans hc) (by simp)
  · intro token' htok'
    obtain rfl : token = token' := Option.some.inj (htok.symm.trans htok')
    have hcov := hi.covered token htok
    have hmove : (((s.tokens token).move depositor contract amount.val.toNat).balance contract)
        = (s.tokens token).balance contract + amount.val.toNat := by
      rw [Ledger.move_of_ne _ (Ne.symm hne), if_pos rfl]
    simp only [balance, Option.getD_some, State.setLedger_tokens, hmove, hnb] at hcov ⊢
    omega

omit [DecidableEq A] in
/-- Closing an open escrow keeps the invariant, whatever it paid out. -/
theorem Inv.close {s s₁ : State A} {done : List (Call A)} {event : Event A} {c : Call A}
    (hi : Inv contract s done) (hset : isSettled s = false)
    (hst : s₁.storage = s.storage) (hadm : s.storage.admin ≠ none)
    (hc : c.isTerminal = true) : Inv contract (close event s₁) (done ++ [c]) := by
  obtain ⟨-, hcount⟩ := hi.live hset
  have hdeps : deposits (done ++ [c]) = deposits done := by
    cases c <;> simp_all [Call.isTerminal, deposits]
  constructor
  · intro p hp
    rw [hdeps] at hp
    simpa [Escrow.close, hst] using hi.depositor p hp
  · intro d hd
    exact hi.depositor_ne d (by simpa [Escrow.close, hst] using hd)
  · intro hn
    exact absurd (by simpa [Escrow.close, hst] using hn) hadm
  · intro ho
    simp [isSettled, Escrow.close] at ho
  · intro _
    exact ⟨rfl, by simp [hcount, hc]⟩
  · intro token _
    exact Int.natCast_nonneg _

theorem Inv.settle {host : Host A contract} {s s' : State A} {done : List (Call A)}
    {recipients : List (A × I128)} (hi : Inv contract s done)
    (h : settle host recipients s = .ok s') :
    Inv contract s' (done ++ [.settle recipients]) := by
  obtain ⟨admin, token, total, s₁, hadm, -, hset, -, -, -, -, hpay, rfl⟩ := settle_ok h
  exact hi.close hset (payRecipients_ok hpay).1 (by simp [hadm]) rfl

theorem Inv.refund {host : Host A contract} {s s' : State A} {done : List (Call A)}
    (hi : Inv contract s done) (h : refund host s = .ok s') :
    Inv contract s' (done ++ [.refund]) := by
  obtain ⟨admin, token, depositor, hadm, -, hset, -, -, -, -, rfl⟩ := refund_ok h
  exact hi.close hset rfl (by simp [hadm]) rfl

theorem Inv.invoke {host : Host A contract} {s s' : State A} {done : List (Call A)}
    {c : Call A} (hi : Inv contract s done) (h : invoke host c s = .ok s') :
    Inv contract s' (done ++ [c]) := by
  cases c with
  | initializeEscrow admin token memo => exact hi.initializeEscrow h
  | deposit depositor amount => exact hi.deposit h
  | settle recipients => exact hi.settle h
  | refund => exact hi.refund h

/-- Money moving between other parties can only add to what the escrow holds. -/
theorem Inv.setLedger {s : State A} {done : List (Call A)} {token : A} {l : Ledger A}
    (hi : Inv contract s done)
    (hl : (s.tokens token).balance contract ≤ l.balance contract) :
    Inv contract (s.setLedger token l) done where
  depositor := hi.depositor
  depositor_ne := hi.depositor_ne
  fresh := hi.fresh
  live := hi.live
  closed := hi.closed
  covered token' h := by
    have hcov := hi.covered token' h
    by_cases ht : token' = token
    · subst ht
      rw [State.setLedger_tokens]
      exact hcov.trans (by exact_mod_cast hl)
    · rw [State.setLedger_tokens_ne _ _ ht]
      exact hcov

/-! ### One action, and a whole run -/

/-- What one action can do: a call succeeds, or nothing happens, or somebody
else's transfer leaves the escrow with at least what it had. -/
theorem perform_cases (a : Action A contract) (s : State A) :
    (∃ (host : Host A contract) (c : Call A) (s' : State A),
      Escrow.invoke host c s = .ok s' ∧ a.perform s = (s', [c])) ∨
    a.perform s = (s, []) ∨
    (∃ token l, (s.tokens token).balance contract ≤ l.balance contract ∧
      a.perform s = (s.setLedger token l, [])) := by
  cases a with
  | call host c =>
      cases h : Escrow.invoke host c s with
      | ok s' => exact Or.inl ⟨host, c, s', h, by simp only [Action.perform, h]⟩
      | error e => exact Or.inr (Or.inl (by simp only [Action.perform, h]))
  | pay token payer payee amount hne =>
      cases h : (s.tokens token).transfer payer payee amount with
      | none => exact Or.inr (Or.inl (by simp only [Action.perform, h]))
      | some l =>
          refine Or.inr (Or.inr ⟨token, l, ?_, by simp only [Action.perform, h]⟩)
          obtain ⟨-, rfl⟩ := Ledger.transfer_eq_some.mp h
          rw [Ledger.move_of_ne _ (Ne.symm hne)]
          exact Nat.le_add_right _ _

/-- The invariant survives one action; a failed call changes nothing. -/
theorem Inv.perform {s : State A} {done : List (Call A)} (hi : Inv contract s done)
    (a : Action A contract) : Inv contract (a.perform s).1 (done ++ (a.perform s).2) := by
  rcases perform_cases a s with ⟨host, c, s', h, ha⟩ | ha | ⟨token, l, hl, ha⟩
  · rw [ha]
    exact hi.invoke h
  · rw [ha]
    simpa using hi
  · rw [ha]
    simpa using hi.setLedger hl

/-- The invariant survives a run. -/
theorem Inv.run (actions : List (Action A contract)) :
    ∀ {s : State A} {done : List (Call A)}, Inv contract s done →
      Inv contract (run s actions).1 (done ++ (run s actions).2) := by
  induction actions with
  | nil =>
      intro s done hi
      simpa [Escrow.run] using hi
  | cons a rest ih =>
      intro s done hi
      have h := ih (hi.perform a)
      simpa [Escrow.run, List.append_assoc] using h

/-- Every reachable state satisfies the invariant with its own history. -/
theorem reachable_inv (tokens : A → Ledger A) (actions : List (Action A contract)) :
    Inv contract (run (State.initial tokens) actions).1
      (run (State.initial tokens) actions).2 := by
  have hinit : Inv contract (State.initial tokens) [] := Inv.initial tokens
  simpa using hinit.run actions

theorem run_append (xs ys : List (Action A contract)) :
    ∀ s : State A, run s (xs ++ ys) =
      ((run (run s xs).1 ys).1, (run s xs).2 ++ (run (run s xs).1 ys).2) := by
  induction xs with
  | nil => intro s; simp [run]
  | cons a rest ih =>
      intro s
      simp [run, ih, List.append_assoc]

/-! ### What never changes -/

/-- A successful call found the escrow uninitialised or open. -/
theorem invoke_ok_open {host : Host A contract} {c : Call A} {s s' : State A}
    (h : invoke host c s = .ok s') : s.storage.admin = none ∨ isSettled s = false := by
  cases c with
  | initializeEscrow admin token memo => exact Or.inl (initializeEscrow_ok h).1
  | deposit depositor amount =>
      obtain ⟨token, nb, -, -, hset, -⟩ := deposit_ok h
      exact Or.inr hset
  | settle recipients =>
      obtain ⟨admin, token, total, s₁, -, -, hset, -⟩ := settle_ok h
      exact Or.inr hset
  | refund =>
      obtain ⟨admin, token, depositor, -, -, hset, -⟩ := refund_ok h
      exact Or.inr hset

/-- A call on an initialised escrow keeps `Admin`, `Token` and `Memo`. -/
theorem invoke_ok_config {host : Host A contract} {c : Call A} {s s' : State A}
    (h : invoke host c s = .ok s') (hadm : s.storage.admin ≠ none) :
    s'.storage.admin = s.storage.admin ∧ s'.storage.token = s.storage.token ∧
      s'.storage.memo = s.storage.memo := by
  cases c with
  | initializeEscrow admin token memo => exact absurd (initializeEscrow_ok h).1 hadm
  | deposit depositor amount =>
      obtain ⟨token, nb, -, -, -, -, -, -, -, rfl⟩ := deposit_ok h
      exact ⟨rfl, rfl, rfl⟩
  | settle recipients =>
      obtain ⟨admin, token, total, s₁, -, -, -, -, -, -, -, hpay, rfl⟩ := settle_ok h
      simp [close, (payRecipients_ok hpay).1]
  | refund =>
      obtain ⟨admin, token, depositor, -, -, -, -, -, -, -, rfl⟩ := refund_ok h
      exact ⟨rfl, rfl, rfl⟩

/-- Once settled, no action changes the storage and no call succeeds. -/
theorem perform_of_settled {s : State A} (hadm : s.storage.admin ≠ none)
    (hset : isSettled s = true) (a : Action A contract) :
    (a.perform s).1.storage = s.storage ∧ (a.perform s).2 = [] := by
  rcases perform_cases a s with ⟨host, c, s', h, ha⟩ | ha | ⟨token, l, -, ha⟩
  · rcases invoke_ok_open h with h' | h'
    · exact absurd h' hadm
    · exact absurd (hset.symm.trans h') (by simp)
  · rw [ha]
    exact ⟨rfl, rfl⟩
  · rw [ha]
    exact ⟨rfl, rfl⟩

theorem run_of_settled (actions : List (Action A contract)) :
    ∀ {s : State A}, s.storage.admin ≠ none → isSettled s = true →
      (run s actions).1.storage = s.storage ∧ (run s actions).2 = [] := by
  induction actions with
  | nil => intro s _ _; exact ⟨rfl, rfl⟩
  | cons a rest ih =>
      intro s hadm hset
      obtain ⟨hst, hdone⟩ := perform_of_settled hadm hset a
      obtain ⟨hst', hdone'⟩ := ih (s := (a.perform s).1) (by rwa [hst])
        (by simpa only [isSettled, hst] using hset)
      exact ⟨by simpa [run] using hst'.trans hst, by simp [run, hdone, hdone']⟩

theorem perform_keeps_config {s : State A} (hadm : s.storage.admin ≠ none)
    (a : Action A contract) :
    (a.perform s).1.storage.admin = s.storage.admin ∧
      (a.perform s).1.storage.token = s.storage.token ∧
      (a.perform s).1.storage.memo = s.storage.memo := by
  rcases perform_cases a s with ⟨host, c, s', h, ha⟩ | ha | ⟨token, l, -, ha⟩
  · rw [ha]
    exact invoke_ok_config h hadm
  · rw [ha]
    exact ⟨rfl, rfl, rfl⟩
  · rw [ha]
    exact ⟨rfl, rfl, rfl⟩

theorem run_keeps_config (actions : List (Action A contract)) :
    ∀ {s : State A}, s.storage.admin ≠ none →
      (run s actions).1.storage.admin = s.storage.admin ∧
        (run s actions).1.storage.token = s.storage.token ∧
        (run s actions).1.storage.memo = s.storage.memo := by
  induction actions with
  | nil => intro s _; exact ⟨rfl, rfl, rfl⟩
  | cons a rest ih =>
      intro s hadm
      obtain ⟨ha, ht, hm⟩ := perform_keeps_config hadm a
      obtain ⟨ha', ht', hm'⟩ := ih (s := (a.perform s).1) (by rwa [ha])
      exact ⟨ha'.trans ha, ht'.trans ht, hm'.trans hm⟩

/-! ### Conservation -/

/-- **Escrow conservation.** After any sequence of actions on an uninitialised
escrow, `Balance` is the exact sum of the successful deposits while open and zero
once closed; the contract holds at least `Balance`; closing is final and happens
at most once; there is one depositor; and the configuration is written once. The
actions `more` that follow are the "later" of the last clauses. -/
theorem escrow_conservation (tokens : A → Ledger A) (actions more : List (Action A contract)) :
    let s := (run (State.initial tokens) actions).1
    let done := (run (State.initial tokens) actions).2
    let s' := (run (State.initial tokens) (actions ++ more)).1
    let done' := (run (State.initial tokens) (actions ++ more)).2
    (isSettled s = false → (balance s).val = depositSum done) ∧
    (isSettled s = true → (balance s).val = 0) ∧
    (∀ token, s.storage.token = some token →
      (balance s).val ≤ (s.tokens token).balance contract) ∧
    (isSettled s = true → isSettled s' = true ∧ done' = done) ∧
    done.countP Call.isTerminal ≤ 1 ∧
    (∀ p ∈ deposits done, ∀ q ∈ deposits done, p.1 = q.1) ∧
    (s.storage.admin ≠ none →
      s'.storage.admin = s.storage.admin ∧ s'.storage.token = s.storage.token ∧
        s'.storage.memo = s.storage.memo) := by
  intro s done s' done'
  have hi : Inv contract s done := reachable_inv tokens actions
  have happ := run_append actions more (State.initial tokens)
  have hs' : s' = (run s more).1 := by simp only [s', s, happ]
  have hdone' : done' = done ++ (run s more).2 := by simp only [done', done, s, happ]
  refine ⟨fun h => (hi.live h).1, fun h => (hi.closed h).1, hi.covered, ?_, ?_, ?_, ?_⟩
  · intro hset
    -- an escrow without an admin has an empty storage, so it is not settled
    have hadm : s.storage.admin ≠ none := by
      intro hn
      rw [isSettled, (hi.fresh hn).1] at hset
      cases hset
    obtain ⟨hst, hnone⟩ := run_of_settled more hadm hset
    refine ⟨?_, by rw [hdone', hnone, List.append_nil]⟩
    rw [hs']
    simpa only [isSettled, hst] using hset
  · cases hset : isSettled s with
    | false => rw [(hi.live hset).2]; exact Nat.zero_le _
    | true => rw [(hi.closed hset).2]
  · intro p hp q hq
    exact Option.some.inj ((hi.depositor p hp).symm.trans (hi.depositor q hq))
  · intro hadm
    rw [hs']
    exact run_keeps_config more hadm

end BrandBlitz.Escrow

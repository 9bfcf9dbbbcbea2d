import BrandBlitz.Escrow.Terminal

/-!
# BrandBlitz.Escrow.Settling

**What `settle` answers**, in every reachable state and for every list.

The two loops of `settle` are described without them. The first one accepts the
lists of positive amounts that stay in range and stops otherwise at the first
entry at fault (`FirstFault`, `totalToDistribute_error_iff`). The second one
cannot fail once the amounts sum to `Balance`, because the contract holds at least
`Balance` (`Inv.covered`), and what the rest of the list asks for stays covered
from one transfer to the next (`exists_payRecipients`).

A call is then either `Settleable` or refused for exactly one reason, the first in
the order of the source (`Refusal`). Only a fault among the amounts is an
`InvalidAmount` or a `BalanceOverflow`; a list that sums to something else, an
empty one, a closed or uninitialised escrow and a stranger have answers of their
own.
-/

namespace BrandBlitz.Escrow

open BrandBlitz.Lib

variable {A : Type} [DecidableEq A] {contract : A}

/-! ### The first loop -/

/-- Entries the first loop gets past from the running total `start`. All amounts are
positive, so that no partial sum exceeds the last. -/
structure Clean (start : Int) (entries : List (A × I128)) : Prop where
  positive : ∀ p ∈ entries, 0 < p.2.val
  fits : start + (entries.map (·.2.val)).sum < 2 ^ 127

/-- The first entry at fault, and its error: an amount that is not positive, or one
that takes the running total out of range. -/
inductive FirstFault (start : Int) (recipients : List (A × I128)) : ContractError → Prop
  | amount {before after : List (A × I128)} {p : A × I128}
      (split : recipients = before ++ p :: after) (clean : Clean start before)
      (bad : p.2.val ≤ 0) : FirstFault start recipients .invalidAmount
  | overflow {before after : List (A × I128)} {p : A × I128}
      (split : recipients = before ++ p :: after) (clean : Clean start before)
      (positive : 0 < p.2.val)
      (exceeds : 2 ^ 127 ≤ start + (before.map (·.2.val)).sum + p.2.val) :
      FirstFault start recipients .balanceOverflow

omit [DecidableEq A] in
theorem Clean.nil (start : I128) : Clean start.val ([] : List (A × I128)) where
  positive p hp := absurd hp List.not_mem_nil
  fits := by simpa using start.lt_max

omit [DecidableEq A] in
theorem Clean.cons {start start' : Int} {p : A × I128} {rest : List (A × I128)}
    (hp : 0 < p.2.val) (hstart : start' = start + p.2.val) (h : Clean start' rest) :
    Clean start (p :: rest) where
  positive q hq := by
    rcases List.mem_cons.mp hq with rfl | hq
    · exact hp
    · exact h.positive q hq
  fits := by
    have := h.fits
    rw [List.map_cons, List.sum_cons]
    omega

omit [DecidableEq A] in
/-- An entry the loop gets past is not at fault itself. -/
theorem FirstFault.cons {start start' : Int} {p : A × I128} {rest : List (A × I128)}
    {e : ContractError} (hp : 0 < p.2.val) (hstart : start' = start + p.2.val)
    (h : FirstFault start' rest e) : FirstFault start (p :: rest) e := by
  cases h with
  | amount split clean bad =>
      subst split
      exact .amount rfl (clean.cons hp hstart) bad
  | @overflow before after q split clean positive exceeds =>
      subst split
      refine .overflow List.cons_append.symm (clean.cons hp hstart) positive ?_
      rw [List.map_cons, List.sum_cons]
      omega

omit [DecidableEq A] in
/-- The first loop carries its total from one part of the list to the next. -/
theorem totalToDistribute_append {before rest : List (A × I128)} {start total : I128}
    (h : totalToDistribute start before = .ok total) :
    totalToDistribute start (before ++ rest) = totalToDistribute total rest := by
  induction before generalizing start with
  | nil => rw [Except.ok.inj h, List.nil_append]
  | cons p before ih =>
      simp only [totalToDistribute, bind_ok] at h
      obtain ⟨u, hpos, acc, hadd, hrest⟩ := h
      rw [List.cons_append, totalToDistribute, hpos, hadd]
      exact ih hrest

omit [DecidableEq A] in
/-- It gets past a clean list with the exact sum. -/
theorem Clean.total (start : I128) {before : List (A × I128)} (h : Clean start.val before) :
    ∃ total : I128, total.val = start.val + (before.map (·.2.val)).sum ∧
      totalToDistribute start before = .ok total := by
  have hsum : 0 ≤ (before.map (·.2.val)).sum :=
    List.sum_nonneg (List.forall_mem_map.mpr fun p hp => (h.positive p hp).le)
  have hmin := start.ge_min
  let total : I128 := ⟨start.val + (before.map (·.2.val)).sum, by omega, h.fits⟩
  exact ⟨total, rfl, totalToDistribute_eq_ok_iff.mpr ⟨h.positive, rfl⟩⟩

omit [DecidableEq A] in
/-- The first loop fails exactly with the error of the first entry at fault. -/
theorem totalToDistribute_error_iff {recipients : List (A × I128)} {start : I128}
    {f : Failure} :
    totalToDistribute start recipients = .error f ↔
      ∃ e, f = .error e ∧ FirstFault start.val recipients e := by
  constructor
  · induction recipients generalizing start with
    | nil =>
        intro h
        cases h
    | cons p rest ih =>
        intro h
        by_cases hp : p.2.val ≤ 0
        · rw [totalToDistribute, rejectIf, if_pos hp] at h
          exact ⟨.invalidAmount, (Except.error.inj h).symm,
            .amount (List.nil_append _).symm (Clean.nil start) hp⟩
        · rw [totalToDistribute, rejectIf, if_neg hp] at h
          cases hadd : start.checkedAdd p.2 with
          | none =>
              rw [hadd] at h
              refine ⟨.balanceOverflow, (Except.error.inj h).symm,
                .overflow (List.nil_append _).symm (Clean.nil start) (not_le.mp hp) ?_⟩
              have hmin := start.ge_min
              have hout := Signed.checkedAdd_eq_none.mp hadd
              simp only [List.map_nil, List.sum_nil]
              omega
          | some total =>
              rw [hadd] at h
              obtain ⟨e, rfl, he⟩ := ih h
              exact ⟨e, rfl, he.cons (not_le.mp hp) (Signed.checkedAdd_eq_some.mp hadd)⟩
  · rintro ⟨e, rfl, h⟩
    cases h with
    | @amount before after p split clean bad =>
        obtain ⟨total, -, hok⟩ := Clean.total start clean
        rw [split, totalToDistribute_append hok, totalToDistribute, rejectIf, if_pos bad]
        rfl
    | @overflow before after p split clean positive exceeds =>
        obtain ⟨total, htotal, hok⟩ := Clean.total start clean
        have hadd : total.checkedAdd p.2 = none :=
          Signed.checkedAdd_eq_none.mpr (Or.inr (by rw [htotal]; exact exceeds))
        rw [split, totalToDistribute_append hok, totalToDistribute, rejectIf,
          if_neg (not_le.mpr positive), hadd]
        rfl

/-! ### The second loop -/

/-- The token makes every transfer of the escrow that the escrow can afford. -/
def Host.Pays (host : Host A contract) : Prop :=
  ∀ (l : Ledger A) (payee : A) (amount : I128), 0 ≤ amount.val →
    amount.val ≤ l.balance contract → host.refuses l contract payee amount = false

/-- What a settlement pays the address `a`: the entries that name it. -/
def credited (a : A) (recipients : List (A × I128)) : Nat := retained a recipients

theorem credited_cons (a : A) (p : A × I128) (rest : List (A × I128)) :
    credited a (p :: rest) = (if p.1 = a then p.2.val.toNat else 0) + credited a rest := by
  by_cases h : p.1 = a
  · simp [credited, retained, h]
  · simp [credited, retained, h]

theorem transfer_affordable {host : Host A contract} (hpays : host.Pays) {token payee : A}
    {amount : I128} {s : State A} (hpos : 0 < amount.val)
    (hle : amount.val ≤ (s.tokens token).balance contract) :
    transfer host token contract payee amount s =
      .ok (s.setLedger token ((s.tokens token).move contract payee amount.val.toNat)) := by
  have hmove : (s.tokens token).transfer contract payee amount.val.toNat =
      some ((s.tokens token).move contract payee amount.val.toNat) :=
    Ledger.transfer_eq_some.mpr ⟨by omega, rfl⟩
  simp [transfer, hpos.le, hpays _ payee amount hpos.le hle, hmove]

/-- Whatever order the recipients come in, the contract can pay them all when it can
pay their sum. -/
theorem exists_payRecipients {host : Host A contract} (hpays : host.Pays) {token : A}
    {recipients : List (A × I128)} (hpos : ∀ p ∈ recipients, 0 < p.2.val) :
    ∀ {s : State A}, (recipients.map (·.2.val)).sum ≤ (s.tokens token).balance contract →
      ∃ s', payRecipients host token recipients s = .ok s' := by
  induction recipients with
  | nil =>
      intro s _
      exact ⟨s, rfl⟩
  | cons p rest ih =>
      intro s hsum
      have hp := hpos p List.mem_cons_self
      have hrest : ∀ q ∈ rest, 0 < q.2.val := fun q hq => hpos q (List.mem_cons_of_mem p hq)
      have hnonneg : 0 ≤ (rest.map (·.2.val)).sum :=
        List.sum_nonneg (List.forall_mem_map.mpr fun q hq => (hrest q hq).le)
      rw [List.map_cons, List.sum_cons] at hsum
      rw [payRecipients, transfer_affordable hpays hp (by omega)]
      refine ih hrest ?_
      -- a transfer to the contract itself leaves even more
      rw [State.setLedger_tokens, Ledger.move_payer _ (by omega)]
      split <;> omega

/-- The second loop gives everybody else exactly what the list says, in one token. -/
theorem payRecipients_credits {host : Host A contract} {token : A}
    {recipients : List (A × I128)} :
    ∀ {s s' : State A}, payRecipients host token recipients s = .ok s' →
      (∀ a, a ≠ contract → (s'.tokens token).balance a =
        (s.tokens token).balance a + credited a recipients) ∧
      ∀ other, other ≠ token → s'.tokens other = s.tokens other := by
  induction recipients with
  | nil =>
      intro s s' h
      obtain rfl := Except.ok.inj h
      exact ⟨fun a _ => rfl, fun other _ => rfl⟩
  | cons p rest ih =>
      intro s s' h
      rw [payRecipients, bind_ok] at h
      obtain ⟨s₁, htr, hrest⟩ := h
      obtain ⟨-, hle, rfl⟩ := transfer_ok htr
      obtain ⟨hbal, hothers⟩ := ih hrest
      refine ⟨fun a ha => ?_, fun other hother => ?_⟩
      · rw [hbal a ha, State.setLedger_tokens, Ledger.move_of_ne _ ha, credited_cons]
        simp only [eq_comm (a := a)]
        omega
      · rw [hothers other hother, State.setLedger_tokens_ne _ _ hother]

/-! ### What a call answers -/

/-- The admin of an initialised escrow authorised the call. -/
def Entitled (host : Host A contract) (s : State A) : Prop :=
  ∃ admin, s.storage.admin = some admin ∧ host.auth admin = true

/-- The calls that `settle` accepts: an open escrow, its admin, and positive amounts
that add up to `Balance`. -/
structure Settleable (host : Host A contract) (recipients : List (A × I128)) (s : State A) :
    Prop where
  entitled : Entitled host s
  unsettled : isSettled s = false
  nonempty : recipients ≠ []
  positive : ∀ p ∈ recipients, 0 < p.2.val
  exact : (recipients.map (·.2.val)).sum = (balance s).val

/-- Why `settle` refuses a call, in the order in which it looks. -/
inductive Refusal (host : Host A contract) (recipients : List (A × I128)) (s : State A) :
    Failure → Prop
  | uninitialised (absent : s.storage.admin = none) :
      Refusal host recipients s (.error .notInitialized)
  | stranger {admin : A} (present : s.storage.admin = some admin)
      (silent : host.auth admin = false) : Refusal host recipients s .trap
  | closed (entitled : Entitled host s) (settled : isSettled s = true) :
      Refusal host recipients s (.error .alreadySettled)
  | nobody (entitled : Entitled host s) (unsettled : isSettled s = false)
      (empty : recipients = []) : Refusal host recipients s (.error .noRecipients)
  | fault {e : ContractError} (entitled : Entitled host s) (unsettled : isSettled s = false)
      (first : FirstFault 0 recipients e) : Refusal host recipients s (.error e)
  | below (entitled : Entitled host s) (unsettled : isSettled s = false)
      (nonempty : recipients ≠ []) (clean : Clean 0 recipients)
      (less : (recipients.map (·.2.val)).sum < (balance s).val) :
      Refusal host recipients s (.error .undistributedBalance)
  | above (entitled : Entitled host s) (unsettled : isSettled s = false)
      (nonempty : recipients ≠ []) (clean : Clean 0 recipients)
      (more : (balance s).val < (recipients.map (·.2.val)).sum) :
      Refusal host recipients s (.error .insufficientBalance)

omit [DecidableEq A] in
theorem FirstFault.ne_nil {start : Int} {recipients : List (A × I128)} {e : ContractError}
    (h : FirstFault start recipients e) : recipients ≠ [] := by
  cases h with
  | amount split => simp [split]
  | overflow split => simp [split]

/-- Past the checks on the call itself, the amounts decide. -/
theorem settle_of_entitled {host : Host A contract} {recipients : List (A × I128)}
    {s : State A} (entitled : Entitled host s) (unsettled : isSettled s = false)
    (nonempty : recipients ≠ []) :
    settle host recipients s = (do
      let total ← totalToDistribute 0 recipients
      rejectIf (total.val < (balance s).val) .undistributedBalance
      rejectIf (total.val > (balance s).val) .insufficientBalance
      let token ← okOr s.storage.token .notInitialized
      let s ← payRecipients host token recipients s
      return close (.settled total) s) := by
  obtain ⟨admin, hadm, hauth⟩ := entitled
  have hopen : ¬ s.storage.settled.getD false = true := ne_true_of_eq_false unsettled
  have hne : ¬ recipients.isEmpty = true := by simpa using nonempty
  simp only [settle, okOr_ok.mpr hadm, requireAuth_ok (u := ()).mpr hauth,
    rejectIf_ok (u := ()).mpr hopen, rejectIf_ok (u := ()).mpr hne, ok_bind]
  rfl

/-- Each reason is answered with its own error. -/
theorem Refusal.settle_eq {host : Host A contract} {recipients : List (A × I128)}
    {s : State A} {f : Failure} (h : Refusal host recipients s f) :
    settle host recipients s = .error f := by
  cases h with
  | uninitialised absent => rw [settle, absent]; rfl
  | stranger present silent =>
      rw [settle, present]
      simp [okOr, requireAuth, silent, bind, Except.bind]
  | closed entitled settled =>
      obtain ⟨admin, hadm, hauth⟩ := entitled
      have hclosed : s.storage.settled.getD false = true := settled
      simp [settle, hadm, okOr, requireAuth, hauth, rejectIf, hclosed, bind, Except.bind]
  | nobody entitled unsettled empty =>
      obtain ⟨admin, hadm, hauth⟩ := entitled
      have hopen : s.storage.settled.getD false = false := unsettled
      simp [settle, hadm, okOr, requireAuth, hauth, rejectIf, hopen, empty, bind, Except.bind]
  | fault entitled unsettled first =>
      have hfault : totalToDistribute 0 recipients = .error (.error _) :=
        totalToDistribute_error_iff.mpr ⟨_, rfl, first⟩
      rw [settle_of_entitled entitled unsettled first.ne_nil, hfault]
      rfl
  | below entitled unsettled nonempty clean less =>
      obtain ⟨total, htotal, hok⟩ := Clean.total 0 clean
      have hlt : total.val < (balance s).val := by
        rw [htotal, Signed.val_zero, zero_add]
        exact less
      rw [settle_of_entitled entitled unsettled nonempty, hok]
      simp [rejectIf, hlt, bind, Except.bind]
  | above entitled unsettled nonempty clean more =>
      obtain ⟨total, htotal, hok⟩ := Clean.total 0 clean
      have hlt : (balance s).val < total.val := by
        rw [htotal, Signed.val_zero, zero_add]
        exact more
      rw [settle_of_entitled entitled unsettled nonempty, hok]
      simp [rejectIf, not_lt.mpr hlt.le, hlt, bind, Except.bind]

omit [DecidableEq A] in
/-- Every list is clean or has a first entry at fault. -/
theorem clean_or_fault (recipients : List (A × I128)) :
    Clean 0 recipients ∨ ∃ e, FirstFault 0 recipients e := by
  cases h : totalToDistribute 0 recipients with
  | ok total =>
      obtain ⟨hpos, hsum⟩ := totalToDistribute_ok h
      refine Or.inl ⟨hpos, ?_⟩
      rw [← Signed.val_zero (w := 128), ← hsum]
      exact total.lt_max
  | error f =>
      obtain ⟨e, -, he⟩ := totalToDistribute_error_iff.mp h
      exact Or.inr ⟨e, he⟩

omit [DecidableEq A] in
/-- There is always an answer: the call is settleable, or there is a reason to refuse it. -/
theorem settleable_or_refused (host : Host A contract) (recipients : List (A × I128))
    (s : State A) : Settleable host recipients s ∨ ∃ f, Refusal host recipients s f := by
  cases hadm : s.storage.admin with
  | none => exact Or.inr ⟨_, .uninitialised hadm⟩
  | some admin =>
      cases hauth : host.auth admin with
      | false => exact Or.inr ⟨_, .stranger hadm hauth⟩
      | true =>
          have entitled : Entitled host s := ⟨admin, hadm, hauth⟩
          cases unsettled : isSettled s with
          | true => exact Or.inr ⟨_, .closed entitled unsettled⟩
          | false =>
              by_cases nonempty : recipients = []
              · exact Or.inr ⟨_, .nobody entitled unsettled nonempty⟩
              · rcases clean_or_fault recipients with clean | ⟨e, first⟩
                · rcases lt_trichotomy (recipients.map (·.2.val)).sum (balance s).val with
                    less | exact | more
                  · exact Or.inr ⟨_, .below entitled unsettled nonempty clean less⟩
                  · exact Or.inl ⟨entitled, unsettled, nonempty, clean.positive, exact⟩
                  · exact Or.inr ⟨_, .above entitled unsettled nonempty clean more⟩
                · exact Or.inr ⟨_, .fault entitled unsettled first⟩

/-! ### Reachable states -/

/-- `initialize` writes the admin and the token together, and nothing else writes them. -/
def Configured (s : State A) : Prop := s.storage.admin.isSome = s.storage.token.isSome

theorem Configured.invoke {host : Host A contract} {c : Call A} {s s' : State A}
    (hi : Configured s) (h : invoke host c s = .ok s') : Configured s' := by
  cases c with
  | initializeEscrow admin token memo =>
      obtain ⟨-, rfl⟩ := initializeEscrow_ok h
      exact rfl
  | deposit depositor amount =>
      obtain ⟨token, nb, -, -, -, -, -, -, -, rfl⟩ := deposit_ok h
      exact hi
  | settle recipients =>
      obtain ⟨admin, token, total, s₁, -, -, -, -, -, -, -, hpay, rfl⟩ := settle_ok h
      simpa only [Configured, close, (payRecipients_ok hpay).1] using hi
  | refund =>
      obtain ⟨admin, token, depositor, -, -, -, -, -, -, -, rfl⟩ := refund_ok h
      exact hi

theorem Configured.run (actions : List (Action A contract)) :
    ∀ {s : State A}, Configured s → Configured (run s actions).1 := by
  induction actions with
  | nil =>
      intro s hi
      exact hi
  | cons a rest ih =>
      intro s hi
      have hstep : Configured (a.perform s).1 := by
        rcases perform_cases a s with ⟨host, c, s', h, ha⟩ | ha | ⟨token, l, -, ha⟩
        · rw [ha]
          exact hi.invoke h
        · rw [ha]
          exact hi
        · rw [ha]
          exact hi
      exact ih hstep

/-- A settleable call on a covered escrow goes through. -/
theorem Settleable.exists_settle {host : Host A contract} {recipients : List (A × I128)}
    {s : State A} {done : List (Call A)} (h : Settleable host recipients s)
    (hpays : host.Pays) (hi : Inv contract s done) (hconf : Configured s) :
    ∃ s', settle host recipients s = .ok s' := by
  obtain ⟨admin, hadm, hauth⟩ := h.entitled
  obtain ⟨token, htok⟩ : ∃ token, s.storage.token = some token :=
    Option.isSome_iff_exists.mp (by rw [← hconf, hadm]; rfl)
  have hcovered := hi.covered token htok
  rw [← h.exact] at hcovered
  obtain ⟨s₁, hpay⟩ := exists_payRecipients hpays h.positive hcovered
  exact exists_settle_ok_iff.mpr ⟨⟨admin, hadm, hauth⟩, h.unsettled, h.nonempty, h.positive,
    h.exact, token, s₁, htok, hpay⟩

/-- What a settlement leaves behind: a closed escrow, every recipient paid what its
entries add up to, and no other balance touched. -/
structure PaidOut (contract : A) (recipients : List (A × I128)) (s s' : State A) : Prop where
  closed : s'.storage = { s.storage with settled := some true, balance := some 0 }
  paid : ∀ token, s.storage.token = some token → ∀ a, a ≠ contract →
    (s'.tokens token).balance a = (s.tokens token).balance a + credited a recipients
  kept : ∀ token, s.storage.token = some token →
    ((s'.tokens token).balance contract : Int) =
      (s.tokens token).balance contract - (balance s).val + credited contract recipients
  others : ∀ token, s.storage.token ≠ some token → s'.tokens token = s.tokens token

theorem settle_paidOut {host : Host A contract} {recipients : List (A × I128)}
    {s s' : State A} (h : settle host recipients s = .ok s') :
    PaidOut contract recipients s s' := by
  have hremainder := fun token (htok : s.storage.token = some token) => settle_remainder h htok
  obtain ⟨admin, token, total, s₁, -, -, -, -, -, -, htok, hpay, rfl⟩ := settle_ok h
  obtain ⟨hcredits, hothers⟩ := payRecipients_credits hpay
  refine ⟨?_, ?_, hremainder, ?_⟩
  · simp [close, (payRecipients_ok hpay).1]
  · intro token' htok'
    obtain rfl : token = token' := Option.some.inj (htok.symm.trans htok')
    exact hcredits
  · intro other hother
    exact hothers other fun heq => hother (by rw [htok, heq])

/-- **What `settle` answers.** In every reachable state, and for every list, `settle`
succeeds exactly when the call is settleable, and then everybody is paid; otherwise it
answers with the first reason in its own order, and nothing changes. -/
theorem settle_outcome (tokens : A → Ledger A) (actions : List (Action A contract))
    (host : Host A contract) (hpays : host.Pays) (recipients : List (A × I128)) :
    let s := (run (State.initial tokens) actions).1
    ((∃ s', settle host recipients s = .ok s') ↔ Settleable host recipients s) ∧
    (∀ s', settle host recipients s = .ok s' → PaidOut contract recipients s s') ∧
    (∀ f, settle host recipients s = .error f ↔ Refusal host recipients s f) ∧
    (∀ f, settle host recipients s = .error f →
      (Action.call host (.settle recipients)).perform s = (s, [])) := by
  intro s
  have hi : Inv contract s (run (State.initial tokens) actions).2 :=
    reachable_inv tokens actions
  have hinit : Configured (State.initial tokens) := rfl
  have hconf : Configured s := hinit.run actions
  have hsettles : Settleable host recipients s → ∃ s', settle host recipients s = .ok s' :=
    fun h => h.exists_settle hpays hi hconf
  refine ⟨⟨?_, hsettles⟩, fun s' => settle_paidOut, fun f => ⟨?_, Refusal.settle_eq⟩, ?_⟩
  · rintro ⟨s', hs'⟩
    rcases settleable_or_refused host recipients s with h | ⟨f, h⟩
    · exact h
    · exact absurd (hs'.symm.trans h.settle_eq) (by simp)
  · intro hf
    rcases settleable_or_refused host recipients s with h | ⟨f', h⟩
    · obtain ⟨s', hs'⟩ := hsettles h
      exact absurd (hs'.symm.trans hf) (by simp)
    · rwa [Except.error.inj (hf.symm.trans h.settle_eq)]
  · intro f hf
    simp only [Action.perform, Escrow.invoke, hf]

/-- Fifty stroops as an `i128`. -/
def fifty : I128 := ⟨50, by decide, by decide⟩

/-- Half to a winner and half to the escrow itself is settled like any other list. -/
theorem half_settled_to_self :
    ∃ s', settle openHost [(4, fifty), (0, fifty)]
        (run (State.initial fundedDepositor) fundEscrow).1 = .ok s' :=
  (settle_outcome fundedDepositor fundEscrow openHost (fun _ _ _ _ _ => rfl)
    [(4, fifty), (0, fifty)]).1.mpr
    ⟨⟨1, rfl, rfl⟩, rfl, by decide, by decide, by decide⟩

/-- A list of positive amounts below the balance is refused, but not for any of them. -/
theorem half_undistributed :
    ∃ f, settle openHost [(4, fifty)] (run (State.initial fundedDepositor) fundEscrow).1 =
        .error f ∧ f ≠ .error .invalidAmount ∧ f ≠ .error .balanceOverflow :=
  ⟨.error .undistributedBalance, rfl, by decide, by decide⟩

end BrandBlitz.Escrow

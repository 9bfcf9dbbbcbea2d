import BrandBlitz.Lib.Signed
import BrandBlitz.Lib.TokenLedger

/-!
# BrandBlitz.Escrow.Contract

The Soroban **escrow contract** (`contracts/contracts/escrow/src/lib.rs`):
`initialize`, `deposit`, `settle` and `refund` over instance storage and the
token balances of the ledger.

Design points:

* Instance storage is a record of optional values, one per `DataKey`; an absent
  key reads as `none` and the entry points apply the source's own `unwrap_or`
  and `ok_or`.
* An entry point either returns the new state or fails. A failure is a typed
  `ContractError` or a host **trap** (failed `require_auth`, failed token
  transfer); both make the host discard every effect of the call, so the state
  is only ever replaced by a successful call (`Action.perform`).
* What the host decides, and the contract cannot, is the `Host` record of a
  call: which addresses authorised it and which transfers the token refuses for
  reasons of its own. An address authorises a call by signing it, by being the
  contract that makes the call, or through its own `__check_auth`; the escrow
  exports no `__check_auth` and the host forbids re-entering a contract, so the
  escrow's own address is never among the authorisers (`Host.auth_self`).
* The token is a Stellar Asset Contract: `transfer` moves exactly `amount`, and
  traps on a negative amount or an insufficient balance.

Addresses are an arbitrary type with decidable equality.
-/

namespace BrandBlitz.Escrow

open BrandBlitz.Lib

/-- `i128`, the type of every amount of the contract. -/
abbrev I128 := Signed 128

/-- `ContractError`, in the source's order. -/
inductive ContractError
  | alreadyInitialized
  | notInitialized
  | alreadySettled
  | invalidAmount
  | insufficientBalance
  | nothingToRefund
  | depositorMismatch
  | noRecipients
  | undistributedBalance
  | balanceOverflow
  deriving DecidableEq, Repr

/-- Why a call fails: a typed error, or a host trap. -/
inductive Failure
  | error (e : ContractError)
  | trap
  deriving DecidableEq, Repr

/-- Instance storage, one field per `DataKey`. -/
structure Storage (A : Type) where
  admin : Option A
  token : Option A
  balance : Option I128
  memo : Option String
  depositor : Option A
  settled : Option Bool
  deriving DecidableEq

/-- The storage of a deployed contract nobody has initialised. -/
def Storage.empty (A : Type) : Storage A := ⟨none, none, none, none, none, none⟩

/-- The events of the contract's `events` module. -/
inductive Event (A : Type)
  | deposited (depositor : A) (amount : I128)
  | settled (total : I128)
  | refunded (depositor : A) (balance : I128)
  deriving DecidableEq

/-- Everything a call can change: the contract's storage, the balances of every
token contract, and the events published so far. -/
structure State (A : Type) where
  storage : Storage A
  tokens : A → Ledger A
  events : List (Event A)

/-- An uninitialised escrow over given token balances. -/
def State.initial {A : Type} (tokens : A → Ledger A) : State A :=
  ⟨Storage.empty A, tokens, []⟩

/-- What the host contributes to one call of the escrow at address `contract`. -/
structure Host (A : Type) (contract : A) where
  /-- The addresses whose `require_auth` succeeds in this call. -/
  auth : A → Bool
  /-- The escrow cannot authorise anything in its own name. -/
  auth_self : auth contract = false
  /-- Transfers the token traps on although the payer could afford them
  (missing trustline, frozen account, balance limit). -/
  refuses : Ledger A → A → A → I128 → Bool

section Host

variable {A : Type} {contract : A}

/-- `Address::require_auth`: traps unless the address authorised the call. -/
def requireAuth (host : Host A contract) (a : A) : Except Failure Unit :=
  if host.auth a then .ok () else .error .trap

/-- `Option::ok_or`. -/
def okOr {β : Type} (o : Option β) (e : ContractError) : Except Failure β :=
  match o with
  | some b => .ok b
  | none => .error (.error e)

/-- `if c { return Err(e); }`. -/
def rejectIf (c : Prop) [Decidable c] (e : ContractError) : Except Failure Unit :=
  if c then .error (.error e) else .ok ()

end Host

variable {A : Type} [DecidableEq A] {contract : A}

/-- Replace the balances of one token. -/
def State.setLedger (s : State A) (token : A) (l : Ledger A) : State A :=
  { s with tokens := Function.update s.tokens token l }

@[simp] theorem State.setLedger_storage (s : State A) (token : A) (l : Ledger A) :
    (s.setLedger token l).storage = s.storage := rfl

@[simp] theorem State.setLedger_events (s : State A) (token : A) (l : Ledger A) :
    (s.setLedger token l).events = s.events := rfl

@[simp] theorem State.setLedger_tokens (s : State A) (token : A) (l : Ledger A) :
    (s.setLedger token l).tokens token = l := by
  simp [State.setLedger]

theorem State.setLedger_tokens_ne (s : State A) {token token' : A} (l : Ledger A)
    (h : token' ≠ token) : (s.setLedger token l).tokens token' = s.tokens token' := by
  simp [State.setLedger, h]

/-- `TokenClient::transfer` on the token contract `token`. -/
def transfer (host : Host A contract) (token payer payee : A) (amount : I128) (s : State A) :
    Except Failure (State A) :=
  if amount.val < 0 then .error .trap
  else if host.refuses (s.tokens token) payer payee amount then .error .trap
  else
    match (s.tokens token).transfer payer payee amount.val.toNat with
    | none => .error .trap
    | some l => .ok (s.setLedger token l)

/-- `EscrowContract::initialize`. No authorisation is asked for. -/
def initializeEscrow (admin token : A) (memo : String) (s : State A) : Except Failure (State A) :=
  if s.storage.admin.isSome then .error (.error .alreadyInitialized)
  else
    .ok { s with
      storage :=
        { s.storage with
          admin := some admin
          token := some token
          memo := some memo
          settled := some false
          balance := some 0 } }

/-- `EscrowContract::deposit`. The overflow check comes after the transfer: on
overflow the host undoes the transfer with the rest of the call. -/
def deposit (host : Host A contract) (depositor : A) (amount : I128) (s : State A) :
    Except Failure (State A) := do
  requireAuth host depositor
  rejectIf (amount.val ≤ 0) .invalidAmount
  rejectIf (s.storage.settled.getD false) .alreadySettled
  let token ← okOr s.storage.token .notInitialized
  rejectIf (s.storage.depositor.any (· ≠ depositor)) .depositorMismatch
  let s ← transfer host token depositor contract amount s
  let current := s.storage.balance.getD 0
  let newBalance ← okOr (current.checkedAdd amount) .balanceOverflow
  return { s with
    storage := { s.storage with balance := some newBalance, depositor := some depositor }
    events := s.events ++ [.deposited depositor amount] }

/-- The first loop of `settle`: check every amount and add them up, stopping at
the first amount that is not positive or that overflows the running total. -/
def totalToDistribute (total : I128) : List (A × I128) → Except Failure I128
  | [] => .ok total
  | (_, amount) :: rest => do
    rejectIf (amount.val ≤ 0) .invalidAmount
    let total ← okOr (total.checkedAdd amount) .balanceOverflow
    totalToDistribute total rest

/-- The second loop of `settle`: pay the recipients in order. -/
def payRecipients (host : Host A contract) (token : A) :
    List (A × I128) → State A → Except Failure (State A)
  | [], s => .ok s
  | (recipient, amount) :: rest, s => do
    let s ← transfer host token contract recipient amount s
    payRecipients host token rest s

/-- Close the escrow: `Settled := true`, `Balance := 0`, and the event. -/
def close (event : Event A) (s : State A) : State A :=
  { s with
    storage := { s.storage with settled := some true, balance := some 0 }
    events := s.events ++ [event] }

/-- `EscrowContract::settle`. -/
def settle (host : Host A contract) (recipients : List (A × I128)) (s : State A) :
    Except Failure (State A) := do
  let admin ← okOr s.storage.admin .notInitialized
  requireAuth host admin
  rejectIf (s.storage.settled.getD false) .alreadySettled
  rejectIf (recipients.isEmpty) .noRecipients
  let balance := s.storage.balance.getD 0
  let total ← totalToDistribute 0 recipients
  rejectIf (total.val < balance.val) .undistributedBalance
  rejectIf (total.val > balance.val) .insufficientBalance
  let token ← okOr s.storage.token .notInitialized
  let s ← payRecipients host token recipients s
  return close (.settled total) s

/-- `EscrowContract::refund`. -/
def refund (host : Host A contract) (s : State A) : Except Failure (State A) := do
  let admin ← okOr s.storage.admin .notInitialized
  requireAuth host admin
  rejectIf (s.storage.settled.getD false) .alreadySettled
  let balance := s.storage.balance.getD 0
  rejectIf (balance.val = 0) .nothingToRefund
  let token ← okOr s.storage.token .notInitialized
  let depositor ← okOr s.storage.depositor .notInitialized
  let s ← transfer host token contract depositor balance s
  return close (.refunded depositor balance) s

/-- View: the escrowed balance. -/
def balance (s : State A) : I128 := s.storage.balance.getD 0

/-- View: whether the escrow was settled or refunded. -/
def isSettled (s : State A) : Bool := s.storage.settled.getD false

/-! ### Calls and runs -/

/-- A call of one of the four entry points. -/
inductive Call (A : Type)
  | initializeEscrow (admin token : A) (memo : String)
  | deposit (depositor : A) (amount : I128)
  | settle (recipients : List (A × I128))
  | refund
  deriving DecidableEq

/-- Run a call. -/
def invoke (host : Host A contract) : Call A → State A → Except Failure (State A)
  | .initializeEscrow admin token memo => initializeEscrow admin token memo
  | .deposit depositor amount => deposit host depositor amount
  | .settle recipients => settle host recipients
  | .refund => refund host

/-- What can happen to the contract: somebody calls it, or a token moves
between other parties. Only the escrow itself can move what it holds, so the
payer of a foreign transfer is someone else. -/
inductive Action (A : Type) (contract : A)
  | call (host : Host A contract) (c : Call A)
  | pay (token payer payee : A) (amount : Nat) (ne : payer ≠ contract)

/-- One action: the new state, and the call if it succeeded. A failed call
leaves the state as it was. -/
def Action.perform : Action A contract → State A → State A × List (Call A)
  | .call host c, s =>
    match invoke host c s with
    | .ok s' => (s', [c])
    | .error _ => (s, [])
  | .pay token payer payee amount _, s =>
    match (s.tokens token).transfer payer payee amount with
    | some l => (s.setLedger token l, [])
    | none => (s, [])

/-- A run: the state it ends in, and the calls that succeeded, in order. -/
def run (s : State A) : List (Action A contract) → State A × List (Call A)
  | [] => (s, [])
  | a :: rest =>
    let (s', done) := a.perform s
    let (s'', done') := run s' rest
    (s'', done ++ done')

/-! ### What a successful call did

One inversion lemma per entry point. Each lists every check the call passed and
the state it left, so that no later proof unfolds an entry point. -/

theorem bind_ok {α β : Type} {x : Except Failure α} {f : α → Except Failure β} {b : β} :
    (x >>= f) = .ok b ↔ ∃ a, x = .ok a ∧ f a = .ok b := by
  cases x with
  | error e => simp [bind, Except.bind]
  | ok a => simp [bind, Except.bind]

theorem ok_bind {α β : Type} (a : α) (f : α → Except Failure β) :
    ((.ok a : Except Failure α) >>= f) = f a := rfl

omit [DecidableEq A] in
theorem requireAuth_ok {host : Host A contract} {a : A} {u : Unit} :
    requireAuth host a = .ok u ↔ host.auth a = true := by
  unfold requireAuth
  split <;> simp_all

theorem okOr_ok {β : Type} {o : Option β} {e : ContractError} {b : β} :
    okOr o e = .ok b ↔ o = some b := by
  cases o <;> simp [okOr]

theorem rejectIf_ok {c : Prop} [Decidable c] {e : ContractError} {u : Unit} :
    rejectIf c e = .ok u ↔ ¬c := by
  unfold rejectIf
  split <;> simp_all

/-- A transfer that went through. -/
theorem transfer_ok {host : Host A contract} {token payer payee : A} {amount : I128}
    {s s' : State A} (h : transfer host token payer payee amount s = .ok s') :
    0 ≤ amount.val ∧ amount.val.toNat ≤ (s.tokens token).balance payer ∧
      s' = s.setLedger token ((s.tokens token).move payer payee amount.val.toNat) := by
  unfold transfer at h
  split at h
  · cases h
  · rename_i hneg
    split at h
    · cases h
    · split at h
      · cases h
      · rename_i l hl
        obtain ⟨hle, rfl⟩ := Ledger.transfer_eq_some.mp hl
        exact ⟨not_lt.mp hneg, hle, (Except.ok.inj h).symm⟩

omit [DecidableEq A] in
theorem initializeEscrow_ok {admin token : A} {memo : String} {s s' : State A}
    (h : initializeEscrow admin token memo s = .ok s') :
    s.storage.admin = none ∧
      s' = { s with storage :=
              { s.storage with
                admin := some admin
                token := some token
                memo := some memo
                settled := some false
                balance := some 0 } } := by
  unfold initializeEscrow at h
  split at h
  · cases h
  · rename_i hn
    exact ⟨by simpa using hn, (Except.ok.inj h).symm⟩

theorem deposit_ok {host : Host A contract} {depositor : A} {amount : I128} {s s' : State A}
    (h : deposit host depositor amount s = .ok s') :
    ∃ token newBalance,
      host.auth depositor = true ∧ 0 < amount.val ∧ isSettled s = false ∧
      s.storage.token = some token ∧
      (∀ d, s.storage.depositor = some d → d = depositor) ∧
      amount.val.toNat ≤ (s.tokens token).balance depositor ∧
      newBalance.val = (balance s).val + amount.val ∧
      s' = { s.setLedger token ((s.tokens token).move depositor contract amount.val.toNat) with
              storage :=
                { s.storage with balance := some newBalance, depositor := some depositor }
              events := s.events ++ [.deposited depositor amount] } := by
  simp only [deposit, bind_ok, requireAuth_ok, rejectIf_ok, okOr_ok] at h
  obtain ⟨_, hauth, _, hpos, _, hset, token, htok, _, hdep, s₁, htr, nb, hnb, hret⟩ := h
  obtain ⟨-, hle, rfl⟩ := transfer_ok htr
  refine ⟨token, nb, hauth, by omega, by simpa [isSettled] using hset, htok, ?_, hle,
    Signed.checkedAdd_eq_some.mp hnb, (Except.ok.inj hret).symm⟩
  intro d hd
  simpa [hd] using hdep

omit [DecidableEq A] in
/-- The first loop of `settle` accepts only lists of positive amounts, whose exact
sum it returns. -/
theorem totalToDistribute_ok {recipients : List (A × I128)} :
    ∀ {acc total : I128}, totalToDistribute acc recipients = .ok total →
      (∀ p ∈ recipients, 0 < p.2.val) ∧
        total.val = acc.val + (recipients.map (·.2.val)).sum := by
  induction recipients with
  | nil =>
      intro acc total h
      obtain rfl := Except.ok.inj h
      simp
  | cons p rest ih =>
      intro acc total h
      obtain ⟨recipient, amount⟩ := p
      simp only [totalToDistribute, bind_ok, rejectIf_ok, okOr_ok] at h
      obtain ⟨_, hpos, acc', hadd, hrest⟩ := h
      obtain ⟨hall, hsum⟩ := ih hrest
      rw [Signed.checkedAdd_eq_some] at hadd
      refine ⟨?_, ?_⟩
      · intro q hq
        rcases List.mem_cons.mp hq with rfl | hq
        · exact not_le.mp hpos
        · exact hall q hq
      · simp only [List.map_cons, List.sum_cons]
        omega

omit [DecidableEq A] in
/-- And it accepts all of them, as long as the sum is in range. -/
theorem totalToDistribute_eq_ok_iff {recipients : List (A × I128)} :
    ∀ {acc total : I128}, totalToDistribute acc recipients = .ok total ↔
      (∀ p ∈ recipients, 0 < p.2.val) ∧
        total.val = acc.val + (recipients.map (·.2.val)).sum := by
  intro acc total
  refine ⟨totalToDistribute_ok, ?_⟩
  intro h
  obtain ⟨hpos, hsum⟩ := h
  induction recipients generalizing acc with
  | nil => exact congrArg Except.ok (Signed.ext (by simpa using hsum.symm))
  | cons p rest ih =>
      obtain ⟨recipient, amount⟩ := p
      have hamount : 0 < amount.val := hpos _ List.mem_cons_self
      have hrest : ∀ p ∈ rest, 0 < p.2.val := fun p hp => hpos p (List.mem_cons_of_mem _ hp)
      have hnonneg : 0 ≤ (rest.map (·.2.val)).sum :=
        List.sum_nonneg (List.forall_mem_map.mpr fun p hp => (hrest p hp).le)
      simp only [List.map_cons, List.sum_cons] at hsum
      -- a partial sum lies between the start and the total
      have hmin := acc.ge_min
      have hmax := total.lt_max
      let acc' : I128 := ⟨acc.val + amount.val, by omega, by omega⟩
      simp only [totalToDistribute, bind_ok, rejectIf_ok, okOr_ok]
      exact ⟨(), not_le.mpr hamount, acc', Signed.checkedAdd_eq_some.mpr rfl,
        ih hrest (by dsimp only [acc']; omega)⟩

/-- What leaves the contract when the recipients are paid: an entry naming the
contract itself moves nothing. -/
def outflow (contract : A) (recipients : List (A × I128)) : Nat :=
  ((recipients.filter (·.1 ≠ contract)).map (·.2.val.toNat)).sum

/-- The second loop of `settle` touches only the balances of one token, and
takes exactly the outflow out of the contract. -/
theorem payRecipients_ok {host : Host A contract} {token : A}
    {recipients : List (A × I128)} :
    ∀ {s s' : State A}, payRecipients host token recipients s = .ok s' →
      s'.storage = s.storage ∧ s'.events = s.events ∧
        (s'.tokens token).balance contract + outflow contract recipients =
          (s.tokens token).balance contract := by
  induction recipients with
  | nil =>
      intro s s' h
      obtain rfl := Except.ok.inj h
      simp [outflow]
  | cons p rest ih =>
      intro s s' h
      obtain ⟨recipient, amount⟩ := p
      simp only [payRecipients, bind_ok] at h
      obtain ⟨s₁, htr, hrest⟩ := h
      obtain ⟨-, hle, rfl⟩ := transfer_ok htr
      obtain ⟨hst, hev, hbal⟩ := ih hrest
      refine ⟨hst, hev, ?_⟩
      simp only [State.setLedger_tokens, Ledger.move_payer _ hle] at hbal
      by_cases hself : recipient = contract
      · subst hself
        simpa [outflow] using hbal
      · rw [if_neg (Ne.symm hself)] at hbal
        simp only [outflow, hself, ne_eq, not_false_eq_true, decide_true,
          List.filter_cons_of_pos, List.map_cons, List.sum_cons] at hbal ⊢
        omega

theorem settle_ok {host : Host A contract} {recipients : List (A × I128)} {s s' : State A}
    (h : settle host recipients s = .ok s') :
    ∃ admin token total s₁,
      s.storage.admin = some admin ∧ host.auth admin = true ∧ isSettled s = false ∧
      recipients ≠ [] ∧ (∀ p ∈ recipients, 0 < p.2.val) ∧
      (recipients.map (·.2.val)).sum = (balance s).val ∧
      s.storage.token = some token ∧
      payRecipients host token recipients s = .ok s₁ ∧
      s' = close (.settled total) s₁ := by
  simp only [settle, bind_ok, requireAuth_ok, rejectIf_ok, okOr_ok] at h
  obtain ⟨admin, hadm, _, hauth, _, hset, _, hne, total, htot, _, hlt, _, hgt, token, htok,
    s₁, hpay, hret⟩ := h
  obtain ⟨hpos, hsum⟩ := totalToDistribute_ok htot
  refine ⟨admin, token, total, s₁, hadm, hauth, by simpa [isSettled] using hset,
    by simpa using hne, hpos, ?_, htok, hpay, (Except.ok.inj hret).symm⟩
  simp only [Signed.val_zero, zero_add] at hsum
  rw [← hsum]
  exact le_antisymm (not_lt.mp hgt) (not_lt.mp hlt)

/-- What `settle` asks for: the admin's authorisation, an open escrow, positive amounts that
add up to its balance, and a token that makes every transfer. -/
structure Accepts (host : Host A contract) (recipients : List (A × I128)) (s : State A) :
    Prop where
  admin : ∃ admin, s.storage.admin = some admin ∧ host.auth admin = true
  unsettled : isSettled s = false
  nonempty : recipients ≠ []
  positive : ∀ p ∈ recipients, 0 < p.2.val
  exact : (recipients.map (·.2.val)).sum = (balance s).val
  pays : ∃ token s₁, s.storage.token = some token ∧
    payRecipients host token recipients s = .ok s₁

theorem exists_settle_ok_iff {host : Host A contract} {recipients : List (A × I128)}
    {s : State A} : (∃ s', settle host recipients s = .ok s') ↔ Accepts host recipients s := by
  constructor
  · rintro ⟨s', h⟩
    obtain ⟨admin, token, total, s₁, hadm, hauth, hset, hne, hpos, hsum, htok, hpay, -⟩ :=
      settle_ok h
    exact ⟨⟨admin, hadm, hauth⟩, hset, hne, hpos, hsum, token, s₁, htok, hpay⟩
  · intro h
    obtain ⟨admin, hadm, hauth⟩ := h.admin
    obtain ⟨token, s₁, htok, hpay⟩ := h.pays
    have htotal : totalToDistribute 0 recipients = .ok (balance s) :=
      totalToDistribute_eq_ok_iff.mpr ⟨h.positive, by rw [h.exact, Signed.val_zero, zero_add]⟩
    refine ⟨close (.settled (balance s)) s₁, ?_⟩
    simp only [settle, bind_ok, requireAuth_ok, rejectIf_ok, okOr_ok]
    exact ⟨admin, hadm, (), hauth, (), ne_true_of_eq_false h.unsettled, (),
      by simpa using h.nonempty, balance s, htotal, (), lt_irrefl _, (), lt_irrefl _, token, htok,
      s₁, hpay, rfl⟩

theorem refund_ok {host : Host A contract} {s s' : State A} (h : refund host s = .ok s') :
    ∃ admin token depositor,
      s.storage.admin = some admin ∧ host.auth admin = true ∧ isSettled s = false ∧
      0 < (balance s).val ∧ s.storage.token = some token ∧
      s.storage.depositor = some depositor ∧
      (balance s).val.toNat ≤ (s.tokens token).balance contract ∧
      s' = close (.refunded depositor (balance s))
        (s.setLedger token
          ((s.tokens token).move contract depositor (balance s).val.toNat)) := by
  simp only [refund, bind_ok, requireAuth_ok, rejectIf_ok, okOr_ok] at h
  obtain ⟨admin, hadm, _, hauth, _, hset, _, hne, token, htok, depositor, hdep, s₁, htr,
    hret⟩ := h
  obtain ⟨hnn, hle, rfl⟩ := transfer_ok htr
  exact ⟨admin, token, depositor, hadm, hauth, by simpa [isSettled] using hset,
    lt_of_le_of_ne hnn (Ne.symm hne), htok, hdep, hle, (Except.ok.inj hret).symm⟩

end BrandBlitz.Escrow

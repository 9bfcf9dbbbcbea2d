import BrandBlitz.Lib.Crew
import BrandBlitz.Payout.Emission
import BrandBlitz.Payout.PaidOnce

/-!
# BrandBlitz.Payout.Outflow

**What leaves the pool**, over all interleavings of `processPayout` and
`refundChallenge`.

One run of `processPayout` spends at most the pool, because its allocations do, and one
refund spends at most the pool, because its percentage is at most a hundred. But nothing
makes the two exclude each other. A refund looks once at the status and at the refunds
table, long before it pays; it also pays after a payout that ended in `payout_failed` or
that died before it closed the challenge. And two payout runs may rest on two different
leaderboards.

`Exclusive` says of every payment that goes through that it does not overlap with an
earlier one. Under it no interleaving, with any call failing and the database changing
under the programs' feet, takes more than the pool.
-/

namespace BrandBlitz.Payout

open BrandBlitz.Lib BrandBlitz.Stellar

/-! ### What is asked, and of which interleavings -/

/-- All that was sent for the challenge. -/
def World.outflow (w : World) : Nat := (w.chain.map Tx.outflow).sum

def Tx.isRefund : Tx → Bool
  | .refund .. => true
  | _ => false

/-- All payments to winners and licensors. -/
def World.payments (w : World) : List Payment := w.chain.flatMap Tx.payments

/-- A payout payment does not overlap with what was paid: nothing was refunded, its user
has received nothing, and everybody else was paid on the same reading of the database. -/
def World.Admits (w : World) (entry : Entry) : Prop :=
  (∀ tx ∈ w.chain, tx.isRefund = false) ∧ entry.user ∉ paidUsers w.chain ∧
    ∀ p ∈ w.payments, p.entry.basis = entry.basis

/-- Whom a call pays. -/
def Op.payees : Op → List Entry
  | .settle recipients => recipients.map (·.entry)
  | .stellar (.submitTransaction tx) => tx.payments.map (·.entry)
  | _ => []

/-- The amounts a call hands to the escrow contract. -/
def Op.settledAmounts : Op → List Nat
  | .settle recipients => recipients.map (·.amountStroops)
  | _ => []

def Op.refunds : Op → Bool
  | .submitRefundPayment .. => true
  | _ => false

/-- A call that pays, and is not refused, does not overlap with what was paid: a payout
comes after payouts that admit it, and a refund comes first. The amounts of a settlement,
too, do not grow on their way through a double. -/
def Exclusive (w : World) (op : Op) (e : Env) : Prop :=
  e.netFault = none →
    (∀ entry ∈ op.payees, w.Admits entry) ∧
    (∀ amount ∈ op.settledAmounts, toNumber amount ≤ amount) ∧
    (op.refunds = true → w.chain = [])

/-- The programs: payout jobs under either configuration, and admins' refunds. -/
def movesMoney (challengeId : Text) (p : Service Unit) : Prop :=
  (∃ config, p = processPayout config challengeId) ∨
    ∃ adminId reason, p = (refundChallenge adminId reason).bind fun _ => return ()

/-- At any moment everything but the chain and the pool may change: sessions are flagged
or rescored, the challenge is reopened, rows are edited. -/
def SamePool (w w' : World) : Prop :=
  w'.chain = w.chain ∧ w'.challenge.poolAmountStroops = w.challenge.poolAmountStroops

/-! ### Payments within the allocations -/

/-- Payments to distinct users, on one reading of a pool of `P` stroops, each within what
is allocated to its user. -/
structure Allocated (P : Nat) (payments : List Payment) : Prop where
  users : (payments.map (·.entry.user)).Nodup
  basis : ∀ p ∈ payments, ∀ q ∈ payments, p.entry.basis = q.entry.basis
  due : ∀ p ∈ payments, p.entry.basis.poolAmountStroops = P ∧
    ∃ a ∈ (payoutAllocations p.entry.basis).values,
      a.userId = p.entry.user ∧ p.amountStroops ≤ a.amountStroops

section Allocated

variable {P : Nat} {payments rest : List Payment}

theorem allocated_nil (P : Nat) : Allocated P [] := by
  constructor <;> simp

theorem Allocated.sublist (h : Allocated P payments) (hsub : rest.Sublist payments) :
    Allocated P rest where
  users := h.users.sublist (hsub.map _)
  basis p hp q hq := h.basis p (hsub.subset hp) q (hsub.subset hq)
  due p hp := h.due p (hsub.subset hp)

/-- Payments that do not overlap with earlier ones join them. -/
theorem Allocated.append (h : Allocated P payments) (h' : Allocated P rest)
    (hfresh : ∀ p ∈ rest, p.entry.user ∉ payments.map (·.entry.user))
    (hbasis : ∀ p ∈ rest, ∀ q ∈ payments, q.entry.basis = p.entry.basis) :
    Allocated P (payments ++ rest) where
  users := by
    rw [List.map_append]
    refine List.nodup_append.mpr ⟨h.users, h'.users, fun u hu u' hu' heq => ?_⟩
    obtain ⟨p, hp, rfl⟩ := List.mem_map.mp hu'
    exact hfresh p hp (heq ▸ hu)
  basis p hp q hq := by
    rcases List.mem_append.mp hp with hp | hp <;> rcases List.mem_append.mp hq with hq | hq
    · exact h.basis p hp q hq
    · exact hbasis q hq p hp
    · exact (hbasis p hp q hq).symm
    · exact h'.basis p hp q hq
  due p hp := (List.mem_append.mp hp).elim (h.due p) (h'.due p)

/-- **Together they stay within the pool.** -/
theorem Allocated.sum_le (h : Allocated P payments) :
    (payments.map (·.amountStroops)).sum ≤ P := by
  cases payments with
  | nil => exact Nat.zero_le _
  | cons p rest =>
      have hcovered : ∀ q ∈ p :: rest, ∃ a ∈ (payoutAllocations p.entry.basis).values,
          a.userId = q.entry.user ∧ q.amountStroops ≤ a.amountStroops := fun q hq =>
        h.basis p List.mem_cons_self q hq ▸ (h.due q hq).2
      calc ((p :: rest).map (·.amountStroops)).sum
          ≤ ((payoutAllocations p.entry.basis).values.map (·.amountStroops)).sum :=
            sum_claims_le_sum_shares h.users hcovered
        _ ≤ p.entry.basis.poolAmountStroops := payoutAllocations_total_le _
        _ = P := (h.due p List.mem_cons_self).1

/-- The payments of a run's records, whichever way they are made. -/
theorem allocated_records {basis : Basis} (hpool : basis.poolAmountStroops = P)
    {pay : PayoutRecord → Payment} (hentry : ∀ r, (pay r).entry = ⟨r.userId, basis⟩)
    (hamount : ∀ a, (pay (recordOf a)).amountStroops = a.amountStroops)
    {records : List PayoutRecord}
    (hrecords : records.Sublist ((payoutAllocations basis).values.map recordOf)) :
    Allocated P (records.map pay) := by
  refine Allocated.sublist ⟨?_, ?_, ?_⟩ (hrecords.map pay)
  · have husers : (((payoutAllocations basis).values.map recordOf).map pay).map
        (·.entry.user) = (payoutAllocations basis).values.map (·.userId) := by
      simp [Function.comp_def, hentry, recordOf]
    rw [husers]
    exact payoutAllocations_users_nodup basis
  · simp [hentry]
  · intro p hp
    simp only [List.map_map, List.mem_map, Function.comp_def] at hp
    obtain ⟨a, ha, rfl⟩ := hp
    rw [hentry]
    exact ⟨hpool, a, ha, rfl, Nat.le_of_eq (hamount a)⟩

end Allocated

/-! ### The invariant -/

/-- The chain holds one refund within the pool and nothing else, or payments within the
allocations. -/
def WithinPool (P : Nat) (w : World) : Prop :=
  w.challenge.poolAmountStroops = P ∧
    ((∃ destination amount, w.chain = [.refund destination amount] ∧ amount ≤ P) ∨
      ((∀ tx ∈ w.chain, tx.isRefund = false) ∧ Allocated P w.payments))

theorem outflow_eq_payments {w : World} (h : ∀ tx ∈ w.chain, tx.isRefund = false) :
    w.outflow = (w.payments.map (·.amountStroops)).sum := by
  have hall : ∀ chain : List Tx, (∀ tx ∈ chain, tx.isRefund = false) →
      (chain.map Tx.outflow).sum = ((chain.flatMap Tx.payments).map (·.amountStroops)).sum := by
    intro chain
    induction chain with
    | nil => intro _; rfl
    | cons tx rest ih =>
        intro h
        have htx : tx.outflow = (tx.payments.map (·.amountStroops)).sum := by
          cases tx with
          | refund destination amount => cases h _ List.mem_cons_self
          | settlement payments => rfl
          | transfer payments => rfl
        simp [htx, ih fun tx' htx' => h tx' (List.mem_cons_of_mem _ htx')]
  exact hall w.chain h

theorem WithinPool.outflow_le {P : Nat} {w : World} (h : WithinPool P w) : w.outflow ≤ P := by
  rcases h.2 with ⟨destination, amount, hchain, hle⟩ | ⟨hnone, hallocated⟩
  · simpa [World.outflow, hchain, Tx.outflow] using hle
  · rw [outflow_eq_payments hnone]
    exact hallocated.sum_le

theorem WithinPool.congr {P : Nat} {w w' : World} (h : WithinPool P w) (hsame : SamePool w w') :
    WithinPool P w' := by
  refine ⟨hsame.2.trans h.1, ?_⟩
  have hchain := h.2
  simpa only [World.payments, hsame.1] using hchain

/-- A transaction of payments that the world admits joins the chain. -/
theorem WithinPool.pay {P : Nat} {w w' : World} (h : WithinPool P w) (tx : Tx)
    (htx : tx.isRefund = false) (hne : tx.payments ≠ []) (hallocated : Allocated P tx.payments)
    (hadmits : ∀ p ∈ tx.payments, w.Admits p.entry) (hchain : w'.chain = w.chain ++ [tx])
    (hpool : w'.challenge = w.challenge) : WithinPool P w' := by
  obtain ⟨p, hp⟩ := List.exists_mem_of_ne_nil _ hne
  have hnone := (hadmits p hp).1
  have hpayments : w'.payments = w.payments ++ tx.payments := by
    simp [World.payments, hchain]
  refine ⟨hpool ▸ h.1, .inr ⟨?_, ?_⟩⟩
  · rw [hchain]
    intro tx' htx'
    rcases List.mem_append.mp htx' with htx' | htx'
    · exact hnone tx' htx'
    · rwa [List.mem_singleton.mp htx']
  · rcases h.2 with ⟨destination, amount, hrefund, -⟩ | ⟨-, hbefore⟩
    · -- a refund on the chain admits no payment
      cases hnone _ (hrefund ▸ List.mem_cons_self)
    · rw [hpayments]
      exact hbefore.append hallocated (fun q hq => (hadmits q hq).2.1)
        fun q hq => (hadmits q hq).2.2

/-! ### What the programs emit -/

/-- The calls the programs make: what they pay is allocated, what they refund is within
the pool. -/
def Sound (P : Nat) : Op → Prop
  | .settle recipients => recipients ≠ [] ∧
      Allocated P (recipients.map fun r => ⟨r.entry, r.address, r.amountStroops⟩)
  | .stellar (.submitTransaction tx) =>
      tx.payments ≠ [] ∧ Allocated P (transferPayments tx.payments)
  | .submitRefundPayment _ amount => (usdcToStroops amount).toOption.getD 0 ≤ P
  | _ => True

/-- The answers they get: the challenge has its pool. -/
def ReadsPool (P : Nat) : (op : Op) → Except Err (payoutSig.Ans op) → Prop
  | .getChallengeById, .ok (some challenge) => challenge.poolAmountStroops = P
  | _, _ => True

section Emission

variable {P : Nat} {α : Type}

/-- The program makes only such calls. -/
def Emitted (P : Nat) (R : α → Prop) (p : Service α) : Prop :=
  p.Emits (Sound P) (ReadsPool P) R

theorem sound_quiet (op : Op) (hop : op.broadcasts = false) : Sound P op := by
  cases op with
  | settle recipients => cases hop
  | submitRefundPayment destination amount => cases hop
  | stellar o => cases o with
    | submitTransaction tx => cases hop
    | _ => trivial
  | _ => trivial

theorem emitted_call {op : Op} (hop : op.broadcasts = false) :
    Emitted P (fun _ => True) (Prog.call (S := payoutSig) op : Service (payoutSig.Ans op)) :=
  Prog.Emits.call (sound_quiet _ hop) fun _ _ => trivial

theorem emitted_getChallengeById : Emitted P
    (fun found => ∀ challenge, found = some challenge → challenge.poolAmountStroops = P)
    getChallengeById :=
  Prog.Emits.call (S := payoutSig) trivial fun _ hgood _ hfound => by rwa [hfound] at hgood

theorem sound_settle {basis : Basis} {records : List PayoutRecord}
    (hpool : basis.poolAmountStroops = P)
    (hrecords : records.Sublist ((payoutAllocations basis).values.map recordOf))
    (hne : records ≠ []) : Sound P (.settle (records.map (escrowRecipient basis))) := by
  refine ⟨by simpa using hne, ?_⟩
  rw [List.map_map]
  exact allocated_records hpool (fun _ => rfl) (fun _ => rfl) hrecords

theorem sound_submitTransaction {basis : Basis} {records : List PayoutRecord}
    (hpool : basis.poolAmountStroops = P)
    (hrecords : records.Sublist ((payoutAllocations basis).values.map recordOf))
    {tx : Envelope Entry}
    (htx : tx.payments ∈ payoutBatches (records.map (payoutRecipient basis))) :
    Sound P (.stellar (.submitTransaction tx)) := by
  have hall : Allocated P (transferPayments (records.map (payoutRecipient basis))) := by
    rw [transferPayments, List.map_map]
    refine allocated_records hpool (fun _ => rfl) (fun a => ?_) hrecords
    simp [payoutRecipient, recordOf, usdcToStroops_stroopsToUsdc, Except.toOption]
  exact ⟨ne_nil_of_mem_payoutBatches htx,
    hall.sublist ((sublist_of_mem_payoutBatches htx).map _)⟩

theorem emitted_processPayout (config : PayoutConfig) (challengeId : Text) :
    Emitted P (fun _ => True) (processPayout config challengeId) := by
  refine emitted_getChallengeById.bind fun found hfound => ?_
  cases found with
  | none => trivial
  | some challenge =>
      dsimp only
      split
      · trivial
      refine (emitted_call rfl).bind fun sessions _ => ?_
      unfold afterLeaderboard
      split
      · trivial
      split
      · exact emitted_call rfl
      refine (emitted_call rfl).bind fun tiers _ => (emitted_call rfl).bind fun terms _ => ?_
      refine (emits_createPayoutRecords
        (fun op hop _ => sound_quiet op (broadcasts_of_db hop)) _).bind fun records hrecords => ?_
      split
      · exact emitted_call rfl
      · rename_i hne
        have hpool := hfound challenge rfl
        exact emits_payRecords (fun op hop _ => sound_quiet op hop) config challengeId
          (sound_settle hpool hrecords (by simpa using hne))
          fun tx htx => sound_submitTransaction hpool hrecords htx

/-- A refund is at most the pool. -/
theorem refundAmountStroops_le (challenge : Challenge) (now : Time) :
    refundAmountStroops challenge now ≤ challenge.poolAmountStroops := by
  unfold refundAmountStroops
  split
  · exact Nat.zero_le _
  · have hpercent : challenge.poolAmountStroops * challenge.refundPercentage.val ≤
        challenge.poolAmountStroops * 10000 :=
      Nat.mul_le_mul_left _ (Nat.le_of_lt_succ challenge.refundPercentage.isLt)
    exact Nat.div_le_of_le_mul (by omega)

theorem emitted_refundChallenge (adminId : UserId) (reason : Text) :
    Emitted P (fun _ => True) (refundChallenge adminId reason) := by
  refine (emitted_call rfl).bind fun existing _ => ?_
  cases existing with
  | some refund => trivial
  | none =>
      refine emitted_getChallengeById.bind fun found hfound => ?_
      cases found with
      | none => trivial
      | some challenge =>
          dsimp only
          split
          · trivial
          refine emits_refundDeposit adminId reason (fun op hop => sound_quiet op ?_)
            fun destination now => ?_
          · cases op with
            | settle recipients => cases hop
            | stellar o => cases hop
            | submitRefundPayment destination amount => cases hop
            | _ => rfl
          · -- the amount is printed and parsed again on its way to the chain
            show (usdcToStroops (stroopsToUsdc _)).toOption.getD 0 ≤ P
            rw [usdcToStroops_stroopsToUsdc]
            exact hfound challenge rfl ▸ refundAmountStroops_le challenge now

end Emission

/-! ### One call, and all interleavings -/

section Steps

variable {P : Nat} {w : World} {e : Env}

theorem exec_settle_withinPool {recipients : List (EscrowRecipient Entry)} (h : WithinPool P w)
    (hsound : Sound P (.settle recipients)) (hexclusive : Exclusive w (.settle recipients) e) :
    WithinPool P (payoutMachine.exec e (.settle recipients) w).2 := by
  obtain ⟨hne, hallocated⟩ := hsound
  rcases exec_settle e recipients w with ⟨err, hexec⟩ | hexec
  · rw [hexec]
    exact h.congr ⟨record_chain, by rw [record_challenge]⟩
  · -- the amounts on the chain are those of the call after `Number`
    obtain ⟨hadmits, hexact, -⟩ := hexclusive (netFault_of_ok rfl (congrArg Prod.fst hexec))
    simp only [Op.payees, Op.settledAmounts, List.forall_mem_map] at hadmits hexact
    rw [hexec]
    refine h.pay (.settlement (settlementPayments recipients)) rfl
      (by simpa [settlementPayments, Tx.payments] using hne) ⟨?_, ?_, ?_⟩ ?_
      (by simp [World.broadcast]) record_challenge
    · have husers := hallocated.users
      simp only [Tx.payments, settlementPayments, List.map_map] at husers ⊢
      exact husers
    · have hbasis := hallocated.basis
      simp only [Tx.payments, settlementPayments, List.forall_mem_map] at hbasis ⊢
      exact hbasis
    · have hdue := hallocated.due
      simp only [Tx.payments, settlementPayments, List.forall_mem_map] at hdue ⊢
      intro r hr
      obtain ⟨hpool, a, ha, huser, hle⟩ := hdue r hr
      exact ⟨hpool, a, ha, huser, Nat.le_trans (hexact r hr) hle⟩
    · simp only [Tx.payments, settlementPayments, List.forall_mem_map]
      exact hadmits

theorem exec_submitTransaction_withinPool {tx : Envelope Entry} (h : WithinPool P w)
    (hsound : Sound P (.stellar (.submitTransaction tx)))
    (hexclusive : Exclusive w (.stellar (.submitTransaction tx)) e) :
    WithinPool P (payoutMachine.exec e (.stellar (.submitTransaction tx)) w).2 := by
  obtain ⟨hne, hallocated⟩ := hsound
  rcases exec_submitTransaction e tx w with ⟨err, hexec⟩ | hexec
  · rw [hexec]
    exact h.congr ⟨record_chain, by rw [record_challenge]⟩
  · have hadmits := (hexclusive (netFault_of_ok rfl (congrArg Prod.fst hexec))).1
    simp only [Op.payees, List.forall_mem_map] at hadmits
    rw [hexec]
    refine h.pay (.transfer (transferPayments tx.payments)) rfl
      (by simpa [transferPayments, Tx.payments] using hne) hallocated ?_
      (by simp [World.broadcast]) record_challenge
    simp only [Tx.payments, transferPayments, List.forall_mem_map]
    exact hadmits

theorem exec_submitRefundPayment_withinPool {destination amount : Text} (h : WithinPool P w)
    (hsound : Sound P (.submitRefundPayment destination amount))
    (hexclusive : Exclusive w (.submitRefundPayment destination amount) e) :
    WithinPool P (payoutMachine.exec e (.submitRefundPayment destination amount) w).2 := by
  rcases exec_submitRefundPayment e destination amount w with ⟨err, hexec⟩ | hexec
  · rw [hexec]
    exact h
  · have hempty : w.chain = [] :=
      (hexclusive (netFault_of_ok rfl (congrArg Prod.fst hexec))).2.2 rfl
    rw [hexec]
    exact ⟨h.1, .inl ⟨destination, _, by simp [World.broadcast, hempty], hsound⟩⟩

/-- **One call keeps the invariant.** -/
theorem exec_withinPool {op : Op} (h : WithinPool P w) (hsound : Sound P op)
    (hexclusive : Exclusive w op e) : WithinPool P (payoutMachine.exec e op w).2 := by
  cases hop : op.broadcasts with
  | false => exact h.congr ⟨exec_chain hop, exec_poolAmountStroops⟩
  | true =>
      cases op with
      | settle recipients => exact exec_settle_withinPool h hsound hexclusive
      | submitRefundPayment destination amount =>
          exact exec_submitRefundPayment_withinPool h hsound hexclusive
      | stellar o => cases o with
        | submitTransaction tx => exact exec_submitTransaction_withinPool h hsound hexclusive
        | _ => cases hop
      | _ => cases hop

theorem exec_readsPool {op : Op} (h : WithinPool P w) :
    ReadsPool P op (payoutMachine.exec e op w).1 := by
  unfold ReadsPool
  split
  · rename_i challenge hans
    rw [exec_ok hans] at hans
    exact eq_of_getChallengeById hans ▸ h.1
  · trivial

end Steps

/-- **The outflow never exceeds the pool.** In every state of every interleaving of
payout runs and refunds of a challenge, with any call failing and anything but the chain
and the pool changing in between, the sum of everything sent is at most the pool, as long
as no payment that goes through overlaps with an earlier one. -/
theorem outflow_within_pool (challengeId : Text) (w₀ : World) (h₀ : w₀.chain = []) {w : World}
    {programs : List (Service Unit)}
    (history : Pool payoutMachine Exclusive (movesMoney challengeId) SamePool w₀ w programs) :
    w.outflow ≤ w.challenge.poolAmountStroops := by
  have hstart : WithinPool w₀.challenge.poolAmountStroops w₀ := by
    refine ⟨rfl, .inr ⟨by simp [h₀], ?_⟩⟩
    simpa [World.payments, h₀] using allocated_nil _
  have hwithin : WithinPool w₀.challenge.poolAmountStroops w ∧
      ∀ p ∈ programs, Emitted w₀.challenge.poolAmountStroops (fun _ => True) p := by
    refine Pool.sound hstart ?_ ?_ (fun w w' h hsame => h.congr hsame) history
    · intro p h
      rcases h with ⟨config, rfl⟩ | ⟨adminId, reason, rfl⟩
      · exact emitted_processPayout config challengeId
      · exact (emitted_refundChallenge adminId reason).bind fun _ _ => trivial
    · intro w op e h hsound hexclusive
      exact ⟨exec_withinPool h hsound hexclusive, exec_readsPool h⟩
  exact hwithin.1.1 ▸ hwithin.1.outflow_le

/-! ### Two interleavings

Two players, a pool of a hundred USDC, a full refund, and no failure at all. -/

instance (w : World) (entry : Entry) : Decidable (w.Admits entry) :=
  inferInstanceAs (Decidable (_ ∧ _))

instance (w : World) (op : Op) (e : Env) : Decidable (Exclusive w op e) :=
  inferInstanceAs (Decidable (_ → _))

/-- A payout job in flight. -/
def payoutJob : Service Unit := processPayout escrowConfig "c1".toList

/-- A refund in flight. -/
def refundJob : Service Unit := (refundChallenge 9 "brand request".toList).bind fun _ => return ()

/-- The payout alone takes the whole pool. -/
theorem payout_alone_within_pool :
    (play payoutMachine (List.replicate 20 (0, calm)) twoPlayers [payoutJob]).1.outflow = 1000000000 ∧
      (play payoutMachine (List.replicate 20 (0, calm)) twoPlayers [payoutJob]).1.outflow ≤
        (play payoutMachine (List.replicate 20 (0, calm)) twoPlayers
          [payoutJob]).1.challenge.poolAmountStroops := by
  refine ⟨by decide, outflow_within_pool "c1".toList twoPlayers rfl
    (Crew.play _ (Crew.spawn Crew.init (.inl ⟨escrowConfig, rfl⟩)) ?_)⟩
  decide

/-- A refund has seen an `ended` challenge without a refund; before it pays, the payout
runs from start to end; then the refund pays the pool a second time. -/
theorem refund_during_payout_overdraws :
    ¬ ∀ (w : World) (programs : List (Service Unit)),
      Pool payoutMachine (fun _ _ _ => True) (movesMoney "c1".toList) (fun w w' => w' = w)
        twoPlayers w programs → w.outflow ≤ w.challenge.poolAmountStroops := by
  intro hall
  have history : Pool payoutMachine (fun _ _ _ => True) (movesMoney "c1".toList)
      (fun w w' => w' = w) twoPlayers twoPlayers [refundJob, payoutJob] :=
    Crew.spawn (Crew.spawn Crew.init (.inr ⟨9, "brand request".toList, rfl⟩))
      (.inl ⟨escrowConfig, rfl⟩)
  have hoverdrawn := hall _ _ (Crew.play (List.replicate 2 (0, calm) ++
    List.replicate 20 (1, calm) ++ List.replicate 5 (0, calm)) history (by decide))
  revert hoverdrawn
  decide

end BrandBlitz.Payout

import BrandBlitz.Payout.Process

/-!
# BrandBlitz.Payout.Steps

**What one awaited call can do** to the world, said once for all proofs about the
payout services: a call either throws and changes nothing, or has its effect
(`perform`), whether or not the caller learns of it (`exec_world`); a call that returns
had its effect (`exec_ok`). Then, per part of the world, which operations can change it.
Last, the two loops that write down what was paid: what sequencing and their calls have
in common, the loops have (`Bookkeeping`).
-/

namespace BrandBlitz.Payout

open BrandBlitz.Lib BrandBlitz.Stellar

variable {e : Env} {op : Op} {w : World}

/-! ### One call -/

@[simp] theorem record_chain : (w.record op).chain = w.chain := by
  unfold World.record
  split <;> rfl

@[simp] theorem record_payouts : (w.record op).payouts = w.payouts := by
  unfold World.record
  split <;> rfl

@[simp] theorem record_challenge : (w.record op).challenge = w.challenge := by
  unfold World.record
  split <;> rfl

theorem record_of_db (h : op.isNetwork = false) : w.record op = w := by
  cases op with
  | settle recipients => cases h
  | stellar o => cases h
  | _ => rfl

/-- What holds of the world without and with the operation's effect holds after the
call. -/
theorem exec_world {P : World → Prop} (hrecord : P (w.record op))
    (heffect : P (perform e op (w.record op)).2) : P (payoutMachine.exec e op w).2 := by
  simp only [payoutMachine]
  cases hop : op.isNetwork with
  | true =>
      simp only [if_true]
      split
      · exact hrecord
      · exact heffect
  | false =>
      rw [record_of_db hop] at hrecord heffect
      simp only [Bool.false_eq_true, if_false]
      split
      · dsimp only
        split
        · exact heffect
        · exact hrecord
      · exact heffect

/-- A call that returns had its effect. -/
theorem exec_ok {a : payoutSig.Ans op} (h : (payoutMachine.exec e op w).1 = .ok a) :
    payoutMachine.exec e op w = perform e op (w.record op) := by
  simp only [payoutMachine] at h ⊢
  cases hop : op.isNetwork with
  | true =>
      simp only [hop, if_true] at h ⊢
      split at h
      · cases h
      · simp_all
  | false =>
      rw [record_of_db hop]
      simp only [hop, Bool.false_eq_true, if_false] at h ⊢
      split at h
      · cases h
      · simp_all

/-- A database call that throws no error of its own. -/
theorem exec_db (hop : op.isNetwork = false) (he : e.dbFault = none) :
    payoutMachine.exec e op w = perform e op w := by
  simp [payoutMachine, hop, he]

/-- A database call that throws, with or without its effect. -/
theorem exec_fault (hop : op.isNetwork = false) {fault : DbFault}
    (he : e.dbFault = some fault) : payoutMachine.exec e op w =
      (.error fault.err, if fault.applied then (perform e op w).2 else w) := by
  simp [payoutMachine, hop, he]

/-- A network call that is not refused. -/
theorem exec_network (hop : op.isNetwork = true) (he : e.netFault = none) :
    payoutMachine.exec e op w = perform e op (w.record op) := by
  simp [payoutMachine, hop, he]

/-- A network call that returns was not refused. -/
theorem netFault_of_ok (hop : op.isNetwork = true) {a : payoutSig.Ans op}
    (h : (payoutMachine.exec e op w).1 = .ok a) : e.netFault = none := by
  cases hfault : e.netFault with
  | none => rfl
  | some err => simp [payoutMachine, hop, hfault] at h

/-! ### The fraud guard -/

/-- A flagged user's row is neither inserted nor updated. -/
theorem perform_createPayout_flagged {u : UserId} {address : Text} {amount : Nat}
    (h : w.flagged u = true) : perform e (.createPayout u address amount) w =
      (.error (fraudBlockedPayout w.challenge.id u), w) := by
  simp [perform, h]

theorem perform_createPayout_clear {u : UserId} {address : Text} {amount : Nat}
    (h : w.flagged u = false) : perform e (.createPayout u address amount) w =
      (.ok (w.upsertPayout u address amount),
        w.setPayout u (w.upsertPayout u address amount)) := by
  simp [perform, h]

/-- A call that creates a payout leaves the world alone, or upserts the row of a user who
is not flagged; and it does the latter if it returns, with that row. -/
theorem exec_createPayout (e : Env) (w : World) (u : UserId) (address : Text) (amount : Nat) :
    ((payoutMachine.exec e (.createPayout u address amount) w).2 = w ∧
        ∃ err, (payoutMachine.exec e (.createPayout u address amount) w).1 = .error err) ∨
      (w.flagged u = false ∧ (payoutMachine.exec e (.createPayout u address amount) w).2 =
          w.setPayout u (w.upsertPayout u address amount) ∧
        ∀ row, (payoutMachine.exec e (.createPayout u address amount) w).1 = .ok row →
          row = w.upsertPayout u address amount) := by
  cases hflag : w.flagged u with
  | true =>
      refine .inl ?_
      simp only [payoutMachine, Op.isNetwork, perform_createPayout_flagged hflag,
        Bool.false_eq_true, if_false]
      cases e.dbFault with
      | none => exact ⟨rfl, _, rfl⟩
      | some fault => exact ⟨by simp, _, rfl⟩
  | false =>
      simp only [payoutMachine, Op.isNetwork, perform_createPayout_clear hflag,
        Bool.false_eq_true, if_false]
      cases e.dbFault with
      | none => exact .inr ⟨trivial, rfl, fun row hrow => (Except.ok.inj hrow).symm⟩
      | some fault =>
          cases happlied : fault.applied with
          | true => exact .inr ⟨trivial, by simp [happlied], fun row hrow => by cases hrow⟩
          | false => exact .inl ⟨by simp [happlied], _, rfl⟩

/-- The upsert keeps the status of a row that is paid, and makes no other row paid. -/
theorem isPaid_upsertPayout {u : UserId} {address : Text} {amount : Nat} :
    (w.upsertPayout u address amount).isPaid = (w.payouts u).any (·.isPaid) := by
  unfold World.upsertPayout
  cases w.payouts u with
  | none => rfl
  | some row => cases hs : row.status <;> simp [PayoutRow.isPaid, hs]

/-! ### The three ways money moves -/

/-- A settlement is refused, or it is on the chain. -/
theorem exec_settle (e : Env) (recipients : List (EscrowRecipient Entry)) (w : World) :
    (∃ err, payoutMachine.exec e (.settle recipients) w =
        (.error err, w.record (.settle recipients))) ∨
      payoutMachine.exec e (.settle recipients) w = (.ok w.chain.length,
        (w.record (.settle recipients)).broadcast
          (.settlement (settlementPayments recipients))) := by
  simp only [payoutMachine, Op.isNetwork, if_true]
  cases e.netFault with
  | some err => exact .inl ⟨err, rfl⟩
  | none => exact .inr rfl

/-- A batch is refused, or it is on the chain. -/
theorem exec_submitTransaction (e : Env) (tx : Envelope Entry) (w : World) :
    (∃ err, payoutMachine.exec e (.stellar (.submitTransaction tx)) w =
        (.error err, w.record (.stellar (.submitTransaction tx)))) ∨
      payoutMachine.exec e (.stellar (.submitTransaction tx)) w = (.ok w.chain.length,
        (w.record (.stellar (.submitTransaction tx))).broadcast
          (.transfer (transferPayments tx.payments))) := by
  simp only [payoutMachine, Op.isNetwork, if_true]
  cases e.netFault with
  | some err => exact .inl ⟨err, rfl⟩
  | none => exact .inr rfl

/-- A refund is refused, or it is on the chain. -/
theorem exec_submitRefundPayment (e : Env) (destination amount : Text) (w : World) :
    (∃ err, payoutMachine.exec e (.submitRefundPayment destination amount) w = (.error err, w)) ∨
      payoutMachine.exec e (.submitRefundPayment destination amount) w = (.ok w.chain.length,
        w.broadcast (.refund destination ((usdcToStroops amount).toOption.getD 0))) := by
  simp only [payoutMachine, Op.isNetwork, if_true]
  cases e.netFault with
  | some err => exact .inl ⟨err, rfl⟩
  | none => exact .inr rfl

/-! ### What an operation leaves alone -/

/-- Does the operation put a transaction on the chain? -/
def Op.broadcasts : Op → Bool
  | .settle _ | .stellar (.submitTransaction _) | .submitRefundPayment .. => true
  | _ => false

/-- Does the operation write payout rows? -/
def Op.writesPayouts : Op → Bool
  | .createPayout .. | .updatePayoutStatus .. | .resetPayout .. => true
  | _ => false

/-- Does the operation write the challenge's row? -/
def Op.writesChallenge : Op → Bool
  | .updateChallengeStatus .. => true
  | _ => false

@[simp] theorem updatePayoutStatus_chain {u : UserId} {s : PayoutStatus} {h : Option Hash}
    {m : Option Text} : (w.updatePayoutStatus u s h m).chain = w.chain := by
  unfold World.updatePayoutStatus
  split <;> rfl

@[simp] theorem updatePayoutStatus_challenge {u : UserId} {s : PayoutStatus} {h : Option Hash}
    {m : Option Text} : (w.updatePayoutStatus u s h m).challenge = w.challenge := by
  unfold World.updatePayoutStatus
  split <;> rfl

theorem perform_chain (h : op.broadcasts = false) : (perform e op w).2.chain = w.chain := by
  cases op with
  | stellar o => cases o with
    | submitTransaction tx => cases h
    | _ => rfl
  | settle recipients => cases h
  | submitRefundPayment destination amount => cases h
  | createPayout u a n => simp only [perform]; split <;> rfl
  | createRefund r => simp only [perform]; split <;> rfl
  | resetPayout a u => simp only [perform]; split <;> rfl
  | updatePayoutStatus u s h m => exact updatePayoutStatus_chain
  | _ => rfl

theorem perform_payouts (h : op.writesPayouts = false) :
    (perform e op w).2.payouts = w.payouts := by
  cases op with
  | stellar o => cases o <;> rfl
  | createPayout u a n => cases h
  | updatePayoutStatus u s h m => cases h
  | resetPayout a u => cases h
  | createRefund r => simp only [perform]; split <;> rfl
  | _ => rfl

theorem perform_challenge (h : op.writesChallenge = false) :
    (perform e op w).2.challenge = w.challenge := by
  cases op with
  | stellar o => cases o <;> rfl
  | updateChallengeStatus s h => cases h
  | createPayout u a n => simp only [perform]; split <;> rfl
  | createRefund r => simp only [perform]; split <;> rfl
  | resetPayout a u => simp only [perform]; split <;> rfl
  | updatePayoutStatus u s h m => exact updatePayoutStatus_challenge
  | _ => rfl

theorem exec_chain (h : op.broadcasts = false) :
    (payoutMachine.exec e op w).2.chain = w.chain :=
  exec_world (P := fun w' => w'.chain = w.chain) record_chain
    ((perform_chain h).trans record_chain)

theorem exec_payouts (h : op.writesPayouts = false) :
    (payoutMachine.exec e op w).2.payouts = w.payouts :=
  exec_world (P := fun w' => w'.payouts = w.payouts) record_payouts
    ((perform_payouts h).trans record_payouts)

theorem exec_challenge (h : op.writesChallenge = false) :
    (payoutMachine.exec e op w).2.challenge = w.challenge :=
  exec_world (P := fun w' => w'.challenge = w.challenge) record_challenge
    ((perform_challenge h).trans record_challenge)

/-- The chain only grows. -/
theorem chain_prefix_exec (e : Env) (op : Op) (w : World) :
    w.chain <+: (payoutMachine.exec e op w).2.chain := by
  cases hop : op.broadcasts with
  | false => rw [exec_chain hop]
  | true =>
      refine exec_world (P := fun w' => w.chain <+: w'.chain) (by rw [record_chain]) ?_
      cases op with
      | settle recipients => exact List.prefix_append _ _
      | submitRefundPayment destination amount => exact List.prefix_append _ _
      | stellar o => cases o with
        | submitTransaction tx => exact List.prefix_append _ _
        | _ => cases hop
      | _ => cases hop

/-- No operation writes the pool. -/
theorem exec_poolAmountStroops : (payoutMachine.exec e op w).2.challenge.poolAmountStroops =
    w.challenge.poolAmountStroops := by
  cases hop : op.writesChallenge with
  | false => rw [exec_challenge hop]
  | true =>
      cases op with
      | updateChallengeStatus status hashes =>
          exact exec_world (P := fun w' => w'.challenge.poolAmountStroops =
            w.challenge.poolAmountStroops) rfl rfl
      | _ => cases hop

/-! ### What is handed to the network -/

/-- The list a call hands to the network, if it does. -/
def Op.submission : Op → List Submission
  | .settle recipients => [.settle recipients]
  | .stellar (.submitTransaction tx) => [.transaction tx.payments]
  | _ => []

theorem record_submissions : (w.record op).submissions = w.submissions ++ op.submission := by
  cases op with
  | settle recipients => rfl
  | stellar o => cases o with
    | submitTransaction tx => rfl
    | _ => exact (List.append_nil _).symm
  | _ => exact (List.append_nil _).symm

theorem perform_submissions : (perform e op w).2.submissions = w.submissions := by
  cases op with
  | stellar o => cases o <;> rfl
  | createPayout u a n => simp only [perform]; split <;> rfl
  | createRefund r => simp only [perform]; split <;> rfl
  | resetPayout a u => simp only [perform]; split <;> rfl
  | updatePayoutStatus u s h m => simp only [perform, World.updatePayoutStatus]; split <;> rfl
  | _ => rfl

theorem exec_submissions (h : op.submission = []) :
    (payoutMachine.exec e op w).2.submissions = w.submissions := by
  have hrecord : (w.record op).submissions = w.submissions := by
    rw [record_submissions, h, List.append_nil]
  exact exec_world (P := fun w' => w'.submissions = w.submissions) hrecord
    (perform_submissions.trans hrecord)

/-- May the operation be answered with an error although nothing failed? -/
def Op.mayRefuse : Op → Bool
  | .createPayout .. | .createRefund _ => true
  | _ => false

theorem perform_ok (h : op.mayRefuse = false) : ∃ a, (perform e op w).1 = .ok a := by
  cases op with
  | stellar o => cases o <;> exact ⟨_, rfl⟩
  | createPayout u a n => cases h
  | createRefund r => cases h
  | _ => exact ⟨_, rfl⟩

/-- An operation that cannot be refused throws only when the database fails. -/
theorem dbFault_of_error {err : Err} (hop : op.isNetwork = false) (hrefuse : op.mayRefuse = false)
    (h : (payoutMachine.exec e op w).1 = .error err) : ∃ fault, e.dbFault = some fault := by
  cases hdb : e.dbFault with
  | some fault => exact ⟨fault, rfl⟩
  | none =>
      obtain ⟨a, ha⟩ : ∃ a, (perform e op w).1 = .ok a := perform_ok hrefuse
      rw [exec_db hop hdb, ha] at h
      cases h

/-- Nothing fails by the environment's doing. -/
def Calm (e : Env) : Prop := e.dbFault = none ∧ e.netFault = none

/-- A call that nothing disturbs has its effect. -/
theorem exec_calm (he : Calm e) : payoutMachine.exec e op w = perform e op (w.record op) := by
  cases hop : op.isNetwork with
  | true => exact exec_network hop he.2
  | false =>
      rw [record_of_db hop]
      exact exec_db hop he.1

/-! ### Reads -/

/-- Does the operation only read? -/
def Op.isRead : Op → Bool
  | .getChallengeById | .getLeaderboard | .getChallengeTiers | .getLicensePayoutTerms
  | .findRefundByChallengeId | .findPayout _ | .isNotificationCategoryEnabled _
  | .getDepositSender _ | .dateNow => true
  | _ => false

theorem exec_read (h : op.isRead = true) : (payoutMachine.exec e op w).2 = w := by
  refine exec_world (P := fun w' => w' = w) ?_ ?_
  all_goals
    cases op with
    | stellar o => cases h
    | _ => first | rfl | cases h

theorem eq_of_getChallengeById {challenge : Challenge}
    (h : (perform e .getChallengeById w).1 = .ok (some challenge)) : challenge = w.challenge := by
  simp only [perform, Except.ok.injEq, Option.ite_none_left_eq_some, Option.some.injEq] at h
  exact h.2.symm

/-- A read answers what the world holds and changes nothing. -/
theorem wp_read {G : World → Op → Env → Prop} {I : World → Prop} (h : op.isRead = true)
    (hI : I w) {Q : payoutSig.Ans op → World → Prop} {R : Err → World → Prop}
    (hok : ∀ e a, (perform e op w).1 = .ok a → Q a w)
    (herror : ∀ e err, G w op e → (payoutMachine.exec e op w).1 = .error err → R err w) :
    (Prog.call (S := payoutSig) op : Service (payoutSig.Ans op)).wp payoutMachine G I
      (Prog.Ends Q R) w := by
  refine Prog.wp_call fun e he => ?_
  have hrecord : w.record op = w := by
    cases op with
    | stellar o => cases h
    | settle r => cases h
    | _ => rfl
  cases hans : (payoutMachine.exec e op w).1 with
  | error err =>
      rw [exec_read h]
      exact ⟨hI, herror e err he hans⟩
  | ok a =>
      rw [exec_read h]
      rw [exec_ok hans, hrecord] at hans
      exact ⟨hI, hok e a hans⟩

/-- A database call: it has its effect and answers, or it throws with or without its
effect. -/
theorem wp_db {G : World → Op → Env → Prop} {I : World → Prop} (hop : op.isNetwork = false)
    {Q : payoutSig.Ans op → World → Prop} {R : Err → World → Prop}
    (hok : ∀ e, G w op e → e.dbFault = none → I (perform e op w).2 ∧
      Prog.Ends Q R (perform e op w).1 (perform e op w).2)
    (hfault : ∀ e fault, G w op e → e.dbFault = some fault → ∀ w',
      w' = w ∨ w' = (perform e op w).2 → I w' ∧ R fault.err w') :
    (Prog.call (S := payoutSig) op : Service (payoutSig.Ans op)).wp payoutMachine G I
      (Prog.Ends Q R) w := by
  refine Prog.wp_call fun e he => ?_
  cases hdb : e.dbFault with
  | none =>
      rw [exec_db hop hdb]
      exact hok e he hdb
  | some fault =>
      rw [exec_fault hop hdb]
      refine hfault e fault he hdb _ ?_
      dsimp only
      split
      · exact .inr rfl
      · exact .inl rfl

/-- **One turn of the loop over the allocations.** The row that `createPayout` returns is
kept as a record unless it is paid; an error of the fraud guard is written to the audit
log, any other is thrown. -/
theorem wp_createPayoutRecord {G : World → Op → Env → Prop} {I : World → Prop}
    {a : PayoutAllocation} {Q : Option PayoutRecord → World → Prop} {F : World → Prop}
    {R : Err → World → Prop}
    (hcreate : ∀ e, G w (.createPayout a.userId a.address a.amountStroops) e →
      I (payoutMachine.exec e (.createPayout a.userId a.address a.amountStroops) w).2 ∧
        Prog.Ends (fun row => Q (if row.isPaid then none else some (recordOf a)))
          (fun err w' => if isFraudBlockError err then F w' else R err w')
          (payoutMachine.exec e (.createPayout a.userId a.address a.amountStroops) w).1
          (payoutMachine.exec e (.createPayout a.userId a.address a.amountStroops) w).2)
    (haudit : ∀ w', F w' → (insertAuditLog (.payoutBlockedFraud a.userId)).wp payoutMachine G I
      (Prog.Ends (fun _ => Q none) R) w') :
    (createPayoutRecord a).wp payoutMachine G I (Prog.Ends Q R) w := by
  refine Prog.wp_bind (P := fun payout => Q (payout.bind fun row =>
    if row.isPaid then none else some (recordOf a))) ?_ fun payout w' h => ?_
  · refine Prog.wp_tryCatch (P := fun err w' => if isFraudBlockError err then F w' else R err w')
      (Prog.wp_bind (Prog.wp_call hcreate) fun row w' h => h) fun err w' h => ?_
    split
    · rename_i hfraud
      rw [if_pos hfraud] at h
      exact Prog.wp_bind (haudit w' h) fun _ w'' h => h
    · rename_i hother
      rwa [if_neg hother] at h
  · cases payout with
    | none => exact h
    | some row =>
        rw [Option.bind_some] at h
        dsimp only
        split
        · rename_i hpaid
          rw [if_pos hpaid] at h
          exact h
        · rename_i hunpaid
          rw [if_neg hunpaid] at h
          exact h

/-! ### The loops that keep the books -/

/-- A property of programs that sequencing keeps and that the calls made after a payment
have, apart from the one that marks a row. -/
structure Bookkeeping (Φ : Service Unit → Prop) : Prop where
  ret : Φ (.ret ())
  bind : ∀ {p : Service Unit} {f : Unit → Service Unit}, Φ p → (∀ u, Φ (f u)) → Φ (p.bind f)
  earnings : ∀ u amount, Φ (incrementUserEarnings u amount)
  bonus : ∀ u amount, Φ (queueReferralBonusForPayout u amount)
  notification : ∀ u, Φ (insertPayoutNotification u)

namespace Bookkeeping

variable {Φ : Service Unit → Prop} (h : Bookkeeping Φ)

include h

theorem forEach {α : Type} {body : α → Service Unit} :
    ∀ {list : List α}, (∀ a ∈ list, Φ (body a)) → Φ (Prog.forEach list body) := by
  intro list
  induction list with
  | nil => intro _; exact h.ret
  | cons a rest ih =>
      intro hbody
      exact h.bind (hbody a List.mem_cons_self) fun _ =>
        ih fun a' ha' => hbody a' (List.mem_cons_of_mem _ ha')

theorem recordSettled {hash : Hash} {r : PayoutRecord}
    (hmark : Φ (updatePayoutStatus r.userId .sent (some hash) none)) :
    Φ (recordSettled hash r) :=
  h.bind hmark fun _ => h.bind (h.earnings _ _) fun _ => h.bind (h.bonus _ _) fun _ =>
    h.notification _

theorem recordResult {records : List PayoutRecord} {result : PayoutBatchResult Entry}
    (hmark : ∀ recipient ∈ result.recipients, ∀ record,
      findRecord records recipient = some record →
      Φ (updatePayoutStatus record.userId (if result.success then .sent else .failed)
        result.txHash (if result.success then none else
          some (result.error.getD "Stellar broadcast failed with no error detail".toList)))) :
    Φ (recordResult records result) := by
  refine h.bind (h.forEach fun recipient hmem => ?_) fun _ => ?_
  · unfold recordRecipient
    split
    · exact h.ret
    · rename_i record hfound
      refine h.bind (hmark recipient hmem record hfound) fun _ => ?_
      split
      · exact h.bind (h.earnings _ _) fun _ => h.notification _
      · exact h.ret
  · split
    · refine h.forEach fun recipient _ => ?_
      unfold queueReferralBonus
      split
      · exact h.ret
      · exact h.bonus _ _
    · exact h.ret

end Bookkeeping

end BrandBlitz.Payout

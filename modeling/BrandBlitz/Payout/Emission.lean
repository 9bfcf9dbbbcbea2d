import BrandBlitz.Payout.Steps

/-!
# BrandBlitz.Payout.Emission

**Which calls the parts of `processPayout` can make**, whatever the answers: the loops
that keep the books never pay; the escrow path settles its records; the direct path
submits batches of them. Each lemma asks of the predicate `ok` only that it allows the calls
of the database but the first, and for the direct path every call that does not pay. The same
for `refundChallenge` after its two looks.
-/

namespace BrandBlitz.Payout

open BrandBlitz.Lib BrandBlitz.Stellar

variable {ok : Op → Prop} {good : (op : Op) → Except Err (payoutSig.Ans op) → Prop}

/-- A call of the database does not pay. -/
theorem broadcasts_of_db {op : Op} (h : op.isNetwork = false) : op.broadcasts = false := by
  cases op with
  | stellar o => cases h
  | settle recipients => cases h
  | submitRefundPayment destination amount => cases h
  | _ => rfl

/-- The read that a run starts with, and that no later part makes. -/
def Op.opensRun : Op → Bool
  | .getChallengeById => true
  | _ => false

section Database

variable (hdb : ∀ op, op.isNetwork = false → op.opensRun = false → ok op)

include hdb

theorem emits_call {op : Op} (hop : op.isNetwork = false) (hlater : op.opensRun = false) :
    (Prog.call (S := payoutSig) op : Service (payoutSig.Ans op)).Emits ok good fun _ => True :=
  Prog.Emits.call (hdb op hop hlater) fun _ _ => trivial

theorem emits_updateChallengeStatus (status : ChallengeStatus) (hashes : Option (List Hash)) :
    (updateChallengeStatus status hashes).Emits ok good fun _ => True := emits_call hdb rfl rfl

/-! ### Bookkeeping -/

theorem emits_insertPayoutNotification (u : UserId) :
    (insertPayoutNotification u).Emits ok good fun _ => True := by
  refine Prog.Emits.bind (P := fun _ => True)
    (Prog.Emits.tryCatch (emits_call hdb rfl rfl) fun _ => trivial) fun _ _ => ?_
  refine Prog.Emits.tryCatch ((emits_call hdb rfl rfl).bind fun enabled _ => ?_) fun _ => trivial
  split
  · exact emits_call hdb rfl rfl
  · trivial

theorem emits_bookkeeping :
    Bookkeeping fun p : Service Unit => p.Emits ok good fun _ => True where
  ret := trivial
  bind hp hf := hp.bind fun u _ => hf u
  earnings _ _ := emits_call hdb rfl rfl
  bonus _ _ := emits_call hdb rfl rfl
  notification := emits_insertPayoutNotification hdb

/-! ### Records -/

/-- The records are those of allocations, in order. -/
theorem emits_createPayoutRecords :
    ∀ allocations : List PayoutAllocation, (createPayoutRecords allocations).Emits ok good
      fun records => records.Sublist (allocations.map recordOf) := by
  intro allocations
  induction allocations with
  | nil => exact List.Sublist.refl _
  | cons a rest ih =>
      have hone : (createPayoutRecord a).Emits ok good
          fun record => record.toList.Sublist [recordOf a] := by
        refine Prog.Emits.bind (P := fun _ => True) (Prog.Emits.tryCatch
          ((emits_call hdb rfl rfl).bind fun _ _ => trivial) fun err => ?_) fun payout _ => ?_
        · split
          · exact (emits_call hdb rfl rfl).bind fun _ _ => trivial
          · trivial
        · cases payout with
          | none => exact List.nil_sublist _
          | some row =>
              dsimp only
              split
              · exact List.nil_sublist _
              · exact List.Sublist.refl _
      exact hone.bind fun record hrecord => ih.bind fun records hrecords =>
        hrecord.append hrecords

/-! ### Payments -/

variable {basis : Basis} {records : List PayoutRecord}

theorem emits_settleThroughEscrow
    (hsettle : ok (.settle (records.map (escrowRecipient basis)))) :
    (settleThroughEscrow basis records).Emits ok good fun _ => True := by
  refine Prog.Emits.bind (P := fun _ => True)
    (Prog.Emits.call (S := payoutSig) hsettle fun _ _ => trivial) fun hash _ => ?_
  have hbooks : Bookkeeping fun p : Service Unit => p.Emits ok good fun _ => True :=
    emits_bookkeeping hdb
  exact hbooks.bind (hbooks.forEach fun r _ => hbooks.recordSettled (emits_call hdb rfl rfl))
    fun _ => emits_updateChallengeStatus hdb _ _

end Database

section Network

variable {basis : Basis} {records : List PayoutRecord}
  (hquiet : ∀ op, op.broadcasts = false → op.opensRun = false → ok op)

include hquiet

theorem emits_payDirectly (challengeId : Text)
    (hsubmit : ∀ tx : Envelope Entry,
      tx.payments ∈ payoutBatches (records.map (payoutRecipient basis)) →
      ok (.stellar (.submitTransaction tx))) :
    (payDirectly challengeId basis records).Emits ok good fun _ => True := by
  have hbatches : (submitBatchPayout batchOptions challengeId
      (records.map (payoutRecipient basis))).Emits (fun o => ok (.stellar o))
      (fun _ _ => True) fun _ => True := by
    refine (submitBatchPayout_emits (fun op hop => hquiet _ ?_ rfl) hsubmit batchOptions
      challengeId).mono fun _ _ => trivial
    cases op with
    | submitTransaction tx => exact absurd rfl (hop tx)
    | _ => rfl
  refine Prog.Emits.bind (Prog.Emits.embed (h := stellarHom) (fun _ _ _ => trivial) hbatches)
    fun results _ => ?_
  have hdb : ∀ op, op.isNetwork = false → op.opensRun = false → ok op :=
    fun op hop => hquiet op (broadcasts_of_db hop)
  have hbooks : Bookkeeping fun p : Service Unit => p.Emits ok good fun _ => True :=
    emits_bookkeeping hdb
  exact hbooks.bind (hbooks.forEach fun result _ => hbooks.recordResult fun _ _ _ _ =>
    emits_call hdb rfl rfl) fun _ => emits_updateChallengeStatus hdb _ _

/-- Both paths together. -/
theorem emits_payRecords (config : PayoutConfig) (challengeId : Text)
    (hsettle : ok (.settle (records.map (escrowRecipient basis))))
    (hsubmit : ∀ tx : Envelope Entry,
      tx.payments ∈ payoutBatches (records.map (payoutRecipient basis)) →
      ok (.stellar (.submitTransaction tx))) :
    (payRecords config challengeId basis records).Emits ok good fun _ => True := by
  have hdirect : (payDirectly challengeId basis records).Emits ok good fun _ => True :=
    emits_payDirectly hquiet challengeId hsubmit
  unfold payRecords
  split
  · have hescrow : (settleThroughEscrow basis records).Emits ok good fun _ => True :=
      emits_settleThroughEscrow (fun op hop => hquiet op (broadcasts_of_db hop)) hsettle
    exact hescrow.tryCatch fun _ => hdirect
  · exact hdirect

end Network

/-! ### After the look at the challenge -/

/-- The calls of a run that has found its challenge `ended`. -/
theorem emits_opened (config : PayoutConfig) (challengeId : Text) (challenge : Challenge) :
    (getLeaderboard >>= afterLeaderboard config challengeId challenge).Emits
      (fun op : Op => op.opensRun = false) (fun _ _ => True) fun _ => True := by
  have hdb : ∀ op : Op, op.isNetwork = false → op.opensRun = false → op.opensRun = false :=
    fun _ _ h => h
  refine (emits_call hdb rfl rfl).bind fun sessions _ => ?_
  unfold afterLeaderboard
  split
  · trivial
  split
  · exact emits_updateChallengeStatus hdb _ _
  refine (emits_call hdb rfl rfl).bind fun tiers _ =>
    (emits_call hdb rfl rfl).bind fun terms _ => ?_
  refine (emits_createPayoutRecords hdb _).bind fun records _ => ?_
  split
  · exact emits_updateChallengeStatus hdb _ _
  · exact emits_payRecords (fun _ _ h => h) config challengeId rfl fun _ _ => rfl

/-- What a refund consists of after its looks, but for the payment. -/
def Op.inRefund : Op → Bool
  | .getDepositSender _ | .dateNow | .createRefund _ | .updateChallengeStatus .refunded _
  | .insertAuditLog _ => true
  | _ => false

theorem emits_refundDeposit {challenge : Challenge} (adminId : UserId) (reason : Text)
    (hquiet : ∀ op : Op, op.inRefund = true → ok op)
    (hpay : ∀ destination now, ok (.submitRefundPayment destination
      (stroopsToUsdc (refundAmountStroops challenge now)))) :
    (refundDeposit adminId reason challenge).Emits ok good fun _ => True := by
  have hcall : ∀ op : Op, op.inRefund = true →
      (Prog.call (S := payoutSig) op : Service (payoutSig.Ans op)).Emits ok good fun _ => True :=
    fun op hop => Prog.Emits.call (hquiet op hop) fun _ _ => trivial
  unfold refundDeposit
  split
  · trivial
  refine (hcall (.getDepositSender _) rfl).bind fun sender _ => ?_
  split
  · trivial
  refine (hcall .dateNow rfl).bind fun now _ => ?_
  refine Prog.Emits.bind (P := fun _ => True) ?_ fun hash _ => ?_
  · unfold submitRefund
    split
    · exact Prog.Emits.bind (P := fun _ => True)
        (Prog.Emits.call (S := payoutSig) (hpay _ now) fun _ _ => trivial) fun _ _ => trivial
    · trivial
  refine (hcall (.createRefund _) rfl).bind fun refund _ => ?_
  refine (hcall (.updateChallengeStatus .refunded none) rfl).bind fun _ _ => ?_
  exact (hcall (.insertAuditLog _) rfl).bind fun _ _ => trivial

end BrandBlitz.Payout

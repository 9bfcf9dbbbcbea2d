import BrandBlitz.Payout.FraudGuard

/-!
# BrandBlitz.Payout.Recovery

**Retrying a failed payout does nothing.** A run in which a batch fails leaves the
challenge in `payout_failed`. The admin's retry puts the payout's row back to `pending`
and enqueues the challenge's payout job, but it does not touch the challenge, and the job
returns at once unless the challenge is `ended`. So the status never moves and nothing is
ever submitted again, in any sequence of retries and jobs, whatever the network does.
-/

namespace BrandBlitz.Payout

open BrandBlitz.Lib BrandBlitz.Stellar

/-- Is the user's payout marked as failed? -/
def World.failedPayout (w : World) (u : UserId) : Bool :=
  (w.payouts u).any fun row => row.status = .failed

/-- What retrying is for: between `w₀` and `w`, each failed payout was submitted once and
no other, and the challenge is settled. -/
def Recovered (w₀ w : World) : Prop :=
  w.challenge.status = .settled ∧
    ∀ u, (transfersTo u (w.submissions.drop w₀.submissions.length)).length =
      if w₀.failedPayout u then 1 else 0

/-- Admins retry payouts and the worker runs the challenge's job, in any order and any
number of times. -/
def startsRecovery (challengeId : Text) (w w' : World) (p : Service Unit) : Prop :=
  w' = w ∧ ((∃ adminId userId, p = retryPayout adminId userId) ∨
    ∃ config, p = processPayout config challengeId)

/-- The challenge is still failed, and nothing was submitted since. -/
def Stuck (w₀ w : World) : Prop :=
  w.challenge.status = .payoutFailed ∧ w.submissions = w₀.submissions

/-- The call neither writes the challenge nor submits anything. -/
def Op.Aloof (op : Op) : Prop := op.writesChallenge = false ∧ op.submission = []

variable {G : World → Op → Env → Prop} {w₀ w : World}

/-- A retry writes the payout's row and the queue, and no more. -/
theorem wp_retryPayout_stuck (adminId userId : UserId) (hw : Stuck w₀ w) :
    (retryPayout adminId userId).wp payoutMachine G (Stuck w₀)
      (Prog.Ends (fun _ => Stuck w₀) fun _ => Stuck w₀) w := by
  have hcall : ∀ {op : Op}, op.Aloof → (Prog.call (S := payoutSig) op : Service _).Emits
      Op.Aloof (fun _ _ => True) fun _ => True :=
    fun hop => Prog.Emits.call hop fun _ _ => trivial
  have hemits : (retryPayout adminId userId).Emits Op.Aloof (fun _ _ => True)
      fun _ => True := by
    refine (hcall ⟨rfl, rfl⟩).bind fun payout _ => ?_
    cases payout with
    | none => trivial
    | some record =>
        dsimp only
        split
        · trivial
        · exact (hcall ⟨rfl, rfl⟩).bind fun _ _ => hcall ⟨rfl, rfl⟩
  refine hemits.wp (fun _ h => h) (fun w' op e h hop _ => ⟨⟨?_, ?_⟩, trivial⟩) hw
  · rw [exec_challenge hop.1]
    exact h.1
  · rw [exec_submissions hop.2]
    exact h.2

/-- The job sees a challenge that is not `ended`, and returns. -/
theorem wp_processPayout_stuck (config : PayoutConfig) (challengeId : Text) (hw : Stuck w₀ w) :
    (processPayout config challengeId).wp payoutMachine G (Stuck w₀)
      (Prog.Ends (fun _ => Stuck w₀) fun _ => Stuck w₀) w := by
  have hnot : w.challenge.status ≠ .ended := by
    rw [hw.1]
    decide
  exact wp_processPayout hw (fun _ _ _ _ _ _ => hw) (fun _ _ => hw) (fun _ => hw)
    (fun hended _ => absurd hended hnot) fun hallocates => absurd hallocates.1 hnot

/-- **No failed payout is ever recovered.** From any world whose challenge is in
`payout_failed`, no history of retries and payout jobs submits anything or changes the
status, whatever each call is answered; in particular none recovers. -/
theorem failed_payouts_never_recover (challengeId : Text) (w₀ : World)
    (h₀ : w₀.challenge.status = .payoutFailed) {w : World}
    {inProgress : Option (Service Unit)}
    (history : Seq payoutMachine (fun _ _ _ => True) (startsRecovery challengeId) w₀ w
      inProgress) :
    w.challenge.status = .payoutFailed ∧ w.submissions = w₀.submissions ∧
      ¬ Recovered w₀ w := by
  have hstuck : Stuck w₀ w := by
    refine (Seq.sound (J := Stuck w₀) ⟨h₀, rfl⟩ (fun _ h => h) ?_ history).1
    intro w w' p hw h
    obtain ⟨rfl, ⟨adminId, userId, rfl⟩ | ⟨config, rfl⟩⟩ := h
    · exact ⟨hw, Prog.wp_world (wp_retryPayout_stuck adminId userId hw)⟩
    · exact ⟨hw, Prog.wp_world (wp_processPayout_stuck config challengeId hw)⟩
  refine ⟨hstuck.1, hstuck.2, fun hrecovered => ?_⟩
  cases hstuck.1.symm.trans hrecovered.1

/-! ### One history

One player, no escrow, and a network that refuses the batch. -/

/-- The world after a run whose batch failed. -/
def afterFailedBatch : World :=
  ((processPayout directConfig "c1".toList).run payoutMachine (fun _ => netDown)
    (World.ended 1000000000 [player 1 300])).2

/-- The admin retries the payout, and the job runs with nothing failing. -/
def afterRetry : World :=
  ((processPayout directConfig "c1".toList).run payoutMachine (fun _ => calm)
    ((retryPayout 9 1).run payoutMachine (fun _ => calm) afterFailedBatch).2).2

theorem retry_history : Seq payoutMachine (fun _ _ _ => True) (startsRecovery "c1".toList)
    afterFailedBatch afterRetry none :=
  Seq.run (Seq.start (Seq.run (Seq.start Seq.init ⟨rfl, .inl ⟨9, 1, rfl⟩⟩)
    fun _ _ _ => trivial) ⟨rfl, .inr ⟨directConfig, rfl⟩⟩) fun _ _ _ => trivial

/-- The row is back at `pending` and the job has run, to no effect. -/
theorem retried_payout_not_recovered :
    afterFailedBatch.failedPayout 1 = true ∧ afterRetry.payoutQueued = true ∧
      afterRetry.failedPayout 1 = false ∧ ¬ Recovered afterFailedBatch afterRetry := by
  refine ⟨by decide, by decide, by decide, fun hrecovered => ?_⟩
  exact absurd hrecovered.1 (by decide)

/-- The same, by the theorem. -/
theorem retried_payout_stays_failed : afterRetry.challenge.status = .payoutFailed :=
  (failed_payouts_never_recover "c1".toList afterFailedBatch (by decide) retry_history).1

end BrandBlitz.Payout

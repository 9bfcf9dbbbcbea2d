import BrandBlitz.Payout.Process
import BrandBlitz.Payout.Rows

/-!
# BrandBlitz.Payout.DeadLetter

**The end of a payout job** (`apps/api/src/queues/dlq.ts`,
`apps/api/src/queues/processors/payout.processor.ts`). Two parties decide whether a job is
over. The queue goes by the kind of the error: an `UnrecoverableError` ends the job at
once, any other one when the allowed attempts are used up. `forwardToDlq` goes by the
counter alone, so a job that is given up early is not forwarded, and the rows of its
challenge stay as they are.

`notSilent_iff` says for which outcomes a failed job leaves a trace.
-/

namespace BrandBlitz.Payout.DeadLetter

open BrandBlitz.Lib BrandBlitz.Stellar BrandBlitz.Paging BrandBlitz.Payout.Rows

/-! ### Jobs and their attempts -/

/-- What the handlers read of a job. -/
structure Job where
  queueName : Text
  id : Option Text
  name : Text
  /-- `data.challengeId`; the daily batch has none -/
  challengeId : Option Uuid
  /-- `opts.attempts`, at least one -/
  attempts : Option { n : Nat // 1 ≤ n }

/-- `job.opts.attempts ?? 1`. -/
def Job.maxAttempts (job : Job) : Nat := (job.attempts.map Subtype.val).getD 1

structure DeadLetterPayload where
  originalQueue : Text
  originalJobId : Option Text
  jobName : Text
  /-- `data` -/
  challengeId : Option Uuid
  failedReason : Text
  attemptsMade : Nat
deriving DecidableEq, Repr

/-- How an attempt ends. -/
inductive AttemptOutcome
  | success
  | error (message : Text)
  | unrecoverable (message : Text)
deriving DecidableEq, Repr

/-- What `processPayoutJob` makes of the outcome of `processPayout`. -/
def attemptOutcome : Except Err Unit → AttemptOutcome
  | .ok () => .success
  | .error err => if isFraudBlockError err then .unrecoverable err.text else .error err.text

/-- `forwardToDlq(dlqQueue, job, err)`, the additions to the queue succeeding. -/
def forwardToDlq (dlqQueue : List DeadLetterPayload) (job : Job) (attemptsMade : Nat)
    (message : Text) : List DeadLetterPayload :=
  if attemptsMade < job.maxAttempts then dlqQueue
  else dlqQueue ++
    [⟨job.queueName, job.id, job.name, job.challengeId, message, attemptsMade⟩]

inductive JobState
  /-- for the first attempt or the next one -/
  | waiting
  | completed
  | failed
deriving DecidableEq, Repr

structure JobRun where
  state : JobState
  attemptsMade : Nat
  dlqQueue : List DeadLetterPayload

/-- A failed attempt: the queue decides about the job, then its handler is told. -/
def JobRun.fail (job : Job) (run : JobRun) (message : Text) (state : JobState) : JobRun where
  state := state
  attemptsMade := run.attemptsMade + 1
  dlqQueue := forwardToDlq run.dlqQueue job (run.attemptsMade + 1) message

def JobRun.attempt (job : Job) (run : JobRun) (outcome : AttemptOutcome) : JobRun :=
  match run.state, outcome with
  | .waiting, .success => { run with state := .completed, attemptsMade := run.attemptsMade + 1 }
  | .waiting, .error message => run.fail job message
      (if run.attemptsMade + 1 < job.maxAttempts then .waiting else .failed)
  | .waiting, .unrecoverable message => run.fail job message .failed
  -- a job that is over is not handed out again
  | _, _ => run

/-- The job after these attempts. -/
def Job.run (job : Job) (outcomes : List AttemptOutcome) : JobRun :=
  outcomes.foldl (JobRun.attempt job) ⟨.waiting, 0, []⟩

/-! ### The dead-letter worker -/

structure AuditEntry where
  entityKey : Option Uuid
  failedReason : Text
  attemptsMade : Nat
  originalJobId : Option Text
  affectedPayouts : List Uuid
deriving DecidableEq, Repr

structure DlqWorld where
  payouts : PayoutsTable
  auditLog : List AuditEntry

/-- Do the rows of the challenge wait for the job? -/
def waitsFor (challengeId : Uuid) (t : PayoutTuple) : Bool :=
  t.challengeId = some challengeId && (t.status = some .pending || t.status = some .processing)

/-- The ids that the update returns. -/
def affected (challengeId : Option Uuid) (T : PayoutsTable) : List Uuid :=
  match challengeId with
  | none => []
  | some challengeId => (T.rows.filter (waitsFor challengeId ·.1)).map (·.1.id)

/-- `processPayoutDlqJob`: what it leaves behind, whether it returns or throws. -/
def processPayoutDlqJob (payload : DeadLetterPayload) (w : DlqWorld) : DlqWorld :=
  match payoutDlqUpdate payload.challengeId payload.attemptsMade payload.failedReason w.payouts with
  | .error _ => w
  | .ok payouts =>
    -- JSON text escapes a NUL character, and `jsonb` does not take the escape
    if sendable payload.failedReason then
      { payouts
        auditLog := w.auditLog ++ [⟨payload.challengeId, payload.failedReason,
          payload.attemptsMade, payload.originalJobId, affected payload.challengeId w.payouts⟩] }
    else { w with payouts }

/-! ### Which jobs are forwarded -/

/-- The queue's rule: the attempt that ends the job in failure, counted from `made`, and
its message. -/
def lastFailure (maxAttempts : Nat) : Nat → List AttemptOutcome → Option (Nat × Text)
  | _, [] => none
  | _, .success :: _ => none
  | made, .error message :: rest =>
      if made + 1 < maxAttempts then lastFailure maxAttempts (made + 1) rest
      else some (made + 1, message)
  | made, .unrecoverable message :: _ => some (made + 1, message)

theorem foldl_attempt_over (job : Job) {run : JobRun} (h : run.state ≠ .waiting)
    (outcomes : List AttemptOutcome) : outcomes.foldl (JobRun.attempt job) run = run := by
  induction outcomes with
  | nil => rfl
  | cons outcome rest ih =>
      have hstay : run.attempt job outcome = run := by
        unfold JobRun.attempt
        split <;> simp_all
      rw [List.foldl_cons, hstay, ih]

/-- What has become of a job that has made some attempts, all of them to be retried. -/
theorem foldl_attempt (job : Job) (outcomes : List AttemptOutcome) (made : Nat) :
    let run := outcomes.foldl (JobRun.attempt job) ⟨.waiting, made, []⟩
    match lastFailure job.maxAttempts made outcomes with
    | none => run.state ≠ .failed ∧ run.dlqQueue = []
    | some (n, message) => run.state = .failed ∧
        run.dlqQueue = forwardToDlq [] job n message := by
  induction outcomes generalizing made with
  | nil => simp [lastFailure]
  | cons outcome rest ih =>
      rw [List.foldl_cons]
      cases outcome with
      | success =>
          rw [foldl_attempt_over job (by simp [JobRun.attempt])]
          simp [lastFailure, JobRun.attempt]
      | error message =>
          by_cases hretry : made + 1 < job.maxAttempts
          · have hnext : (⟨.waiting, made, []⟩ : JobRun).attempt job (.error message) =
                ⟨.waiting, made + 1, []⟩ := by
              simp [JobRun.attempt, JobRun.fail, forwardToDlq, hretry]
            rw [hnext]
            simpa only [lastFailure, hretry, if_true] using ih (made + 1)
          · rw [foldl_attempt_over job (by simp [JobRun.attempt, JobRun.fail, hretry])]
            simp [lastFailure, JobRun.attempt, JobRun.fail, hretry]
      | unrecoverable message =>
          rw [foldl_attempt_over job (by simp [JobRun.attempt, JobRun.fail])]
          simp [lastFailure, JobRun.attempt, JobRun.fail]

/-! ### What the worker leaves behind -/

/-- No row of the challenge waits any more. -/
def Cleared (challengeId : Option Uuid) (T : PayoutsTable) : Prop :=
  ∀ c, challengeId = some c → ∀ r ∈ T.rows, waitsFor c r.1 = false

/-- A failure in the update is one of its message. -/
theorem failPayoutsForChallenge_ok (challengeId : Uuid) {message : Text}
    (hmessage : message ≠ []) (hsend : sendable message = true) (T : PayoutsTable) :
    ∃ T', failPayoutsForChallenge challengeId message T = .ok T' ∧
      Cleared (some challengeId) T' := by
  have haccepted := (failPayoutsForChallenge_accepted_iff challengeId message T).mpr
    (Or.inl hmessage)
  have hkeeps : payouts.KeepsApart fun t =>
      some { t with status := some .failed, errorMessage := some message } :=
    keepsApart (by rintro t _ ⟨⟩; exact ⟨rfl, rfl, rfl⟩)
  unfold failPayoutsForChallenge at haccepted ⊢
  rw [if_pos hsend] at haccepted ⊢
  cases hupdate : payouts.update _ _ T with
  | error e =>
      obtain ⟨r, -, halter⟩ := Rules.update_error hkeeps hupdate
      obtain ⟨-, ⟨-, ⟨⟩⟩ | ⟨t, rule, rfl, -, -⟩⟩ := Rules.alter_error_iff.mp halter
      exact absurd hupdate (haccepted rule)
  | ok T' =>
      refine ⟨T', rfl, ?_⟩
      rintro c ⟨⟩ r' hr'
      obtain ⟨r, hr, halter⟩ := Rules.exists_of_forall₂ (Rules.update_ok hkeeps hupdate) hr'
      rcases Rules.alter_ok halter with ⟨-, hset⟩ | ⟨hselects, rfl⟩
      · rw [← Option.some.inj hset]
        simp [waitsFor]
      · exact hselects

theorem processPayoutDlqJob_cleared_iff (payload : DeadLetterPayload) (w : DlqWorld) :
    Cleared payload.challengeId (processPayoutDlqJob payload w).payouts ↔
      sendable (dlqMessage payload.attemptsMade payload.failedReason) = true ∨
        Cleared payload.challengeId w.payouts := by
  unfold processPayoutDlqJob payoutDlqUpdate
  cases hchallenge : payload.challengeId with
  | none => simp [Cleared]
  | some challengeId =>
      cases hsend : sendable (dlqMessage payload.attemptsMade payload.failedReason) with
      | false => simp [failPayoutsForChallenge, hsend]
      | true =>
          obtain ⟨T', hupdate, hcleared⟩ := failPayoutsForChallenge_ok challengeId
            (dlqMessage_ne_nil _ _) hsend w.payouts
          simp only [hupdate, true_or, iff_true]
          split <;> exact hcleared

/-! ### No job dies silently -/

/-- A job that failed is forwarded once, and once the worker ran no row of its challenge
waits; any other job is not forwarded. The worker starts with `w`. -/
def NotSilent (job : Job) (outcomes : List AttemptOutcome) (w : DlqWorld) : Prop :=
  match (job.run outcomes).state with
  | .failed => ∃ payload, (job.run outcomes).dlqQueue = [payload] ∧
      Cleared job.challengeId (processPayoutDlqJob payload w).payouts
  | _ => (job.run outcomes).dlqQueue = []

/-- After ordinary errors alone, an `UnrecoverableError` before the last allowed attempt. -/
def GivenUpEarly (maxAttempts made : Nat) (outcomes : List AttemptOutcome) : Prop :=
  ∃ (errors : List Text) (message : Text) (rest : List AttemptOutcome),
    outcomes = errors.map .error ++ .unrecoverable message :: rest ∧
      made + errors.length + 1 < maxAttempts

/-- Only a job that is given up early has attempts left when it fails. -/
theorem givenUpEarly_iff (maxAttempts : Nat) (outcomes : List AttemptOutcome) (made : Nat) :
    GivenUpEarly maxAttempts made outcomes ↔ ∃ n message,
      lastFailure maxAttempts made outcomes = some (n, message) ∧ n < maxAttempts := by
  induction outcomes generalizing made with
  | nil => simp [GivenUpEarly, lastFailure]
  | cons outcome rest ih =>
      cases outcome with
      | success =>
          have hnot : ¬ GivenUpEarly maxAttempts made (.success :: rest) := by
            rintro ⟨_ | _, message, rest', heq, -⟩ <;> simp at heq
          simp [hnot, lastFailure]
      | error text =>
          have hshift : GivenUpEarly maxAttempts made (.error text :: rest) ↔
              GivenUpEarly maxAttempts (made + 1) rest := by
            constructor
            · rintro ⟨_ | ⟨text', errors⟩, message, rest', heq, hlt⟩
              · simp at heq
              · simp only [List.map_cons, List.cons_append, List.cons.injEq] at heq
                refine ⟨errors, message, rest', heq.2, ?_⟩
                simp only [List.length_cons] at hlt
                omega
            · rintro ⟨errors, message, rest', rfl, hlt⟩
              refine ⟨text :: errors, message, rest', rfl, ?_⟩
              simp only [List.length_cons]
              omega
          rw [hshift, lastFailure]
          by_cases hretry : made + 1 < maxAttempts
          · rw [if_pos hretry, ih]
          · rw [if_neg hretry]
            constructor
            · rintro ⟨errors, -, -, -, hlt⟩
              omega
            · rintro ⟨n, message, hlast, hlt⟩
              cases hlast
              omega
      | unrecoverable text =>
          rw [lastFailure]
          constructor
          · rintro ⟨_ | _, message, rest', heq, hlt⟩
            · exact ⟨made + 1, text, rfl, hlt⟩
            · simp at heq
          · rintro ⟨n, message, hlast, hlt⟩
            cases hlast
            exact ⟨[], text, rest, rfl, hlt⟩

/-- **No job dies silently**, for any attempts and outcomes, exactly when it is not given up
early and, if it fails, its last message can be stored or there is no row to clear. -/
theorem notSilent_iff (job : Job) (outcomes : List AttemptOutcome) (w : DlqWorld) :
    NotSilent job outcomes w ↔ ¬ GivenUpEarly job.maxAttempts 0 outcomes ∧
      ∀ n message, lastFailure job.maxAttempts 0 outcomes = some (n, message) →
        sendable (dlqMessage n message) = true ∨ Cleared job.challengeId w.payouts := by
  have hrun := foldl_attempt job outcomes 0
  unfold NotSilent
  rw [Job.run, givenUpEarly_iff]
  cases hlast : lastFailure job.maxAttempts 0 outcomes with
  | none =>
      simp only [hlast] at hrun
      cases hstate : (outcomes.foldl (JobRun.attempt job) ⟨.waiting, 0, []⟩).state with
      | failed => exact absurd hstate hrun.1
      | waiting => simpa using hrun.2
      | completed => simpa using hrun.2
  | some last =>
      obtain ⟨n, message⟩ := last
      simp only [hlast] at hrun
      rw [hrun.1, hrun.2]
      by_cases hearly : n < job.maxAttempts
      · simp [forwardToDlq, hearly]
      · have hcleared := processPayoutDlqJob_cleared_iff
          ⟨job.queueName, job.id, job.name, job.challengeId, message, n⟩ w
        simp [forwardToDlq, hearly, hcleared]

/-- A payout job as it is queued. -/
def payoutJob : Job :=
  ⟨"payout".toList, some "payout:0".toList, "process-payout".toList, some 0, some ⟨5, by decide⟩⟩

/-- Blocked for fraud at its first attempt, the job fails and nobody is told. -/
theorem fraud_block_is_silent : ¬ NotSilent payoutJob
    [attemptOutcome (.error (Err.new FRAUD_BLOCK_SENTINEL))]
    ⟨⟨[⟨waiting, rfl⟩], List.pairwise_singleton _ _⟩, []⟩ := by
  have hblock : attemptOutcome (.error (Err.new FRAUD_BLOCK_SENTINEL)) =
      .unrecoverable FRAUD_BLOCK_SENTINEL := by decide
  have hnone : (payoutJob.run [.unrecoverable FRAUD_BLOCK_SENTINEL]).dlqQueue = [] := by decide
  rw [hblock]
  rintro ⟨payload, hforwarded, -⟩
  rw [hnone] at hforwarded
  cases hforwarded

end BrandBlitz.Payout.DeadLetter

import Mathlib.Data.List.Forall2
import BrandBlitz.Stellar.Payout

/-!
# BrandBlitz.Stellar.Accounting

**`submitBatchPayout` accounts for every recipient**, whatever Horizon answers: a
recipient is either reported as invalid or in exactly one result, and a result says
whether the last attempt at its batch went through.

The argument is about the calls of a run, in order (`Prog.calls`). An attempt begins when
the account's sequence number is asked for, which happens once in each turn of the
`while` loop; it went through when its last call is a submission that was answered.

* One attempt makes one such beginning and returns exactly when it went through
  (`wp_submitAttempt_calls`).
* The loop of one batch adds attempts as long as there are retries left, and never
  throws as long as no reset does (`wp_submitBatch_calls`).
* The loop over the batches puts their calls one after another (`Prog.wp` of
  `submitBatches`, by the rule `wp_submitBatches`).
-/

namespace BrandBlitz.Stellar

open BrandBlitz.Lib

variable {ι : Type}

/-! ### Who is left out -/

/-- `recipients.filter(…)` with its callback: the valid recipients, and the calls of
`onInvalidRecipient`. -/
def selectRecipients : List (PayoutRecipient ι) →
    List (PayoutRecipient ι) × List (PayoutRecipient ι × Text)
  | [] => ([], [])
  | recipient :: rest =>
    let selected := selectRecipients rest
    match getInvalidRecipientReason recipient with
    | none => (recipient :: selected.1, selected.2)
    | some reason => (selected.1, (recipient, reason) :: selected.2)

/-- `submitBatchPayout` with the reports that it makes before it awaits anything. -/
def reportAndSubmit (options : SubmitBatchPayoutOptions) (challengeId : Text)
    (recipients : List (PayoutRecipient ι)) :
    List (PayoutRecipient ι × Text) × Prog (stellarSig ι) Err (List (PayoutBatchResult ι)) :=
  let selected := selectRecipients recipients
  (selected.2, submitBatches options challengeId 0 (chunkArray selected.1 MAX_OPS_PER_TX))

/-- Every invalid recipient is reported once, with the reason, in order. -/
theorem selectRecipients_eq (recipients : List (PayoutRecipient ι)) :
    selectRecipients recipients =
      (recipients.filter (fun r => (getInvalidRecipientReason r).isNone),
        recipients.filterMap fun r => (getInvalidRecipientReason r).map (r, ·)) := by
  induction recipients with
  | nil => rfl
  | cons recipient rest ih =>
      cases h : getInvalidRecipientReason recipient with
      | none => simp [selectRecipients, h, ih]
      | some reason => simp [selectRecipients, h, ih]

theorem reportAndSubmit_eq (options : SubmitBatchPayoutOptions) (challengeId : Text)
    (recipients : List (PayoutRecipient ι)) :
    reportAndSubmit options challengeId recipients =
      (recipients.filterMap fun r => (getInvalidRecipientReason r).map (r, ·),
        submitBatchPayout options challengeId recipients) := by
  rw [reportAndSubmit, selectRecipients_eq]
  rfl

/-- No slice is longer than `size`. -/
theorem length_le_of_mem_chunksOf {α : Type} {size : Nat} :
    ∀ {fuel : Nat} {l c : List α}, c ∈ chunksOf size fuel l → c.length ≤ size := by
  intro fuel
  induction fuel with
  | zero => intro l c hc; cases hc
  | succ fuel ih =>
      intro l c hc
      cases l with
      | nil => cases hc
      | cons x xs =>
          rcases List.mem_cons.mp hc with rfl | hc
          · exact List.length_take_le _ _
          · exact ih hc

/-! ### The calls for one batch -/

/-- Does an attempt begin with this operation? -/
def StellarOp.beginsAttempt : StellarOp ι → Bool
  | .reserveSequence | .loadAccount => true
  | _ => false

abbrev StellarCall (ι : Type) := (stellarSig ι).Call Err

/-- How many attempts there were. -/
def attempts (calls : List (StellarCall ι)) : Nat := calls.countP (·.1.beginsAttempt)

/-- The last attempt went through: its last call is a submission with an answer. -/
def WentThrough (calls : List (StellarCall ι)) : Prop :=
  ∃ tx hash, calls.getLast? = some ⟨.submitTransaction tx, .ok hash⟩

/-- All that is submitted are the payments of the batch. -/
def Submits (batch : List (PayoutRecipient ι)) (calls : List (StellarCall ι)) : Prop :=
  ∀ call ∈ calls, ∀ tx, call.1 = .submitTransaction tx → tx.payments = batch

/-- At most this many attempts. -/
def SubmitBatchPayoutOptions.maxAttempts (options : SubmitBatchPayoutOptions) (retries : Nat) :
    Nat := if options.sequenceStore then retries + 1 else 1

@[simp] theorem attempts_append (xs ys : List (StellarCall ι)) :
    attempts (xs ++ ys) = attempts xs + attempts ys := List.countP_append

theorem Submits.append {batch : List (PayoutRecipient ι)} {xs ys : List (StellarCall ι)}
    (hx : Submits batch xs) (hy : Submits batch ys) : Submits batch (xs ++ ys) := by
  intro call hcall
  rcases List.mem_append.mp hcall with h | h
  · exact hx call h
  · exact hy call h

theorem Submits.single {batch : List (PayoutRecipient ι)} {call : StellarCall ι}
    (h : ∀ tx, call.1 = .submitTransaction tx → tx.payments = batch) :
    Submits batch [call] := by
  intro call' hcall'
  rwa [List.mem_singleton.mp hcall']

/-- Only the last call counts. -/
theorem wentThrough_append {xs ys : List (StellarCall ι)} (hy : ys ≠ []) :
    WentThrough (xs ++ ys) ↔ WentThrough ys := by
  rw [WentThrough, WentThrough, List.getLast?_append_of_ne_nil _ hy]

theorem not_wentThrough_error {xs : List (StellarCall ι)} {op : StellarOp ι} {err : Err} :
    ¬ WentThrough (xs ++ [⟨op, .error err⟩]) := by
  rintro ⟨tx, hash, h⟩
  rw [List.getLast?_concat] at h
  cases h

/-! ### Attempts -/

section Attempts

variable {W E : Type} {M : Machine (stellarSig ι) Err W E}

/-- The state after calls of one attempt at the batch. -/
structure InAttempt (batch : List (PayoutRecipient ι)) (log calls : List (StellarCall ι))
    (state : W × List (StellarCall ι)) : Prop where
  log : state.2 = log ++ calls
  once : attempts calls = 1
  own : Submits batch calls

/-- One more call. -/
theorem InAttempt.next {batch : List (PayoutRecipient ι)} {log calls : List (StellarCall ι)}
    {state : W × List (StellarCall ι)} (h : InAttempt batch log calls state) {op : StellarOp ι}
    (hop : op.beginsAttempt = false) (hown : ∀ tx, op = .submitTransaction tx → tx.payments = batch)
    (answer : Except Err ((stellarSig ι).Ans op)) (w : W) :
    InAttempt batch log (calls ++ [⟨op, answer⟩]) (w, state.2 ++ [⟨op, answer⟩]) where
  log := by rw [h.log, List.append_assoc]
  once := by
    rw [attempts_append, h.once]
    simp [attempts, hop]
  own := h.own.append (Submits.single hown)

/-- An attempt so far without success, and one that went through. -/
def Unpaid (batch : List (PayoutRecipient ι)) (log : List (StellarCall ι))
    (state : W × List (StellarCall ι)) : Prop :=
  ∃ calls, InAttempt batch log calls state ∧ ¬ WentThrough calls

def Paid (batch : List (PayoutRecipient ι)) (log : List (StellarCall ι))
    (state : W × List (StellarCall ι)) : Prop :=
  ∃ calls, InAttempt batch log calls state ∧ WentThrough calls

variable {batch : List (PayoutRecipient ι)} {log : List (StellarCall ι)}

/-- The sequence number begins the attempt. -/
theorem wp_sourceAccount_calls (options : SubmitBatchPayoutOptions) (w : W) :
    (sourceAccount (ι := ι) options).wp M.logged (fun _ _ _ => True) (fun _ => True)
      (Prog.Ends (fun _ => Unpaid batch log) fun _ => Unpaid batch log) (w, log) := by
  have hbegin : ∀ op : StellarOp ι, op.beginsAttempt = true →
      (Prog.call (S := stellarSig ι) op).wp M.logged (fun _ _ _ => True) (fun _ => True)
        (Prog.Ends (fun _ => Unpaid batch log) fun _ => Unpaid batch log) (w, log) := by
    intro op hop
    have hfirst : ∀ answer w', InAttempt batch log [(⟨op, answer⟩ : StellarCall ι)]
        ((w', log ++ [⟨op, answer⟩]) : W × List (StellarCall ι)) := fun answer w' =>
      ⟨rfl, by simp [attempts, hop], Submits.single fun tx htx => by subst htx; cases hop⟩
    refine Prog.wp_call_logged (fun e a _ => ⟨_, hfirst _ _, ?_⟩)
      fun e err _ => ⟨_, hfirst _ _, @not_wentThrough_error _ [] _ _⟩
    rintro ⟨tx, hash, h⟩
    cases h
    cases hop
  unfold sourceAccount
  split
  · exact hbegin .reserveSequence rfl
  · exact hbegin .loadAccount rfl

theorem wp_buildTransaction_calls (sourceSequence : Nat) (memo : Text)
    {state : W × List (StellarCall ι)} (h : Unpaid batch log state) :
    (buildTransaction sourceSequence memo batch).wp M.logged (fun _ _ _ => True) (fun _ => True)
      (Prog.Ends (fun _ => Unpaid batch log) fun _ => Unpaid batch log) state := by
  obtain ⟨calls, hcalls, -⟩ := h
  refine Prog.wp_call_logged
    (fun e a _ => ⟨_, hcalls.next rfl (fun tx htx => by cases htx) _ _, ?_⟩)
    fun e err _ => ⟨_, hcalls.next rfl (fun tx htx => by cases htx) _ _, not_wentThrough_error⟩
  rintro ⟨tx, hash, h⟩
  rw [List.getLast?_concat] at h
  cases h

theorem wp_submitTransaction_calls {tx : Envelope ι} (htx : tx.payments = batch)
    {state : W × List (StellarCall ι)} (h : Unpaid batch log state) :
    (submitTransaction tx).wp M.logged (fun _ _ _ => True) (fun _ => True)
      (Prog.Ends (fun _ => Paid batch log) fun _ => Unpaid batch log) state := by
  obtain ⟨calls, hcalls, -⟩ := h
  have hown : ∀ tx', (StellarOp.submitTransaction tx : StellarOp ι) = .submitTransaction tx' →
      tx'.payments = batch := fun tx' heq => by cases heq; exact htx
  exact Prog.wp_call_logged
    (fun e hash _ => ⟨_, hcalls.next rfl hown _ _, tx, hash, List.getLast?_concat⟩)
    fun e err _ => ⟨_, hcalls.next rfl hown _ _, not_wentThrough_error⟩

/-- **One attempt**: it returns when it went through, and throws otherwise. -/
theorem wp_submitAttempt_calls (options : SubmitBatchPayoutOptions) (memo : Text) (w : W) :
    (submitAttempt options memo batch).wp M.logged (fun _ _ _ => True) (fun _ => True)
      (Prog.Ends (fun result state => result.recipients = batch ∧ result.success = true ∧
        Paid batch log state) fun _ => Unpaid batch log) (w, log) := by
  refine Prog.wp_bind (wp_sourceAccount_calls options w) fun sourceSequence state h => ?_
  refine Prog.wp_bind (wp_buildTransaction_calls sourceSequence memo h) fun maxTime state h => ?_
  refine Prog.wp_bind (P := fun _ => Paid batch log)
    (wp_withRetry retryableStatusCodes (fun state h => ?_) 5 _ h) fun hash state h => ?_
  · exact wp_submitTransaction_calls rfl h
  · exact ⟨rfl, rfl, h⟩

/-! ### Batches -/

/-- What a result says of the calls for its batch. -/
structure AccountsFor (options : SubmitBatchPayoutOptions) (retries : Nat)
    (result : PayoutBatchResult ι) (calls : List (StellarCall ι)) : Prop where
  attempted : 1 ≤ attempts calls
  bounded : attempts calls ≤ options.maxAttempts retries
  own : Submits result.recipients calls
  success : result.success = true ↔ WentThrough calls

theorem one_le_maxAttempts (options : SubmitBatchPayoutOptions) (retries : Nat) :
    1 ≤ options.maxAttempts retries := by
  unfold SubmitBatchPayoutOptions.maxAttempts
  split <;> omega

/-- A batch that is given up after one attempt. -/
theorem Unpaid.accountsFor {state : W × List (StellarCall ι)} (h : Unpaid batch log state)
    (options : SubmitBatchPayoutOptions) (retries : Nat) (err : Err) :
    ∃ calls, state.2 = log ++ calls ∧
      AccountsFor options retries (failedBatch batch err) calls := by
  obtain ⟨calls, hcalls, hnot⟩ := h
  have hmax := one_le_maxAttempts options retries
  exact ⟨calls, hcalls.log, hcalls.once.ge, hcalls.once.le.trans hmax, hcalls.own,
    by simpa [failedBatch] using hnot⟩

/-- A batch that is paid at once. -/
theorem Paid.accountsFor {state : W × List (StellarCall ι)} {result : PayoutBatchResult ι}
    (h : Paid batch log state) (hbatch : result.recipients = batch)
    (hsuccess : result.success = true) (options : SubmitBatchPayoutOptions) (retries : Nat) :
    ∃ calls, state.2 = log ++ calls ∧ AccountsFor options retries result calls := by
  obtain ⟨calls, hcalls, hthrough⟩ := h
  have hmax := one_le_maxAttempts options retries
  exact ⟨calls, hcalls.log, hcalls.once.ge, hcalls.once.le.trans hmax, hbatch ▸ hcalls.own,
    iff_of_true hsuccess hthrough⟩

/-- An attempt that is given up for another one, after a reset. -/
theorem AccountsFor.afterReset {options : SubmitBatchPayoutOptions} {left : Nat}
    {result : PayoutBatchResult ι} {calls calls' : List (StellarCall ι)}
    (hstore : options.sequenceStore = true) (honce : attempts calls = 1)
    (hown : Submits result.recipients calls) (h : AccountsFor options left result calls') :
    AccountsFor options (left + 1) result (calls ++ [⟨.resetSequence, .ok ()⟩] ++ calls') := by
  have hne : calls' ≠ [] := fun hnil => by
    have hpos := h.attempted
    simp [hnil, attempts] at hpos
  have hnone : attempts ([⟨.resetSequence, .ok ()⟩] : List (StellarCall ι)) = 0 := rfl
  have hbound := h.bounded
  simp only [SubmitBatchPayoutOptions.maxAttempts, hstore, if_true] at hbound
  refine ⟨?_, ?_, ?_, ?_⟩
  · rw [attempts_append, attempts_append, honce]
    omega
  · simp only [SubmitBatchPayoutOptions.maxAttempts, hstore, if_true, attempts_append, honce,
      hnone]
    omega
  · exact (hown.append (Submits.single fun tx htx => by cases htx)).append h.own
  · rw [h.success, wentThrough_append hne]

/-- The `while` loop of a batch ends with a result that accounts for its calls. -/
theorem wp_submitBatch_calls (hreset : ∀ e w, (M.exec e .resetSequence w).1 = .ok ())
    (options : SubmitBatchPayoutOptions) (memo : Text) :
    ∀ (retries : Nat) (w : W) (log : List (StellarCall ι)),
      (submitBatch options memo batch retries).wp M.logged (fun _ _ _ => True) (fun _ => True)
        (Prog.Ends (fun result state => result.recipients = batch ∧
          ∃ calls, state.2 = log ++ calls ∧ AccountsFor options retries result calls)
          fun _ _ => False) (w, log) := by
  intro retries
  induction retries with
  | zero =>
      intro w log
      refine Prog.wp_tryCatch (Prog.wp_weaken (wp_submitAttempt_calls options memo w)
        (fun _ _ h => ⟨h.1, h.2.2.accountsFor h.1 h.2.1 options 0⟩) fun _ _ h => h)
        fun err state h => ?_
      exact ⟨rfl, h.accountsFor options 0 err⟩
  | succ left ih =>
      intro w log
      refine Prog.wp_tryCatch (Prog.wp_weaken (wp_submitAttempt_calls options memo w)
        (fun _ _ h => ⟨h.1, h.2.2.accountsFor h.1 h.2.1 options (left + 1)⟩) fun _ _ h => h)
        fun err state h => ?_
      split
      · rename_i hretry
        obtain ⟨calls, hcalls, -⟩ := h
        obtain ⟨w', log'⟩ := state
        refine Prog.wp_bind (P := fun _ state' => state'.2 = log ++ (calls ++
          [⟨.resetSequence, .ok ()⟩])) ?_ fun _ state' hstate' => ?_
        · refine Prog.wp_call_logged (fun e a _ => ?_) fun e err herr => ?_
          · rw [← List.append_assoc, ← hcalls.log]
          · exact absurd (herr.symm.trans (hreset e w')) (by simp)
        · obtain ⟨w'', log''⟩ := state'
          refine Prog.wp_weaken (ih w'' log'') (fun result state'' h => ?_) fun _ _ h => h
          obtain ⟨hbatch, calls', hlog, haccounts⟩ := h
          have hstore : options.sequenceStore = true := (Bool.and_eq_true_iff.mp hretry).1
          refine ⟨hbatch, _, ?_, haccounts.afterReset hstore hcalls.once (hbatch ▸ hcalls.own)⟩
          dsimp only at hstate'
          rw [hlog, hstate', List.append_assoc]
      · exact ⟨rfl, h.accountsFor options (left + 1) err⟩

/-- Between two batches: the results so far account for the calls so far, in order. -/
structure Accounted (options : SubmitBatchPayoutOptions) (batches : List (List (PayoutRecipient ι)))
    (done : List (PayoutBatchResult ι)) (rest : List (List (PayoutRecipient ι)))
    (state : W × List (StellarCall ι)) : Prop where
  batches : batches = done.map (·.recipients) ++ rest
  calls : ∃ logs, state.2 = logs.flatten ∧
    List.Forall₂ (AccountsFor options options.maxBadSeqRetries) done logs

theorem wp_submitBatchPayout_calls (hreset : ∀ e w, (M.exec e .resetSequence w).1 = .ok ())
    (options : SubmitBatchPayoutOptions) (challengeId : Text)
    (recipients : List (PayoutRecipient ι)) (w : W) :
    (submitBatchPayout options challengeId recipients).wp M.logged (fun _ _ _ => True)
      (fun _ => True) (Prog.Ends
        (fun results => Accounted options (payoutBatches recipients) results [])
        fun _ _ => False) (w, []) := by
  refine wp_submitBatches (C := fun _ => False)
    (K := fun done rest => Accounted options (payoutBatches recipients) done rest)
    options challengeId ?_ _ 0 [] ⟨rfl, [], rfl, .nil⟩
  rintro done batch rest memo ⟨w, log⟩ ⟨hbatches, logs, hlog, hall⟩
  refine Prog.wp_weaken (wp_submitBatch_calls hreset options memo options.maxBadSeqRetries w log)
    (fun result state h => ?_) fun _ _ h => h
  obtain ⟨hbatch, calls, hcalls, haccounts⟩ := h
  refine ⟨?_, logs ++ [calls], ?_, List.rel_append hall (.cons haccounts .nil)⟩
  · rw [hbatches, List.map_append, List.map_singleton, hbatch, List.append_assoc,
      List.singleton_append]
  · rw [hcalls, List.flatten_append, List.flatten_singleton]
    exact congrArg (· ++ calls) hlog

end Attempts

/-- **Every recipient is accounted for.** Whatever the calls are answered, as long as no
reset throws, `submitBatchPayout` returns. Its results are the chunks of the valid
recipients, in order, each with between one and fifty of them, and every other recipient
has been reported once; the calls fall into one part for each result, which has made
between one and the allowed number of attempts and says whether the last went through. -/
theorem every_recipient_accounted {W E : Type} (M : Machine (stellarSig ι) Err W E)
    (hreset : ∀ e w, (M.exec e .resetSequence w).1 = .ok ())
    (options : SubmitBatchPayoutOptions) (challengeId : Text)
    (recipients : List (PayoutRecipient ι)) (s : Nat → E) (w : W) :
    ∃ results logs,
      ((reportAndSubmit options challengeId recipients).2.run M s w).1 = .ok results ∧
      (reportAndSubmit options challengeId recipients).1 =
        recipients.filterMap (fun r => (getInvalidRecipientReason r).map (r, ·)) ∧
      results.flatMap (·.recipients) =
        recipients.filter (fun r => (getInvalidRecipientReason r).isNone) ∧
      results.map (·.recipients) = chunkArray
        (recipients.filter fun r => (getInvalidRecipientReason r).isNone) MAX_OPS_PER_TX ∧
      (∀ result ∈ results,
        1 ≤ result.recipients.length ∧ result.recipients.length ≤ MAX_OPS_PER_TX) ∧
      (reportAndSubmit options challengeId recipients).2.calls M s w = logs.flatten ∧
      List.Forall₂ (AccountsFor options options.maxBadSeqRetries) results logs := by
  rw [reportAndSubmit_eq]
  have hends := Prog.run_of_wp_logged (s := s)
    (wp_submitBatchPayout_calls hreset options challengeId recipients w)
  cases hrun : ((submitBatchPayout options challengeId recipients).run M s w).1 with
  | error err =>
      rw [hrun] at hends
      exact hends.elim
  | ok results =>
      rw [hrun] at hends
      obtain ⟨hbatches, logs, hcalls, hall⟩ := hends
      rw [List.append_nil] at hbatches
      refine ⟨results, logs, rfl, rfl, ?_, hbatches.symm, ?_, hcalls, hall⟩
      · rw [List.flatMap_def, ← hbatches]
        exact payoutBatches_flatten recipients
      · intro result hresult
        have hmem : result.recipients ∈ payoutBatches recipients :=
          hbatches ▸ List.mem_map_of_mem hresult
        exact ⟨List.length_pos_of_ne_nil (ne_nil_of_mem_payoutBatches hmem),
          length_le_of_mem_chunksOf hmem⟩

/-! ### A sequence number that was stale -/

/-- A Horizon that fails the calls it is told to fail; a reset always works. -/
def scripted : Machine (stellarSig Nat) Err Unit (Option Err) where
  exec fault op w := match op with
    | .resetSequence => (.ok (), w)
    | .reserveSequence | .loadAccount => (fault.elim (.ok 0) .error, w)
    | .buildTransaction .. => (fault.elim (.ok 0) .error, w)
    | .submitTransaction _ => (fault.elim (.ok 7) .error, w)

/-- One valid recipient, and one without an address. -/
def oneOfTwo : List (PayoutRecipient Nat) :=
  [⟨['G'], "1.5".toList, 1⟩, ⟨[], "2".toList, 2⟩]

/-- The first transaction has a stale sequence number, the second attempt goes through. -/
theorem stale_sequence_accounted : ∃ results logs,
    ((reportAndSubmit ⟨true, 1⟩ "c1".toList oneOfTwo).2.run scripted
      (fun n => if n = 2 then some (Err.new "tx_bad_seq".toList) else none) ()).1 = .ok results ∧
    results.flatMap (·.recipients) = [⟨['G'], "1.5".toList, 1⟩] ∧
    List.Forall₂ (AccountsFor ⟨true, 1⟩ 1) results logs := by
  obtain ⟨results, logs, hrun, -, hvalid, -, -, -, hall⟩ := every_recipient_accounted scripted
    (fun _ _ => rfl) ⟨true, 1⟩ "c1".toList oneOfTwo
    (fun n => if n = 2 then some (Err.new "tx_bad_seq".toList) else none) ()
  exact ⟨results, logs, hrun, hvalid.trans (by decide), hall⟩

end BrandBlitz.Stellar

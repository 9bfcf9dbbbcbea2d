import BrandBlitz.Payout.Records

/-!
# BrandBlitz.Payout.FraudGuard

**A flagged player is never paid, and does not hold up the others.** Three layers work
together: the leaderboard query leaves flagged sessions out, the trigger
`payouts_fraud_block_trigger` refuses the row of a user flagged in the meantime, and the
loop in `processPayout` takes that refusal for what it is and goes on.

For a run in which nothing else fails, `submits_processPayout` says what is handed to
the network, under either configuration: the records that are due, each once, and
nothing else. Here the leaderboard and the flags are independent parts of the world, so
it does not matter whether a flag was raised before or after the leaderboard was read.
-/

namespace BrandBlitz.Payout

open BrandBlitz.Lib BrandBlitz.Stellar

/-! ### Programs that nothing disturbs -/

section Submits

variable {S : Sig} {M : Machine S Err World Env} {α β : Type} {subs subs' : List Submission}

/-- Undisturbed, the program returns, and what it hands to the network is `subs`. -/
def Submits (M : Machine S Err World Env) (subs : List Submission) (p : Prog S Err α) : Prop :=
  ∀ w, p.wp M (fun _ _ e => Calm e) (fun _ => True)
    (Prog.Ends (fun _ w' => w'.submissions = w.submissions ++ subs) fun _ _ => False) w

theorem Submits.ret (a : α) : Submits M [] (.ret a) := fun _ => (List.append_nil _).symm

theorem Submits.bind {p : Prog S Err α} {f : α → Prog S Err β} (hp : Submits M subs p)
    (hf : ∀ a, Submits M subs' (f a)) : Submits M (subs ++ subs') (p.bind f) := by
  intro w
  refine Prog.wp_bind (hp w) fun a w' hw' => ?_
  refine Prog.wp_weaken (hf a w') (fun _ w'' hw'' => ?_) fun _ _ h => h
  rw [hw'', hw', List.append_assoc]

/-- A handler is not needed. -/
theorem Submits.tryCatch {p : Prog S Err α} (hp : Submits M subs p) (h : Err → Prog S Err α) :
    Submits M subs (p.tryCatch h) :=
  fun w => Prog.wp_tryCatch (hp w) fun _ _ hfalse => hfalse.elim

/-- The first attempt succeeds. -/
theorem Submits.withRetry {fn : Prog S Err α} (h : Submits M subs fn) (codes : List Nat)
    (left : Nat) : Submits M subs (withRetry fn codes (left + 1)) := by
  cases left with
  | zero => exact h.tryCatch _
  | succ left => exact h.tryCatch _

end Submits

theorem submits_call {op : Op} (hop : op.mayRefuse = false) :
    Submits payoutMachine op.submission
      (Prog.call (S := payoutSig) op : Service (payoutSig.Ans op)) := by
  intro w
  refine Prog.wp_call fun e he => ⟨trivial, ?_⟩
  obtain ⟨a, ha⟩ := perform_ok hop (e := e) (w := w.record op)
  rw [exec_calm he, ha]
  exact perform_submissions.trans record_submissions

/-! ### Bookkeeping submits nothing -/

theorem submits_insertPayoutNotification (u : UserId) :
    Submits payoutMachine [] (insertPayoutNotification u) := by
  refine Submits.bind ((submits_call rfl).tryCatch _) fun _ => Submits.tryCatch ?_ _
  refine Submits.bind (submits_call rfl) fun enabled => ?_
  split
  · exact submits_call rfl
  · exact Submits.ret ()

theorem submits_bookkeeping :
    Bookkeeping fun p : Service Unit => Submits payoutMachine [] p where
  ret := Submits.ret ()
  bind hp hf := hp.bind hf
  earnings _ _ := submits_call rfl
  bonus _ _ := submits_call rfl
  notification := submits_insertPayoutNotification

/-! ### The two paths -/

/-- What a run hands to the network for its records. -/
def plannedSubmissions (config : PayoutConfig) (basis : Basis) (records : List PayoutRecord) :
    List Submission :=
  if config.sorobanContractId then [.settle (records.map (escrowRecipient basis))]
  else (payoutBatches (records.map (payoutRecipient basis))).map .transaction

theorem submits_submitBatchPayout (options : SubmitBatchPayoutOptions) (challengeId : Text)
    (recipients : List (PayoutRecipient Entry)) :
    Submits payoutMachine ((payoutBatches recipients).map .transaction)
      ((submitBatchPayout options challengeId recipients).embed stellarHom) := by
  let M := Prog.Machine.comap stellarHom payoutMachine
  have hcall : ∀ op : StellarOp Entry, Submits M (Op.stellar op).submission
      (Prog.call (S := stellarSig Entry) op) := by
    intro op w
    refine Prog.wp_call fun e he => ⟨trivial, ?_⟩
    have hexec : payoutMachine.exec e (.stellar op) w =
        perform e (.stellar op) (w.record (.stellar op)) := exec_calm he
    obtain ⟨a, ha⟩ : ∃ a, (perform e (.stellar op) (w.record (.stellar op))).1 = .ok a :=
      perform_ok rfl
    simp only [M, Prog.Machine.comap, stellarHom, hexec, ha]
    exact perform_submissions.trans record_submissions
  have hattempt : ∀ memo batch, Submits M [.transaction batch]
      (submitAttempt options memo batch) := by
    intro memo batch
    have hsource : Submits M [] (sourceAccount options) := by
      unfold sourceAccount
      split
      · exact hcall .reserveSequence
      · exact hcall .loadAccount
    refine hsource.bind fun sourceSequence => ?_
    refine Submits.bind (hcall (.buildTransaction sourceSequence memo batch)) fun maxTime => ?_
    exact Submits.bind ((hcall (.submitTransaction
      ⟨sourceSequence + 1, memo, maxTime, batch⟩)).withRetry _ 4) fun hash => Submits.ret _
  have hbatch : ∀ memo batch retries, Submits M [.transaction batch]
      (submitBatch options memo batch retries) := by
    intro memo batch retries
    cases retries with
    | zero => exact (hattempt memo batch).tryCatch _
    | succ left => exact (hattempt memo batch).tryCatch _
  have hloop : ∀ batches i, Submits M (batches.map .transaction)
      (submitBatches options challengeId i batches) := by
    intro batches
    induction batches with
    | nil => exact fun _ => Submits.ret []
    | cons batch rest ih =>
        intro i
        refine Submits.bind (hbatch _ batch _) fun result => ?_
        exact List.append_nil (rest.map Submission.transaction) ▸
          Submits.bind (ih (i + 1)) fun results => Submits.ret _
  exact fun w => Prog.wp_embed (hloop _ 0 w)

theorem submits_payRecords (config : PayoutConfig) (challengeId : Text) (basis : Basis)
    (records : List PayoutRecord) :
    Submits payoutMachine (plannedSubmissions config basis records)
      (payRecords config challengeId basis records) := by
  unfold payRecords plannedSubmissions
  split
  · refine Submits.tryCatch (Submits.bind (submits_call rfl) fun hash => ?_) _
    exact Submits.bind (submits_bookkeeping.forEach fun r _ =>
      submits_bookkeeping.recordSettled (submits_call rfl)) fun _ => submits_call rfl
  · refine List.append_nil (List.map _ _) ▸
      Submits.bind (submits_submitBatchPayout _ _ _) fun results => ?_
    exact Submits.bind (submits_bookkeeping.forEach fun result _ =>
      submits_bookkeeping.recordResult fun _ _ _ _ => submits_call rfl) fun _ => submits_call rfl

/-- **What an undisturbed run hands to the network**: its plan for the due records. -/
theorem submits_processPayout {config : PayoutConfig} {challengeId : Text} {w : World}
    (hallocates : w.Allocates config) :
    (processPayout config challengeId).wp payoutMachine (fun _ _ e => Calm e) (fun _ => True)
      (Prog.Ends (fun _ w' => w'.submissions = w.submissions ++
        if w.dueRecords.isEmpty then [] else plannedSubmissions config w.basis w.dueRecords)
        fun _ _ => False) w := by
  refine wp_processPayout_records (fun _ _ e he fault hfault => ?_) (fun _ _ => trivial)
    (fun _ _ e fault _ _ he hfault _ => ?_) hallocates fun w' hsame => ?_
  · rw [he.1] at hfault
    cases hfault
  · rw [he.1] at hfault
    cases hfault
  · rw [← hsame.2]
    split
    · exact submits_call rfl w'
    · exact submits_payRecords config challengeId w.basis w.dueRecords w'

/-- A run that does not get as far as allocating hands nothing to the network. -/
theorem submits_nothing {config : PayoutConfig} {challengeId : Text} {w : World}
    (hallocates : ¬ w.Allocates config) :
    (processPayout config challengeId).wp payoutMachine (fun _ _ e => Calm e) (fun _ => True)
      (Prog.Ends (fun _ w' => w'.submissions = w.submissions)
        fun _ w' => w'.submissions = w.submissions) w := by
  refine wp_processPayout trivial (fun _ _ _ _ _ _ => rfl) (fun _ _ => rfl) (fun _ => rfl)
    (fun _ _ => ?_) fun hallocates' => absurd hallocates' hallocates
  exact Prog.wp_weaken (submits_call rfl w) (fun _ w' hw' => hw'.trans (List.append_nil _))
    fun _ _ hfalse => hfalse.elim

/-! ### Whom a run pays -/

/-- A transfer handed to the network: whom it is for, where it goes, how much it is. -/
structure Transfer where
  user : UserId
  destination : Text
  amountStroops : Nat
deriving DecidableEq, Repr

def Submission.transfers : Submission → List Transfer
  | .settle recipients => recipients.map fun r => ⟨r.entry.user, r.address, r.amountStroops⟩
  | .transaction payments => payments.map fun r =>
      ⟨r.entry.user, r.address, (usdcToStroops r.amount).toOption.getD 0⟩

/-- The transfers to one user. -/
def transfersTo (u : UserId) (submissions : List Submission) : List Transfer :=
  (submissions.flatMap Submission.transfers).filter fun t => t.user = u

/-- The transfer that pays an allocation. -/
def transferOf (a : PayoutAllocation) : Transfer := ⟨a.userId, a.address, a.amountStroops⟩

/-- An allocation is paid as it is: no check of `submitBatchPayout` drops it. -/
theorem payoutRecipient_valid {basis : Basis} {a : PayoutAllocation}
    (ha : a ∈ (payoutAllocations basis).values) :
    (getInvalidRecipientReason (payoutRecipient basis (recordOf a))).isNone = true := by
  obtain ⟨e, he, rfl⟩ := List.mem_map.mp ha
  obtain ⟨-, haddress, hamount⟩ := payoutAllocations_wellFormed basis e he
  simp [getInvalidRecipientReason, payoutRecipient, recordOf, haddress,
    isValidStellarAmount_stroopsToUsdc hamount]

/-- The plan pays each of its allocations once, in order, with its amount. -/
theorem transfers_plannedSubmissions (config : PayoutConfig) {basis : Basis}
    {allocations : List PayoutAllocation}
    (hall : ∀ a ∈ allocations, a ∈ (payoutAllocations basis).values) :
    (plannedSubmissions config basis (allocations.map recordOf)).flatMap Submission.transfers =
      allocations.map transferOf := by
  unfold plannedSubmissions
  split
  · simp [Submission.transfers, escrowRecipient, recordOf, transferOf, Function.comp_def]
  · have hkept : ((allocations.map recordOf).map (payoutRecipient basis)).filter
        (fun r => (getInvalidRecipientReason r).isNone) =
          (allocations.map recordOf).map (payoutRecipient basis) := by
      refine List.filter_eq_self.mpr ?_
      simp only [List.forall_mem_map]
      exact fun a ha => payoutRecipient_valid (hall a ha)
    -- cutting into transactions changes neither the payments nor their order
    have hflat : ∀ batches : List (List (PayoutRecipient Entry)),
        (batches.map Submission.transaction).flatMap Submission.transfers =
          (Submission.transaction batches.flatten).transfers := by
      intro batches
      induction batches with
      | nil => rfl
      | cons batch rest ih =>
          rw [List.map_cons, List.flatMap_cons, ih]
          simp [Submission.transfers]
    rw [hflat, payoutBatches_flatten, hkept]
    simp [Submission.transfers, payoutRecipient, recordOf, transferOf, Function.comp_def,
      usdcToStroops_stroopsToUsdc, Except.toOption]

/-- **An undisturbed run** hands to the network one transfer for each due allocation, in
order, and nothing else. -/
theorem calm_run_transfers (config : PayoutConfig) (challengeId : Text) (w : World)
    (contributions : Nat → Env) (hcalm : ∀ n, Calm (contributions n)) :
    ∃ submitted, ((processPayout config challengeId).run payoutMachine contributions
        w).2.submissions = w.submissions ++ submitted ∧
      submitted.flatMap Submission.transfers =
        if w.Allocates config then w.dueAllocations.map transferOf else [] := by
  by_cases hallocates : w.Allocates config
  · rw [if_pos hallocates]
    refine ⟨_, Prog.run_world_of_wp (Prog.wp_weaken (submits_processPayout hallocates)
      (fun _ _ h => h) fun _ _ hfalse => hfalse.elim) fun _ _ n => hcalm n, ?_⟩
    split
    · rename_i hempty
      have hnone : w.dueAllocations = [] := by simpa [World.dueRecords] using hempty
      simp [hnone]
    · exact transfers_plannedSubmissions config fun a ha => (List.mem_filter.mp ha).1
  · rw [if_neg hallocates]
    refine ⟨[], ?_, rfl⟩
    rw [List.append_nil]
    exact Prog.run_world_of_wp (submits_nothing hallocates) fun _ _ n => hcalm n

/-- Among allocations to distinct users, one user's are found alone. -/
theorem filter_transfers_eq {a : PayoutAllocation} :
    ∀ {allocations : List PayoutAllocation}, (allocations.map (·.userId)).Nodup →
      a ∈ allocations →
      (allocations.map transferOf).filter (fun t => t.user = a.userId) = [transferOf a] := by
  intro allocations
  induction allocations with
  | nil => intro _ ha; cases ha
  | cons b rest ih =>
      intro hnodup ha
      obtain ⟨hfresh, hnodup⟩ := List.nodup_cons.mp hnodup
      rcases List.mem_cons.mp ha with rfl | ha
      · have hrest : (rest.map transferOf).filter (fun t => t.user = a.userId) = [] := by
          refine List.filter_eq_nil_iff.mpr ?_
          simp only [List.forall_mem_map, decide_eq_true_eq]
          exact fun b hb heq => hfresh (List.mem_map.mpr ⟨b, hb, heq⟩)
        rw [List.map_cons, List.filter_cons_of_pos (by simp [transferOf]), hrest]
      · have hne : b.userId ≠ a.userId := fun heq => hfresh (List.mem_map.mpr ⟨a, ha, heq.symm⟩)
        rw [List.map_cons, List.filter_cons_of_neg (by simp [transferOf, hne])]
        exact ih hnodup ha

/-- Two players, the second of whom was flagged after the leaderboard was read. -/
def oneFlagged : World :=
  { World.ended 1000000000 [player 1 300, player 2 100] with flagged := fun u => u = 2 }

def directConfig : PayoutConfig := ⟨false, fun _ => true⟩

end BrandBlitz.Payout

import BrandBlitz.Stellar.Client

/-!
# BrandBlitz.Stellar.Payout

**Batch payouts** (`packages/stellar/src/payout.ts`): a recipient list is cut into
transactions of at most fifty payments, and each transaction is pushed through two
retry layers. The inner one (`withRetry`) resubmits the same envelope; the outer one
rebuilds it with a fresh sequence number after `tx_bad_seq`.

* A recipient carries an `entry`, the identity of the recipient object. The code
  never looks at it: it only tells which entry of the list a payment on the ledger
  belongs to, also when two entries have the same address and amount.
* Reserving and resetting a sequence number are single operations here; their own
  steps and races are those of `BrandBlitz.Stellar.Sequence`.
* An empty `txHash` is falsy in the source and `none` here.
-/

namespace BrandBlitz.Stellar

open BrandBlitz.Lib

variable {ι : Type}

/-- A ledger transaction's hash. -/
abbrev Hash := Nat

/-- One payment to make: an address and a decimal USDC amount. -/
structure PayoutRecipient (ι : Type) where
  address : Text
  amount : Text
  entry : ι
deriving DecidableEq, Repr

/-- A signed transaction. Two envelopes are the same transaction, with the same hash,
when all of this agrees. -/
structure Envelope (ι : Type) where
  sequence : Nat
  memo : Text
  /-- `setTimeout(180)`: the end of the time bounds, read off the clock -/
  maxTime : Nat
  payments : List (PayoutRecipient ι)
deriving DecidableEq, Repr

/-- What became of one batch. -/
structure PayoutBatchResult (ι : Type) where
  txHash : Option Hash
  recipients : List (PayoutRecipient ι)
  success : Bool
  error : Option Text

/-- The options of `submitBatchPayout` that decide its control flow. -/
structure SubmitBatchPayoutOptions where
  /-- is there a shared `sequenceStore`? -/
  sequenceStore : Bool
  maxBadSeqRetries : Nat

/-- What `submitBatchPayout` awaits, and what the SDK may refuse. -/
inductive StellarOp (ι : Type) where
  | reserveSequence
  | loadAccount
  | buildTransaction (sourceSequence : Nat) (memo : Text)
      (payments : List (PayoutRecipient ι))
  | submitTransaction (tx : Envelope ι)
  | resetSequence
deriving DecidableEq, Repr

/-- The answers: an account sequence, the end of the time bounds, a hash. -/
abbrev stellarSig (ι : Type) : Sig where
  Op := StellarOp ι
  Ans
    | .reserveSequence => Nat
    | .loadAccount => Nat
    | .buildTransaction .. => Nat
    | .submitTransaction _ => Hash
    | .resetSequence => Unit

/-! ### Recipients and batches -/

/-- At most this many payments per transaction. -/
def MAX_OPS_PER_TX : Nat := 50

/-- The amount `\d+(?:\.\d{1,7})?`, cut at its decimal point. -/
def decimalParts (amount : Text) : Text × Text :=
  (amount.takeWhile (·.isDigit), amount.dropWhile (·.isDigit))

/-- `/^\d+(?:\.\d{1,7})?$/.test(amount) && Number(amount) > 0`. A number with at most
seven decimals is positive when some digit is. -/
def isValidStellarAmount (amount : Text) : Bool :=
  let (whole, rest) := decimalParts amount
  let fraction := rest.drop 1
  let wellFormed := !whole.isEmpty && (rest.isEmpty ||
    (rest.head? = some '.' && fraction.all (·.isDigit) &&
      1 ≤ fraction.length && fraction.length ≤ 7))
  wellFormed && amount.any fun c => c.isDigit && c != '0'

/-- Why a recipient is skipped, if it is. -/
def getInvalidRecipientReason (recipient : PayoutRecipient ι) : Option Text :=
  if recipient.address.isEmpty then some "missing address".toList
  else if !isValidStellarAmount recipient.amount then
    some "amount must be a positive Stellar amount with up to 7 decimal places".toList
  else none

/-- `chunkArray`, with the number of chunks bounded by `fuel`. -/
def chunksOf {α : Type} (size : Nat) : Nat → List α → List (List α)
  | 0, _ => []
  | _ + 1, [] => []
  | fuel + 1, x :: xs => (x :: xs).take size :: chunksOf size fuel ((x :: xs).drop size)

/-- Cut an array into slices of `size`. -/
def chunkArray {α : Type} (array : List α) (size : Nat) : List (List α) :=
  chunksOf size array.length array

/-- A deterministic memo that respects the 28-byte limit. -/
def buildPayoutMemo (challengeId : Text) (batchIndex : Nat) : Text :=
  let challengeTag := (challengeId.filter (·.isAlphanum)).take 20
  "bb-".toList ++ challengeTag ++ "-".toList ++ Nat.toDigits 10 batchIndex

/-! ### Submission -/

def reserveSequence : Prog (stellarSig ι) Err Nat :=
  Prog.call (S := stellarSig ι) .reserveSequence

def loadAccount : Prog (stellarSig ι) Err Nat :=
  Prog.call (S := stellarSig ι) .loadAccount

/-- `TransactionBuilder`: may refuse an address or an amount. -/
def buildTransaction (sourceSequence : Nat) (memo : Text)
    (payments : List (PayoutRecipient ι)) : Prog (stellarSig ι) Err Nat :=
  Prog.call (S := stellarSig ι) (.buildTransaction sourceSequence memo payments)

def submitTransaction (tx : Envelope ι) : Prog (stellarSig ι) Err Hash :=
  Prog.call (S := stellarSig ι) (.submitTransaction tx)

def resetSequence : Prog (stellarSig ι) Err Unit :=
  Prog.call (S := stellarSig ι) .resetSequence

/-- The account sequence a transaction is built on. -/
def sourceAccount (options : SubmitBatchPayoutOptions) : Prog (stellarSig ι) Err Nat :=
  if options.sequenceStore then reserveSequence else loadAccount

/-- The body of the `try`: take a sequence number, build and sign, submit. -/
def submitAttempt (options : SubmitBatchPayoutOptions) (memo : Text)
    (batch : List (PayoutRecipient ι)) : Prog (stellarSig ι) Err (PayoutBatchResult ι) := do
  let sourceSequence ← sourceAccount options
  let maxTime ← buildTransaction sourceSequence memo batch
  let hash ← withRetry (submitTransaction ⟨sourceSequence + 1, memo, maxTime, batch⟩)
    retryableStatusCodes 5
  return ⟨some hash, batch, true, none⟩

/-- The result pushed when a batch is given up. -/
def failedBatch (batch : List (PayoutRecipient ι)) (err : Err) : PayoutBatchResult ι :=
  ⟨none, batch, false, some (err.message.getD "Unknown error".toList)⟩

/-- The `while (attempts <= maxBadSeqRetries)` loop of one batch; the counter is what
is left of `maxBadSeqRetries`. A `resetSequence` that throws is not caught. -/
def submitBatch (options : SubmitBatchPayoutOptions) (memo : Text)
    (batch : List (PayoutRecipient ι)) :
    Nat → Prog (stellarSig ι) Err (PayoutBatchResult ι)
  | 0 => (submitAttempt options memo batch).tryCatch fun err =>
      return failedBatch batch err
  | left + 1 => (submitAttempt options memo batch).tryCatch fun err =>
      -- also when the envelope was applied and only its answer was lost
      if options.sequenceStore && isBadSequenceError err then do
        resetSequence
        submitBatch options memo batch left
      else return failedBatch batch err

/-- The loop over the batches; `i` is the index of the next one. -/
def submitBatches (options : SubmitBatchPayoutOptions) (challengeId : Text) :
    Nat → List (List (PayoutRecipient ι)) →
      Prog (stellarSig ι) Err (List (PayoutBatchResult ι))
  | _, [] => return []
  | i, batch :: rest => do
      let result ← submitBatch options (buildPayoutMemo challengeId i) batch
        options.maxBadSeqRetries
      let results ← submitBatches options challengeId (i + 1) rest
      return result :: results

/-- The batches a recipient list is cut into. -/
def payoutBatches (recipients : List (PayoutRecipient ι)) : List (List (PayoutRecipient ι)) :=
  chunkArray (recipients.filter fun r => (getInvalidRecipientReason r).isNone) MAX_OPS_PER_TX

/-- `submitBatchPayout(recipients, …, challengeId, …, options)`. -/
def submitBatchPayout (options : SubmitBatchPayoutOptions) (challengeId : Text)
    (recipients : List (PayoutRecipient ι)) :
    Prog (stellarSig ι) Err (List (PayoutBatchResult ι)) :=
  submitBatches options challengeId 0 (payoutBatches recipients)

/-! ### How a list is cut -/

theorem chunksOf_flatten {α : Type} {size : Nat} (hsize : 0 < size) :
    ∀ (fuel : Nat) (l : List α), l.length ≤ fuel → (chunksOf size fuel l).flatten = l := by
  intro fuel
  induction fuel with
  | zero =>
      intro l hl
      rw [List.length_eq_zero_iff.mp (Nat.le_zero.mp hl)]
      rfl
  | succ fuel ih =>
      intro l hl
      cases l with
      | nil => rfl
      | cons x xs =>
          have hdrop : ((x :: xs).drop size).length ≤ fuel := by
            simp only [List.length_drop, List.length_cons] at hl ⊢
            omega
          rw [chunksOf, List.flatten_cons, ih _ hdrop, List.take_append_drop]

theorem ne_nil_of_mem_chunksOf {α : Type} {size : Nat} (hsize : 0 < size) :
    ∀ {fuel : Nat} {l c : List α}, c ∈ chunksOf size fuel l → c ≠ [] := by
  intro fuel
  induction fuel with
  | zero => intro l c hc; cases hc
  | succ fuel ih =>
      intro l c hc
      cases l with
      | nil => cases hc
      | cons x xs =>
          rcases List.mem_cons.mp hc with rfl | hc
          · intro hnil
            rcases List.take_eq_nil_iff.mp hnil with hzero | hnil
            · omega
            · cases hnil
          · exact ih hc

/-- A list that fits into one slice is not cut. -/
theorem eq_of_mem_chunksOf {α : Type} {size : Nat} :
    ∀ {fuel : Nat} {l c : List α}, l.length ≤ size → c ∈ chunksOf size fuel l → c = l := by
  intro fuel l c hl hc
  cases fuel with
  | zero => cases hc
  | succ fuel =>
      cases l with
      | nil => cases hc
      | cons x xs =>
          rw [chunksOf, List.take_of_length_le hl, List.drop_of_length_le hl] at hc
          rcases List.mem_cons.mp hc with rfl | hc
          · rfl
          · cases fuel <;> cases hc

/-- The batches are the valid recipients, in order. -/
theorem payoutBatches_flatten (recipients : List (PayoutRecipient ι)) :
    (payoutBatches recipients).flatten =
      recipients.filter fun r => (getInvalidRecipientReason r).isNone :=
  chunksOf_flatten (by decide) _ _ (Nat.le_refl _)

theorem ne_nil_of_mem_payoutBatches {recipients batch : List (PayoutRecipient ι)}
    (h : batch ∈ payoutBatches recipients) : batch ≠ [] :=
  ne_nil_of_mem_chunksOf (by decide) h

/-- Few recipients make one batch. -/
theorem eq_of_mem_payoutBatches {recipients batch : List (PayoutRecipient ι)}
    (hfew : recipients.length ≤ MAX_OPS_PER_TX) (h : batch ∈ payoutBatches recipients) :
    batch = recipients.filter fun r => (getInvalidRecipientReason r).isNone :=
  eq_of_mem_chunksOf (Nat.le_trans (List.length_filter_le _ _) hfew) h

/-- Every batch is part of the recipient list. -/
theorem sublist_of_mem_payoutBatches {recipients batch : List (PayoutRecipient ι)}
    (h : batch ∈ payoutBatches recipients) : batch.Sublist recipients :=
  (List.sublist_flatten_of_mem h).trans
    (payoutBatches_flatten recipients ▸ List.filter_sublist)

/-! ### Rules of proof

What a caller has to know of the world: how one attempt at a batch can end. -/

section Rules

variable {W E : Type} (M : Machine (stellarSig ι) Err W E)
  (G : W → StellarOp ι → E → Prop) (I : W → Prop)

/-- How the operations for one batch act on assertions: `A` while the batch is not
known to be paid, `B hash` once it is, `C` when the call is abandoned. -/
structure BatchStep (batch : List (PayoutRecipient ι)) (A : W → Prop)
    (B : Hash → W → Prop) (C : W → Prop) : Prop where
  prepare : ∀ op, (op = .reserveSequence ∨ op = .loadAccount ∨
      ∃ seq memo, op = .buildTransaction seq memo batch) →
    ∀ w e, A w → G w op e → I (M.exec e op w).2 ∧ A (M.exec e op w).2
  submit : ∀ tx : Envelope ι, tx.payments = batch → ∀ w e, A w →
    G w (.submitTransaction tx) e → I (M.exec e (.submitTransaction tx) w).2 ∧
      Prog.Ends B (fun _ => A) (M.exec e (.submitTransaction tx) w).1
        (M.exec e (.submitTransaction tx) w).2
  reset : ∀ w e, A w → G w .resetSequence e → I (M.exec e .resetSequence w).2 ∧
      Prog.Ends (fun _ => A) (fun _ => C) (M.exec e .resetSequence w).1
        (M.exec e .resetSequence w).2

variable {M G I} {batch : List (PayoutRecipient ι)} {A : W → Prop} {B : Hash → W → Prop}
  {C : W → Prop}

/-- How an attempt or a whole batch ends: paid, or given up. -/
def BatchEnd (batch : List (PayoutRecipient ι)) (A : W → Prop) (B : Hash → W → Prop)
    (result : PayoutBatchResult ι) (w : W) : Prop :=
  result.recipients = batch ∧
    ((∃ hash, result.success = true ∧ result.txHash = some hash ∧ B hash w) ∨
      (result.success = false ∧ result.txHash = none ∧ A w))

theorem BatchStep.wp_prepare (hstep : BatchStep M G I batch A B C) {op : StellarOp ι}
    (hop : op = .reserveSequence ∨ op = .loadAccount ∨
      ∃ seq memo, op = .buildTransaction seq memo batch) {w : W} (hw : A w) :
    (Prog.call (S := stellarSig ι) op).wp M G I (Prog.Ends (fun _ => A) fun _ => A) w :=
  Prog.wp_call_world fun e he => hstep.prepare op hop w e hw he

theorem wp_submitAttempt (hstep : BatchStep M G I batch A B C)
    (options : SubmitBatchPayoutOptions) (memo : Text) {w : W} (hw : A w) :
    (submitAttempt options memo batch).wp M G I
      (Prog.Ends (BatchEnd batch A B) fun _ => A) w := by
  refine Prog.wp_bind (P := fun _ => A) ?_ fun sourceSequence w hA => ?_
  · unfold sourceAccount
    split
    · exact hstep.wp_prepare (.inl rfl) hw
    · exact hstep.wp_prepare (.inr (.inl rfl)) hw
  refine Prog.wp_bind (hstep.wp_prepare (.inr (.inr ⟨_, _, rfl⟩)) hA) fun maxTime w hA => ?_
  refine Prog.wp_bind (P := B) (wp_withRetry retryableStatusCodes (fun w hw => ?_) 5 _ hA)
    fun hash w hB => ?_
  · exact Prog.wp_call fun e he => hstep.submit _ rfl w e hw he
  · exact ⟨rfl, .inl ⟨hash, rfl, rfl, hB⟩⟩

/-- One batch ends paid (`B`), given up (`A`) or abandoned by a failed reset (`C`). -/
theorem wp_submitBatch (hstep : BatchStep M G I batch A B C)
    (options : SubmitBatchPayoutOptions) (memo : Text) :
    ∀ (retries : Nat) {w : W}, A w →
      (submitBatch options memo batch retries).wp M G I
        (Prog.Ends (BatchEnd batch A B) fun _ => C) w := by
  intro retries
  induction retries with
  | zero =>
      intro w hw
      exact Prog.wp_tryCatch (wp_submitAttempt hstep options memo hw)
        fun err w' hA => ⟨rfl, .inr ⟨rfl, rfl, hA⟩⟩
  | succ left ih =>
      intro w hw
      refine Prog.wp_tryCatch (wp_submitAttempt hstep options memo hw) fun err w' hA => ?_
      split
      · exact Prog.wp_bind (Prog.wp_call fun e he => hstep.reset w' e hA he)
          fun _ w'' hA => ih hA
      · exact ⟨rfl, .inr ⟨rfl, rfl, hA⟩⟩

/-- **The rule for the loop over the batches.** `K done rest` holds between two
batches, of the results so far and the batches still to come. -/
theorem wp_submitBatches {K : List (PayoutBatchResult ι) → List (List (PayoutRecipient ι)) →
      W → Prop} (options : SubmitBatchPayoutOptions) (challengeId : Text)
    (hbatch : ∀ done batch rest memo w, K done (batch :: rest) w →
      (submitBatch options memo batch options.maxBadSeqRetries).wp M G I
        (Prog.Ends (fun result => K (done ++ [result]) rest) fun _ => C) w) :
    ∀ (batches : List (List (PayoutRecipient ι))) (i : Nat)
      (done : List (PayoutBatchResult ι)) {w : W}, K done batches w →
      (submitBatches options challengeId i batches).wp M G I
        (Prog.Ends (fun results => K (done ++ results) []) fun _ => C) w := by
  intro batches
  induction batches with
  | nil =>
      intro i done w hK
      show K (done ++ []) [] w
      rwa [List.append_nil]
  | cons batch rest ih =>
      intro i done w hK
      refine Prog.wp_bind (hbatch done batch rest _ w hK) fun result w' hK => ?_
      refine Prog.wp_bind (ih (i + 1) (done ++ [result]) hK) fun results w'' hK => ?_
      show K (done ++ result :: results) [] w''
      rwa [List.append_cons]

end Rules

/-! ### What is submitted -/

section Emission

variable {ok : StellarOp ι → Prop}
  {good : (op : StellarOp ι) → Except Err ((stellarSig ι).Ans op) → Prop}

theorem submitBatch_emits {batch : List (PayoutRecipient ι)}
    (hprepare : ∀ op, (∀ tx, op ≠ .submitTransaction tx) → ok op)
    (hsubmit : ∀ tx : Envelope ι, tx.payments = batch → ok (.submitTransaction tx))
    (options : SubmitBatchPayoutOptions) (memo : Text) :
    ∀ retries, (submitBatch options memo batch retries).Emits ok good
      fun result => result.recipients = batch := by
  have hcall : ∀ op, (∀ tx, op ≠ .submitTransaction tx) →
      (Prog.call (S := stellarSig ι) op).Emits ok good fun _ => True :=
    fun op hop => Prog.Emits.call (hprepare op hop) fun _ _ => trivial
  have hattempt : (submitAttempt options memo batch).Emits ok good
      fun result => result.recipients = batch := by
    refine Prog.Emits.bind (P := fun _ => True) ?_ fun sourceSequence _ => ?_
    · unfold sourceAccount
      split
      · exact hcall .reserveSequence (by simp)
      · exact hcall .loadAccount (by simp)
    refine Prog.Emits.bind (hcall (.buildTransaction sourceSequence memo batch) (by simp))
      fun maxTime _ => ?_
    have hsubmitted : (submitTransaction ⟨sourceSequence + 1, memo, maxTime, batch⟩).Emits
        ok good fun _ => True :=
      Prog.Emits.call (S := stellarSig ι) (hsubmit _ rfl) fun _ _ => trivial
    exact Prog.Emits.bind (withRetry_emits hsubmitted _ 5) fun _ _ => rfl
  intro retries
  induction retries with
  | zero => exact hattempt.tryCatch fun err => rfl
  | succ left ih =>
      refine hattempt.tryCatch fun err => ?_
      split
      · exact Prog.Emits.bind (hcall .resetSequence (by simp)) fun _ _ => ih
      · exact rfl

/-- Every transaction `submitBatchPayout` submits pays one of the batches, and it
reports on the batches in order. -/
theorem submitBatchPayout_emits {recipients : List (PayoutRecipient ι)}
    (hprepare : ∀ op, (∀ tx, op ≠ .submitTransaction tx) → ok op)
    (hsubmit : ∀ tx : Envelope ι, tx.payments ∈ payoutBatches recipients →
      ok (.submitTransaction tx))
    (options : SubmitBatchPayoutOptions) (challengeId : Text) :
    (submitBatchPayout options challengeId recipients).Emits ok good
      fun results => results.map (·.recipients) = payoutBatches recipients := by
  have hloop : ∀ (batches : List (List (PayoutRecipient ι))) (i : Nat),
      (∀ batch ∈ batches, batch ∈ payoutBatches recipients) →
      (submitBatches options challengeId i batches).Emits ok good
        fun results => results.map (·.recipients) = batches := by
    intro batches
    induction batches with
    | nil => intro i _; exact rfl
    | cons batch rest ih =>
        intro i hmem
        refine (submitBatch_emits hprepare (fun tx htx => hsubmit tx ?_) options _ _).bind
          fun result hresult => ?_
        · exact htx ▸ hmem batch List.mem_cons_self
        · refine (ih (i + 1) fun b hb => hmem b (List.mem_cons_of_mem _ hb)).bind
            fun results hresults => ?_
          show (result :: results).map (·.recipients) = batch :: rest
          rw [List.map_cons, hresult, hresults]
  exact hloop _ 0 fun _ h => h

end Emission

end BrandBlitz.Stellar

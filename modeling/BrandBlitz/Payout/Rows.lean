import Mathlib.Data.List.Pairwise
import BrandBlitz.Lib.Constrained
import BrandBlitz.Paging.Cursor
import BrandBlitz.Payout.Usdc
import BrandBlitz.Payout.World

/-!
# BrandBlitz.Payout.Rows

**The rules of the table `payouts`** (`apps/api/migrations/00000-initial.sql` and
`0014-fee-bump-payouts.sql`) and the five statements that write to it: `createPayout`,
`updatePayoutStatus`, `failPayoutsForChallenge` and `updatePayoutFeeBumpStatus` of
`apps/api/src/db/queries/payouts.ts`, and the update of the dead-letter worker
(`apps/api/src/queues/dlq.ts`).

`BrandBlitz.Payout.World` takes these statements as they are meant; here are the rules.
A tuple is what a statement proposes: any column may still be `NULL` in it. Timestamps
are left out. The columns that carry a foreign key are written by the insert alone, and
that one is stopped before its keys are looked up.

`followsRules_iff` says which calls the rules let through. The code and the table
disagree about the statuses (`sent` is not one of the table's), about the columns an
insert has to name, and about when a message may stand.
-/

namespace BrandBlitz.Payout.Rows

open BrandBlitz.Lib BrandBlitz.Stellar BrandBlitz.Paging

/-! ### The table -/

/-- What any of the statements may write into `status`. -/
inductive RowStatus
  | pending | processing | completed | fee_bump_pending | fee_bump_failed | failed
  | sent | confirmed
deriving DecidableEq, Repr

/-- A proposed row, `none` for `NULL`. -/
structure PayoutTuple where
  id : Uuid
  challengeId : Option Uuid
  userId : Option Uuid
  sessionId : Option Uuid
  stellarAddress : Option Text
  amountStroops : Option Int
  status : Option RowStatus
  txHash : Option Text
  errorMessage : Option Text
  feeBumpAttempts : Option Int
  feeBumpMaxFeeStroops : Option Int
  originalTxHash : Option Text
deriving DecidableEq, Repr

inductive Constraint
  | challenge_id_not_null
  | session_id_not_null
  | amount_stroops_not_null
  | status_not_null
  | error_message_not_null
  | fee_bump_attempts_not_null
  | payouts_amount_positive
  | payouts_failed_requires_message
  | payouts_status_check
  | payouts_pkey
  | payouts_challenge_id_user_id_key
deriving DecidableEq, Repr

/-- `status IN ('pending', …, 'failed')`. -/
def RowStatus.listed : RowStatus → Bool
  | .sent | .confirmed => false
  | _ => true

/-- `(status = 'failed') = (LENGTH(error_message) > 0)`; a check on a `NULL` passes. -/
def failedRequiresMessage (status : Option RowStatus) (errorMessage : Option Text) : Bool :=
  match status, errorMessage with
  | some status, some message => decide (status = .failed) == !message.isEmpty
  | _, _ => true

theorem failedRequiresMessage_iff (status : RowStatus) (message : Text) :
    failedRequiresMessage (some status) (some message) = true ↔
      (status = .failed ↔ message ≠ []) := by
  cases message <;> simp [failedRequiresMessage]

/-- The rules for one tuple, in the order in which they are evaluated. -/
def tupleRules : List (Constraint × (PayoutTuple → Bool)) :=
  [(.challenge_id_not_null, fun t => t.challengeId.isSome),
    (.session_id_not_null, fun t => t.sessionId.isSome),
    (.amount_stroops_not_null, fun t => t.amountStroops.isSome),
    (.status_not_null, fun t => t.status.isSome),
    (.error_message_not_null, fun t => t.errorMessage.isSome),
    (.fee_bump_attempts_not_null, fun t => t.feeBumpAttempts.isSome),
    (.payouts_amount_positive, fun t => t.amountStroops.all (0 < ·)),
    (.payouts_failed_requires_message, fun t => failedRequiresMessage t.status t.errorMessage),
    (.payouts_status_check, fun t => t.status.all RowStatus.listed)]

/-- The two keys; a `NULL` is equal to nothing. -/
def keyClash (t s : PayoutTuple) : Option Constraint :=
  if t.id = s.id then some .payouts_pkey
  else if t.challengeId = s.challengeId ∧ t.challengeId.isSome ∧ t.userId = s.userId ∧
      t.userId.isSome then some .payouts_challenge_id_user_id_key
  else none

def payouts : Rules PayoutTuple Constraint where
  breaks t := (tupleRules.find? fun rule => !rule.2 t).map Prod.fst
  clash := keyClash

abbrev PayoutsTable := payouts.Table

theorem breaks_eq_none {t : PayoutTuple} :
    payouts.breaks t = none ↔ ∀ rule ∈ tupleRules, rule.2 t = true := by
  simp [payouts, List.find?_eq_none]

/-- What a row of the table looks like. -/
theorem row_spec (r : payouts.Row) : ∃ status message, r.1.status = some status ∧
    r.1.errorMessage = some message ∧ (status = .failed ↔ message ≠ []) := by
  obtain ⟨t, ht⟩ := r
  have hrules := breaks_eq_none.mp ht
  simp only [tupleRules, List.forall_mem_cons] at hrules
  obtain ⟨-, -, -, hstatus, hmessage, -, -, hpair, -⟩ := hrules
  obtain ⟨status, hstatus⟩ := Option.isSome_iff_exists.mp hstatus
  obtain ⟨message, hmessage⟩ := Option.isSome_iff_exists.mp hmessage
  rw [hstatus, hmessage] at hpair
  exact ⟨status, message, hstatus, hmessage, (failedRequiresMessage_iff _ _).mp hpair⟩

/-- A row that is given another status and message keeps to the rules exactly when the two
go together and the table knows the status. -/
theorem breaks_rewrite {r : payouts.Row} {t : PayoutTuple} {status : RowStatus} {message : Text}
    (hstatus : t.status = some status) (hmessage : t.errorMessage = some message)
    (hchallenge : t.challengeId = r.1.challengeId) (hsession : t.sessionId = r.1.sessionId)
    (hamount : t.amountStroops = r.1.amountStroops)
    (hattempts : t.feeBumpAttempts.isSome = r.1.feeBumpAttempts.isSome) :
    payouts.breaks t = none ↔ (status = .failed ↔ message ≠ []) ∧ status.listed = true := by
  have hrules := breaks_eq_none.mp r.2
  simp only [tupleRules, List.forall_mem_cons] at hrules
  obtain ⟨hc, hs, ha, -, -, hf, hpositive, -⟩ := hrules
  rw [breaks_eq_none]
  simp only [tupleRules, List.forall_mem_cons]
  rw [hchallenge, hsession, hamount, hattempts, hstatus, hmessage]
  simp [hc, hs, ha, hf, hpositive, failedRequiresMessage_iff]

/-! ### The statements -/

/-- How a statement ends. -/
abbrev Outcome := Except (Refusal Constraint) PayoutsTable

/-- A text is sent as it is, and refused if it has a NUL character. -/
def sendable (text : Text) : Bool := !text.contains '\x00'

/-- The largest `INTEGER`. -/
def maxInteger : Int := 2147483647

structure CreatePayoutData where
  challengeId : Uuid
  userId : Uuid
  stellarAddress : Text
  /-- printed by `toString` -/
  amountStroops : Option Text
  amountUsdc : Option Text

/-- `data.amountStroops?.toString() ?? usdcToStroops(data.amountUsdc!)`. -/
def CreatePayoutData.amount (data : CreatePayoutData) : Except Err Text :=
  match data.amountStroops, data.amountUsdc with
  | some stroops, _ => .ok stroops
  | none, some usdc => (usdcToStroops usdc).map (Nat.toDigits 10)
  | none, none => .error (Err.new "Payout amount is required".toList)

/-- The row `createPayout` proposes: columns it does not name have their default. -/
def CreatePayoutData.proposed (data : CreatePayoutData) (id : Uuid) (amount : Int) :
    PayoutTuple where
  id := id
  challengeId := some data.challengeId
  userId := some data.userId
  -- neither named nor given a default
  sessionId := none
  stellarAddress := some data.stellarAddress
  amountStroops := some amount
  status := some .pending
  txHash := none
  errorMessage := some []
  feeBumpAttempts := some 0
  feeBumpMaxFeeStroops := none
  originalTxHash := none

section Statements

-- how the database reads a `BIGINT`
variable (bigint : Text → Option Int)

def createPayout (id : Uuid) (data : CreatePayoutData) (T : PayoutsTable) : Outcome :=
  match data.amount with
  | .error _ => .error .unsound
  | .ok text =>
    match bigint text with
    | none => .error .unsound
    | some amount =>
      if sendable data.stellarAddress then
        payouts.insert (data.proposed id amount)
          (fun t => t.challengeId = some data.challengeId && t.userId = some data.userId)
          (fun t => some { t with
            stellarAddress := some data.stellarAddress
            amountStroops := some amount
            status := if t.status = some .failed then some .pending else t.status
            errorMessage := none }) T
      else .error .unsound

/-- The status column's word for a status of `PayoutStatus`. -/
def ofPayoutStatus : PayoutStatus → RowStatus
  | .pending => .pending
  | .sent => .sent
  | .confirmed => .confirmed
  | .failed => .failed

/-- Of an optional text argument, what a condition takes for present. -/
def truthy (text : Option Text) : Option Text := text.filter (!·.isEmpty)

/-- The four statements of the source differ in which of the two columns they name. -/
def updatePayoutStatus (id : Uuid) (status : PayoutStatus) (txHash errorMessage : Option Text)
    (T : PayoutsTable) : Outcome :=
  if (truthy txHash).all sendable && (truthy errorMessage).all sendable then
    payouts.update (fun t => t.id = id)
      (fun t => some { t with
        status := some (ofPayoutStatus status)
        txHash := truthy txHash <|> t.txHash
        errorMessage := truthy errorMessage <|> t.errorMessage }) T
  else .error .unsound

def failPayoutsForChallenge (challengeId : Uuid) (errorMessage : Text) (T : PayoutsTable) :
    Outcome :=
  if sendable errorMessage then
    payouts.update
      (fun t => t.challengeId = some challengeId &&
        (t.status = some .pending || t.status = some .processing))
      (fun t => some { t with status := some .failed, errorMessage := some errorMessage }) T
  else .error .unsound

inductive FeeBumpStatus
  | fee_bump_pending | fee_bump_failed | completed
deriving DecidableEq, Repr

def FeeBumpStatus.row : FeeBumpStatus → RowStatus
  | .fee_bump_pending => .fee_bump_pending
  | .fee_bump_failed => .fee_bump_failed
  | .completed => .completed

/-- `fee_bump_attempts + 1`, where an `INTEGER` can hold it. -/
def nextAttempt (attempts : Option Int) : Option (Option Int) :=
  match attempts with
  | none => some none
  | some n => if n < maxInteger then some (some (n + 1)) else none

def updatePayoutFeeBumpStatus (payoutId : Uuid) (status : FeeBumpStatus) (feeBumpMaxFee : Text)
    (originalTxHash : Option Text) (T : PayoutsTable) : Outcome :=
  match bigint feeBumpMaxFee with
  | none => .error .unsound
  | some maxFee =>
    if originalTxHash.all sendable then
      payouts.update (fun t => t.id = payoutId)
        (fun t => (nextAttempt t.feeBumpAttempts).map fun attempts => { t with
          status := some status.row
          feeBumpAttempts := attempts
          feeBumpMaxFeeStroops := some maxFee
          originalTxHash := t.originalTxHash <|> originalTxHash }) T
    else .error .unsound

end Statements

/-! ### As they are called -/

/-- After a settlement through the escrow contract. -/
def recordSettled (id : Uuid) (txHash : Text) : PayoutsTable → Outcome :=
  updatePayoutStatus id .sent (some txHash) none

/-- After a batch of direct payments. -/
def recordResult (id : Uuid) (success : Bool) (txHash error : Option Text) :
    PayoutsTable → Outcome :=
  updatePayoutStatus id (if success then .sent else .failed) (truthy txHash)
    (if success then none
      else some (error.getD "Stellar broadcast failed with no error detail".toList))

/-- How many UTF-16 units a character takes. -/
def utf16Width (c : Char) : Nat := if c.toNat < 0x10000 then 1 else 2

def utf16Length (text : Text) : Nat := (text.map utf16Width).sum

/-- `text.slice(0, n)`; half of a pair is sent as a replacement character. -/
def utf16Take (n : Nat) : Text → Text
  | [] => []
  | c :: rest =>
      if n = 0 then []
      else if utf16Width c ≤ n then c :: utf16Take (n - utf16Width c) rest
      else ['\uFFFD']

def truncate (message : Text) (max : Nat) : Text :=
  if max < utf16Length message then utf16Take max message ++ ['…'] else message

/-- The message of the dead-letter worker. -/
def dlqMessage (attemptsMade : Nat) (failedReason : Text) : Text :=
  truncate ("Payout job exhausted all ".toList ++ Nat.toDigits 10 attemptsMade ++
    " retries: ".toList ++ failedReason) 480

/-- The update of `processPayoutDlqJob`, left out for a job without a challenge. -/
def payoutDlqUpdate (challengeId : Option Uuid) (attemptsMade : Nat) (failedReason : Text)
    (T : PayoutsTable) : Outcome :=
  match challengeId with
  | none => .ok T
  | some challengeId =>
      failPayoutsForChallenge challengeId (dlqMessage attemptsMade failedReason) T

inductive Call
  | createPayout (id : Uuid) (data : CreatePayoutData)
  | recordSettled (id : Uuid) (txHash : Text)
  | recordResult (id : Uuid) (success : Bool) (txHash error : Option Text)
  | failPayoutsForChallenge (challengeId : Uuid) (errorMessage : Text)
  | updatePayoutFeeBumpStatus (payoutId : Uuid) (status : FeeBumpStatus) (feeBumpMaxFee : Text)
      (originalTxHash : Option Text)
  | payoutDlqUpdate (challengeId : Option Uuid) (attemptsMade : Nat) (failedReason : Text)

variable (bigint : Text → Option Int)

def outcome (T : PayoutsTable) : Call → Outcome
  | .createPayout id data => createPayout bigint id data T
  | .recordSettled id txHash => recordSettled id txHash T
  | .recordResult id success txHash error => recordResult id success txHash error T
  | .failPayoutsForChallenge challengeId errorMessage =>
      failPayoutsForChallenge challengeId errorMessage T
  | .updatePayoutFeeBumpStatus payoutId status feeBumpMaxFee originalTxHash =>
      updatePayoutFeeBumpStatus bigint payoutId status feeBumpMaxFee originalTxHash T
  | .payoutDlqUpdate challengeId attemptsMade failedReason =>
      payoutDlqUpdate challengeId attemptsMade failedReason T

/-- A statement that does not go through changes nothing. -/
def step (T : PayoutsTable) (call : Call) : PayoutsTable :=
  match outcome bigint T call with
  | .ok T' => T'
  | .error _ => T

/-! ### What the rules let through -/

/-- No constraint of the table rejects the call. -/
def Accepted (T : PayoutsTable) (call : Call) : Prop :=
  ∀ rule, outcome bigint T call ≠ .error (.breaks rule)

/-- The rows with this id, as the condition of an update selects them. -/
def NoRow (T : PayoutsTable) (id : Uuid) (P : PayoutTuple → Prop) : Prop :=
  ∀ r ∈ T.rows, r.1.id = id → ¬ P r.1

/-- When the code and the table agree. -/
def Fits (T : PayoutsTable) : Call → Prop
  -- only if it gives up before its statement
  | .createPayout _ data => (∀ text, data.amount = .ok text → bigint text = none) ∨
      sendable data.stellarAddress = false
  -- `sent` is not a status of the table
  | .recordSettled id txHash => sendable txHash = false ∨ NoRow T id fun _ => True
  | .recordResult id true txHash _ =>
      txHash.all sendable = false ∨ NoRow T id fun _ => True
  -- an empty message is not written, and then the row needs one already
  | .recordResult id false txHash error =>
      txHash.all sendable = false ∨ error ≠ some [] ∨
        NoRow T id fun t => t.status ≠ some .failed
  | .failPayoutsForChallenge challengeId errorMessage => errorMessage ≠ [] ∨
      ∀ r ∈ T.rows, r.1.challengeId = some challengeId →
        r.1.status ≠ some .pending ∧ r.1.status ≠ some .processing
  -- the message of a failed row is not cleared
  | .updatePayoutFeeBumpStatus payoutId _ feeBumpMaxFee originalTxHash =>
      bigint feeBumpMaxFee = none ∨ originalTxHash.all sendable = false ∨
        NoRow T payoutId fun t =>
          t.status = some .failed ∧ ∀ n, t.feeBumpAttempts = some n → n < maxInteger
  | .payoutDlqUpdate _ _ _ => True

/-! ### One statement -/

theorem keepsApart {set : PayoutTuple → Option PayoutTuple}
    (h : ∀ t t', set t = some t' →
      t'.id = t.id ∧ t'.challengeId = t.challengeId ∧ t'.userId = t.userId) :
    payouts.KeepsApart set where
  left hset s := by
    obtain ⟨hid, hchallenge, huser⟩ := h _ _ hset
    simp [payouts, keyClash, hid, hchallenge, huser]
  right hset s := by
    obtain ⟨hid, hchallenge, huser⟩ := h _ _ hset
    simp [payouts, keyClash, hid, hchallenge, huser]

/-- The row with an id, if there is one, is the only one. -/
theorem eq_of_id {T : PayoutsTable} {r s : payouts.Row} (hr : r ∈ T.rows) (hs : s ∈ T.rows)
    (hid : r.1.id = s.1.id) : r = s := by
  by_contra hne
  have hsymm : Std.Symm fun r s : payouts.Row => r.1.id ≠ s.1.id := ⟨fun _ _ h => h.symm⟩
  have hpair : T.rows.Pairwise fun r s => r.1.id ≠ s.1.id := by
    refine T.apart.imp fun {a b} hclash heq => ?_
    simp [payouts, keyClash, heq] at hclash
  exact hpair.forall hr hs hne hid

theorem createPayout_accepted_iff (id : Uuid) (data : CreatePayoutData) (T : PayoutsTable) :
    Accepted bigint T (.createPayout id data) ↔ Fits bigint T (.createPayout id data) := by
  show (∀ rule, createPayout bigint id data T ≠ _) ↔ _
  unfold createPayout Fits
  cases hamount : data.amount with
  | error err => simp [hamount]
  | ok text =>
      cases hread : bigint text with
      | none => simp [hamount, hread]
      | some amount =>
          have hbreaks : payouts.breaks (data.proposed id amount) =
              some .session_id_not_null := rfl
          cases hsend : sendable data.stellarAddress with
          | true => simp [hamount, hread, hsend, Rules.insert_of_breaks hbreaks]
          | false => simp [hread, hsend]

theorem truthy_all_sendable (text : Option Text) :
    (truthy text).all sendable = text.all sendable := by
  rcases text with _ | _ | _ <;> rfl

/-- Which status a row may be given, with what message. -/
theorem updatePayoutStatus_accepted_iff (id : Uuid) (status : PayoutStatus)
    (txHash errorMessage : Option Text) (T : PayoutsTable) :
    (∀ rule, updatePayoutStatus id status txHash errorMessage T ≠ .error (.breaks rule)) ↔
      txHash.all sendable = false ∨ errorMessage.all sendable = false ∨
        ∀ r ∈ T.rows, r.1.id = id → ∀ message,
          (truthy errorMessage <|> r.1.errorMessage) = some message →
            (ofPayoutStatus status = .failed ↔ message ≠ []) ∧
              (ofPayoutStatus status).listed = true := by
  unfold updatePayoutStatus
  rw [truthy_all_sendable, truthy_all_sendable]
  cases htx : txHash.all sendable with
  | false => simp
  | true =>
  cases herr : errorMessage.all sendable with
  | false => simp
  | true =>
      rw [if_pos (by simp), Rules.update_accepted_iff
        (keepsApart (by rintro t _ ⟨⟩; exact ⟨rfl, rfl, rfl⟩)) (by simp)]
      simp only [decide_eq_true_eq, Option.some.injEq, forall_eq', reduceCtorEq, false_or]
      refine forall₃_congr fun r hr hid => ?_
      obtain ⟨-, message', -, hmessage', -⟩ := row_spec r
      obtain ⟨message, hmessage⟩ : ∃ message,
          (truthy errorMessage <|> r.1.errorMessage) = some message := by
        rw [hmessage']
        cases truthy errorMessage <;> simp
      refine Iff.trans (breaks_rewrite (r := r) rfl hmessage rfl rfl rfl rfl) ?_
      simp [hmessage]

theorem failPayoutsForChallenge_accepted_iff (challengeId : Uuid) (errorMessage : Text)
    (T : PayoutsTable) :
    (∀ rule, failPayoutsForChallenge challengeId errorMessage T ≠ .error (.breaks rule)) ↔
      errorMessage ≠ [] ∨ ∀ r ∈ T.rows, r.1.challengeId = some challengeId →
        r.1.status ≠ some .pending ∧ r.1.status ≠ some .processing := by
  unfold failPayoutsForChallenge
  cases hsend : sendable errorMessage with
  | false =>
      have hne : errorMessage ≠ [] := by
        rintro rfl
        cases hsend
      simp [hne]
  | true =>
      rw [if_pos rfl, Rules.update_accepted_iff
        (keepsApart (by rintro t _ ⟨⟩; exact ⟨rfl, rfl, rfl⟩)) (by simp)]
      have hrow : ∀ r : payouts.Row, payouts.breaks { r.1 with
          status := some .failed, errorMessage := some errorMessage } = none ↔
            errorMessage ≠ [] := by
        intro r
        refine Iff.trans (breaks_rewrite (r := r) rfl rfl rfl rfl rfl rfl) ?_
        simp [RowStatus.listed]
      simp only [Option.some.injEq, forall_eq', hrow]
      by_cases hempty : errorMessage = []
      · simp [hempty, not_or]
      · simp [hempty]

theorem updatePayoutFeeBumpStatus_accepted_iff (payoutId : Uuid) (status : FeeBumpStatus)
    (feeBumpMaxFee : Text) (originalTxHash : Option Text) (T : PayoutsTable) :
    Accepted bigint T (.updatePayoutFeeBumpStatus payoutId status feeBumpMaxFee originalTxHash) ↔
      Fits bigint T
        (.updatePayoutFeeBumpStatus payoutId status feeBumpMaxFee originalTxHash) := by
  show (∀ rule, updatePayoutFeeBumpStatus bigint payoutId status feeBumpMaxFee originalTxHash T ≠
    _) ↔ _
  unfold updatePayoutFeeBumpStatus Fits NoRow
  cases hread : bigint feeBumpMaxFee with
  | none => simp [hread]
  | some maxFee =>
  cases hsend : originalTxHash.all sendable with
  | false => simp [hsend]
  | true =>
      dsimp only
      rw [if_pos rfl, Rules.update_accepted_iff
        (keepsApart (by
          intro t t' h
          obtain ⟨attempts, -, rfl⟩ := Option.map_eq_some_iff.mp h
          exact ⟨rfl, rfl, rfl⟩))
        (by
          intro r hr s hs hrid hsid hnone
          simp only [decide_eq_true_eq] at hrid hsid
          rwa [← eq_of_id hr hs (hrid.trans hsid.symm)])]
      simp only [decide_eq_true_eq, Option.map_eq_some_iff, forall_exists_index, and_imp,
        forall_apply_eq_imp_iff₂, hread, hsend, reduceCtorEq, false_or]
      refine forall₃_congr fun r hr hid => ?_
      obtain ⟨old, message, hold, hmessage, hpair⟩ := row_spec r
      have hattempts := (breaks_eq_none.mp r.2) (.fee_bump_attempts_not_null,
        fun t => t.feeBumpAttempts.isSome) (by simp [tupleRules])
      obtain ⟨n, hn⟩ := Option.isSome_iff_exists.mp hattempts
      have hlisted : status.row.listed = true := by cases status <;> rfl
      have hfailed : status.row ≠ .failed := by cases status <;> decide
      have hrow : ∀ m, payouts.breaks { r.1 with
          status := some status.row
          feeBumpAttempts := some m
          feeBumpMaxFeeStroops := some maxFee
          originalTxHash := r.1.originalTxHash <|> originalTxHash } = none ↔ message = [] := by
        intro m
        refine Iff.trans (breaks_rewrite (r := r) rfl hmessage rfl rfl rfl (by simp [hn])) ?_
        simp [hlisted, hfailed]
      rw [hn, hold]
      by_cases hmax : n < maxInteger
      · simpa [nextAttempt, hmax, hpair] using hrow (n + 1)
      · simp [nextAttempt, hmax]

/-- `sent` is turned down wherever there is a row to receive it. -/
theorem sent_accepted_iff (id : Uuid) (txHash : Option Text) (T : PayoutsTable) :
    (∀ rule, updatePayoutStatus id .sent txHash none T ≠ .error (.breaks rule)) ↔
      txHash.all sendable = false ∨ NoRow T id fun _ => True := by
  rw [updatePayoutStatus_accepted_iff]
  refine or_congr_right ?_
  simp only [Option.all_none, reduceCtorEq, false_or, NoRow, not_true_eq_false]
  refine forall₃_congr fun r hr hid => ?_
  obtain ⟨-, message, -, hmessage, -⟩ := row_spec r
  simp [truthy, hmessage, ofPayoutStatus, RowStatus.listed]

/-- `failed` is turned down where there is no message, new or old. -/
theorem failed_accepted_iff (id : Uuid) (txHash : Option Text) (error : Text) (T : PayoutsTable) :
    (∀ rule, updatePayoutStatus id .failed txHash (some error) T ≠ .error (.breaks rule)) ↔
      txHash.all sendable = false ∨ error ≠ [] ∨ NoRow T id fun t => t.status ≠ some .failed := by
  rw [updatePayoutStatus_accepted_iff]
  refine or_congr_right ?_
  cases error with
  | nil =>
      have hsend : (some ([] : Text)).all sendable = true := rfl
      have htruthy : truthy (some []) = none := rfl
      simp only [hsend, htruthy, reduceCtorEq, false_or, ne_eq, not_true_eq_false, NoRow]
      refine forall₃_congr fun r hr hid => ?_
      obtain ⟨status, message, hstatus, hmessage, hpair⟩ := row_spec r
      simp [hmessage, hstatus, hpair, ofPayoutStatus, RowStatus.listed]
  | cons c rest => simp [truthy, ofPayoutStatus, RowStatus.listed]

theorem dlqMessage_ne_nil (attemptsMade : Nat) (failedReason : Text) :
    dlqMessage attemptsMade failedReason ≠ [] := by
  unfold dlqMessage truncate
  split <;> simp

/-- **One call**: the rules of the table let it through exactly when it fits. -/
theorem accepted_iff (T : PayoutsTable) (call : Call) :
    Accepted bigint T call ↔ Fits bigint T call := by
  cases call with
  | createPayout id data => exact createPayout_accepted_iff bigint id data T
  | recordSettled id txHash => exact sent_accepted_iff id (some txHash) T
  | recordResult id success txHash error =>
      cases success with
      | true =>
          refine (sent_accepted_iff id (truthy txHash) T).trans ?_
          rw [truthy_all_sendable]
          rfl
      | false =>
          refine (failed_accepted_iff id (truthy txHash) _ T).trans ?_
          rw [truthy_all_sendable]
          cases error with
          | none => simp [Fits]
          | some message => simp [Fits]
  | failPayoutsForChallenge challengeId errorMessage =>
      exact failPayoutsForChallenge_accepted_iff challengeId errorMessage T
  | updatePayoutFeeBumpStatus payoutId status feeBumpMaxFee originalTxHash =>
      exact updatePayoutFeeBumpStatus_accepted_iff bigint payoutId status feeBumpMaxFee
        originalTxHash T
  | payoutDlqUpdate challengeId attemptsMade failedReason =>
      show (∀ rule, payoutDlqUpdate challengeId attemptsMade failedReason T ≠ _) ↔ True
      cases challengeId with
      | none => simp [payoutDlqUpdate]
      | some challengeId =>
          simpa [payoutDlqUpdate] using (failPayoutsForChallenge_accepted_iff challengeId _ T).mpr
            (Or.inl (dlqMessage_ne_nil attemptsMade failedReason))

/-! ### Runs -/

/-- A row has failed exactly if it has a message. -/
def Paired (T : PayoutsTable) : Prop :=
  ∀ r ∈ T.rows, r.1.status = some .failed ↔ ∃ message, r.1.errorMessage = some message ∧
    message ≠ []

theorem paired (T : PayoutsTable) : Paired T := by
  intro r _
  obtain ⟨status, message, hstatus, hmessage, hpair⟩ := row_spec r
  simp [hstatus, hmessage, hpair]

/-- Throughout the run no call is rejected by the table, and the rows stay paired. -/
def FollowsRules (T : PayoutsTable) (calls : List Call) : Prop :=
  Paired T ∧
    Along (step bigint) (fun T call => Accepted bigint T call ∧ Paired (step bigint T call)) T calls

/-- **Runs of calls**: from any table, and with any messages, the rows follow the rules
exactly when every call fits the table it comes to. -/
theorem followsRules_iff (T : PayoutsTable) (calls : List Call) :
    FollowsRules bigint T calls ↔ Along (step bigint) (Fits bigint) T calls := by
  have hstep : ∀ T call, (Accepted bigint T call ∧ Paired (step bigint T call)) ↔
      Fits bigint T call := by
    intro T call
    rw [← accepted_iff]
    exact and_iff_left (paired _)
  rw [FollowsRules, along_iff hstep]
  exact and_iff_right (paired T)

/-- A row waiting to be paid. -/
def waiting : PayoutTuple :=
  ⟨0, some 0, some 0, some 0, none, some 10, some .pending, none, some [], some 0, none, none⟩

/-- The first row of a challenge is turned down, and so is the new status of a paid one. -/
theorem turned_down :
    ¬ FollowsRules (fun text => some (Nat.ofDigitChars 10 text 0)) ⟨[], .nil⟩
      [.createPayout 0 ⟨0, 0, "G".toList, some "10".toList, none⟩] ∧
    ¬ FollowsRules (fun _ => none) ⟨[⟨waiting, rfl⟩], List.pairwise_singleton _ _⟩
      [.recordSettled 0 "5f".toList] := by
  constructor
  · rintro ⟨-, haccepted, -⟩
    exact haccepted.1 .session_id_not_null rfl
  · rintro ⟨-, haccepted, -⟩
    exact haccepted.1 .payouts_status_check rfl

end BrandBlitz.Payout.Rows

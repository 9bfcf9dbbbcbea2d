import BrandBlitz.Payout.World

/-!
# BrandBlitz.Payout.Process

The services that move a challenge's money, as programs over the operations of
`BrandBlitz.Payout.World`:

* `processPayout` (`apps/api/src/services/payout.ts`), the body of a payout job;
* `refundChallenge` (`apps/api/src/services/refund.ts`);
* `retryPayout`, the admin route `POST /:id/retry`
  (`apps/api/src/routes/admin/payouts.ts`).

`processPayout` is cut at its comments: read the challenge, allocate, create the payout
rows, settle through the escrow contract, and fall back to the hot wallet. Logging and
metrics are left out, and so is the local queue of web push messages, whose failures
are swallowed.
-/

namespace BrandBlitz.Payout

open BrandBlitz.Lib BrandBlitz.Stellar

/-- A program of these services. -/
abbrev Service := Prog payoutSig Err

/-- What `processPayout` reads from the configuration. -/
structure PayoutConfig where
  /-- is `SOROBAN_CONTRACT_ID` set? -/
  sorobanContractId : Bool
  verifySessionHmac : LeaderboardSession → Bool

/-- An entry of `payoutRecords`; the row's id is its user. -/
structure PayoutRecord where
  userId : UserId
  address : Text
  amount : Text
  amountStroops : Nat
deriving DecidableEq, Repr

/-! ### Awaited calls -/

def getChallengeById : Service (Option Challenge) := Prog.call (S := payoutSig) .getChallengeById

def getLeaderboard : Service (List LeaderboardSession) :=
  Prog.call (S := payoutSig) .getLeaderboard

def getChallengeTiers : Service (List ChallengeTier) :=
  Prog.call (S := payoutSig) .getChallengeTiers

def getLicensePayoutTerms : Service (Option LicensePayoutTerms) :=
  Prog.call (S := payoutSig) .getLicensePayoutTerms

def createPayout (userId : UserId) (stellarAddress : Text) (amountStroops : Nat) :
    Service PayoutRow :=
  Prog.call (S := payoutSig) (.createPayout userId stellarAddress amountStroops)

def insertAuditLog (entry : AuditEntry) : Service Unit :=
  Prog.call (S := payoutSig) (.insertAuditLog entry)

def updatePayoutStatus (userId : UserId) (status : PayoutStatus) (txHash : Option Hash)
    (errorMessage : Option Text) : Service Unit :=
  Prog.call (S := payoutSig) (.updatePayoutStatus userId status txHash errorMessage)

def incrementUserEarnings (userId : UserId) (amountUsdc : Text) : Service Unit :=
  Prog.call (S := payoutSig) (.incrementUserEarnings userId amountUsdc)

def queueReferralBonusForPayout (userId : UserId) (amountStroops : Nat) : Service Unit :=
  Prog.call (S := payoutSig) (.queueReferralBonusForPayout userId amountStroops)

def updateChallengeStatus (status : ChallengeStatus) (payoutTxHashes : Option (List Hash)) :
    Service Unit :=
  Prog.call (S := payoutSig) (.updateChallengeStatus status payoutTxHashes)

/-- `escrow.settle(recipients, secret)`. -/
def settle (recipients : List (EscrowRecipient Entry)) : Service Hash :=
  Prog.call (S := payoutSig) (.settle recipients)

/-- `dispatchNotification`: a failed insert is logged. -/
def dispatchNotification (userId : UserId) : Service Unit :=
  (Prog.call (S := payoutSig) (.insertNotification userId)).tryCatch fun _ => return ()

/-- `insertPayoutNotification`: the second insert, too, never throws. -/
def insertPayoutNotification (userId : UserId) : Service Unit := do
  dispatchNotification userId
  (do
    let enabled ← Prog.call (S := payoutSig) (.isNotificationCategoryEnabled userId)
    if enabled then Prog.call (S := payoutSig) (.insertNotification userId)
    else return () : Service Unit).tryCatch fun _ => return ()

/-- The operations of `submitBatchPayout` among those of the services. -/
def stellarHom : Prog.Hom (stellarSig Entry) payoutSig where
  op := .stellar
  ans _ a := a

/-! ### Payout rows -/

def FRAUD_BLOCK_SENTINEL : Text := "FRAUD_BLOCKED_PAYOUT".toList

/-- Is it the exception of the database's fraud guard? -/
def isFraudBlockError (err : Err) : Bool :=
  err.isError && includes err.text FRAUD_BLOCK_SENTINEL

/-- The record kept for an allocation. -/
def recordOf (a : PayoutAllocation) : PayoutRecord :=
  ⟨a.userId, a.address, stroopsToUsdc a.amountStroops, a.amountStroops⟩

/-- One turn of the loop over the allocations: create the row, and keep a record unless
the user is blocked or was paid before. -/
def createPayoutRecord (a : PayoutAllocation) : Service (Option PayoutRecord) := do
  let payout ← (do
    let row ← createPayout a.userId a.address a.amountStroops
    return some row : Service (Option PayoutRow)).tryCatch fun err =>
      if isFraudBlockError err then do
        insertAuditLog (.payoutBlockedFraud a.userId)
        return none
      else .raise err
  -- the upsert has run by now: a paid row is passed over, but already rewritten
  match payout with
  | none => return none
  | some row =>
    if row.isPaid then return none
    else return some (recordOf a)

/-- The loop over the allocations. -/
def createPayoutRecords : List PayoutAllocation → Service (List PayoutRecord)
  | [] => return []
  | a :: rest => do
      let record ← createPayoutRecord a
      let records ← createPayoutRecords rest
      return record.toList ++ records

/-! ### Escrow settlement -/

def escrowRecipient (basis : Basis) (r : PayoutRecord) : EscrowRecipient Entry :=
  ⟨r.address, r.amountStroops, r.userId, basis⟩

def recordSettled (txHash : Hash) (r : PayoutRecord) : Service Unit := do
  updatePayoutStatus r.userId .sent (some txHash) none
  incrementUserEarnings r.userId r.amount
  queueReferralBonusForPayout r.userId r.amountStroops
  insertPayoutNotification r.userId

/-- The body of the `try`. -/
def settleThroughEscrow (basis : Basis) (records : List PayoutRecord) : Service Unit := do
  let txHash ← settle (records.map (escrowRecipient basis))
  Prog.forEach records (recordSettled txHash)
  updateChallengeStatus .settled (some [txHash])

/-! ### Direct payout from the hot wallet -/

def payoutRecipient (basis : Basis) (r : PayoutRecord) : PayoutRecipient Entry :=
  ⟨r.address, r.amount, r.userId, basis⟩

/-- `payoutRecords.find((c) => c.address === recipient.address)`. -/
def findRecord (records : List PayoutRecord) (recipient : PayoutRecipient Entry) :
    Option PayoutRecord :=
  records.find? fun c => c.address = recipient.address

/-- What is written for one recipient of a batch. -/
def recordRecipient (records : List PayoutRecord) (result : PayoutBatchResult Entry)
    (recipient : PayoutRecipient Entry) : Service Unit :=
  -- looked up by address, so two users who share one are not told apart
  match findRecord records recipient with
  | none => return ()
  | some record => do
      updatePayoutStatus record.userId (if result.success then .sent else .failed) result.txHash
        (if result.success then none
          else some (result.error.getD "Stellar broadcast failed with no error detail".toList))
      if result.success then do
        incrementUserEarnings record.userId record.amount
        insertPayoutNotification record.userId
      else return ()

def queueReferralBonus (records : List PayoutRecord) (recipient : PayoutRecipient Entry) :
    Service Unit :=
  match findRecord records recipient with
  | none => return ()
  | some record => queueReferralBonusForPayout record.userId record.amountStroops

/-- One turn of the loop over the batch results. -/
def recordResult (records : List PayoutRecord) (result : PayoutBatchResult Entry) :
    Service Unit := do
  Prog.forEach result.recipients (recordRecipient records result)
  if result.success then Prog.forEach result.recipients (queueReferralBonus records)
  else return ()

/-- The hashes of the batches that went through. -/
def txHashes (results : List (PayoutBatchResult Entry)) : List Hash :=
  (results.filter (·.success)).filterMap (·.txHash)

def hasFailure (results : List (PayoutBatchResult Entry)) : Bool := results.any (!·.success)

/-- The options of `submitBatchPayout` here: a shared store, one retry by default. -/
def batchOptions : SubmitBatchPayoutOptions := ⟨true, 1⟩

/-- From the results of the batches on: the loop, and the last update of the challenge. -/
def recordResults (records : List PayoutRecord) (results : List (PayoutBatchResult Entry)) :
    Service Unit := do
  Prog.forEach results (recordResult records)
  updateChallengeStatus (if hasFailure results then .payoutFailed else .settled)
    (if (txHashes results).isEmpty then none else some (txHashes results))

/-- From the fallback on. An error of `submitBatchPayout` is rethrown in every case. -/
def payDirectly (challengeId : Text) (basis : Basis) (records : List PayoutRecord) :
    Service Unit := do
  let results ← (submitBatchPayout batchOptions challengeId
    (records.map (payoutRecipient basis))).embed stellarHom
  recordResults records results

/-! ### `processPayout` -/

/-- Pay what the records say: through the escrow where it is configured, and directly
when that is not so or throws anywhere. -/
def payRecords (config : PayoutConfig) (challengeId : Text) (basis : Basis)
    (records : List PayoutRecord) : Service Unit :=
  if config.sorobanContractId then
    -- the `try` covers the bookkeeping as well as the settlement
    (settleThroughEscrow basis records).tryCatch fun _ => payDirectly challengeId basis records
  else payDirectly challengeId basis records

/-- From the ranking on. -/
def payWinners (config : PayoutConfig) (challengeId : Text) (challenge : Challenge)
    (sessions : List LeaderboardSession) : Service Unit := do
  let tiers ← getChallengeTiers
  let licenseTerms ← getLicensePayoutTerms
  let basis : Basis := ⟨challenge.poolAmountStroops, sessions, tiers, licenseTerms⟩
  let records ← createPayoutRecords (payoutAllocations basis).values
  if records.isEmpty then updateChallengeStatus .settled none
  else payRecords config challengeId basis records

/-- `processPayout`, once it has read the leaderboard. -/
def afterLeaderboard (config : PayoutConfig) (challengeId : Text) (challenge : Challenge)
    (sessions : List LeaderboardSession) : Service Unit :=
  match sessions.find? fun s => !config.verifySessionHmac s with
  | some session => .raise (Err.new
      ("Session ".toList ++ Nat.toDigits 10 session.id ++ " failed integrity check".toList))
  | none =>
    if sessions.isEmpty then updateChallengeStatus .settled none
    else payWinners config challengeId challenge sessions

/-- `processPayout(challengeId)`. -/
def processPayout (config : PayoutConfig) (challengeId : Text) : Service Unit := do
  let found ← getChallengeById
  match found with
  | none => .raise (Err.new ("Challenge ".toList ++ challengeId ++ " not found".toList))
  | some challenge =>
    -- the one look at the status, made before anything is read or paid
    if challenge.status ≠ .ended then return ()
    else do
      let sessions ← getLeaderboard
      afterLeaderboard config challengeId challenge sessions

/-! ### `refundChallenge` -/

/-- What the policy gives back: nothing once started, or a percentage of the pool. -/
def refundAmountStroops (challenge : Challenge) (now : Time) : Nat :=
  if challenge.refundPolicy = .noneAfterStart && challenge.startsAt ≤ now then 0
  else challenge.poolAmountStroops * challenge.refundPercentage.val / 10000

/-- The payment, unless nothing is due. -/
def submitRefund (destination : Text) (amountStroops : Nat) : Service (Option Hash) :=
  if amountStroops > 0 then do
    let hash ← Prog.call (S := payoutSig)
      (.submitRefundPayment destination (stroopsToUsdc amountStroops))
    return some hash
  else return none

/-- `refundChallenge` from the amount on. -/
def payRefund (adminId : UserId) (reason : Text) (challenge : Challenge) (destination : Text) :
    Service Refund := do
  let now ← Prog.call (S := payoutSig) .dateNow
  let amountStroops := refundAmountStroops challenge now
  let txHash ← submitRefund destination amountStroops
  let refund ← Prog.call (S := payoutSig)
    (.createRefund ⟨adminId, reason, amountStroops, destination, txHash⟩)
  updateChallengeStatus .refunded none
  insertAuditLog (.challengeRefund adminId txHash (stroopsToUsdc amountStroops) destination
    reason)
  return refund

/-- `refundChallenge` from the check of the deposit on. -/
def refundDeposit (adminId : UserId) (reason : Text) (challenge : Challenge) : Service Refund :=
  match challenge.depositTxHash.filter fun hash => !hash.isEmpty with
  | none => .raise (Err.new "No deposit found".toList)
  | some depositTxHash => do
      let sender ← Prog.call (S := payoutSig) (.getDepositSender depositTxHash)
      match sender.filter fun address => !address.isEmpty with
      | none => .raise (Err.new "No deposit found".toList)
      | some destination => payRefund adminId reason challenge destination

/-- `refundChallenge({ challengeId, adminId, reason })`. -/
def refundChallenge (adminId : UserId) (reason : Text) : Service Refund := do
  let existingRefund ← Prog.call (S := payoutSig) .findRefundByChallengeId
  match existingRefund with
  | some refund => return refund
  | none => do
      let found ← getChallengeById
      match found with
      | none => .raise (Err.new "Challenge not found".toList)
      | some challenge =>
        -- a payout that is under way, or that failed half way, passes this check
        if challenge.status = .settled then .raise (Err.new "Challenge already settled".toList)
        else refundDeposit adminId reason challenge

/-! ### The admin's retry -/

/-- `POST /admin/payouts/:id/retry`: the row goes back to `pending` and the challenge's
job is enqueued. -/
def retryPayout (adminId userId : UserId) : Service Unit := do
  let payout ← Prog.call (S := payoutSig) (.findPayout userId)
  match payout with
  | none => .raise (Err.new "Payout not found".toList)
  | some record =>
    if record.status ≠ .failed then
      .raise (Err.new "Only failed payouts can be retried".toList)
    else do
      -- one transaction: the row and its audit entry; the challenge is left as it is
      Prog.call (S := payoutSig) (.resetPayout adminId userId)
      Prog.call (S := payoutSig) .enqueuePayoutJob

end BrandBlitz.Payout

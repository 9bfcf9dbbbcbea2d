import BrandBlitz.Payout.Usdc
import BrandBlitz.Lib.Crew

/-!
# BrandBlitz.Referrals.Bonus

**Referral bonuses.** When a referred user is paid, `queueReferralBonusForPayout`
(`apps/api/src/services/referrals.ts`) creates the one payout row of the referral, marks the
referral as rewarded and enqueues a job; `processReferralBonusJob`
(`apps/api/src/queues/processors/referral-bonus.processor.ts`) reads the row and pays both
users in one transaction.

The world is that of one referral. Design points:

* `referral_payouts` has at most one row per referral (`UNIQUE (referral_id)`), so the table
  is an optional row here.
* Any call may throw, before or after it took effect; so may the submission of a
  transaction, whose answer can be lost on the way.
* The machine knows which program makes a call, by its number, and keeps book: which runs
  read the row as pending, which made their status write, which programs are taken to be
  over, and which calls are between their last two writes. Nothing reads these books; they
  are there to say what goes wrong and when.
-/

namespace BrandBlitz.Referrals

open BrandBlitz.Lib BrandBlitz.Stellar

/-- A UUID. -/
abbrev Id := Nat

/-! ### Rows -/

/-- A row of `referrals`. -/
structure Referral where
  id : Id
  referrerId : Id
  referredId : Id
  rewarded : Bool
deriving DecidableEq, Repr

inductive ReferralPayoutStatus where
  | pending | sent | failed
deriving DecidableEq, Repr

/-- A row of `referral_payouts`; the driver returns `BIGINT` columns as digits. -/
structure ReferralPayout where
  id : Id
  referralId : Id
  challengeId : Option Id
  referrerId : Id
  referredId : Id
  referrerStellarAddress : Option Text
  referredStellarAddress : Option Text
  referrerAmountStroops : Text
  referredAmountStroops : Text
  status : ReferralPayoutStatus
  txHash : Option Hash
  errorMessage : Text
deriving DecidableEq, Repr

/-- The columns of `users` that decide where a bonus goes. -/
structure User where
  embeddedWalletAddress : Option Text
  stellarAddress : Option Text
deriving DecidableEq, Repr

/-- A row of `audit_log` with the action `referral_bonus_skipped`. -/
structure BonusSkipped where
  sessionId : Id
  referrerId : Id
  referredId : Id
  referralId : Option Id
  referralPayoutId : Option Id
  challengeId : Option Id
deriving DecidableEq, Repr

/-- The parameter of `createReferralPayout`. -/
structure NewReferralPayout where
  referralId : Id
  challengeId : Option Id
  referrerId : Id
  referredId : Id
  referrerStellarAddress : Option Text
  referredStellarAddress : Option Text
  referrerAmountStroops : Int
  referredAmountStroops : Int
deriving DecidableEq, Repr

/-- A payment as the ledger reads it. -/
structure Payment where
  destination : Text
  amountStroops : Nat
deriving DecidableEq, Repr

/-- A transaction that was applied, and the run that submitted it. -/
structure BonusTx where
  run : Nat
  payments : List Payment
deriving DecidableEq, Repr

/-- Everything the two programs read and write for one referral. -/
structure World where
  referral : Option Referral
  /-- `game_sessions`, by user and challenge: the session's id -/
  sessions : Id → Id → Option Id
  /-- does `fraud_flags` have a row for the session? -/
  fraudFlags : Id → Bool
  /-- the users that are not deleted -/
  users : Id → Option User
  payout : Option ReferralPayout
  auditLog : List BonusSkipped
  /-- the payout ids handed to the queue -/
  jobs : List Id
  chain : List BonusTx
  /-- runs that read the row as pending -/
  readers : List Nat
  /-- runs whose status write took effect -/
  recorded : List Nat
  /-- programs the queue or the process manager takes to have ended -/
  ended : List Nat
  /-- calls that marked the referral and have yet to try to enqueue its job -/
  marking : List Nat

/-! ### Operations -/

/-- What the two programs await. -/
inductive Op where
  | findReferralByReferredId (referredId : Id)
  | getSession (userId challengeId : Id)
  | isFraudSession (sessionId : Id)
  | auditReferralBonusSkipped (entry : BonusSkipped)
  | findUserById (id : Id)
  | createReferralPayout (data : NewReferralPayout)
  | markReferralRewarded (referralId : Id)
  | enqueueReferralBonus (referralPayoutId : Id)
  | findReferralPayoutById (id : Id)
  | updateReferralPayoutStatus (id : Id) (status : ReferralPayoutStatus)
      (txHash : Option Hash) (errorMessage : Text)
  | stellar (op : StellarOp Unit)

abbrev referralSig : Sig where
  Op := Op
  Ans
    | .findReferralByReferredId _ => Option Referral
    | .getSession .. => Option Id
    | .isFraudSession _ => Bool
    | .auditReferralBonusSkipped _ => Unit
    | .findUserById _ => Option User
    | .createReferralPayout _ => ReferralPayout
    | .markReferralRewarded _ => Unit
    | .enqueueReferralBonus _ => Unit
    | .findReferralPayoutById _ => Option ReferralPayout
    | .updateReferralPayoutStatus .. => Unit
    | .stellar op => (stellarSig Unit).Ans op

/-- A program over these operations. -/
abbrev Service := Prog referralSig Err

/-- A call that throws. -/
structure Fault where
  err : Err
  /-- did the call take effect all the same? -/
  applied : Bool

/-- What the environment contributes to one call. -/
structure Env where
  fault : Option Fault
  /-- a new row's id, an account sequence or the end of the time bounds -/
  number : Nat

/-! ### What each operation does -/

/-- A violated constraint. -/
def constraintViolation : Err := Err.new "violates constraint".toList

/-- The payments of a transaction as the ledger reads them: decimal USDC. -/
def ledgerPayments (recipients : List (PayoutRecipient Unit)) : List Payment :=
  recipients.map fun r => ⟨r.address, (Payout.usdcToStroops r.amount).toOption.getD 0⟩

namespace World

variable (w : World)

/-- The row as `findReferralPayoutById` finds it. -/
def payoutById (id : Id) : Option ReferralPayout := w.payout.filter fun row => row.id = id

/-- Is there a row with this id, and is it pending? -/
def pendingById (id : Id) : Bool := (w.payoutById id).any fun row => row.status = .pending

/-- Is the referral's row pending? -/
def isPending : Bool := w.payout.any fun row => row.status = .pending

/-- `UPDATE referrals SET rewarded = TRUE WHERE id = $1`. -/
def markRewarded (referralId : Id) : World :=
  { w with referral := w.referral.map fun r =>
      if r.id = referralId then { r with rewarded := true } else r }

/-- `UPDATE referral_payouts SET status = …, tx_hash = …, error_message = … WHERE id = $4`. -/
def updatePayout (id : Id) (status : ReferralPayoutStatus) (txHash : Option Hash)
    (errorMessage : Text) : World :=
  { w with payout := w.payout.map fun row =>
      if row.id = id then
        { row with status := status, txHash := txHash, errorMessage := errorMessage }
      else row }

end World

/-- The row that `INSERT INTO referral_payouts` makes; the amounts are positive. -/
def NewReferralPayout.row (data : NewReferralPayout) (id : Id) : ReferralPayout where
  id := id
  referralId := data.referralId
  challengeId := data.challengeId
  referrerId := data.referrerId
  referredId := data.referredId
  referrerStellarAddress := data.referrerStellarAddress
  referredStellarAddress := data.referredStellarAddress
  referrerAmountStroops := Nat.toDigits 10 data.referrerAmountStroops.toNat
  referredAmountStroops := Nat.toDigits 10 data.referredAmountStroops.toNat
  status := .pending
  txHash := none
  errorMessage := []

/-- An operation of program `i` that does not throw by the environment's doing. -/
def perform (i : Nat) (e : Env) : (op : Op) → World → Except Err (referralSig.Ans op) × World
  | .findReferralByReferredId referredId, w =>
      (.ok (w.referral.filter fun r => r.referredId = referredId), w)
  | .getSession userId challengeId, w => (.ok (w.sessions userId challengeId), w)
  | .isFraudSession sessionId, w => (.ok (w.fraudFlags sessionId), w)
  | .auditReferralBonusSkipped entry, w =>
      (.ok (), { w with auditLog := w.auditLog ++ [entry] })
  | .findUserById id, w => (.ok (w.users id), w)
  | .createReferralPayout data, w =>
      -- CHECK (referrer_amount_stroops > 0 AND referred_amount_stroops > 0)
      if 0 < data.referrerAmountStroops ∧ 0 < data.referredAmountStroops then
        match w.payout with
        -- ON CONFLICT (referral_id): the row that is there is returned as it is
        | some row => (.ok row, w)
        | none => (.ok (data.row e.number), { w with payout := some (data.row e.number) })
      else (.error constraintViolation, w)
  | .markReferralRewarded referralId, w => (.ok (), w.markRewarded referralId)
  | .enqueueReferralBonus referralPayoutId, w =>
      (.ok (), { w with jobs := w.jobs ++ [referralPayoutId] })
  | .findReferralPayoutById id, w => (.ok (w.payoutById id), w)
  | .updateReferralPayoutStatus id status txHash errorMessage, w =>
      -- CHECK ((status = 'failed') = (LENGTH(error_message) > 0))
      if (status = .failed ↔ errorMessage ≠ []) then
        (.ok (), { w.updatePayout id status txHash errorMessage with
          recorded := i :: w.recorded })
      else (.error constraintViolation, w)
  | .stellar .reserveSequence, w => (.ok e.number, w)
  | .stellar .loadAccount, w => (.ok e.number, w)
  | .stellar (.buildTransaction ..), w => (.ok e.number, w)
  | .stellar (.submitTransaction tx), w =>
      (.ok w.chain.length, { w with chain := w.chain ++ [⟨i, ledgerPayments tx.payments⟩] })
  | .stellar .resetSequence, w => (.ok (), w)

/-- Keep book of a call of program `i` that was answered, or thrown. -/
def World.note (i : Nat) (op : Op) (answered : Bool) (w : World) : World :=
  match op with
  | .findReferralPayoutById id =>
      if answered && w.pendingById id then { w with readers := i :: w.readers } else w
  | .markReferralRewarded _ => if answered then { w with marking := i :: w.marking } else w
  | .enqueueReferralBonus _ => { w with marking := w.marking.filter (· ≠ i) }
  | _ => w

/-- The database, the queue and the network, as program `i` meets them. -/
def bonusMachine (i : Nat) : Machine referralSig Err World Env where
  exec e op w :=
    match e.fault with
    | some fault =>
        (.error fault.err, (if fault.applied then (perform i e op w).2 else w).note i op false)
    | none => ((perform i e op w).1, (perform i e op w).2.note i op true)

/-! ### Awaited calls -/

def findReferralByReferredId (referredId : Id) : Service (Option Referral) :=
  Prog.call (S := referralSig) (.findReferralByReferredId referredId)

/-- `getSession`, of which only the id is read. -/
def getSession (userId challengeId : Id) : Service (Option Id) :=
  Prog.call (S := referralSig) (.getSession userId challengeId)

def isFraudSession (sessionId : Id) : Service Bool :=
  Prog.call (S := referralSig) (.isFraudSession sessionId)

def auditReferralBonusSkipped (entry : BonusSkipped) : Service Unit :=
  Prog.call (S := referralSig) (.auditReferralBonusSkipped entry)

def findUserById (id : Id) : Service (Option User) :=
  Prog.call (S := referralSig) (.findUserById id)

def createReferralPayout (data : NewReferralPayout) : Service ReferralPayout :=
  Prog.call (S := referralSig) (.createReferralPayout data)

def markReferralRewarded (referralId : Id) : Service Unit :=
  Prog.call (S := referralSig) (.markReferralRewarded referralId)

def enqueueReferralBonus (referralPayoutId : Id) : Service Unit :=
  Prog.call (S := referralSig) (.enqueueReferralBonus referralPayoutId)

def findReferralPayoutById (id : Id) : Service (Option ReferralPayout) :=
  Prog.call (S := referralSig) (.findReferralPayoutById id)

/-- `updateReferralPayoutStatus(id, status, txHash, errorMessage ?? "")`. -/
def updateReferralPayoutStatus (id : Id) (status : ReferralPayoutStatus) (txHash : Option Hash)
    (errorMessage : Text) : Service Unit :=
  Prog.call (S := referralSig) (.updateReferralPayoutStatus id status txHash errorMessage)

/-- The operations of `submitBatchPayout` among these. -/
def stellarHom : Prog.Hom (stellarSig Unit) referralSig where
  op := .stellar
  ans _ a := a

/-! ### Queueing a bonus -/

/-- The parameter of `queueReferralBonusForPayout`. -/
structure BonusParams where
  referredUserId : Id
  challengeId : Option Id
  referralWinAmountStroops : Int

/-- The first address that is not blank, the embedded wallet's before the linked one. -/
def resolvePayoutAddress (user : Option User) : Option Text :=
  match user with
  | none => none
  | some user =>
    let embedded := (user.embeddedWalletAddress.map trim).filter (!·.isEmpty)
    let stellar := (user.stellarAddress.map trim).filter (!·.isEmpty)
    embedded <|> stellar

def findReferralSessionId (referredUserId : Id) (challengeId : Option Id) :
    Service (Option Id) :=
  match challengeId with
  | none => return none
  | some challengeId => getSession referredUserId challengeId

/-- `sessionId && (await isFraudSession(sessionId))`: the session, if it is flagged. -/
def findFlagged (sessionId : Option Id) : Service (Option Id) :=
  match sessionId with
  | none => return none
  | some sessionId => do
      let flagged ← isFraudSession sessionId
      return if flagged then some sessionId else none

def refereeAmount : Int := 10000000

/-- A tenth of the win, in whole stroops, and at most 5 USDC. -/
def cappedReferrerAmount (referralWinAmountStroops : Int) : Int :=
  let referrerAmount := referralWinAmountStroops.tdiv 10
  if 50000000 < referrerAmount then 50000000 else referrerAmount

/-- The `try` at the end: a failure is logged, and that is all. -/
def enqueueBonus (referral : Referral) (payout : ReferralPayout) : Service Unit :=
  (do
    markReferralRewarded referral.id
    enqueueReferralBonus payout.id : Service Unit).tryCatch fun _ => return ()

/-- From the addresses on: create the row, or find it, and enqueue its job. -/
def recordBonus (params : BonusParams) (referral : Referral) : Service Unit := do
  let referrerUser ← findUserById referral.referrerId
  let referredUser ← findUserById referral.referredId
  match resolvePayoutAddress referrerUser, resolvePayoutAddress referredUser with
  | some referrerAddress, some referredAddress =>
    if cappedReferrerAmount params.referralWinAmountStroops < 1 || refereeAmount < 1 then
      return ()
    else do
      let payout ← createReferralPayout
        ⟨referral.id, params.challengeId, referral.referrerId, referral.referredId,
          some referrerAddress, some referredAddress,
          cappedReferrerAmount params.referralWinAmountStroops, refereeAmount⟩
      if payout.status ≠ .pending then return ()
      else enqueueBonus referral payout
  | _, _ => return ()

/-- `queueReferralBonusForPayout`. -/
def queueReferralBonusForPayout (params : BonusParams) : Service Unit := do
  match ← findReferralByReferredId params.referredUserId with
  | none => return ()
  | some referral =>
    if referral.rewarded then return ()
    else do
      let sessionId ← findReferralSessionId params.referredUserId params.challengeId
      match ← findFlagged sessionId with
      | some sessionId =>
          auditReferralBonusSkipped ⟨sessionId, referral.referrerId, referral.referredId,
            some referral.id, none, params.challengeId⟩
      | none => recordBonus params referral

/-! ### Paying a bonus -/

/-- The options of `submitBatchPayout` here: a shared store, one retry by default. -/
def batchOptions : SubmitBatchPayoutOptions := ⟨true, 1⟩

/-- The two payments of a row: the recorded digits are handed on as they are. -/
def bonusRecipients (payout : ReferralPayout) (referrerAddress referredAddress : Text) :
    List (PayoutRecipient Unit) :=
  [⟨referrerAddress, payout.referrerAmountStroops, ()⟩,
    ⟨referredAddress, payout.referredAmountStroops, ()⟩]

/-- From `submitBatchPayout` on: submit, and write what became of it. -/
def submitBonus (payout : ReferralPayout) (referrerAddress referredAddress : Text) :
    Service Unit := do
  let results ← (submitBatchPayout batchOptions
    ("referral-".toList ++ Nat.toDigits 10 payout.id)
    (bonusRecipients payout referrerAddress referredAddress)).embed stellarHom
  match results.head? with
  | none =>
      updateReferralPayoutStatus payout.id .failed none "No Stellar response".toList
  | some firstResult =>
    if firstResult.success then
      updateReferralPayoutStatus payout.id .sent firstResult.txHash []
    else
      updateReferralPayoutStatus payout.id .failed none
        (firstResult.error.getD "Referral bonus payout failed".toList)

/-- From the addresses on. -/
def payBonus (payout : ReferralPayout) : Service Unit :=
  match payout.referrerStellarAddress.filter (!·.isEmpty),
      payout.referredStellarAddress.filter (!·.isEmpty) with
  | some referrerAddress, some referredAddress =>
      submitBonus payout referrerAddress referredAddress
  | _, _ =>
      updateReferralPayoutStatus payout.id .failed none
        "Missing Stellar address for referral bonus payout".toList

/-- `processReferralBonusJob`. -/
def processReferralBonusJob (referralPayoutId : Id) : Service Unit := do
  match ← findReferralPayoutById referralPayoutId with
  | none => return ()
  | some payout =>
    if payout.status ≠ .pending then return ()
    else do
      let sessionId ← findReferralSessionId payout.referredId payout.challengeId
      match ← findFlagged sessionId with
      | some sessionId => do
          updateReferralPayoutStatus payout.id .failed none
            "Referral bonus skipped because session was flagged as fraud".toList
          auditReferralBonusSkipped ⟨sessionId, payout.referrerId, payout.referredId,
            some payout.referralId, some payout.id, payout.challengeId⟩
      | none => payBonus payout

/-! ### Where histories start -/

/-- User 20 was referred by user 10; both have an address, and nothing was paid yet. -/
def World.referred : World where
  referral := some ⟨1, 10, 20, false⟩
  sessions _ _ := none
  fraudFlags _ := false
  users id :=
    if id = 10 then some ⟨some "GREFERRER".toList, none⟩
    else if id = 20 then some ⟨none, some " GREFERRED".toList⟩
    else none
  payout := none
  auditLog := []
  jobs := []
  chain := []
  readers := []
  recorded := []
  ended := []
  marking := []

/-- A win of user 20. -/
def winOf (referralWinAmountStroops : Int) : BonusParams := ⟨20, none, referralWinAmountStroops⟩

/-- Nothing fails. -/
def calm : Env := ⟨none, 7⟩

/-- The call does not get through. -/
def refused : Env := { calm with fault := some ⟨Err.new "Connection terminated".toList, false⟩ }

end BrandBlitz.Referrals

import BrandBlitz.Payout.Allocation
import BrandBlitz.Stellar.EscrowClient

/-!
# BrandBlitz.Payout.World

**The world around one challenge**: the rows of the database that its payout and its
refund read and write, and the ledger they pay on. `Op` lists everything the two
services await; `payoutMachine` says what each does.

* The unique keys of the schema are the types: `payouts` is a function of the user,
  because of `UNIQUE (challenge_id, user_id)`, and a row is addressed by that key; there
  is at most one refund.
* Statements do what the services mean them to: a payout that is created is there, and
  `getLeaderboard` gives the list that is gone through. Which rows the table lets in is the
  subject of `BrandBlitz.Payout.Rows`, and which the query gives that of
  `BrandBlitz.Paging.Leaderboard`.
* A transaction's hash is its position on the chain.
* Any database call may throw, before or after its statement took effect. A network
  call that throws was refused and had no effect.
* `submissions` records every list of payments handed to the network, also the refused
  ones. Like the `entry` of a payment it is there to state properties; nothing reads it.
-/

namespace BrandBlitz.Payout

open BrandBlitz.Lib BrandBlitz.Stellar

/-! ### Rows -/

inductive ChallengeStatus where
  | draft | pendingDeposit | active | ended | settled | payoutFailed | cancelled | refunded
deriving DecidableEq, Repr

inductive PayoutStatus where
  | pending | sent | confirmed | failed
deriving DecidableEq, Repr

inductive RefundPolicy where
  | full | partialPercentage | noneAfterStart
deriving DecidableEq, Repr

/-- A row of `challenges`. -/
structure Challenge where
  id : Text
  status : ChallengeStatus
  poolAmountStroops : Nat
  depositTxHash : Option Text
  refundPolicy : RefundPolicy
  /-- `NUMERIC(5, 2)` between 0 and 100, in hundredths -/
  refundPercentage : Fin 10001
  startsAt : Time
  payoutTxHashes : List Hash
  deleted : Bool

/-- A row of `payouts`, less its keys. -/
structure PayoutRow where
  stellarAddress : Text
  amountStroops : Nat
  status : PayoutStatus
  txHash : Option Hash
  errorMessage : Option Text
deriving DecidableEq, Repr

/-- Was the payout marked as paid? -/
def PayoutRow.isPaid (row : PayoutRow) : Bool := row.status = .sent || row.status = .confirmed

/-- A row of `refunds`; no hash stands for `'no-refund-due'`. -/
structure Refund where
  adminId : UserId
  reason : Text
  amountStroops : Nat
  destination : Text
  txHash : Option Hash
deriving DecidableEq, Repr

/-- A row of `audit_log`. -/
inductive AuditEntry where
  | payoutBlockedFraud (userId : UserId)
  | challengeRefund (adminId : UserId) (txHash : Option Hash) (amount destination reason : Text)
  | payoutRetry (adminId : UserId) (userId : UserId)
deriving DecidableEq, Repr

/-! ### The chain -/

/-- Whom a payment is for, and on which reading of the database its amount rests. -/
structure Entry where
  user : UserId
  basis : Basis
deriving DecidableEq, Repr

/-- A payment to a winner or licensor. -/
structure Payment where
  entry : Entry
  destination : Text
  amountStroops : Nat
deriving DecidableEq, Repr

/-- A transaction applied for the challenge. -/
inductive Tx where
  /-- the escrow contract's `settle` -/
  | settlement (payments : List Payment)
  /-- a batch from the hot wallet -/
  | transfer (payments : List Payment)
  | refund (destination : Text) (amountStroops : Nat)
deriving DecidableEq, Repr

def Tx.payments : Tx → List Payment
  | .settlement payments | .transfer payments => payments
  | .refund .. => []

/-- What a transaction takes from the pool. -/
def Tx.outflow : Tx → Nat
  | .refund _ amount => amount
  | tx => (tx.payments.map (·.amountStroops)).sum

def Tx.isSettlement : Tx → Bool
  | .settlement _ => true
  | _ => false

/-- A list of payments handed to the network. -/
inductive Submission where
  | settle (recipients : List (EscrowRecipient Entry))
  | transaction (payments : List (PayoutRecipient Entry))

/-- Everything the modelled services read and write for one challenge. -/
structure World where
  challenge : Challenge
  sessions : List LeaderboardSession
  tiers : List ChallengeTier
  licenseTerms : Option LicensePayoutTerms
  /-- does the user have a session of the challenge with `flagged = TRUE`? -/
  flagged : UserId → Bool
  payouts : UserId → Option PayoutRow
  refund : Option Refund
  auditLog : List AuditEntry
  earnings : List (UserId × Text)
  referralBonuses : List (UserId × Nat)
  notifications : List UserId
  /-- is `process-payout` in the queue? -/
  payoutQueued : Bool
  chain : List Tx
  submissions : List Submission

/-! ### Operations -/

/-- What the services await. -/
inductive Op where
  | getChallengeById
  | getLeaderboard
  | getChallengeTiers
  | getLicensePayoutTerms
  | createPayout (userId : UserId) (stellarAddress : Text) (amountStroops : Nat)
  | insertAuditLog (entry : AuditEntry)
  | updatePayoutStatus (userId : UserId) (status : PayoutStatus) (txHash : Option Hash)
      (errorMessage : Option Text)
  | incrementUserEarnings (userId : UserId) (amountUsdc : Text)
  | queueReferralBonusForPayout (userId : UserId) (amountStroops : Nat)
  | insertNotification (userId : UserId)
  | isNotificationCategoryEnabled (userId : UserId)
  | updateChallengeStatus (status : ChallengeStatus) (payoutTxHashes : Option (List Hash))
  | findRefundByChallengeId
  | createRefund (refund : Refund)
  | findPayout (userId : UserId)
  | resetPayout (adminId : UserId) (userId : UserId)
  | enqueuePayoutJob
  | settle (recipients : List (EscrowRecipient Entry))
  | stellar (op : StellarOp Entry)
  | getDepositSender (txHash : Text)
  | dateNow
  | submitRefundPayment (destination amount : Text)

abbrev payoutSig : Sig where
  Op := Op
  Ans
    | .getChallengeById => Option Challenge
    | .getLeaderboard => List LeaderboardSession
    | .getChallengeTiers => List ChallengeTier
    | .getLicensePayoutTerms => Option LicensePayoutTerms
    | .createPayout .. => PayoutRow
    | .insertAuditLog _ => Unit
    | .updatePayoutStatus .. => Unit
    | .incrementUserEarnings .. => Unit
    | .queueReferralBonusForPayout .. => Unit
    | .insertNotification _ => Unit
    | .isNotificationCategoryEnabled _ => Bool
    | .updateChallengeStatus .. => Unit
    | .findRefundByChallengeId => Option Refund
    | .createRefund _ => Refund
    | .findPayout _ => Option PayoutRow
    | .resetPayout .. => Unit
    | .enqueuePayoutJob => Unit
    | .settle _ => Hash
    | .stellar op => (stellarSig Entry).Ans op
    | .getDepositSender _ => Option Text
    | .dateNow => Time
    | .submitRefundPayment .. => Hash

/-- Is it a call over the network, rather than a database call? -/
def Op.isNetwork : Op → Bool
  | .settle _ | .stellar _ | .getDepositSender _ | .submitRefundPayment .. => true
  | _ => false

/-- A database call that throws. -/
structure DbFault where
  err : Err
  /-- did the statement take effect all the same? -/
  applied : Bool

/-- What the environment contributes to one call. -/
structure Env where
  dbFault : Option DbFault
  netFault : Option Err
  /-- an account sequence, or the end of the time bounds -/
  number : Nat
  notify : Bool
  depositSender : Option Text
  now : Time

/-! ### What each operation does -/

namespace World

variable (w : World)

def setPayout (userId : UserId) (row : PayoutRow) : World :=
  { w with payouts := Function.update w.payouts userId (some row) }

/-- `INSERT … ON CONFLICT (challenge_id, user_id) DO UPDATE`. -/
def upsertPayout (userId : UserId) (stellarAddress : Text) (amountStroops : Nat) : PayoutRow :=
  match w.payouts userId with
  | none => ⟨stellarAddress, amountStroops, .pending, none, none⟩
  | some row =>
    { row with
      stellarAddress := stellarAddress
      amountStroops := amountStroops
      status := if row.status = .failed then .pending else row.status
      errorMessage := none }

/-- `UPDATE payouts SET status = …`, with the hash and the message where they are truthy. -/
def updatePayoutStatus (userId : UserId) (status : PayoutStatus) (txHash : Option Hash)
    (errorMessage : Option Text) : World :=
  match w.payouts userId with
  | none => w
  | some row => w.setPayout userId
    { row with
      status := status
      txHash := txHash <|> row.txHash
      errorMessage := (errorMessage.filter fun m => !m.isEmpty) <|> row.errorMessage }

/-- A transaction is applied; its hash is its position. -/
def broadcast (tx : Tx) : World := { w with chain := w.chain ++ [tx] }

end World

/-- The exception of the trigger `payouts_fraud_block_trigger`. -/
def fraudBlockedPayout (challengeId : Text) (userId : UserId) : Err :=
  Err.new ("FRAUD_BLOCKED_PAYOUT: session flagged for challenge ".toList ++ challengeId ++
    " user ".toList ++ Nat.toDigits 10 userId)

/-- A violated constraint. -/
def constraintViolation : Err := Err.new "violates constraint".toList

/-- The payments of a settlement as the contract receives them. -/
def settlementPayments (recipients : List (EscrowRecipient Entry)) : List Payment :=
  recipients.map fun r => ⟨r.entry, r.address, toNumber r.amountStroops⟩

/-- The payments of a transaction as the ledger reads them. -/
def transferPayments (recipients : List (PayoutRecipient Entry)) : List Payment :=
  recipients.map fun r => ⟨r.entry, r.address, (usdcToStroops r.amount).toOption.getD 0⟩

/-- An operation that does not throw by the environment's doing. -/
def perform (e : Env) : (op : Op) → World → Except Err (payoutSig.Ans op) × World
  | .getChallengeById, w => (.ok (if w.challenge.deleted then none else some w.challenge), w)
  | .getLeaderboard, w => (.ok w.sessions, w)
  | .getChallengeTiers, w => (.ok w.tiers, w)
  | .getLicensePayoutTerms, w => (.ok w.licenseTerms, w)
  | .createPayout userId stellarAddress amountStroops, w =>
      if w.flagged userId then (.error (fraudBlockedPayout w.challenge.id userId), w)
      else
        let row := w.upsertPayout userId stellarAddress amountStroops
        (.ok row, w.setPayout userId row)
  | .insertAuditLog entry, w => (.ok (), { w with auditLog := w.auditLog ++ [entry] })
  | .updatePayoutStatus userId status txHash errorMessage, w =>
      (.ok (), w.updatePayoutStatus userId status txHash errorMessage)
  | .incrementUserEarnings userId amountUsdc, w =>
      (.ok (), { w with earnings := w.earnings ++ [(userId, amountUsdc)] })
  | .queueReferralBonusForPayout userId amountStroops, w =>
      (.ok (), { w with referralBonuses := w.referralBonuses ++ [(userId, amountStroops)] })
  | .insertNotification userId, w =>
      (.ok (), { w with notifications := w.notifications ++ [userId] })
  | .isNotificationCategoryEnabled _, w => (.ok e.notify, w)
  | .updateChallengeStatus status payoutTxHashes, w =>
      (.ok (), { w with challenge := { w.challenge with
        status := status
        payoutTxHashes := payoutTxHashes.getD w.challenge.payoutTxHashes } })
  | .findRefundByChallengeId, w => (.ok w.refund, w)
  | .createRefund refund, w =>
      -- UNIQUE (challenge_id) and CHECK (amount_stroops > 0)
      if w.refund.isSome || refund.amountStroops = 0 then (.error constraintViolation, w)
      else (.ok refund, { w with refund := some refund })
  | .findPayout userId, w => (.ok (w.payouts userId), w)
  | .resetPayout adminId userId, w =>
      let w := match w.payouts userId with
        | none => w
        | some row => w.setPayout userId { row with status := .pending, errorMessage := none }
      (.ok (), { w with auditLog := w.auditLog ++ [.payoutRetry adminId userId] })
  | .enqueuePayoutJob, w => (.ok (), { w with payoutQueued := true })
  | .settle recipients, w =>
      (.ok w.chain.length, w.broadcast (.settlement (settlementPayments recipients)))
  | .stellar .reserveSequence, w => (.ok e.number, w)
  | .stellar .loadAccount, w => (.ok e.number, w)
  | .stellar (.buildTransaction ..), w => (.ok e.number, w)
  | .stellar (.submitTransaction tx), w =>
      (.ok w.chain.length, w.broadcast (.transfer (transferPayments tx.payments)))
  | .stellar .resetSequence, w => (.ok (), w)
  | .getDepositSender _, w => (.ok e.depositSender, w)
  | .dateNow, w => (.ok e.now, w)
  | .submitRefundPayment destination amount, w =>
      (.ok w.chain.length,
        w.broadcast (.refund destination ((usdcToStroops amount).toOption.getD 0)))

/-- The list of payments a call hands to the network, if it does. -/
def World.record (op : Op) (w : World) : World :=
  match op with
  | .settle recipients => { w with submissions := w.submissions ++ [.settle recipients] }
  | .stellar (.submitTransaction tx) =>
      { w with submissions := w.submissions ++ [.transaction tx.payments] }
  | _ => w

/-- The database and the network, as the services meet them. -/
def payoutMachine : Machine payoutSig Err World Env where
  exec e op w :=
    if op.isNetwork then
      match e.netFault with
      | some err => (.error err, w.record op)
      | none => perform e op (w.record op)
    else
      match e.dbFault with
      | some fault => (.error fault.err, if fault.applied then (perform e op w).2 else w)
      | none => perform e op w

/-! ### Where histories start -/

/-- An ended challenge with a pool and a leaderboard, of which nothing is paid yet. -/
def World.ended (poolAmountStroops : Nat) (sessions : List LeaderboardSession) : World where
  challenge := ⟨"c1".toList, .ended, poolAmountStroops, some "deposit".toList, .full, 10000, 0,
    [], false⟩
  sessions := sessions
  tiers := []
  licenseTerms := none
  flagged _ := false
  payouts _ := none
  refund := none
  auditLog := []
  earnings := []
  referralBonuses := []
  notifications := []
  payoutQueued := false
  chain := []
  submissions := []

/-- A player with a score and an address. -/
def player (user score : Nat) : LeaderboardSession :=
  ⟨user, user, some ('G' :: Nat.toDigits 10 user), score, some 0, 0, none⟩

/-- Nothing fails. -/
def calm : Env := ⟨none, none, 0, true, some "GBRAND".toList, 0⟩

/-- A lost database connection, before the statement was run. -/
def dbDown : Env := { calm with dbFault := some ⟨Err.new "Connection terminated".toList, false⟩ }

/-- A refused network call. -/
def netDown : Env := { calm with netFault := some (Err.new "tx_failed".toList) }

end BrandBlitz.Payout

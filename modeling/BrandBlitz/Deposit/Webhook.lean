import BrandBlitz.Lib.ExpiringKeys
import BrandBlitz.Deposit.Memo
import BrandBlitz.Payout.World

/-!
# BrandBlitz.Deposit.Webhook

**The deposit webhook**: `POST /webhooks/stellar/deposit` (`apps/api/src/routes/webhooks.ts`)
behind the signature check of `apps/api/src/middleware/verify-webhook.ts`. The deposit monitor
calls it for every USDC payment with a memo; it activates the challenge with that memo.

`depositEndpoint` is the whole request, from the rate limiter to the response, as a program
over the operations it awaits. `apiMachine` says what each operation does to the API's
database, to the ids in Redis and to the responses sent.

* A header is represented by what the middleware reads of it: the timestamp by its value
  under `Number`.
* Every operation takes some time (`elapsed`), so the clock may move between any two of them.
* Three logs are there to state properties and are read by nothing: `entered` (the requests
  that got past the middleware), `idSets` (when a webhook id was stored) and `responses`.
-/

namespace BrandBlitz.Deposit

open BrandBlitz.Lib BrandBlitz.Payout

/-! ### Requests and responses -/

/-- The body of a delivery, as `express.json` parses it. -/
structure DepositBody where
  memo : Text
  txHash : Text
  amount : Option Text
deriving DecidableEq, Repr

/-- A request, as the middleware and the handler read it. -/
structure Request where
  /-- `x-webhook-signature` -/
  signature : Option Text
  /-- `x-webhook-timestamp` under `Number`; the inner `none` is a value that is not finite -/
  timestamp : Option (Option Rat)
  /-- `x-webhook-id` -/
  webhookId : Option Text
  rawBody : Option Text
  /-- `none`: JSON of another shape -/
  body : Option DepositBody
deriving DecidableEq

/-- The JSON of a response. -/
inductive Json where
  | error (message : Text)
  | status (status : Text)
  | activated (challengeId : Text)
  | insufficientEscrowBalance (currentBalance requiredAmount : Text)
deriving DecidableEq, Repr

structure Response where
  status : Nat
  json : Json
deriving DecidableEq, Repr

/-- `response.ok`. -/
def Response.ok (r : Response) : Bool := 200 ≤ r.status && r.status < 300

def Response.error (status : Nat) (message : String) : Response :=
  ⟨status, .error message.toList⟩

/-! ### Rows -/

/-- A row of `challenges`, as far as deposits go. -/
structure Challenge where
  id : Text
  status : ChallengeStatus
  poolAmountStroops : Nat
  depositMemo : Option Text
  depositTxHash : Option Text
  deleted : Bool
deriving DecidableEq, Repr

/-- The computed column `pool_amount_usdc`. -/
def Challenge.poolAmountUsdc (c : Challenge) : Text := stroopsToUsdc c.poolAmountStroops

/-- The table `challenges` with its unique columns. -/
structure Challenges where
  rows : List Challenge
  ids : rows.Pairwise fun a b => a.id ≠ b.id
  memos : rows.Pairwise fun a b => ∀ memo, a.depositMemo = some memo → b.depositMemo ≠ some memo
  txHashes : rows.Pairwise fun a b =>
    ∀ txHash, a.depositTxHash = some txHash → b.depositTxHash ≠ some txHash

namespace Challenges

/-- `SET status = 'active', deposit_tx_hash = txHash` on one row. -/
def activateRow (id txHash : Text) (c : Challenge) : Challenge :=
  if c.id = id then { c with status := .active, depositTxHash := some txHash } else c

/-- Would the update break `UNIQUE (deposit_tx_hash)`? -/
def TxTaken (t : Challenges) (id txHash : Text) : Prop :=
  ∃ c ∈ t.rows, c.id ≠ id ∧ c.depositTxHash = some txHash

instance (t : Challenges) (id txHash : Text) : Decidable (t.TxTaken id txHash) :=
  inferInstanceAs (Decidable (∃ c ∈ t.rows, _))

theorem activateRow_id (id txHash : Text) (c : Challenge) :
    (activateRow id txHash c).id = c.id := by
  unfold activateRow
  split <;> rfl

theorem activateRow_depositMemo (id txHash : Text) (c : Challenge) :
    (activateRow id txHash c).depositMemo = c.depositMemo := by
  unfold activateRow
  split <;> rfl

/-- `UPDATE challenges SET status = 'active', deposit_tx_hash = txHash WHERE id = id`. -/
def activate (t : Challenges) (id txHash : Text) (h : ¬ t.TxTaken id txHash) : Challenges where
  rows := t.rows.map (activateRow id txHash)
  ids := by
    refine List.pairwise_map.mpr (t.ids.imp fun {a b} hab => ?_)
    rwa [activateRow_id, activateRow_id]
  memos := by
    refine List.pairwise_map.mpr (t.memos.imp fun {a b} hab => ?_)
    rwa [activateRow_depositMemo, activateRow_depositMemo]
  txHashes := by
    refine List.pairwise_map.mpr ((t.ids.and t.txHashes).imp_of_mem fun {a b} ha hb hab => ?_)
    intro tx hatx hbtx
    -- only the updated row can have gained the hash, and no other row had it
    unfold activateRow at hatx hbtx
    split at hatx <;> split at hbtx
    · exact hab.1 (by simp_all)
    · exact h ⟨b, hb, by assumption, by simp_all⟩
    · exact h ⟨a, ha, by assumption, by simp_all⟩
    · exact hab.2 tx hatx hbtx

/-- `WHERE deposit_memo = memo AND deleted_at IS NULL`. -/
def byMemo (t : Challenges) (memo : Text) : Option Challenge :=
  t.rows.find? fun c => c.depositMemo = some memo && !c.deleted

/-- `WHERE deposit_tx_hash = txHash AND deleted_at IS NULL LIMIT 1`. -/
def byDepositTxHash (t : Challenges) (txHash : Text) : Option Challenge :=
  t.rows.find? fun c => c.depositTxHash = some txHash && !c.deleted

theorem mem_of_byMemo {t : Challenges} {memo : Text} {c : Challenge} (h : t.byMemo memo = some c) :
    c ∈ t.rows ∧ c.depositMemo = some memo := by
  have hrow := List.find?_some h
  simp only [Bool.and_eq_true, decide_eq_true_eq] at hrow
  exact ⟨List.mem_of_find?_eq_some h, hrow.1⟩

theorem mem_of_byDepositTxHash {t : Challenges} {txHash : Text} {c : Challenge}
    (h : t.byDepositTxHash txHash = some c) : c ∈ t.rows ∧ c.depositTxHash = some txHash := by
  have hrow := List.find?_some h
  simp only [Bool.and_eq_true, decide_eq_true_eq] at hrow
  exact ⟨List.mem_of_find?_eq_some h, hrow.1⟩

end Challenges

/-- A row of `app_config` with a webhook secret. -/
structure SecretRow where
  /-- `webhook_secret_pending`, otherwise `webhook_secret_current` -/
  isPending : Bool
  secret : Text
  expiresAt : Option Nat
deriving DecidableEq, Repr

/-- A line of an account's balances at Horizon. -/
structure BalanceLine where
  assetType : Text
  assetCode : Text
  assetIssuer : Text
  balance : Text
deriving DecidableEq, Repr

/-! ### Operations -/

/-- What a request awaits. -/
inductive Op where
  | webhookLimiter
  | selectAppConfig
  | dateNow
  /-- `redis.set(webhook:id:…, "1", "EX", 600, "NX")`, for a request with this timestamp and
  body -/
  | setWebhookId (webhookId : Text) (timestamp : Rat) (rawBody : Text)
  | getChallengeByDepositTxHash (txHash : Text)
  | findPayoutByTxHash (txHash : Text)
  | getChallengeByMemo (memo : Text)
  | loadAccount
  | updateChallengeStatusActive (id depositTx : Text)
  | selectBrandId (id : Text)
  | respond (webhookId : Option Text) (response : Response)

abbrev apiSig : Sig where
  Op := Op
  Ans
    | .webhookLimiter => Bool
    | .selectAppConfig => List SecretRow
    | .dateNow => Nat
    | .setWebhookId .. => Bool
    | .getChallengeByDepositTxHash _ => Option Challenge
    | .findPayoutByTxHash _ => Bool
    | .getChallengeByMemo _ => Option Challenge
    | .loadAccount => List BalanceLine
    | .updateChallengeStatusActive .. => Unit
    | .selectBrandId _ => Unit
    | .respond .. => Unit

abbrev Api (α : Type) := Prog apiSig Err α

/-! ### The middleware -/

/-- What the code takes from outside the repository and from its environment. -/
structure Deps where
  /-- the hex digest of HMAC-SHA256, by secret and message -/
  hmac : Text → Text → Text
  /-- how JavaScript prints a number -/
  numberText : Rat → Text
  /-- the schema library's `uuid()` -/
  uuid : Text → Bool
  /-- `process.env.WEBHOOK_SECRET` -/
  webhookSecret : Option Text
  usdcIssuer : Text

structure Secrets where
  current : Text
  pending : Option Text

/-- `getWebhookSecrets`, after its query. -/
def readSecrets (deps : Deps) (now : Nat) (rows : List SecretRow) : Secrets :=
  let addRow (secrets : Secrets) (row : SecretRow) : Secrets :=
    if !row.isPending then { secrets with current := row.secret }
    else if row.expiresAt.any (now < ·) then { secrets with pending := some row.secret }
    else secrets
  let secrets := rows.foldl addRow ⟨[], none⟩
  if secrets.current.isEmpty then { secrets with current := deps.webhookSecret.getD [] }
  else secrets

def getWebhookSecrets (deps : Deps) : Api Secrets := do
  let rows ← Prog.call (S := apiSig) .selectAppConfig
  let now ← Prog.call (S := apiSig) .dateNow
  return readSecrets deps now rows

/-- `signWebhookPayload`. -/
def signWebhookPayload (deps : Deps) (payload : Text) (timestamp : Rat) (secret : Text) : Text :=
  deps.hmac secret (deps.numberText timestamp ++ '.' :: payload)

def hexDigit? (c : Char) : Option Nat :=
  if c.isDigit then some (c.toNat - '0'.toNat)
  else if 'a' ≤ c ∧ c ≤ 'f' then some (c.toNat - 'a'.toNat + 10)
  else if 'A' ≤ c ∧ c ≤ 'F' then some (c.toNat - 'A'.toNat + 10)
  else none

/-- `Buffer.from(text, "hex")`: up to the first pair that is not hexadecimal. -/
def hexBytes : Text → List Nat
  | a :: b :: rest =>
    match hexDigit? a, hexDigit? b with
    | some x, some y => (16 * x + y) :: hexBytes rest
    | _, _ => []
  | _ => []

/-- `/^[a-fA-F0-9]{64}$/`. -/
def isHex64 (text : Text) : Bool := text.length = 64 && text.all (hexDigit? · |>.isSome)

def WEBHOOK_TIMESTAMP_TOLERANCE_SECONDS : Rat := 300

/-- The life of a stored webhook id: 600 seconds, in milliseconds. -/
def webhookIdTtl : Nat := 600000

/-- Does the signature belong to one of the secrets? -/
def signatureMatches (deps : Deps) (secrets : Secrets) (rawBody : Text) (timestamp : Rat)
    (providedHex : Text) : Bool :=
  let provided := hexBytes providedHex
  hexBytes (signWebhookPayload deps rawBody timestamp secrets.current) = provided ||
    match secrets.pending with
    | some pending => !pending.isEmpty &&
        hexBytes (signWebhookPayload deps rawBody timestamp pending) = provided
    | none => false

/-- What the headers say, once they are in order. -/
structure Headers where
  providedHex : Text
  timestamp : Rat
  webhookId : Text

/-- `[algorithm, providedHex] = header.split("=")`. A header without `=` leaves the second part
undefined, which is no hexadecimal text either. -/
def splitSignature (header : Text) : Text × Text :=
  (header.takeWhile (· ≠ '='), ((header.dropWhile (· ≠ '=')).drop 1).takeWhile (· ≠ '='))

/-- The headers of `verifyWebhook`, checked one by one. -/
def readHeaders (req : Request) : Except Response Headers :=
  match req.signature with
  | none => .error (.error 401 "Missing signature")
  | some signatureHeader =>
    if (splitSignature signatureHeader).1 ≠ "sha256".toList ||
        !isHex64 (splitSignature signatureHeader).2 then
      .error (.error 401 "Invalid signature format")
    else match req.timestamp with
    | none => .error (.error 400 "Missing timestamp")
    | some timestampHeader =>
      match req.webhookId with
      | none => .error (.error 400 "Missing webhook id")
      | some webhookId =>
        if isBlank webhookId then .error (.error 400 "Missing webhook id")
        else match timestampHeader with
        | none => .error (.error 400 "Invalid timestamp")
        | some timestamp =>
          if timestamp ≤ 0 then .error (.error 400 "Invalid timestamp")
          else .ok ⟨(splitSignature signatureHeader).2, timestamp, webhookId⟩

/-- `Math.abs(now - timestamp) > WEBHOOK_TIMESTAMP_TOLERANCE_SECONDS`. -/
def isStale (millis : Nat) (timestamp : Rat) : Bool :=
  let now : Rat := (millis / 1000 : Nat)
  WEBHOOK_TIMESTAMP_TOLERANCE_SECONDS < now - timestamp ||
    WEBHOOK_TIMESTAMP_TOLERANCE_SECONDS < timestamp - now

/-- `verifyWebhook`: the response it sends, or `none` when it calls `next()`. -/
def verifyWebhook (deps : Deps) (req : Request) : Api (Option Response) := do
  let secrets ← getWebhookSecrets deps
  if secrets.current.isEmpty then
    return some (.error 500 "Webhook verification misconfigured")
  match readHeaders req with
  | .error response => return some response
  | .ok headers =>
    let millis ← Prog.call (S := apiSig) .dateNow
    if isStale millis headers.timestamp then return some (.error 400 "Stale webhook request")
    match req.rawBody with
    | none => return some (.error 500 "Raw webhook payload unavailable")
    | some rawBody =>
      if !signatureMatches deps secrets rawBody headers.timestamp headers.providedHex then
        return some (.error 401 "Invalid webhook signature")
      let stored ← Prog.call (S := apiSig)
        (.setWebhookId headers.webhookId headers.timestamp rawBody)
      return if stored then none else some ⟨200, .status "duplicate".toList⟩

/-! ### The handler -/

/-- What the schema library throws. -/
def zodError : Err := Err.new "Validation Error".toList

/-- `/^\d+(\.\d{1,7})?$/`. -/
def isAmountText (amount : Text) : Bool :=
  let whole := amount.takeWhile (·.isDigit)
  let rest := amount.dropWhile (·.isDigit)
  !whole.isEmpty && (rest.isEmpty || (rest.head? = some '.' && 1 ≤ (rest.drop 1).length &&
    (rest.drop 1).length ≤ 7 && (rest.drop 1).all (·.isDigit)))

/-- `DepositWebhookSchema.parse`. -/
def depositWebhookSchema (deps : Deps) (body : Option DepositBody) : Except Err DepositBody :=
  match body with
  | none => .error zodError
  | some body =>
    if deps.uuid body.memo && isHex64 body.txHash && (body.amount.all isAmountText) then .ok body
    else .error zodError

/-- `BigInt(text)` for decimal digits; the empty text is zero. -/
def bigInt (text : Text) : Except Err Nat :=
  if text.all (·.isDigit) then .ok (Nat.ofDigitChars 10 text 0)
  else .error (Err.new "Cannot convert to a BigInt".toList)

/-- The module's own `usdcToStroops`, also the end of `getAccountUsdcBalance`. -/
def usdcTextToStroops (value : Text) : Except Err Nat :=
  let whole := value.takeWhile (· ≠ '.')
  let fraction := ((value.dropWhile (· ≠ '.')).drop 1).takeWhile (· ≠ '.')
  bigInt (whole ++ (fraction.rightpad 7 '0').take 7)

def isUsdcLine (deps : Deps) (line : BalanceLine) : Bool :=
  line.assetType = "credit_alphanum4".toList && line.assetCode = "USDC".toList &&
    line.assetIssuer = deps.usdcIssuer

/-- `getAccountUsdcBalance` of the hot wallet. -/
def getAccountUsdcBalance (deps : Deps) : Api Nat := do
  let balances ← Prog.call (S := apiSig) .loadAccount
  match balances.find? (isUsdcLine deps) with
  | none => return 0
  | some line =>
    if line.balance.isEmpty then return 0
    else Prog.ofExcept (usdcTextToStroops line.balance)

/-- `updateChallengeStatus(id, "active", { depositTx })`: the brand's own webhook is looked up
afterwards, and a failure of that is swallowed. -/
def updateChallengeStatus (id depositTx : Text) : Api Unit := do
  Prog.call (S := apiSig) (.updateChallengeStatusActive id depositTx)
  (Prog.call (S := apiSig) (.selectBrandId id)).tryCatch fun _ => .ret ()

/-- The handler of `/stellar/deposit`, behind the middleware. -/
def stellarDepositHandler (deps : Deps) (req : Request) : Api Response := do
  let body ← Prog.ofExcept (depositWebhookSchema deps req.body)
  let duplicateChallenge ← Prog.call (S := apiSig) (.getChallengeByDepositTxHash body.txHash)
  let duplicatePayout ← Prog.call (S := apiSig) (.findPayoutByTxHash body.txHash)
  if duplicateChallenge.isSome || duplicatePayout then
    return ⟨200, .status "duplicate_tx_ignored".toList⟩
  let challenge? ← Prog.call (S := apiSig) (.getChallengeByMemo body.memo)
  let some challenge := challenge? | return .error 404 "Unknown memo"
  if challenge.status ≠ .pendingDeposit then
    return ⟨200, .status "already_processed".toList⟩
  let requiredBalance ← Prog.ofExcept (usdcTextToStroops challenge.poolAmountUsdc)
  let currentBalance ← getAccountUsdcBalance deps
  if currentBalance < requiredBalance then
    return ⟨422, .insufficientEscrowBalance (Nat.toDigits 10 currentBalance)
      (Nat.toDigits 10 requiredBalance)⟩
  updateChallengeStatus challenge.id body.txHash
  return ⟨200, .activated challenge.id⟩

/-- The global error handler, for what can be thrown here. -/
def errorHandler (err : Err) : Response :=
  if err = zodError then .error 400 "Validation Error"
  else if err = constraintViolation then .error 409 "Resource already exists"
  else .error 500 "Internal Server Error"

/-- `webhookLimiter, verifyWebhook, handler`, up to the response. -/
def serveDeposit (deps : Deps) (req : Request) : Api Response := do
  let allowed ← Prog.call (S := apiSig) .webhookLimiter
  if !allowed then return .error 429 "Too many requests, please try again later."
  match ← verifyWebhook deps req with
  | some response => return response
  | none => stellarDepositHandler deps req

/-- A request to the endpoint. -/
def depositEndpoint (deps : Deps) (req : Request) : Api Unit := do
  let response ← (serveDeposit deps req).tryCatch fun err => .ret (errorHandler err)
  Prog.call (S := apiSig) (.respond req.webhookId response)

/-- Any request at all, with headers and body of anybody's choice. -/
def AnyRequest (deps : Deps) (p : Api Unit) : Prop := ∃ req, p = depositEndpoint deps req

/-! ### The world behind the operations -/

/-- A request that got past the middleware. -/
structure Entered where
  timestamp : Rat
  rawBody : Text
  webhookId : Text
  time : Nat
deriving DecidableEq

/-- A response that was sent, with the tables as they were then. -/
structure Responded where
  webhookId : Option Text
  response : Response
  challenges : Challenges
  payoutTx : Text → Bool

/-- A USDC payment to the hot wallet. -/
structure OnChainDeposit where
  txHash : Text
  memo : Text
  stroops : Nat
deriving DecidableEq, Repr

structure World where
  /-- milliseconds -/
  clock : Nat
  /-- the ids in Redis, under their keys -/
  webhookIds : ExpiringKeys Text
  challenges : Challenges
  /-- is there a payout with this hash? -/
  payoutTx : Text → Bool
  /-- what the hot wallet held at first, and what came in since -/
  openingBalance : Nat
  deposits : List OnChainDeposit
  entered : List Entered
  idSets : List (Text × Nat)
  responses : List Responded

/-- The hot wallet's USDC, in stroops. -/
def World.balance (w : World) : Nat :=
  w.openingBalance + (w.deposits.map (·.stroops)).sum

/-- What the environment contributes to one operation. -/
structure Env where
  elapsed : Nat
  fault : Option DbFault
  allowed : Bool
  secrets : List SecretRow
  otherLines : List BalanceLine

def webhookKey (webhookId : Text) : Text := "webhook:id:".toList ++ webhookId

/-- The lines Horizon reports: the hot wallet's USDC trustline among others. -/
def World.balanceLines (w : World) (deps : Deps) (others : List BalanceLine) : List BalanceLine :=
  others.filter (fun line => !isUsdcLine deps line) ++
    [⟨"credit_alphanum4".toList, "USDC".toList, deps.usdcIssuer, stroopsToUsdc w.balance⟩]

/-- An operation that does not throw by the environment's doing. -/
def perform (deps : Deps) (e : Env) : (op : Op) → World → Except Err (apiSig.Ans op) × World
  | .webhookLimiter, w => (.ok e.allowed, w)
  | .selectAppConfig, w => (.ok e.secrets, w)
  | .dateNow, w => (.ok w.clock, w)
  | .setWebhookId webhookId _ _, w =>
      let (stored, keys) := w.webhookIds.setNX w.clock webhookIdTtl (webhookKey webhookId)
      (.ok stored, { w with
        webhookIds := keys
        idSets := if stored then w.idSets ++ [(webhookId, w.clock)] else w.idSets })
  | .getChallengeByDepositTxHash txHash, w => (.ok (w.challenges.byDepositTxHash txHash), w)
  | .findPayoutByTxHash txHash, w => (.ok (w.payoutTx txHash), w)
  | .getChallengeByMemo memo, w => (.ok (w.challenges.byMemo memo), w)
  | .loadAccount, w => (.ok (w.balanceLines deps e.otherLines), w)
  | .updateChallengeStatusActive id depositTx, w =>
      if h : w.challenges.TxTaken id depositTx then (.error constraintViolation, w)
      else (.ok (), { w with challenges := w.challenges.activate id depositTx h })
  | .selectBrandId _, w => (.ok (), w)
  | .respond webhookId response, w =>
      (.ok (), { w with
        responses := w.responses ++ [⟨webhookId, response, w.challenges, w.payoutTx⟩] })

/-- `next()` follows the answer to a stored id without another await. -/
def World.enter (w : World) : (op : Op) → Except Err (apiSig.Ans op) → World
  | .setWebhookId webhookId timestamp rawBody, .ok true =>
      { w with entered := w.entered ++ [⟨timestamp, rawBody, webhookId, w.clock⟩] }
  | _, _ => w

/-- Sending the response is the one step that cannot throw. -/
def Op.canThrow : Op → Bool
  | .respond .. => false
  | _ => true

/-- Time passes, and the operation throws or is performed. -/
def apiMachine (deps : Deps) : Machine apiSig Err World Env where
  exec e op w :=
    let w := { w with clock := w.clock + e.elapsed }
    let done := perform deps e op w
    match e.fault with
    | some fault =>
      if op.canThrow then (.error fault.err, if fault.applied then done.2 else w) else done
    | none => (done.1, done.2.enter op done.1)

/-! ### Where examples start -/

/-- The shape of a UUID: hexadecimal digits in groups of 8, 4, 4, 4 and 12. -/
def hasUuidShape (text : Text) : Bool :=
  text.length = 36 && text.zipIdx.all fun (c, i) =>
    if i ∈ [8, 13, 18, 23] then c = '-' else (hexDigit? c).isSome

/-- A memo as `scripts/simulate-deposit-webhook.ts` sends it; the monitor's own have 24 characters,
and the schema refuses them. -/
def exampleMemo : Text := "0b0e7a52-7c1c-4a6e-9d3f-2f6a51c0a001".toList

def exampleTxHash : Text := (List.replicate 32 ['a', 'b']).flatten

/-- The body of a delivery of 100 USDC, as the monitor prints it. -/
def exampleBody : Text :=
  "\x7b\"memo\":\"".toList ++ exampleMemo ++ "\",\"txHash\":\"".toList ++ exampleTxHash ++
    "\",\"amount\":\"100\"\x7d".toList

/-- The digest of `exampleBody` at 1700000000 under the secret `whsec`. -/
def exampleDigest : Text :=
  "288b387990932400acfdb7a2abd7cc876f01bec9c8d2bb1c24d6303f0201921f".toList

/-- 64 hex digits read off a text, where the examples only need two digests to differ. -/
def textDigest (text : Text) : Text :=
  let digits := Nat.toDigits 16 (text.foldl (fun n c => 31 * n + c.toNat) 1 % 16 ^ 64)
  List.replicate (64 - digits.length) '0' ++ digits

def exampleDeps : Deps where
  hmac secret text :=
    if secret = "whsec".toList ∧ text = "1700000000.".toList ++ exampleBody then exampleDigest
    else textDigest (secret ++ '.' :: text)
  numberText n := Nat.toDigits 10 n.num.toNat
  uuid := hasUuidShape
  webhookSecret := some "whsec".toList
  usdcIssuer := "GISSUER".toList

/-- An instant passes and nothing fails. -/
def calm : Env := ⟨0, none, true, [], []⟩

/-- Nothing is stored yet. -/
def World.atRest : World where
  clock := 1700000000000
  webhookIds _ := none
  challenges := ⟨[], .nil, .nil, .nil⟩
  payoutTx _ := false
  openingBalance := 0
  deposits := []
  entered := []
  idSets := []
  responses := []

/-! ### What one operation does -/

section Exec

variable (deps : Deps) (e : Env)

/-- What neither the clock nor the operation itself touches stays. -/
theorem exec_frame {γ : Type} {f : World → γ} {op : Op}
    (hclock : ∀ (w : World) n, f { w with clock := n } = f w)
    (hperform : ∀ w, f (perform deps e op w).2 = f w)
    (henter : ∀ (w : World) r, f (w.enter op r) = f w) (w : World) :
    f ((apiMachine deps).exec e op w).2 = f w := by
  have hdone : f (perform deps e op { w with clock := w.clock + e.elapsed }).2 = f w :=
    (hperform _).trans (hclock w _)
  simp only [apiMachine]
  split
  · split
    · split
      · exact hdone
      · exact hclock w _
    · exact hdone
  · exact (henter _ _).trans hdone

/-- The Redis side of the world: the ids and the logs that go with them. -/
def World.ids (w : World) : ExpiringKeys Text × List Entered × List (Text × Nat) :=
  (w.webhookIds, w.entered, w.idSets)

/-- What happens outside the endpoint: time passes, and rows and balances change. -/
def Outside (w w' : World) : Prop := w'.ids = w.ids ∧ w.clock ≤ w'.clock

/-- Does the operation store a webhook id? -/
def Op.setsId : Op → Bool
  | .setWebhookId .. => true
  | _ => false

/-- Everything else leaves the ids alone. -/
theorem exec_ids_of_not_setsId {op : Op} (hop : op.setsId = false) (w : World) :
    ((apiMachine deps).exec e op w).2.ids = w.ids := by
  refine exec_frame deps e (f := World.ids) (fun w n => rfl) (fun w => ?_) (fun w r => ?_) w
  · cases op with
    | setWebhookId id ts body => cases hop
    | updateChallengeStatusActive id tx =>
        simp only [perform]
        split <;> rfl
    | _ => rfl
  · cases op with
    | setWebhookId id ts body => cases hop
    | _ => rfl

/-- **Storing an id.** It is refused while the id is there; otherwise the id is stored and the
request enters. Or the operation throws, with or without its effect. -/
theorem exec_setWebhookId (id : Text) (timestamp : Rat) (rawBody : Text) (w : World) :
    let now := w.clock + e.elapsed
    let stored := w.webhookIds.store now webhookIdTtl (webhookKey id)
    let done := (apiMachine deps).exec e (.setWebhookId id timestamp rawBody) w
    (done.1 = .ok false ∧ w.webhookIds.holds now (webhookKey id) = true ∧ done.2.ids = w.ids) ∨
    (done.1 = .ok true ∧ w.webhookIds.holds now (webhookKey id) = false ∧
      done.2.ids = (stored, w.entered ++ [⟨timestamp, rawBody, id, now⟩],
        w.idSets ++ [(id, now)])) ∨
    ((∃ err, done.1 = .error err) ∧ (done.2.ids = w.ids ∨
      w.webhookIds.holds now (webhookKey id) = false ∧
        done.2.ids = (stored, w.entered, w.idSets ++ [(id, now)]))) := by
  dsimp only
  cases hheld : w.webhookIds.holds (w.clock + e.elapsed) (webhookKey id) with
  | true =>
      cases hfault : e.fault with
      | none =>
          refine .inl ?_
          simp [apiMachine, hfault, perform, ExpiringKeys.setNX_of_holds hheld, World.enter,
            World.ids]
      | some fault =>
          refine .inr (.inr ⟨⟨fault.err, by simp [apiMachine, hfault, Op.canThrow]⟩, .inl ?_⟩)
          cases happlied : fault.applied with
          | true => simp [apiMachine, hfault, Op.canThrow, happlied, perform,
              ExpiringKeys.setNX_of_holds hheld, World.ids]
          | false => simp [apiMachine, hfault, Op.canThrow, happlied, World.ids]
  | false =>
      cases hfault : e.fault with
      | none =>
          refine .inr (.inl ?_)
          simp [apiMachine, hfault, perform, ExpiringKeys.setNX_of_not_holds hheld, World.enter,
            World.ids]
      | some fault =>
          refine .inr (.inr ⟨⟨fault.err, by simp [apiMachine, hfault, Op.canThrow]⟩, ?_⟩)
          cases happlied : fault.applied with
          | true =>
              refine .inr ⟨rfl, ?_⟩
              simp [apiMachine, hfault, Op.canThrow, happlied, perform,
                ExpiringKeys.setNX_of_not_holds hheld, World.ids]
          | false =>
              refine .inl ?_
              simp [apiMachine, hfault, Op.canThrow, happlied, World.ids]

/-- An answer comes from the operation itself. -/
theorem exec_ok {op : Op} {w : World} {a : apiSig.Ans op}
    (h : ((apiMachine deps).exec e op w).1 = .ok a) :
    (perform deps e op { w with clock := w.clock + e.elapsed }).1 = .ok a ∧
      ((apiMachine deps).exec e op w).2 =
        (perform deps e op { w with clock := w.clock + e.elapsed }).2.enter op (.ok a) := by
  simp only [apiMachine] at h ⊢
  split at h
  · split at h
    · cases h
    · rename_i hop
      refine ⟨h, ?_⟩
      rw [if_neg hop]
      cases op with
      | respond id r => rfl
      | _ => exact absurd rfl hop
  · exact ⟨h, by rw [h]⟩

/-- The database side of the world, as far as the handler reads it. -/
def World.tables (w : World) : Challenges × (Text → Bool) := (w.challenges, w.payoutTx)

/-- Does the operation write to a table? -/
def Op.writes : Op → Bool
  | .updateChallengeStatusActive .. => true
  | _ => false

theorem exec_tables {op : Op} (hop : op.writes = false) (w : World) :
    ((apiMachine deps).exec e op w).2.tables = w.tables := by
  refine exec_frame deps e (f := World.tables) (fun w n => rfl) (fun w => ?_) (fun w r => ?_) w
  · cases op with
    | updateChallengeStatusActive id tx => cases hop
    | _ => rfl
  · unfold World.enter
    split <;> rfl

end Exec

end BrandBlitz.Deposit

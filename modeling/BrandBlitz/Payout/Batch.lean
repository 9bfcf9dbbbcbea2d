import BrandBlitz.Lib.Crew
import BrandBlitz.Lib.ExpiringLock
import BrandBlitz.Payout.Process

/-!
# BrandBlitz.Payout.Batch

**Who starts `processPayout`**: the jobs of the payout queue
(`apps/api/src/queues/processors/payout.processor.ts`). A job `process-payout` pays one
challenge. A job `process-batch-payout`, which the daily schedule and the admin's batch run
enqueue, goes through all ended challenges that are paid in batches, under a lock in Redis
(`processBatchPayout` in `apps/api/src/services/payout.ts`).

* The world has the books of every challenge, the locks and a clock in seconds. A job is told
  from the others by its number, for the sake of the properties: neither Redis nor the database
  knows it.
* Any call may throw, before or after it took effect.
* `inside` and all of a lock but its key are there to state properties; nothing reads them.
-/

namespace BrandBlitz.Payout

open BrandBlitz.Lib BrandBlitz.Stellar

/-! ### Operations -/

/-- What the jobs await. -/
inductive BatchOp where
  /-- a call that `processPayout` makes for a challenge -/
  | payout (challengeId : Text) (op : Op)
  /-- `redis.set(key, "1", "EX", seconds, "NX")` -/
  | redisSet (key : Text) (seconds : Nat)
  | redisDel (key : Text)
  | getEndedBatchedChallenges

abbrev batchSig : Sig where
  Op := BatchOp
  Ans
    | .payout _ op => payoutSig.Ans op
    | .redisSet .. => Bool
    | .redisDel _ => Unit
    | .getEndedBatchedChallenges => List Text

/-- The operations of `processPayout` for a challenge among those of the jobs. -/
def challengeHom (challengeId : Text) : Prog.Hom payoutSig batchSig where
  op := .payout challengeId
  ans _ a := a

/-! ### The jobs -/

abbrev BatchService := Prog batchSig Err

def redisSet (key : Text) (seconds : Nat) : BatchService Bool :=
  Prog.call (S := batchSig) (.redisSet key seconds)

def redisDel (key : Text) : BatchService Unit := Prog.call (S := batchSig) (.redisDel key)

def getEndedBatchedChallenges : BatchService (List Text) :=
  Prog.call (S := batchSig) .getEndedBatchedChallenges

def payoutOf (config : PayoutConfig) (challengeId : Text) : BatchService Unit :=
  (processPayout config challengeId).embed (challengeHom challengeId)

structure BatchResult where
  processedChallenges : List Text
  failedChallenges : List Text
deriving DecidableEq, Repr

/-- One challenge of the batch: was it paid, or did its payout throw? -/
def payBatched (config : PayoutConfig) (challengeId : Text) : BatchService Bool :=
  (do
    payoutOf config challengeId
    return true : BatchService Bool).tryCatch fun _ => return false

/-- The loop over the challenges. -/
def payAllBatched (config : PayoutConfig) : List Text → BatchService BatchResult
  | [] => return ⟨[], []⟩
  | challengeId :: rest => do
      let processed ← payBatched config challengeId
      let result ← payAllBatched config rest
      return if processed then
          { result with processedChallenges := challengeId :: result.processedChallenges }
        else { result with failedChallenges := challengeId :: result.failedChallenges }

def lockKey : Text := "lock:payout:batch-daily".toList

def processBatchPayout (config : PayoutConfig) : BatchService BatchResult := do
  let acquired ← redisSet lockKey 1800
  if !acquired then return ⟨[], []⟩
  else
    Prog.tryFinally
      (do
        let batchedChallenges ← getEndedBatchedChallenges
        payAllBatched config batchedChallenges)
      -- not asked: whether the key is still ours
      (redisDel lockKey)

inductive PayoutJob where
  | processBatchPayout
  | processPayout (challengeId : Option Text)
deriving DecidableEq, Repr

/-- `processPayoutJob`. -/
def processPayoutJob (config : PayoutConfig) : PayoutJob → BatchService Unit
  | .processBatchPayout => do
      let _ ← processBatchPayout config
      return ()
  | .processPayout challengeId =>
      (match challengeId.filter fun id => !id.isEmpty with
        | none => .raise (Err.new "challengeId is required for process-payout job".toList)
        | some challengeId => payoutOf config challengeId : BatchService Unit).tryCatch fun err =>
          -- an `UnrecoverableError`: the queue does not retry it
          if isFraudBlockError err then .raise (Err.new err.text) else .raise err

/-! ### The world -/

structure BatchWorld where
  /-- of each challenge -/
  books : Text → World
  /-- the challenges with `payout_schedule = 'batched'`, by `created_at` -/
  batched : List Text
  locks : Text → ExpiringLock
  now : Nat
  /-- the job that has read the challenge as `ended`, until it is taken to be over with it -/
  inside : Text → Option Nat

/-- Does the answer set a run of `processPayout` going? -/
def opensPayout : (op : Op) → Except Err (payoutSig.Ans op) → Bool
  | .getChallengeById, .ok (some challenge) => challenge.status = .ended
  | _, _ => false

namespace BatchWorld

/-- The ids of `getEndedBatchedChallenges`. -/
def endedBatched (w : BatchWorld) : List Text :=
  w.batched.filter fun id =>
    (w.books id).challenge.status = .ended && !(w.books id).challenge.deleted

def setBooks (w : BatchWorld) (id : Text) (b : World) : BatchWorld :=
  { w with books := Function.update w.books id b }

def setLock (w : BatchWorld) (key : Text) (lock : ExpiringLock) : BatchWorld :=
  { w with locks := Function.update w.locks key lock }

def setInside (w : BatchWorld) (id : Text) (job : Option Nat) : BatchWorld :=
  { w with inside := Function.update w.inside id job }

end BatchWorld

/-- The jobs' calls, as job `i` makes them. -/
def batchMachine (i : Nat) : Machine batchSig Err BatchWorld Env where
  exec e op w :=
    match op with
    | .payout id op =>
      let (answer, b) := payoutMachine.exec e op (w.books id)
      let w := w.setBooks id b
      (answer, if opensPayout op answer then w.setInside id (some i) else w)
    | .redisSet key seconds =>
      let (stored, lock) := (w.locks key).acquire w.now seconds i
      match e.dbFault with
      | none => (.ok stored, w.setLock key lock)
      -- the job does not learn that the key is its own
      | some fault =>
        (.error fault.err, if fault.applied then w.setLock key (lock.forget i) else w)
    | .redisDel key =>
      let lock := w.locks key
      match e.dbFault with
      | none => (.ok (), w.setLock key (lock.release w.now i))
      | some fault =>
        (.error fault.err,
          w.setLock key (if fault.applied then lock.release w.now i else lock.forget i))
    | .getEndedBatchedChallenges =>
      match e.dbFault with
      | none => (.ok w.endedBatched, w)
      | some fault => (.error fault.err, w)

end BrandBlitz.Payout

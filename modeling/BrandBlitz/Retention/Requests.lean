import BrandBlitz.Lib.Crew
import BrandBlitz.Paging.Cursor
import BrandBlitz.Stellar.Client

/-!
# BrandBlitz.Retention.Requests

**Erasure requests of one user**: the routes that make and cancel them
(`apps/api/src/routes/me/delete-account.ts`, `POST /:userId/erase` of
`apps/api/src/routes/admin/users.ts`), the queue
(`apps/api/src/queues/gdpr-erasure.queue.ts`) and its worker
(`apps/api/src/queues/processors/gdpr-erasure.processor.ts`).

* A row of `gdpr_erasure_requests` is known by its position.
* All jobs of the user have the id `gdpr:<user>`, so the queue has at most one. It ignores
  an addition as long as there is one, also one that has run; one that has run is dropped
  at some time. A job that is being worked on cannot be removed.
* Any call to the database or the queue may throw, before or after it took effect.

`inHand`, `anonymisedBy`, `enqueued`, `jobFailed` and `responses` are history. So are the
arguments by which the calls for one request are told apart.
-/

namespace BrandBlitz.Retention

open BrandBlitz.Lib BrandBlitz.Paging

/-! ### The world -/

structure ErasureRequest where
  adminId : Option Uuid
  createdAt : Timestamp
  /-- `cancelled_at IS NOT NULL` -/
  cancelled : Bool
  /-- `executed_at IS NOT NULL` -/
  executed : Bool
deriving DecidableEq, Repr

/-- `cancelled_at IS NULL AND executed_at IS NULL`. -/
def ErasureRequest.pending (r : ErasureRequest) : Bool := !r.cancelled && !r.executed

/-- `admin_id IS NULL`, and pending. -/
def ErasureRequest.pendingSelf (r : ErasureRequest) : Bool := r.adminId.isNone && r.pending

inductive ErasureJobState
  | waiting
  /-- `inHand`: the request that the worker has found and goes on with -/
  | active (worker : Nat) (inHand : Option Nat)
  /-- completed, or failed for good -/
  | finished
deriving DecidableEq, Repr

structure ErasureJob where
  requestId : Nat
  attemptsMade : Nat
  state : ErasureJobState
deriving DecidableEq, Repr

inductive ErasureResponse
  | accepted (requestId : Nat)
  | cancelled (requestId : Nat)
deriving DecidableEq, Repr

structure ErasureWorld where
  requests : List ErasureRequest
  job : Option ErasureJob
  anonymisedBy : List Nat
  enqueued : List Nat
  jobFailed : Bool
  responses : List ErasureResponse
deriving DecidableEq

inductive ErasureOp
  | findUserById
  /-- `job`: the request of the job that asks -/
  | findPendingErasureRequest (job : Option Nat)
  | findPendingSelfErasureRequest
  | createErasureRequest (adminId : Option Uuid)
  | enqueueGdprErasure (requestId : Nat)
  /-- `found`: the request that the caller has found -/
  | cancelErasureRequest (found : Nat)
  | getJob
  | removeJob
  | insertAuditLog (actorId : Uuid) (requestId : Nat)
  | respond (response : ErasureResponse)
  | takeJob
  | anonymizeUser (requestId : Nat)
  | revokeAllUserRefreshTokens
  | markErasureExecuted (requestId : Nat)
  | completeJob
  | failJob
deriving DecidableEq, Repr

abbrev erasureSig : Sig where
  Op := ErasureOp
  Ans
    | .findUserById => Option Text
    | .findPendingErasureRequest _ | .findPendingSelfErasureRequest | .takeJob => Option Nat
    | .createErasureRequest _ => Nat
    | .getJob => Bool
    | _ => Unit

/-- A program of these routes and the worker. -/
abbrev Erasing := Prog erasureSig ApiError

structure ErasureFault where
  err : ApiError
  /-- after the call took effect -/
  applied : Bool

structure ErasureEnv where
  fault : Option ErasureFault
  now : Timestamp
  /-- the e-mail address of the user's row, if there is one -/
  user : Option Text

/-- `ORDER BY created_at DESC LIMIT 1`, over the rows that are left. -/
def newestOf (createdAt : Nat → Timestamp) : List Nat → Option Nat
  | [] => none
  | id :: rest =>
      match newestOf createdAt rest with
      | none => some id
      | some best => if createdAt best ≤ createdAt id then some id else some best

namespace ErasureWorld

variable (w : ErasureWorld)

/-- Is there such a row, and what does it say? -/
def is (test : ErasureRequest → Bool) (id : Nat) : Bool := (w.requests[id]?).any test

def createdAt (id : Nat) : Timestamp := (w.requests[id]?.map (·.createdAt)).getD 0

/-- The newest of the rows that meet the condition. -/
def newest (test : ErasureRequest → Bool) : Option Nat :=
  newestOf w.createdAt ((List.range w.requests.length).filter (w.is test))

/-- The request that is being acted on. -/
def inHand : Option Nat :=
  match w.job with
  | some ⟨_, _, .active _ found⟩ => found
  | _ => none

/-- Change the job, if it is this worker's. -/
def setJob (worker : Nat) (f : ErasureJob → ErasureJob) : ErasureWorld :=
  match w.job with
  | some ⟨requestId, attemptsMade, .active holder found⟩ =>
      if holder = worker then
        { w with job := some (f ⟨requestId, attemptsMade, .active holder found⟩) }
      else w
  | _ => w

end ErasureWorld

/-- `job.remove()` on a job that a worker has locked. -/
def jobLocked : ApiError :=
  ⟨"Job could not be removed because it is locked by another worker".toList, none, none⟩

/-- `gdprErasureJobOptions.attempts`. -/
def erasureAttempts : Nat := 3

/-- The effect of a call that program `i` makes. -/
def performErasure (i : Nat) (e : ErasureEnv) (w : ErasureWorld) :
    (op : ErasureOp) → Except ApiError (erasureSig.Ans op) × ErasureWorld
  | .findUserById => (.ok e.user, w)
  | .findPendingErasureRequest none => (.ok (w.newest (·.pending)), w)
  | .findPendingErasureRequest (some id) =>
      (.ok (w.newest (·.pending)),
        if w.newest (·.pending) = some id then
          w.setJob i fun job => { job with state := .active i (some id) }
        else w)
  | .findPendingSelfErasureRequest => (.ok (w.newest (·.pendingSelf)), w)
  | .createErasureRequest adminId =>
      (.ok w.requests.length, { w with requests := w.requests ++ [⟨adminId, e.now, false, false⟩] })
  | .enqueueGdprErasure requestId => (.ok (), { w with
      -- ignored where there is a job with the id
      job := w.job <|> some ⟨requestId, 0, .waiting⟩
      enqueued := requestId :: w.enqueued })
  | .cancelErasureRequest _ => (.ok (), { w with
      requests := w.requests.map fun r =>
        if r.pendingSelf then { r with cancelled := true } else r })
  | .getJob => (.ok w.job.isSome, w)
  | .removeJob =>
      match w.job with
      | some ⟨_, _, .active _ _⟩ => (.error jobLocked, w)
      | _ => (.ok (), { w with job := none })
  | .insertAuditLog _ _ => (.ok (), w)
  | .respond response => (.ok (), { w with responses := response :: w.responses })
  | .takeJob =>
      match w.job with
      | some ⟨requestId, attemptsMade, .waiting⟩ =>
          (.ok (some requestId), { w with job := some ⟨requestId, attemptsMade, .active i none⟩ })
      | _ => (.ok none, w)
  | .anonymizeUser requestId => (.ok (), { w with anonymisedBy := requestId :: w.anonymisedBy })
  | .revokeAllUserRefreshTokens => (.ok (), w)
  | .markErasureExecuted requestId => (.ok (), { w with
      requests := w.requests.modify requestId fun r => { r with executed := true } })
  | .completeJob => (.ok (), w.setJob i fun job => { job with state := .finished })
  | .failJob => (.ok (), { w.setJob i fun job => { job with
      attemptsMade := job.attemptsMade + 1
      state := if job.attemptsMade + 1 < erasureAttempts then .waiting else .finished } with
      jobFailed := true })

/-- Calls that may throw; the others are the queue's own doing, or a response. -/
def ErasureOp.mayFail : ErasureOp → Bool
  | .respond _ | .takeJob | .completeJob | .failJob => false
  | _ => true

/-- The calls, as program `i` makes them. -/
def erasureMachine (i : Nat) : Machine erasureSig ApiError ErasureWorld ErasureEnv where
  exec e op w :=
    match e.fault.filter fun _ => op.mayFail with
    | none => performErasure i e w op
    | some fault => (.error fault.err, if fault.applied then (performErasure i e w op).2 else w)

/-! ### The routes -/

def callErasure (op : ErasureOp) : Erasing (erasureSig.Ans op) := Prog.call (S := erasureSig) op

/-- From the check on; the two routes that make a request differ in what comes around it. -/
def requestErasure (adminId : Option Uuid) (alreadyPending : String) : Erasing Nat := do
  let existing ← callErasure (.findPendingErasureRequest none)
  match existing with
  | some _ => .raise (createError alreadyPending 409)
  | none =>
    let requestId ← callErasure (.createErasureRequest adminId)
    callErasure (.enqueueGdprErasure requestId)
    return requestId

/-- `POST /me/delete-account`: `email` is the body's, as the schema takes it. -/
def postDeleteAccount (toLowerCase : Text → Text) (email : Except ApiError Text) :
    Erasing Unit := do
  let email ← Prog.ofExcept email
  let user ← callErasure .findUserById
  match user with
  | none => .raise (createError "User not found" 404)
  | some userEmail =>
    if toLowerCase userEmail ≠ toLowerCase email then
      .raise (createError "Email confirmation does not match your account email" 403)
    else do
      let requestId ← requestErasure none "A deletion request is already pending for this account"
      callErasure (.respond (.accepted requestId))

/-- `DELETE /me/delete-account`. -/
def deleteDeleteAccount : Erasing Unit := do
  let pending ← callErasure .findPendingSelfErasureRequest
  match pending with
  | none => .raise (createError "No pending deletion request found" 404)
  | some found =>
    callErasure (.cancelErasureRequest found)
    -- `cancelGdprErasure`
    let job ← callErasure .getJob
    if job then callErasure .removeJob
    callErasure (.respond (.cancelled found))

/-- `POST /admin/users/:userId/erase`. -/
def postErase (adminId : Uuid) : Erasing Unit := do
  let target ← callErasure .findUserById
  match target with
  | none => .raise (createError "User not found" 404)
  | some _ =>
    let requestId ← requestErasure (some adminId)
      "A deletion request is already pending for this user"
    callErasure (.insertAuditLog adminId requestId)
    callErasure (.respond (.accepted requestId))

/-! ### The worker -/

def processGdprErasureJob (requestId : Nat) : Erasing Unit := do
  let request ← callErasure (.findPendingErasureRequest (some requestId))
  match request with
  -- cancelled or already executed
  | none => return ()
  | some id =>
    -- superseded by a newer request
    if id ≠ requestId then return ()
    else do
      callErasure (.anonymizeUser requestId)
      callErasure .revokeAllUserRefreshTokens
      callErasure (.markErasureExecuted requestId)

/-- The queue hands out the job, if it waits, and learns how it went. -/
def gdprErasureWorker : Erasing Unit := do
  let job ← callErasure .takeJob
  match job with
  | none => return ()
  | some requestId => (do
      processGdprErasureJob requestId
      callErasure .completeJob : Erasing Unit).tryCatch fun _ => callErasure .failJob

end BrandBlitz.Retention

import Mathlib.Data.Rat.Cast.Order
import BrandBlitz.Lib.Counters
import BrandBlitz.Lib.Crew
import BrandBlitz.Sessions.Table

/-!
# BrandBlitz.Sessions.Lockout

**The brake on failed session starts**: `requireSessionStartAllowed` of
`apps/api/src/middleware/anti-cheat.ts`, as the route `POST /sessions/:challengeId/start` and the
listener that runs when the response is finished go on from it.

* What `Number` makes of a field of `app_config` is a rational, if it is finite.
* The response is an answer of the environment: its status, or nothing if the connection closes
  first.
* Requests for one user and for others run as they like, and time passes. Redis keeps one clock.
-/

namespace BrandBlitz.Sessions.Lockout

open BrandBlitz.Lib

/-! ### The world -/

/-- history: a request that has read the counter of its user and is not over -/
structure Reader where
  program : Nat
  userId : Id
  count : Nat
deriving DecidableEq, Repr

structure SessionStartLockoutConfig where
  threshold : ℚ
  windowSeconds : ℚ
deriving DecidableEq, Repr

/-- A row of `audit_log`. -/
structure Audit where
  actorId : Id
  after : SessionStartLockoutConfig
deriving DecidableEq, Repr

structure World where
  /-- `lockout:session_start:…` -/
  counters : Counters Id
  now : Nat
  audits : List Audit
  readers : List Reader
  /-- history: whose `INCR` has created a counter that has had no `EXPIRE` yet -/
  creators : List (Nat × Id)

def World.start (now : Nat) : World := ⟨fun _ => none, now, [], [], []⟩

namespace World

variable (w : World) (i : Nat) (userId : Id)

def value : Nat := w.counters.value w.now userId

def readersOf : List Reader := w.readers.filter fun reader => reader.userId = userId

/-- Program `i` reads the counter. -/
def read : World := { w with readers := ⟨i, userId, w.value userId⟩ :: w.readers }

/-- The request is over, as far as the counter goes. -/
def release : World := { w with readers := w.readers.filter fun reader => reader.program ≠ i }

def incr : World :=
  { w.release i with
    counters := w.counters.incr w.now userId
    creators := if w.value userId = 0 then (i, userId) :: w.creators else w.creators }

def expire (seconds : Nat) : World :=
  { w with
    counters := w.counters.expire w.now userId seconds
    creators := w.creators.filter (· ≠ (i, userId)) }

end World

/-! ### Calls -/

/-- `app_config`, of the key `session_start_lockout`. -/
structure ConfigRow where
  threshold : Option ℚ
  windowSeconds : Option ℚ

inductive LockoutOp where
  | getConfig
  | get (userId : Id)
  | ttl (userId : Id)
  /-- `res.setHeader("Retry-After", …)` and `metrics.inc` -/
  | locked (userId : Id) (retryAfter : ℚ)
  /-- `next()`, and what the response was -/
  | next
  | incr (userId : Id)
  | expire (userId : Id) (seconds : ℚ)
  | insertAudit (audit : Audit)

abbrev lockoutSig : Sig where
  Op := LockoutOp
  Ans
    | .getConfig => ConfigRow
    | .get _ => Option Nat
    | .ttl _ => Int
    | .next => Option Nat
    | .incr _ => Nat
    | .locked .. | .expire .. | .insertAudit _ => Unit

/-- What the environment contributes to one call. -/
structure LockoutEnv where
  /-- the error, and whether the call took effect all the same -/
  fault : Option (ApiError × Bool)
  row : ConfigRow
  status : Option Nat

/-- `res.statusCode >= 400`. -/
def failed (status : Option Nat) : Bool := status.any (400 ≤ ·)

def notAnInteger : ApiError := ⟨"ERR value is not an integer or out of range".toList, none, none⟩

/-- The answer to program `i`, and the effect. -/
def perform (i : Nat) (e : LockoutEnv) (w : World) :
    (op : LockoutOp) → Except ApiError (lockoutSig.Ans op) × World
  | .getConfig => (.ok e.row, w)
  | .get userId => (.ok ((w.counters.live w.now userId).map (·.value)), w.read i userId)
  | .ttl userId => (.ok (w.counters.ttl w.now userId), w)
  | .locked .. => (.ok (), w.release i)
  | .next => (.ok e.status, if failed e.status then w else w.release i)
  | .incr userId => (.ok (w.value userId + 1), w.incr i userId)
  | .expire userId seconds =>
    if seconds.den = 1 then (.ok (), w.expire i userId seconds.num.toNat)
    else (.error notAnInteger, w)
  | .insertAudit audit => (.ok (), { w with audits := audit :: w.audits })

def machine (i : Nat) : Machine lockoutSig ApiError World LockoutEnv where
  exec e op w :=
    match e.fault with
    | some (err, applied) => (.error err, (if applied then (perform i e w op).2 else w).release i)
    | none => perform i e w op

/-- Time passes. -/
def Later (w w' : World) : Prop := ∃ t, w.now ≤ t ∧ w' = { w with now := t }

/-! ### The middleware -/

abbrev Guarded := Prog lockoutSig ApiError

def call (op : LockoutOp) : Guarded (lockoutSig.Ans op) := Prog.call (S := lockoutSig) op

/-- `Number.isFinite(value) && value > 0 ? value : fallback`. -/
def positiveOr (value : Option ℚ) (fallback : ℚ) : ℚ := (value.filter (0 < ·)).getD fallback

def getSessionStartLockoutConfig (fallback : SessionStartLockoutConfig) :
    Guarded SessionStartLockoutConfig :=
  Prog.tryCatch (do
      let cfg ← call .getConfig
      return ⟨positiveOr cfg.threshold fallback.threshold,
        positiveOr cfg.windowSeconds fallback.windowSeconds⟩)
    fun _ => return fallback

/-- The response has a status of 400 or more. What goes wrong is logged. -/
def recordFailure (cfg : SessionStartLockoutConfig) (userId : Id) : Guarded Unit :=
  Prog.tryCatch (do
      let updated ← call (.incr userId)
      if updated = 1 then call (.expire userId cfg.windowSeconds)
      if updated = cfg.threshold then
        Prog.tryCatch (call (.insertAudit ⟨userId, cfg⟩)) fun _ => return ())
    fun _ => return ()

/-- The counter and its time to live, which are asked for together. -/
def readCounter (userId : Id) : Guarded (Option Nat × Int) := do
  let raw ← call (.get userId)
  let currentTtl ← call (.ttl userId)
  return (raw, currentTtl)

def requireSessionStartAllowed (fallback : SessionStartLockoutConfig) (userId : Option Id) :
    Guarded Unit :=
  match userId with
  | none => do
    let _ ← call .next
    return ()
  | some userId => do
    let cfg ← getSessionStartLockoutConfig fallback
    let read ← (readCounter userId).attempt
    match read with
    | .error _ =>
      -- Redis must never block a start
      let _ ← call .next
      return ()
    | .ok (raw, currentTtl) =>
      let ttl : ℚ := if 0 < currentTtl then currentTtl else cfg.windowSeconds
      if cfg.threshold ≤ raw.getD 0 then
        call (.locked userId ttl)
        .raise (createError "Too many failed session start attempts. Please try again later." 429
          "SESSION_START_LOCKED")
      else
        let status ← call .next
        if failed status then recordFailure cfg userId else return ()

def IsStart (fallback : SessionStartLockoutConfig) (p : Guarded Unit) : Prop :=
  ∃ userId, p = requireSessionStartAllowed fallback userId

end BrandBlitz.Sessions.Lockout

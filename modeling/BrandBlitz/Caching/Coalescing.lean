import BrandBlitz.Lib.Crew
import BrandBlitz.Stellar.Client

/-!
# BrandBlitz.Caching.Coalescing

**A cached value, and its invalidation**: `withCoalescing` of `apps/api/src/lib/cache.ts` and
`invalidateLeaderboardCache` of `apps/api/src/lib/cache-tags.ts`, for one key.

* A value stands for the state of the database that its loader has read: how many changes there
  were by then.
* What is cached may expire at any time, and so may the lock.
* How often a call finds that it still has time to wait is up to the clock (`rounds`).
* Every call takes effect at once. It may fail, before it took effect or after.
-/

namespace BrandBlitz.Caching

open BrandBlitz.Lib

/-! ### The world -/

structure Started where
  program : Nat
  /-- the changes whose invalidation had completed when the program started -/
  invalidated : List Nat
deriving DecidableEq, Repr

structure World where
  /-- how many changes there were -/
  version : Nat
  /-- `leaderboard:…` -/
  cached : Option Nat
  /-- `coalesce:leaderboard:…` -/
  locked : Bool
  /-- history: the changes whose invalidation has nothing left to delete -/
  cleared : List Nat
  invalidated : List Nat
  started : List Started

/-- Nothing is cached. -/
def World.start (version : Nat) : World := ⟨version, none, false, [], [], []⟩

inductive CacheOp where
  /-- history -/
  | start
  | get
  | setNX
  | load
  | set (value : Nat)
  | delLock
  | lockExists
  /-- A change of the database, which is numbered. -/
  | change
  /-- `KEYS leaderboard:*`, after a change -/
  | keys (change : Nat)
  | del (change : Nat)
  /-- history -/
  | invalidated (change : Nat)
deriving DecidableEq, Repr

abbrev cacheSig : Sig where
  Op := CacheOp
  Ans
    | .get => Option Nat
    | .load | .change => Nat
    | .setNX | .lockExists | .keys _ => Bool
    | _ => Unit

abbrev Cached := Prog cacheSig ApiError

/-- How a call goes. -/
inductive Fate where
  | done
  | lost
  /-- It takes effect, and the answer is lost. -/
  | unanswered
deriving DecidableEq, Repr

/-- The effect of a call that program `i` makes. -/
def perform (i : Nat) (w : World) : (op : CacheOp) → cacheSig.Ans op × World
  | .start => ((), { w with started := ⟨i, w.invalidated⟩ :: w.started })
  | .get => (w.cached, w)
  | .setNX => (!w.locked, { w with locked := true })
  | .load => (w.version, w)
  | .set value => ((), { w with cached := some value })
  | .delLock => ((), { w with locked := false })
  | .lockExists => (w.locked, w)
  | .change => (w.version + 1, { w with version := w.version + 1 })
  | .keys change =>
    (w.cached.isSome, if w.cached.isSome then w else { w with cleared := change :: w.cleared })
  | .del change => ((), { w with cached := none, cleared := change :: w.cleared })
  | .invalidated change => ((), { w with invalidated := change :: w.invalidated })

def redisDown : ApiError := ⟨"Connection is closed.".toList, none, none⟩

def machine (i : Nat) : Machine cacheSig ApiError World Fate where
  exec fate op w :=
    match fate with
    | .done => (.ok (perform i w op).1, (perform i w op).2)
    | .lost => (.error redisDown, w)
    | .unanswered => (.error redisDown, (perform i w op).2)

/-- What is cached expires, or the lock does. -/
def Expires (w w' : World) : Prop :=
  w' = { w with cached := none } ∨ w' = { w with locked := false }

/-! ### The programs -/

def call (op : CacheOp) : Cached (cacheSig.Ans op) := Prog.call (S := cacheSig) op

def regenerate : Cached Nat := do
  let value ← call .load
  call (.set value)
  return value

/-- The caller has acquired the lock. -/
def regenerateLocked : Cached Nat := Prog.tryFinally regenerate (call .delLock)

/-- The loop that waits for another request. -/
def waitForCache : (rounds : Nat) → Cached (Option Nat)
  | 0 => return none
  | rounds + 1 => do
    let cached ← call .get
    match cached with
    | some value => return some value
    | none =>
      let lockExists ← call .lockExists
      if lockExists then waitForCache rounds
      else
        let retryAcquired ← call .setNX
        if retryAcquired then
          let value ← regenerateLocked
          return some value
        else waitForCache rounds

def withCoalescing (rounds : Nat) : Cached Nat := do
  let hit ← call .get
  match hit with
  | some value => return value
  | none =>
    let acquired ← call .setNX
    if acquired then regenerateLocked
    else
      let waited ← waitForCache rounds
      match waited with
      | some value => return value
      | none => regenerate

def invalidateLeaderboardCache (change : Nat) : Cached Unit := do
  let keys ← call (.keys change)
  if keys then call (.del change)
  else return ()

/-- A request for the leaderboard, and what it is answered. -/
def answer (rounds : Nat) : Cached (Option Nat) := do
  call .start
  let value ← withCoalescing rounds
  return some value

def changeAndInvalidate : Cached (Option Nat) := do
  let change ← call .change
  invalidateLeaderboardCache change
  call (.invalidated change)
  return none

/-- Any number of requests and changes. -/
def IsProgram (p : Cached (Option Nat)) : Prop :=
  (∃ rounds, p = answer rounds) ∨ p = changeAndInvalidate

end BrandBlitz.Caching

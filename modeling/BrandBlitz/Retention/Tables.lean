import BrandBlitz.Paging.Cursor
import BrandBlitz.Payout.World

/-!
# BrandBlitz.Retention.Tables

The tables that the monthly archive job and the erasure of a user's data work on, and the
**transaction** that either of them runs in: `BEGIN`, statements, `COMMIT`, and `ROLLBACK`
when one of these throws.

A row has the columns that a statement reads or writes or a key depends on; its other
columns travel with it and are left out.
-/

namespace BrandBlitz.Retention

open BrandBlitz.Paging (Uuid Timestamp)
open BrandBlitz.Payout

/-! ### Rows -/

structure User where
  id : Uuid
  email : Text
  googleId : Option Text
  displayName : Text
  username : Option Text
  avatarUrl : Option Text
  phoneHash : Option Text
  phoneVerified : Bool
  phoneVerifiedAt : Option Timestamp
  stellarAddress : Option Text
  embeddedWalletAddress : Option Text
deriving DecidableEq, Repr

/-- A row of `challenges` or `challenges_archive`. -/
structure ChallengeRecord where
  id : Uuid
  /-- the public id -/
  challengeId : Text
  status : ChallengeStatus
  endedAt : Option Timestamp
  depositMemo : Option Text
  depositTxHash : Option Text
deriving DecidableEq, Repr

/-- A row of `game_sessions` or `game_sessions_archive`. -/
structure GameSession where
  id : Uuid
  userId : Option Uuid
  challengeId : Uuid
  deviceId : Option Text
deriving DecidableEq, Repr

structure RoundScore where
  sessionId : Uuid
  round : Nat
deriving DecidableEq, Repr

structure PayoutRecord where
  id : Uuid
  challengeId : Uuid
  sessionId : Uuid
deriving DecidableEq, Repr

structure RefundRecord where
  id : Uuid
  challengeId : Uuid
deriving DecidableEq, Repr

structure FraudFlag where
  id : Uuid
  sessionId : Uuid
  userId : Uuid
  /-- the keys of a JSON object with their values -/
  details : Option (List (Text × Text))
deriving DecidableEq, Repr

structure AuditEntry where
  action : Text
  entityKey : Uuid
  clearedColumns : List Text
deriving DecidableEq, Repr

structure Database where
  users : List User
  challenges : List ChallengeRecord
  challengesArchive : List ChallengeRecord
  gameSessions : List GameSession
  gameSessionsArchive : List GameSession
  sessionRoundScores : List RoundScore
  payouts : List PayoutRecord
  refunds : List RefundRecord
  fraudFlags : List FraudFlag
  auditLog : List AuditEntry
deriving DecidableEq

/-! ### Transactions -/

/-- Statements on the copy that a transaction works on. -/
abbrev Statements := StateT Database (Except Err)

/-- A statement that the database or the network may fail. -/
def statement {α : Type} (fault : Option Err) (body : Statements α) : Statements α := fun db =>
  match fault with
  | some err => .error err
  | none => body db

/-- The `try` block: `BEGIN`, the body and `COMMIT`. -/
def bracketed {α : Type} (beginFault commitFault : Option Err) (body : Statements α) :
    Statements α := do
  statement beginFault (pure ())
  let answer ← body
  statement commitFault (pure ())
  return answer

/-- The transaction around `body`: its answer, and what is committed in the end. -/
def transaction {α : Type} (beginFault commitFault : Option Err) (body : Statements α)
    (committed : Database) : Except Err α × Database :=
  match bracketed beginFault commitFault body committed with
  | .ok (answer, db) => (.ok answer, db)
  -- `ROLLBACK`
  | .error err => (.error err, committed)

@[simp] theorem statement_none {α : Type} (body : Statements α) : statement none body = body := rfl

theorem statement_ok_iff {α : Type} {fault : Option Err} {body : Statements α} {db : Database}
    {result : α × Database} :
    statement fault body db = .ok result ↔ fault = none ∧ body db = .ok result := by
  cases fault <;> simp [statement]

theorem bind_ok_iff {α β : Type} {p : Statements α} {f : α → Statements β} {db : Database}
    {result : β × Database} :
    (p >>= f) db = .ok result ↔ ∃ a db', p db = .ok (a, db') ∧ f a db' = .ok result := by
  show (p db).bind (fun r => f r.1 r.2) = _ ↔ _
  cases p db with
  | error err => simp [Except.bind]
  | ok r => simp [Except.bind, Prod.ext_iff]

theorem pure_ok_iff {α : Type} {a : α} {db : Database} {result : α × Database} :
    (pure a : Statements α) db = .ok result ↔ result = (a, db) := by
  show Except.ok (a, db) = _ ↔ _
  rw [Except.ok.injEq, eq_comm]

theorem bracketed_ok_iff {α : Type} {beginFault commitFault : Option Err} {body : Statements α}
    {db : Database} {result : α × Database} :
    bracketed beginFault commitFault body db = .ok result ↔
      beginFault = none ∧ commitFault = none ∧ body db = .ok result := by
  simp only [bracketed, bind_ok_iff, statement_ok_iff, pure_ok_iff, Prod.mk.injEq, true_and]
  grind

/-- A transaction went through exactly if every part of it did. -/
theorem transaction_ok_iff {α : Type} {beginFault commitFault : Option Err} {body : Statements α}
    {db db' : Database} {answer : α} :
    transaction beginFault commitFault body db = (.ok answer, db') ↔
      beginFault = none ∧ commitFault = none ∧ body db = .ok (answer, db') := by
  rw [← bracketed_ok_iff, transaction]
  cases bracketed beginFault commitFault body db <;> simp [Prod.ext_iff]

/-- Nothing is left of a transaction that failed. -/
theorem transaction_error {α : Type} {beginFault commitFault : Option Err} {body : Statements α}
    {db db' : Database} {err : Err}
    (h : transaction beginFault commitFault body db = (.error err, db')) : db' = db := by
  unfold transaction at h
  cases hwork : bracketed beginFault commitFault body db with
  | ok result => simp [hwork] at h
  | error err' =>
      simp only [hwork, Prod.mk.injEq] at h
      exact h.2.symm

end BrandBlitz.Retention

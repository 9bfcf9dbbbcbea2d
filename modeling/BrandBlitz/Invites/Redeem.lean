import BrandBlitz.Lib.Crew
import BrandBlitz.Lib.Transactions
import BrandBlitz.Paging.Cursor

/-!
# BrandBlitz.Invites.Redeem

**Invite codes**: `redeemInviteCode` of `apps/api/src/db/queries/invite-codes.ts`, in a
`transaction` (`apps/api/src/db/transaction.ts`), over the tables of
`apps/api/migrations/00036-priority-invite-codes.sql`.

* What no call writes is in `Directory`: codes but for `use_count`, brands, challenges, users,
  and the addresses on the waitlist. The rest is in `Tables`.
* A statement that needs a row that another connection has locked waits until it gets the row
  or fails. A statement that fails has no effect and ends the transaction, also if it is
  `COMMIT` or `ROLLBACK`.
* The history says which calls repeat one that has succeeded (`started`), which of them had a
  statement that failed (`failed`), and what has been committed by whom (`commits`).
-/

namespace BrandBlitz.Invites

open BrandBlitz.Lib
open BrandBlitz.Paging (Uuid Timestamp)
open BrandBlitz.Sessions (dbError)

/-! ### Tables -/

/-- A row of `invite_codes`, but for `use_count`. -/
structure InviteCode where
  id : Uuid
  brandId : Uuid
  challengeId : Option Uuid
  code : Text
  expiresAt : Option Timestamp
  maxUses : Option Nat
deriving DecidableEq, Repr

structure Brand where
  id : Uuid
  deletedAt : Option Timestamp
deriving DecidableEq, Repr

structure Challenge where
  id : Uuid
  brandId : Uuid
  deletedAt : Option Timestamp
deriving DecidableEq, Repr

structure User where
  id : Uuid
  email : Text
  status : Text
  suspendedAt : Option Timestamp
  deletedAt : Option Timestamp
deriving DecidableEq, Repr

structure WaitlistAddress where
  id : Uuid
  email : Text
deriving DecidableEq, Repr

structure Directory where
  codes : List InviteCode
  brands : List Brand
  challenges : List Challenge
  users : List User
  addresses : List WaitlistAddress
  /-- `lower` of the database -/
  lower : Text → Text
  primaryKey : (codes.map (·.id)).Nodup
  /-- `code TEXT NOT NULL UNIQUE` -/
  uniqueCode : (codes.map (·.code)).Nodup

inductive WaitlistStatus where
  | waiting | active
deriving DecidableEq, Repr

structure WaitlistState where
  status : WaitlistStatus
  activatedAt : Option Timestamp
deriving DecidableEq, Repr

/-- A row of `invite_code_redemptions`. -/
structure Redemption where
  inviteCodeId : Uuid
  userId : Uuid
deriving DecidableEq, Repr

/-- A row of `audit_log` with the action `waitlist.invite_redeemed`. -/
structure AuditEntry where
  actorId : Uuid
  entityKey : Uuid
  before : WaitlistStatus
  inviteCodeId : Uuid
  brandId : Uuid
  challengeId : Option Uuid
deriving DecidableEq, Repr

structure Tables where
  /-- `use_count` of a code -/
  useCount : Uuid → Nat
  redemptions : List Redemption
  waitlist : Uuid → WaitlistState
  auditLog : List AuditEntry

def Tables.redemptionsOf (tables : Tables) (inviteCodeId : Uuid) : List Redemption :=
  tables.redemptions.filter fun row => row.inviteCodeId = inviteCodeId

section

variable (directory : Directory)

/-- The `WHERE` of the first statement. -/
def Directory.isAvailable (invite : InviteCode) : Bool :=
  (directory.brands.any fun brand => brand.id = invite.brandId && brand.deletedAt.isNone) &&
    match invite.challengeId with
    | none => true
    | some challengeId => directory.challenges.any fun challenge =>
        challenge.id = challengeId && challenge.deletedAt.isNone &&
          challenge.brandId = invite.brandId

def Directory.available (code : Text) : Option InviteCode :=
  directory.codes.find? fun invite => invite.code = code && directory.isAvailable invite

/-- `waitlist w JOIN users u ON lower(u.email) = w.email`, for an active user. -/
def Directory.addressOf (userId : Uuid) : Option WaitlistAddress :=
  (directory.users.find? fun user => user.id = userId && user.deletedAt.isNone &&
    user.status = "active".toList && user.suspendedAt.isNone).bind fun user =>
      directory.addresses.find? fun address => address.email = directory.lower user.email

end

/-! ### Statements -/

/-- A row of the first statement. -/
structure InviteRow where
  invite : InviteCode
  useCount : Nat
deriving DecidableEq, Repr

/-- A row of the `waitlist`, as it is selected. -/
structure WaitlistRow where
  id : Uuid
  status : WaitlistStatus
deriving DecidableEq, Repr

inductive Statement where
  /-- `SELECT ic.* … FOR UPDATE OF ic` -/
  | selectCode (code : Text)
  | selectRedemption (inviteCodeId userId : Uuid)
  /-- `SELECT w.id, w.status … FOR UPDATE OF w` -/
  | selectWaitlist (userId : Uuid)
  | insertRedemption (row : Redemption)
  | incrementUseCount (id : Uuid)
  /-- for the time of the transaction -/
  | activate (id : Uuid) (now : Timestamp)
  | insertAudit (entry : AuditEntry)
deriving DecidableEq, Repr

abbrev Statement.Ans : Statement → Type
  | .selectCode _ => Option InviteRow
  | .selectRedemption _ _ => Bool
  | .selectWaitlist _ => Option WaitlistRow
  | _ => Unit

/-- One row that is written. -/
inductive Write where
  | insertRedemption (row : Redemption)
  | incrementUseCount (id : Uuid)
  | activate (id : Uuid) (now : Timestamp)
  | insertAudit (entry : AuditEntry)
deriving DecidableEq, Repr

def Tables.apply (tables : Tables) : Write → Tables
  | .insertRedemption row => { tables with redemptions := tables.redemptions ++ [row] }
  | .incrementUseCount id =>
    { tables with useCount := Function.update tables.useCount id (tables.useCount id + 1) }
  | .activate id now =>
    { tables with
      waitlist := Function.update tables.waitlist id
        ⟨.active, some ((tables.waitlist id).activatedAt.getD now)⟩ }
  | .insertAudit entry => { tables with auditLog := tables.auditLog ++ [entry] }

/-- A row that can be locked. -/
inductive Row where
  | code (id : Uuid)
  | address (id : Uuid)
deriving DecidableEq, Repr

section

variable (directory : Directory)

/-- `CHECK (max_uses IS NULL OR use_count <= max_uses)`. -/
def Directory.allows (id : Uuid) (useCount : Nat) : Bool :=
  directory.codes.all fun invite => invite.id ≠ id || invite.maxUses.all (useCount ≤ ·)

/-- The answer of a statement and what it writes, on the tables that it sees. -/
def Statement.run (tables : Tables) :
    (statement : Statement) → Except ApiError statement.Ans × List Write
  | .selectCode code =>
    (.ok ((directory.available code).map fun invite => ⟨invite, tables.useCount invite.id⟩), [])
  | .selectRedemption inviteCodeId userId =>
    (.ok (decide (⟨inviteCodeId, userId⟩ ∈ tables.redemptions)), [])
  | .selectWaitlist userId =>
    (.ok ((directory.addressOf userId).map fun address =>
      ⟨address.id, (tables.waitlist address.id).status⟩), [])
  | .insertRedemption row =>
    -- `PRIMARY KEY (invite_code_id, user_id)`
    if row ∈ tables.redemptions then
      (.error (dbError "duplicate key value violates unique constraint" "23505"), [])
    else (.ok (), [.insertRedemption row])
  | .incrementUseCount id =>
    if directory.allows id (tables.useCount id + 1) then (.ok (), [.incrementUseCount id])
    else (.error (dbError "new row violates check constraint" "23514"), [])
  | .activate id now => (.ok (), [.activate id now])
  | .insertAudit entry => (.ok (), [.insertAudit entry])

/-- The row that a statement needs for itself. -/
def Statement.locks : Statement → Option Row
  | .selectCode code => (directory.available code).map fun invite => .code invite.id
  | .selectWaitlist userId => (directory.addressOf userId).map fun address => .address address.id
  -- the foreign key of the new row
  | .insertRedemption row => some (.code row.inviteCodeId)
  | .incrementUseCount id => some (.code id)
  | .activate id _ => some (.address id)
  | .selectRedemption _ _ | .insertAudit _ => none

/-- The row that a statement locks for its transaction. -/
def Statement.locksRow : Statement → Option Row
  | .insertRedemption _ => none
  | statement => statement.locks directory

end

/-! ### The database and its connections -/

inductive InviteOp where
  /-- history: the call starts, and -/
  | request (userId : Uuid) (code : Text)
  /-- history: it has succeeded -/
  | answer (userId : Uuid) (code : Text)
  | connect
  /-- on the connection of the call, as the next three -/
  | client (statement : Statement)
  | start
  | commit
  | rollback
deriving DecidableEq, Repr

abbrev inviteSig : Sig where
  Op := InviteOp
  Ans
    | .client statement => statement.Ans
    | _ => Unit

/-- A call that starts. -/
structure StartedCall where
  program : Nat
  userId : Uuid
  code : Text
  /-- the same call has succeeded before -/
  again : Bool
deriving DecidableEq, Repr

structure World where
  db : TxStore Tables Write Row
  commits : List (Nat × List Write)
  started : List StartedCall
  succeeded : List (Uuid × Text)
  failed : List Nat

def World.init (tables : Tables) : World := ⟨.idle tables, [], [], [], []⟩

/-- What the world contributes to one operation. -/
inductive InviteEnv where
  | fails (err : ApiError)
  | succeeds
deriving DecidableEq, Repr

/-- History cannot fail. -/
def InviteOp.isHistory : InviteOp → Bool
  | .request _ _ | .answer _ _ => true
  | _ => false

/-- A statement of the transaction of call `i`. -/
def World.client (directory : Directory) (w : World) (i : Nat) (statement : Statement) :
    Except ApiError statement.Ans × World :=
  let (answer, ws) := statement.run directory (w.db.view Tables.apply i)
  (answer,
    { w with
      db := match answer with
        | .error _ => w.db.abort i
        | .ok _ =>
          match statement.locksRow directory with
          | some row => (w.db.write i ws).lock i row
          | none => w.db.write i ws })

/-- An operation that succeeds. -/
def World.perform (directory : Directory) (w : World) (i : Nat) :
    (op : InviteOp) → Except ApiError (inviteSig.Ans op) × World
  | .request userId code =>
    (.ok (),
      { w with started := ⟨i, userId, code, w.succeeded.contains (userId, code)⟩ :: w.started })
  | .answer userId code => (.ok (), { w with succeeded := (userId, code) :: w.succeeded })
  | .connect => (.ok (), w)
  | .client statement => w.client directory i statement
  | .start => (.ok (), { w with db := w.db.start i })
  | .commit =>
    (.ok (),
      { w with
        db := w.db.commit Tables.apply i
        commits := w.commits ++ [(i, (w.db.writes i).getD [])] })
  | .rollback => (.ok (), { w with db := w.db.abort i })

def machine (directory : Directory) (i : Nat) : Machine inviteSig ApiError World InviteEnv where
  exec e op w :=
    match e, op.isHistory with
    | .fails err, false => (.error err, { w with db := w.db.abort i, failed := i :: w.failed })
    | _, _ => w.perform directory i op

/-- The connection that an operation of call `i` has to wait for. -/
def World.blocker (directory : Directory) (w : World) (i : Nat) : InviteOp → Option Nat
  | .client statement => ((statement.locks directory).bind w.db.holder).filter (· ≠ i)
  | _ => none

/-- An operation succeeds only when it has not to wait. -/
def guard (directory : Directory) (i : Nat) (w : World) (op : InviteOp) (e : InviteEnv) : Prop :=
  e = .succeeds → w.blocker directory i op = none

/-! ### Redeeming -/

abbrev Call (α : Type) := Prog inviteSig ApiError α

def call (op : InviteOp) : Call (inviteSig.Ans op) := Prog.call (S := inviteSig) op

/-- `client.query(…)`. -/
def client (statement : Statement) : Call statement.Ans := call (.client statement)

/-- `transaction(work)`. -/
def transaction {α : Type} (work : Call α) : Call α :=
  Prog.transaction (call .connect) (call .start) (call .commit) (call .rollback) work

/-- The clocks of a call: `Date.now()`, in milliseconds, and `NOW()`. -/
structure Clock where
  dateNow : Int
  now : Timestamp
deriving DecidableEq, Repr

/-- `{ status: "active", … }`. -/
structure Redeemed where
  brandId : Uuid
  challengeId : Option Uuid
deriving DecidableEq, Repr

def InviteCode.redeemed (invite : InviteCode) : Redeemed := ⟨invite.brandId, invite.challengeId⟩

def invalidInviteCode : ApiError := createError "Invalid invite code" 404 "INVALID_INVITE_CODE"

def inviteCodeExpired : ApiError :=
  createError "Invite code has expired" 410 "INVITE_CODE_EXPIRED"

def inviteCodeExhausted : ApiError :=
  createError "Invite code has no uses left" 409 "INVITE_CODE_EXHAUSTED"

def notWaitlisted : ApiError :=
  createError "Join the waitlist with your account email before redeeming" 403 "NOT_WAITLISTED"

/-- From the entry on the waitlist on. -/
def writeRedemption (clock : Clock) (userId : Uuid) (invite : InviteCode) (entry : WaitlistRow) :
    Call Redeemed := do
  client (.insertRedemption ⟨invite.id, userId⟩)
  client (.incrementUseCount invite.id)
  client (.activate entry.id clock.now)
  client (.insertAudit
    ⟨userId, entry.id, entry.status, invite.id, invite.brandId, invite.challengeId⟩)
  return invite.redeemed

/-- From the look for a previous redemption on. -/
def redeemFound (clock : Clock) (userId : Uuid) (row : InviteRow) : Call Redeemed := do
  let previous ← client (.selectRedemption row.invite.id userId)
  if previous then return row.invite.redeemed
  else if row.invite.expiresAt.any (fun expiresAt => expiresAt / 1000 ≤ clock.dateNow) then
    Prog.raise inviteCodeExpired
  else if row.invite.maxUses.any (· ≤ row.useCount) then Prog.raise inviteCodeExhausted
  else
    let entry ← client (.selectWaitlist userId)
    match entry with
    | none => Prog.raise notWaitlisted
    | some entry => writeRedemption clock userId row.invite entry

/-- What `redeemInviteCode` does in its transaction. -/
def redeemWork (clock : Clock) (userId : Uuid) (code : Text) : Call Redeemed := do
  let found ← client (.selectCode code)
  match found with
  | none => Prog.raise invalidInviteCode
  | some row => redeemFound clock userId row

def redeemInviteCode (clock : Clock) (userId : Uuid) (code : Text) : Call Redeemed := do
  call (.request userId code)
  let redeemed ← transaction (redeemWork clock userId code)
  call (.answer userId code)
  return redeemed

/-- Any call of `redeemInviteCode`. -/
def IsRedeem (p : Call Redeemed) : Prop :=
  ∃ clock userId code, p = redeemInviteCode clock userId code

end BrandBlitz.Invites

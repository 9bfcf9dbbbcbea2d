import BrandBlitz.Lib.Crew
import BrandBlitz.Lib.Transactions
import BrandBlitz.Paging.Cursor
import BrandBlitz.Payout.World

/-!
# BrandBlitz.Comments.Posting

**Comments on challenges**: `addChallengeComment` of
`apps/api/src/db/queries/challenge-comments.ts`, in a `transaction`
(`apps/api/src/db/transaction.ts`), and `softDeleteChallenge` of
`apps/api/src/db/queries/challenges.ts`, over the tables of
`apps/api/migrations/00038-challenge-comments.sql`.

* The users are in `Directory`, which no call writes. The rest is in `Tables`.
* `FOR UPDATE` is a lock of its own on a user's row. `FOR SHARE` on a challenge's row can be held
  by many, and an `UPDATE` of the row waits until nobody holds it. The `UPDATE` is a transaction of
  one statement, with the trigger that deletes the comments.
* A statement that needs a row that another connection has locked waits until it gets the row or
  fails. A statement that fails ends the transaction; a `COMMIT` or an `UPDATE` that fails may have
  taken effect all the same.
* `NOW()` is the start of the transaction, whatever clock that is read from.
* The history says of every comment that was inserted, or committed, whether its challenge was open
  for comments at that moment.
-/

namespace BrandBlitz.Comments

open BrandBlitz.Lib
open BrandBlitz.Paging (Uuid Timestamp)
open BrandBlitz.Payout (ChallengeStatus)
open BrandBlitz.Sessions (dbError)

/-! ### Tables -/

structure User where
  id : Uuid
  displayName : Text
  deletedAt : Option Timestamp
deriving DecidableEq, Repr

/-- What is read of a row of `challenges`. -/
structure Challenge where
  id : Uuid
  status : ChallengeStatus
  deletedAt : Option Timestamp
deriving DecidableEq, Repr

/-- A row of `challenge_comments`. -/
structure ChallengeComment where
  id : Uuid
  challengeId : Uuid
  userId : Uuid
  body : Text
  createdAt : Timestamp
  updatedAt : Timestamp
deriving DecidableEq, Repr

structure Directory where
  users : List User
  /-- `lower` of the database -/
  lower : Text → Text
  /-- `char_length(btrim(…))` of the database -/
  trimmedLength : Text → Nat

structure Tables where
  challenges : List Challenge
  comments : List ChallengeComment
deriving DecidableEq, Repr

/-- `deleted_at IS NULL AND status <> 'draft'`. -/
def Challenge.isOpen (challenge : Challenge) : Bool :=
  challenge.deletedAt.isNone && challenge.status ≠ .draft

def Tables.isOpen (tables : Tables) (challengeId : Uuid) : Bool :=
  tables.challenges.any fun challenge => challenge.id = challengeId && challenge.isOpen

/-- `WHERE id = $1 AND deleted_at IS NULL`. -/
def Directory.activeUser (directory : Directory) (userId : Uuid) : Option User :=
  directory.users.find? fun user => user.id = userId && user.deletedAt.isNone

/-- `INTERVAL '1 minute'`. -/
def minute : Timestamp := 60000000

/-! ### Statements -/

/-- A row of the third statement. -/
structure RecentRow where
  count : Nat
  duplicate : Bool
deriving DecidableEq, Repr

inductive Statement where
  /-- `SELECT id FROM challenges … FOR SHARE` -/
  | selectChallenge (challengeId : Uuid)
  /-- `SELECT display_name FROM users … FOR UPDATE` -/
  | selectUser (userId : Uuid)
  | selectRecent (userId : Uuid) (body : Text)
  | insertComment (challengeId userId : Uuid) (body : Text)
deriving DecidableEq, Repr

abbrev Statement.Ans : Statement → Type
  | .selectChallenge _ => Bool
  | .selectUser _ => Option Text
  | .selectRecent _ _ => RecentRow
  | .insertComment _ _ _ => ChallengeComment

/-- The comments of a user later than a minute before `now`. -/
def Tables.recent (tables : Tables) (userId : Uuid) (now : Timestamp) : List ChallengeComment :=
  (tables.comments.filter fun comment => comment.userId = userId).filter fun comment =>
    now - minute < comment.createdAt

section

variable (directory : Directory)

def Directory.recentRow (tables : Tables) (userId : Uuid) (body : Text) (now : Timestamp) :
    RecentRow :=
  let rows := tables.recent userId now
  ⟨rows.length, rows.any fun comment => directory.lower comment.body = directory.lower body⟩

/-- The answer of a statement and the comment that it writes, on the tables that it sees, in a
transaction that began at `now`. `newId` is `gen_random_uuid()`. -/
def Statement.run (tables : Tables) (now : Timestamp) (newId : Uuid) :
    (statement : Statement) → Except ApiError statement.Ans × List ChallengeComment
  | .selectChallenge challengeId => (.ok (tables.isOpen challengeId), [])
  | .selectUser userId => (.ok ((directory.activeUser userId).map User.displayName), [])
  | .selectRecent userId body => (.ok (directory.recentRow tables userId body now), [])
  | .insertComment challengeId userId body =>
    if tables.comments.any fun comment => comment.id = newId then
      (.error (dbError "duplicate key value violates unique constraint" "23505"), [])
    else if directory.trimmedLength body < 1 || 2000 < directory.trimmedLength body then
      (.error (dbError "new row violates check constraint" "23514"), [])
    else if !(tables.challenges.any fun challenge => challenge.id = challengeId) ||
        !(directory.users.any fun user => user.id = userId) then
      (.error (dbError "insert or update violates foreign key constraint" "23503"), [])
    else
      let comment : ChallengeComment := ⟨newId, challengeId, userId, body, now, now⟩
      (.ok comment, [comment])

end

def Tables.insert (tables : Tables) (comment : ChallengeComment) : Tables :=
  { tables with comments := tables.comments ++ [comment] }

/-- `UPDATE challenges SET deleted_at = NOW() … WHERE id = $1 AND deleted_at IS NULL`, with the
trigger of the rows that it updates. -/
def Tables.softDelete (tables : Tables) (challengeId : Uuid) (now : Timestamp) : Tables where
  challenges := tables.challenges.map fun challenge =>
    if challenge.id = challengeId && challenge.deletedAt.isNone then
      { challenge with deletedAt := some now }
    else challenge
  comments :=
    if tables.challenges.any fun challenge =>
        challenge.id = challengeId && challenge.deletedAt.isNone then
      tables.comments.filter fun comment => comment.challengeId ≠ challengeId
    else tables.comments

/-! ### The database and its connections -/

inductive CommentOp where
  | connect
  /-- on the connection of the call, as the next three -/
  | client (statement : Statement)
  | start
  | commit
  | rollback
  /-- a statement of its own -/
  | softDelete (challengeId : Uuid)
deriving DecidableEq, Repr

abbrev commentSig : Sig where
  Op := CommentOp
  Ans
    | .client statement => statement.Ans
    | _ => Unit

/-- A comment that is inserted or committed. -/
structure Written where
  comment : ChallengeComment
  /-- is its challenge open for comments? -/
  onOpen : Bool
deriving DecidableEq, Repr

/-- The locks are on users. -/
structure World where
  db : TxStore Tables ChallengeComment Uuid
  /-- the connections that share a challenge's row -/
  sharers : Uuid → List Nat
  /-- the start of the transaction of a connection -/
  began : Nat → Timestamp
  written : List Written

def World.init (tables : Tables) : World := ⟨.idle tables, fun _ => [], fun _ => 0, []⟩

/-- What the world contributes to one operation. -/
inductive CommentEnv where
  | fails (err : ApiError) (applied : Bool) (now : Timestamp)
  | succeeds (now : Timestamp) (newId : Uuid)
deriving DecidableEq, Repr

/-- The end of the transaction of connection `i`. -/
def World.finish (w : World) (i : Nat) (db : TxStore Tables ChallengeComment Uuid) : World :=
  { w with
    db := db
    sharers := fun challengeId => (w.sharers challengeId).filter (· ≠ i) }

def World.abort (w : World) (i : Nat) : World := w.finish i (w.db.abort i)

/-- What is written to the history with comments. -/
def World.write (w : World) (comments : List ChallengeComment) : List Written :=
  comments.map fun comment => ⟨comment, w.db.committed.isOpen comment.challengeId⟩

def World.commit (w : World) (i : Nat) : World :=
  { w.finish i (w.db.commit Tables.insert i) with
    written := w.written ++ w.write ((w.db.writes i).getD []) }

def World.softDelete (w : World) (challengeId : Uuid) (now : Timestamp) : World :=
  { w with db := { w.db with committed := w.db.committed.softDelete challengeId now } }

/-- A statement of the transaction of connection `i`. -/
def World.client (directory : Directory) (w : World) (i : Nat) (newId : Uuid)
    (statement : Statement) : Except ApiError statement.Ans × World :=
  match statement.run directory (w.db.view Tables.insert i) (w.began i) newId with
  | (.error err, _) => (.error err, w.abort i)
  | (.ok answer, comments) =>
    let w := { w with
      db := w.db.write i comments
      written := w.written ++ w.write comments }
    (.ok answer,
      match statement with
      | .selectChallenge challengeId =>
        if w.db.committed.isOpen challengeId then
          { w with
            sharers := Function.update w.sharers challengeId (i :: w.sharers challengeId) }
        else w
      | .selectUser userId =>
        if (directory.activeUser userId).isSome then { w with db := w.db.lock i userId } else w
      | _ => w)

/-- An operation that succeeds. -/
def World.perform (directory : Directory) (w : World) (i : Nat) (now : Timestamp) (newId : Uuid) :
    (op : CommentOp) → Except ApiError (commentSig.Ans op) × World
  | .connect => (.ok (), w)
  | .client statement => w.client directory i newId statement
  | .start =>
    (.ok (), { w with db := w.db.start i, began := Function.update w.began i now })
  | .commit => (.ok (), w.commit i)
  | .rollback => (.ok (), w.abort i)
  | .softDelete challengeId => (.ok (), w.softDelete challengeId now)

/-- An operation that fails. -/
def World.fail (w : World) (i : Nat) (applied : Bool) (now : Timestamp) : CommentOp → World
  | .commit => if applied then w.commit i else w.abort i
  | .softDelete challengeId => if applied then w.softDelete challengeId now else w
  | _ => w.abort i

def machine (directory : Directory) (i : Nat) :
    Machine commentSig ApiError World CommentEnv where
  exec e op w :=
    match e with
    | .fails err applied now => (.error err, w.fail i applied now op)
    | .succeeds now newId => w.perform directory i now newId op

/-- Does an operation of connection `i` have to wait for another connection? -/
def World.waits (directory : Directory) (w : World) (i : Nat) : CommentOp → Bool
  | .client (.selectUser userId) =>
    (directory.activeUser userId).isSome && ((w.db.holder userId).any fun j => j ≠ i)
  | .softDelete challengeId => !(w.sharers challengeId).isEmpty
  | _ => false

/-- Can the operation have an effect? -/
def CommentEnv.takesEffect : CommentEnv → Bool
  | .fails _ applied _ => applied
  | .succeeds _ _ => true

/-- An operation takes effect only when it has not to wait. -/
def guard (directory : Directory) (i : Nat) (w : World) (op : CommentOp) (e : CommentEnv) : Prop :=
  e.takesEffect = true → w.waits directory i op = false

/-! ### Posting -/

abbrev Call (α : Type) := Prog commentSig ApiError α

def call (op : CommentOp) : Call (commentSig.Ans op) := Prog.call (S := commentSig) op

/-- `client.query(…)`. -/
def client (statement : Statement) : Call statement.Ans := call (.client statement)

/-- `transaction(work)`. -/
def transaction {α : Type} (work : Call α) : Call α :=
  Prog.transaction (call .connect) (call .start) (call .commit) (call .rollback) work

/-- `{ ...result.rows[0], display_name }`. -/
structure PostedComment where
  comment : ChallengeComment
  displayName : Text
deriving DecidableEq, Repr

def challengeNotFound : ApiError := createError "Challenge not found" 404

def commentSpam : ApiError :=
  createError "Please wait before posting another comment" 429 "COMMENT_SPAM"

/-- `user.rows[0].display_name` without a row. -/
def noUserRow : ApiError :=
  ⟨"Cannot read properties of undefined (reading 'display_name')".toList, none, none⟩

/-- From the lock on the user on. -/
def insertChecked (challengeId userId : Uuid) (body : Text) : Call PostedComment := do
  let user ← client (.selectUser userId)
  let recent ← client (.selectRecent userId body)
  if 5 ≤ recent.count || recent.duplicate then Prog.raise commentSpam
  else
    let comment ← client (.insertComment challengeId userId body)
    match user with
    | some displayName => return ⟨comment, displayName⟩
    | none => Prog.raise noUserRow

/-- What `addChallengeComment` does in its transaction. -/
def commentWork (challengeId userId : Uuid) (body : Text) : Call PostedComment := do
  let challenge ← client (.selectChallenge challengeId)
  if !challenge then Prog.raise challengeNotFound
  else insertChecked challengeId userId body

def addChallengeComment (challengeId userId : Uuid) (body : Text) :
    Call (Option PostedComment) := do
  let posted ← transaction (commentWork challengeId userId body)
  return some posted

def softDeleteChallenge (challengeId : Uuid) : Call (Option PostedComment) := do
  call (.softDelete challengeId)
  return none

/-- Any call. -/
def IsCall (p : Call (Option PostedComment)) : Prop :=
  (∃ challengeId userId body, p = addChallengeComment challengeId userId body) ∨
    ∃ challengeId, p = softDeleteChallenge challengeId

end BrandBlitz.Comments

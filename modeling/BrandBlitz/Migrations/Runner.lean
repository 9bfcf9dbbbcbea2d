import BrandBlitz.Lib.Crew
import BrandBlitz.Lib.Sql
import BrandBlitz.Lib.Transactions
import BrandBlitz.Paging.Cursor
import Mathlib.Order.Lex
import Mathlib.Data.List.Lex

/-!
# BrandBlitz.Migrations.Runner

**The migration runner** (`apps/api/scripts/migrate.ts`): `runUp` and `runDown`, each in a
`withLockedTransaction`.

* A process sees the files of its own deployment (`Directory`). What the SQL of a file does is its
  effect on the schema, which is there or not; `schema` lists the files whose effect is there in the
  order in which they were applied. Data definition is transactional.
* The first statement creates the runner's own tables if they are missing, and then others wait
  with theirs until that is committed or dropped. The lock is a row of one of these tables.
* `applied_at` is the start of the transaction.
* What `localeCompare` and the collation of the database compare are parameters (`Platform`).
* The history says which run made which commit (`commits`), and whether all was regular so far:
  every run that applies files has a directory that `fits`, and its rows were inserted by a
  transaction that started later than those of all rows there.
-/

namespace BrandBlitz.Migrations

open BrandBlitz.Lib
open BrandBlitz.Paging (Timestamp)
open BrandBlitz.Sessions (dbError)

/-! ### File names -/

structure Platform where
  /-- the sort key of `localeCompare` -/
  localeKey : Text → List Nat
  /-- the sort key of the collation of the database -/
  collationKey : Text → List Nat

/-- `entry.name.endsWith(".sql") && !entry.name.endsWith(".down.sql")`. -/
def isMigration (name : Text) : Bool :=
  ".sql".toList.isSuffixOf name && !".down.sql".toList.isSuffixOf name

/-- The digits at the start of a name. -/
def digits (name : Text) : Text := name.takeWhile Char.isDigit

/-- The sequence number of a file. -/
def sequence (name : Text) : Nat :=
  (digits name).foldl (fun n c => 10 * n + (c.toNat - '0'.toNat)) 0

/-- The double nearest to a number, `⊤` for `Infinity`. -/
def toDouble (n : Nat) : WithTop Nat :=
  let unit := 2 ^ (n.log2 - 52)
  let below := n / unit
  let up : Bool := unit < 2 * (n % unit) || (2 * (n % unit) = unit && below % 2 = 1)
  let rounded := (if up then below + 1 else below) * unit
  if rounded.log2 < 1024 then (rounded : WithTop Nat) else ⊤

/-- `Number.parseInt(name, 10)`, for a name that starts with a digit. -/
def parseInt (name : Text) : WithTop Nat := toDouble (sequence name)

/-- The files of a process's migrations directory, all of whose migrations are numbered. -/
structure Directory where
  names : List Text
  nodup : names.Nodup
  numbered : ∀ name ∈ names, isMigration name = true → digits name ≠ []

structure MigrationFile where
  file : Text
  /-- `downPath !== null` -/
  hasDown : Bool
deriving DecidableEq, Repr

/-- `file.replace(/\.sql$/, ".down.sql")`. -/
def downFile (file : Text) : Text := file.take (file.length - 4) ++ ".down.sql".toList

section

variable (platform : Platform)

/-- `Number.parseInt(a, 10) - Number.parseInt(b, 10) || a.localeCompare(b)`. -/
def fileKey (name : Text) : WithTop Nat ×ₗ List Nat :=
  toLex (parseInt name, platform.localeKey name)

def listMigrations (directory : Directory) : List MigrationFile :=
  (Sql.orderBy (fileKey platform) (directory.names.filter isMigration)).map fun file =>
    ⟨file, directory.names.contains (downFile file)⟩

/-- `localeCompare` and the collation put two names in the same order. -/
def Platform.agree (a b : Text) : Bool :=
  (platform.localeKey a < platform.localeKey b &&
      platform.collationKey a < platform.collationKey b) ||
    (platform.localeKey b < platform.localeKey a &&
      platform.collationKey b < platform.collationKey a)

/-- The largest `integer` of the database. -/
def maxInteger : Nat := 2147483647

/-- The numbers of the files are integers of the database, and files with the same number are put
in the same order on both sides. -/
def Directory.fits (directory : Directory) : Bool :=
  let files := directory.names.filter isMigration
  files.all (fun file => sequence file ≤ maxInteger) &&
    files.all fun a => files.all fun b => a == b || sequence a ≠ sequence b || platform.agree a b

end

/-! ### Tables -/

/-- A row of `schema_migrations`. -/
structure Row where
  version : Text
  appliedAt : Timestamp
deriving DecidableEq, Repr

structure Tables where
  /-- are the runner's own tables there, with the row of the lock? -/
  ready : Bool
  rows : List Row
  /-- the files whose effect is there -/
  schema : List Text
deriving DecidableEq, Repr

inductive Write where
  | createTables
  /-- the SQL of a file -/
  | up (file : Text)
  /-- the SQL of its `.down.sql` file -/
  | down (file : Text)
  | insertVersion (row : Row)
  | deleteVersion (version : Text)
deriving DecidableEq, Repr

def Tables.apply (tables : Tables) : Write → Tables
  | .createTables => { tables with ready := true }
  | .up file => { tables with schema := tables.schema ++ [file] }
  | .down file => { tables with schema := tables.schema.filter (· ≠ file) }
  | .insertVersion row => { tables with rows := tables.rows ++ [row] }
  | .deleteVersion version =>
    { tables with rows := tables.rows.filter fun row => row.version ≠ version }

inductive Statement where
  /-- `ensureMigrationTables` -/
  | ensureTables
  /-- `SELECT id FROM schema_migration_lock WHERE id = 1 FOR UPDATE` -/
  | lockRow
  /-- `getAppliedVersions` -/
  | selectApplied
  /-- `SELECT version FROM schema_migrations ORDER BY applied_at DESC, …` -/
  | selectNewest
  | up (file : Text)
  | insertVersion (version : Text)
  | down (file : Text)
  | deleteVersion (version : Text)
deriving DecidableEq, Repr

abbrev Statement.Ans : Statement → Type
  | .selectApplied | .selectNewest => List Text
  | _ => Unit

section

variable (platform : Platform)

/-- `applied_at ASC, version ASC`. -/
def appliedKey (row : Row) : Timestamp ×ₗ List Nat :=
  toLex (row.appliedAt, platform.collationKey row.version)

/-- `substring(version from '^[0-9]+')::integer`. -/
def integerOf (version : Text) : Except ApiError (Option Nat) :=
  if digits version = [] then .ok none
  else if sequence version ≤ maxInteger then .ok (some (sequence version))
  else .error (dbError "value out of range for type integer" "22003")

/-- A row with its integer. -/
abbrev NumberedRow := Row × Option Nat

/-- `applied_at`, the integer and `version`; `NULL` is larger than every integer. -/
def rowKey (row : NumberedRow) : Timestamp ×ₗ WithTop Nat ×ₗ List Nat :=
  toLex (row.1.appliedAt, toLex (Sql.nullsLast row.2, platform.collationKey row.1.version))

/-- The rows, the newest first. -/
def Tables.newest (tables : Tables) : Except ApiError (List Text) := do
  let rows ← tables.rows.mapM fun row => do
    let number ← integerOf row.version
    return (row, number)
  return (Sql.orderBy (fun row => OrderDual.toDual (rowKey platform row)) rows).map
    fun row => row.1.version

/-- The answer of a statement and what it writes, on the tables that it sees, in a transaction that
started at `now`. -/
def Statement.run (tables : Tables) (now : Timestamp) :
    (statement : Statement) → Except ApiError statement.Ans × List Write
  | .ensureTables => (.ok (), if tables.ready then [] else [.createTables])
  | .lockRow => (.ok (), [])
  | .selectApplied => (.ok ((Sql.orderBy (appliedKey platform) tables.rows).map Row.version), [])
  | .selectNewest => (tables.newest platform, [])
  | .up file => (.ok (), [.up file])
  | .insertVersion version =>
    if tables.rows.any fun row => row.version == version then
      (.error (dbError "duplicate key value violates unique constraint" "23505"), [])
    else (.ok (), [.insertVersion ⟨version, now⟩])
  | .down file => (.ok (), [.down file])
  | .deleteVersion version => (.ok (), [.deleteVersion version])

end

/-! ### The database and its connections -/

inductive Run where
  | up (directory : Directory)
  /-- `count` is what `Number.parseInt` made of the argument, `none` for `NaN` -/
  | down (directory : Directory) (count : Option Int)

inductive MigrateOp where
  /-- history: which run this is -/
  | enter (run : Run)
  | readdir
  | readFile (name : Text)
  | connect
  /-- on the connection of the run, as the next three -/
  | client (statement : Statement)
  | start
  | commit
  | rollback
  | analyze

abbrev migrateSig : Sig where
  Op := MigrateOp
  Ans
    | .client statement => statement.Ans
    | _ => Unit

inductive Lock where
  /-- the runner's own tables, while they are created -/
  | tables
  /-- the row of `schema_migration_lock` -/
  | row
deriving DecidableEq, Repr

structure Commit where
  program : Nat
  run : Option Run
  /-- the schema before and after -/
  before : List Text
  after : List Text
  /-- the files whose SQL was run, and those whose `.down.sql` file was run -/
  applied : List Text
  undone : List Text

structure World where
  db : TxStore Tables Write Lock
  /-- the start of the transaction of a connection -/
  began : Nat → Timestamp
  runs : Nat → Option Run
  commits : List Commit
  regular : Bool

def World.init : World := ⟨.idle ⟨false, [], []⟩, fun _ => 0, fun _ => none, [], true⟩

/-- What the world contributes to one operation. -/
inductive MigrateEnv where
  | fails (err : ApiError) (applied : Bool)
  | succeeds (now : Timestamp)
deriving DecidableEq, Repr

def Write.applied? : Write → Option Text
  | .up file => some file
  | _ => none

def Write.undone? : Write → Option Text
  | .down file => some file
  | _ => none

def World.abort (w : World) (i : Nat) : World := { w with db := w.db.abort i }

def World.commit (w : World) (i : Nat) : World :=
  { w with
    db := w.db.commit Tables.apply i
    commits := w.commits ++ [{
      program := i
      run := w.runs i
      before := w.db.committed.schema
      after := (w.db.view Tables.apply i).schema
      applied := ((w.db.writes i).getD []).filterMap Write.applied?
      undone := ((w.db.writes i).getD []).filterMap Write.undone? }] }

/-- Is what a statement does regular? -/
def World.inTurn (w : World) (i : Nat) : Statement → Bool
  | .insertVersion _ => w.db.committed.rows.all fun row => row.appliedAt < w.began i
  | _ => true

/-- A statement of the transaction of connection `i`. -/
def World.client (platform : Platform) (w : World) (i : Nat) (statement : Statement) :
    Except ApiError statement.Ans × World :=
  let tables := w.db.view Tables.apply i
  match statement.run platform tables (w.began i) with
  | (.error err, _) => (.error err, w.abort i)
  | (.ok answer, ws) =>
    let w := { w with
      db := w.db.write i ws
      regular := w.regular && w.inTurn i statement }
    (.ok answer,
      match statement with
      | .ensureTables => if tables.ready then w else { w with db := w.db.lock i .tables }
      | .lockRow => { w with db := w.db.lock i .row }
      | _ => w)

def Run.fits (platform : Platform) : Run → Bool
  | .up directory => directory.fits platform
  | .down _ _ => true

/-- An operation that succeeds. -/
def World.perform (platform : Platform) (w : World) (i : Nat) (now : Timestamp) :
    (op : MigrateOp) → Except ApiError (migrateSig.Ans op) × World
  | .enter run =>
    (.ok (), { w with
      runs := Function.update w.runs i (some run)
      regular := w.regular && run.fits platform })
  | .client statement => w.client platform i statement
  | .start =>
    (.ok (), { w with db := w.db.start i, began := Function.update w.began i now })
  | .commit => (.ok (), w.commit i)
  | .rollback => (.ok (), w.abort i)
  | .readdir | .readFile _ | .connect | .analyze => (.ok (), w)

/-- An operation that fails. -/
def World.fail (w : World) (i : Nat) (applied : Bool) : MigrateOp → World
  | .commit => if applied then w.commit i else w.abort i
  | .client _ | .start | .rollback => w.abort i
  | .enter _ | .readdir | .readFile _ | .connect | .analyze => w

def MigrateOp.isHistory : MigrateOp → Bool
  | .enter _ => true
  | _ => false

def machine (platform : Platform) (i : Nat) :
    Machine migrateSig ApiError World MigrateEnv where
  exec e op w :=
    match e with
    | .fails err applied =>
      if op.isHistory then w.perform platform i 0 op else (.error err, w.fail i applied op)
    | .succeeds now => w.perform platform i now op

/-- The connection that an operation of connection `i` has to wait for. -/
def World.blocker (w : World) (i : Nat) : MigrateOp → Option Nat
  | .client .ensureTables => (w.db.holder .tables).filter (· ≠ i)
  | .client .lockRow => (w.db.holder .row).filter (· ≠ i)
  | _ => none

def MigrateEnv.isSuccess : MigrateEnv → Bool
  | .fails _ _ => false
  | .succeeds _ => true

/-- An operation succeeds only when it has not to wait. -/
def guard (i : Nat) (w : World) (op : MigrateOp) (e : MigrateEnv) : Prop :=
  e.isSuccess = true → w.blocker i op = none

/-! ### The runs -/

abbrev Call (α : Type) := Prog migrateSig ApiError α

def call (op : MigrateOp) : Call (migrateSig.Ans op) := Prog.call (S := migrateSig) op

/-- `client.query(…)`. -/
def client (statement : Statement) : Call statement.Ans := call (.client statement)

def withLockedTransaction (handler : Call Unit) : Call Unit := do
  call .connect
  Prog.tryCatch
    (do
      call .start
      client .ensureTables
      client .lockRow
      handler
      call .commit)
    fun err => do
      call .rollback
      Prog.raise err

/-- The loop of `runUp`. -/
def applyAll : List MigrationFile → Call Unit
  | [] => return ()
  | migration :: pending => do
    call (.readFile migration.file)
    client (.up migration.file)
    client (.insertVersion migration.file)
    applyAll pending

def applyPending (migrations : List MigrationFile) : Call Unit := do
  let applied ← client .selectApplied
  applyAll (migrations.filter fun migration => !applied.contains migration.file)

def runUp (platform : Platform) (directory : Directory) : Call Unit := do
  call (.enter (.up directory))
  call .readdir
  withLockedTransaction (applyPending (listMigrations platform directory))
  call .analyze

def badCount : ApiError := ⟨"Rollback count must be a positive integer".toList, none, none⟩

def forwardOnly (version : Text) : ApiError :=
  ⟨"Migration ".toList ++ version ++ " is forward-only and cannot be rolled back".toList, none,
    none⟩

/-- The loop of `runDown`. -/
def rollBackAll (migrations : List MigrationFile) : List Text → Call Unit
  | [] => return ()
  | target :: targets => do
    if migrations.any fun migration => migration.file == target && migration.hasDown then
      call (.readFile (downFile target))
      client (.down target)
      client (.deleteVersion target)
      rollBackAll migrations targets
    else Prog.raise (forwardOnly target)

def rollBack (migrations : List MigrationFile) (count : Nat) : Call Unit := do
  let applied ← client .selectNewest
  rollBackAll migrations (applied.take count)

def runDown (platform : Platform) (directory : Directory) (count : Option Int) : Call Unit := do
  call (.enter (.down directory count))
  match count.filter (1 ≤ ·) with
  | none => Prog.raise badCount
  | some n =>
    call .readdir
    withLockedTransaction (rollBack (listMigrations platform directory) n.toNat)
    call .analyze

/-- Any run. -/
def IsRun (platform : Platform) (p : Call Unit) : Prop :=
  (∃ directory, p = runUp platform directory) ∨
    ∃ directory count, p = runDown platform directory count

end BrandBlitz.Migrations

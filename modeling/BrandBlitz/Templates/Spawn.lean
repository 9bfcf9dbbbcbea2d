import BrandBlitz.Lib.Crew
import BrandBlitz.Lib.Transactions
import BrandBlitz.Paging.Cursor

/-!
# BrandBlitz.Templates.Spawn

**Challenges from templates** (`spawnChallengeFromTemplate` of
`apps/api/src/services/challenge-templates.ts`).

* A call reads the template and the brand first, without a lock. Then it takes a connection of
  its own, locks the template's row, counts the challenges of the period, and inserts one with
  its questions if there is none.
* Everything on that connection is one transaction. The other statements (`query`) go to other
  connections of the pool and are transactions of their own. Among them is the one that marks
  the template when the challenge is there already.
* A statement that needs a row that another connection has locked waits until it gets the row
  or fails. A statement that fails has no effect; if it belongs to a transaction, the
  transaction is over. Who waited in vain, and for whom, is written to `waits`, and who has
  committed what to `commits`; nothing reads these two.
* The clock, the random numbers and the pure functions that compute a period and the questions
  are parameters. Columns that no statement reads are left out (`last_spawned_at`,
  `updated_at`).
-/

namespace BrandBlitz.Templates

open BrandBlitz.Lib
open BrandBlitz.Paging (Uuid Timestamp)
open BrandBlitz.Sessions (dbError)

/-! ### Tables -/

inductive RecurrenceRule where
  | daily | weekly | biweekly | monthly | custom
deriving DecidableEq, Repr

inductive ChallengeTemplateStatus where
  | active | paused | deleted
deriving DecidableEq, Repr

/-- A row of `challenge_templates`. -/
structure ChallengeTemplate where
  id : Uuid
  brandId : Uuid
  poolAmountStroops : Int
  maxPlayers : Option Int
  durationHours : Int
  recurrenceRule : RecurrenceRule
  status : ChallengeTemplateStatus
  lastSpawnedPeriod : Option Text
  deletedAt : Option Timestamp
deriving DecidableEq, Repr

/-- What a brand's `question_template` says about a round. -/
structure RoundTemplateOverride where
  questionText : Option Text
  promptType : Option Text
deriving DecidableEq, Repr

/-- A row of `brands`, with the columns that the questions are made of. -/
structure Brand where
  id : Uuid
  name : Text
  tagline : Option Text
  usp : Option Text
  productImageKeys : List Text
  questionTemplate : List (Nat × RoundTemplateOverride)
  createdAt : Timestamp
  deletedAt : Option Timestamp
deriving DecidableEq, Repr

/-- A row of `challenges`. -/
structure Challenge where
  id : Uuid
  brandId : Uuid
  challengeId : Text
  depositMemo : Text
  poolAmountStroops : Int
  maxPlayers : Option Int
  /-- in milliseconds, as the ISO text has it -/
  startsAt : Int
  endsAt : Int
  templateId : Option Uuid
  spawnedPeriod : Option Text
deriving DecidableEq, Repr

/-- A row of `challenge_questions`. -/
structure ChallengeQuestion where
  challengeId : Uuid
  round : Nat
  questionType : Text
  promptType : Text
  questionText : Text
  optionA : Text
  optionB : Text
  optionC : Text
  optionD : Text
  correctOption : Text
deriving DecidableEq, Repr

structure Tables where
  templates : Uuid → Option ChallengeTemplate
  brands : List Brand
  challenges : List Challenge
  questions : List ChallengeQuestion

/-- `template_id = $1 AND spawned_period = $2`. -/
def Challenge.isSpawned (templateId : Uuid) (period : Text) (challenge : Challenge) : Bool :=
  challenge.templateId = some templateId && challenge.spawnedPeriod = some period

def Tables.spawned (tables : Tables) (templateId : Uuid) (period : Text) : List Challenge :=
  tables.challenges.filter (Challenge.isSpawned templateId period)

/-! ### Statements -/

inductive Statement where
  | getChallengeTemplateById (id : Uuid)
  | getBrandById (id : Uuid)
  /-- `SELECT id FROM challenge_templates WHERE id = $1 FOR UPDATE` -/
  | lockTemplate (id : Uuid)
  /-- `SELECT COUNT(*)::int AS count FROM challenges WHERE …` -/
  | countSpawned (templateId : Uuid) (period : Text)
  /-- the row as the database makes it, for an id that it draws -/
  | insertChallenge (row : Uuid → Challenge)
  | getActiveDistractorBrands (excludeBrandId : Uuid)
  | insertQuestion (row : ChallengeQuestion)
  /-- `UPDATE challenge_templates SET last_spawned_period = $1, …` -/
  | updateTemplate (period : Text) (id : Uuid)

abbrev Statement.Ans : Statement → Type
  | .getChallengeTemplateById _ => Option ChallengeTemplate
  | .getBrandById _ => Option Brand
  | .lockTemplate _ => Bool
  | .countSpawned _ _ => Nat
  | .insertChallenge _ => Challenge
  | .getActiveDistractorBrands _ => List Brand
  | .insertQuestion _ => Unit
  | .updateTemplate _ _ => Unit

/-- One row that is written. -/
inductive Write where
  | insertChallenge (row : Challenge)
  | insertQuestion (row : ChallengeQuestion)
  | updateTemplate (period : Text) (id : Uuid)

def Tables.apply (tables : Tables) : Write → Tables
  | .insertChallenge row => { tables with challenges := tables.challenges ++ [row] }
  | .insertQuestion row => { tables with questions := tables.questions ++ [row] }
  | .updateTemplate period id =>
    { tables with
      templates := Function.update tables.templates id
        ((tables.templates id).map fun template =>
          { template with lastSpawnedPeriod := some period }) }

/-- The answer of a statement and what it writes, on the tables that it sees. -/
def Statement.run (id : Uuid) (tables : Tables) :
    (statement : Statement) → Except ApiError statement.Ans × List Write
  | .getChallengeTemplateById templateId =>
    (.ok ((tables.templates templateId).filter fun template => template.deletedAt.isNone), [])
  | .getBrandById brandId =>
    (.ok (tables.brands.find? fun brand => brand.id = brandId && brand.deletedAt.isNone), [])
  | .lockTemplate templateId => (.ok (tables.templates templateId).isSome, [])
  | .countSpawned templateId period => (.ok (tables.spawned templateId period).length, [])
  | .insertChallenge row => (.ok (row id), [.insertChallenge (row id)])
  | .getActiveDistractorBrands excludeBrandId =>
    (.ok ((Sql.orderBy (fun brand => OrderDual.toDual brand.createdAt)
      (tables.brands.filter fun brand =>
        brand.id ≠ excludeBrandId && brand.deletedAt.isNone)).take 20), [])
  | .insertQuestion row =>
    -- `UNIQUE (challenge_id, round)`
    if tables.questions.any fun other =>
        other.challengeId = row.challengeId && other.round = row.round then
      (.error (dbError "duplicate key value violates unique constraint" "23505"), [])
    else (.ok (), [.insertQuestion row])
  | .updateTemplate period templateId => (.ok (), [.updateTemplate period templateId])

/-! ### The database and its connections -/

inductive SpawnOp where
  /-- on any connection of the pool -/
  | query (statement : Statement)
  | connect
  /-- on the connection of the call, as the next three -/
  | client (statement : Statement)
  | start
  | commit
  | rollback

abbrev SpawnOp.Ans : SpawnOp → Type
  | .query statement | .client statement => statement.Ans
  | .connect | .start | .commit | .rollback => Unit

abbrev spawnSig : Sig := ⟨SpawnOp, SpawnOp.Ans⟩

structure World where
  db : TxStore Tables Write Uuid
  commits : List (Nat × List Write)
  waits : List (Nat × Nat)

def World.init (tables : Tables) : World := ⟨.idle tables, [], []⟩

/-- What the world contributes to one operation. -/
inductive SpawnEnv where
  | fails (err : ApiError)
  /-- with the id of a new row -/
  | succeeds (id : Uuid)

instance : Inhabited SpawnEnv := ⟨.succeeds 0⟩

/-- The row of a template that a statement needs for itself. -/
def Statement.locks (id : Uuid) : Statement → Option Uuid
  | .lockTemplate templateId | .updateTemplate _ templateId => some templateId
  -- the foreign key of the new row
  | .insertChallenge row => (row id).templateId
  | _ => none

/-- The connection that an operation of call `i` has to wait for. Only the statements on its own
connection can use the locks that it has. -/
def World.blocker (w : World) (i : Nat) (id : Uuid) : SpawnOp → Option Nat
  | .query statement => (statement.locks id).bind w.db.holder
  | .client statement => ((statement.locks id).bind w.db.holder).filter (· ≠ i)
  | _ => none

/-- A statement of the pool: a transaction of its own. -/
def World.query (w : World) (i : Nat) (id : Uuid) (statement : Statement) :
    Except ApiError statement.Ans × World :=
  let (answer, ws) := statement.run id w.db.committed
  (answer,
    if ws.isEmpty then w
    else
      { w with
        db := { w.db with committed := ws.foldl Tables.apply w.db.committed }
        commits := w.commits ++ [(i, ws)] })

/-- The row that a statement locks for its transaction. -/
def Statement.locksRow (tables : Tables) : Statement → Option Uuid
  | .lockTemplate templateId | .updateTemplate _ templateId =>
    (tables.templates templateId).map fun _ => templateId
  | _ => none

/-- A statement of the transaction of call `i`. -/
def World.client (w : World) (i : Nat) (id : Uuid) (statement : Statement) :
    Except ApiError statement.Ans × World :=
  let (answer, ws) := statement.run id (w.db.view Tables.apply i)
  (answer,
    { w with
      db := match answer with
        | .error _ => w.db.abort i
        | .ok _ =>
          match statement.locksRow (w.db.view Tables.apply i) with
          | some templateId => (w.db.write i ws).lock i templateId
          | none => w.db.write i ws })

/-- An operation that fails, and what is left of the transaction. -/
def World.fail (w : World) (i : Nat) (op : SpawnOp) : World :=
  { w with
    db := match op with
      | .query _ | .connect => w.db
      | _ => w.db.abort i
    waits := w.waits ++ ((w.blocker i 0 op).map fun j => (i, j)).toList }

def machine (i : Nat) : Machine spawnSig ApiError World SpawnEnv where
  exec e op w :=
    match e with
    | .fails err => (.error err, w.fail i op)
    | .succeeds id =>
      match op with
      | .query statement => w.query i id statement
      | .client statement => w.client i id statement
      | .connect => (.ok (), w)
      | .start => (.ok (), { w with db := w.db.start i })
      | .commit =>
        (.ok (),
          { w with
            db := w.db.commit Tables.apply i
            commits := w.commits ++ [(i, (w.db.writes i).getD [])] })
      | .rollback => (.ok (), { w with db := w.db.abort i })

/-- Is the id new, among the challenges and among those about to be inserted? -/
def World.IsNewId (w : World) (id : Uuid) : Prop :=
  (∀ challenge ∈ w.db.committed.challenges, challenge.id ≠ id) ∧
    ∀ j ws challenge, w.db.writes j = some ws → .insertChallenge challenge ∈ ws →
      challenge.id ≠ id

/-- An operation succeeds only when it has not to wait; the ids of new rows are new. -/
def guard (i : Nat) (w : World) (op : SpawnOp) : SpawnEnv → Prop
  | .fails _ => True
  | .succeeds id =>
    w.blocker i id op = none ∧
      match op with
      | .query (.insertChallenge _) | .client (.insertChallenge _) => w.IsNewId id
      | _ => True

/-! ### Spawning -/

/-- What `computeNextPeriodForTemplate` returns. -/
structure NextPeriod where
  periodKey : Text
  startsAt : Int
  endsAt : Int
deriving DecidableEq, Repr

structure Deps where
  computeNextPeriodForTemplate : ChallengeTemplate → Int → NextPeriod
  /-- for random numbers that are drawn -/
  generateChallengeQuestions : Nat → Uuid → Brand → List Brand → List ChallengeQuestion
  /-- `challenge_id: challengeId` -/
  questions_challengeId : ∀ random challengeId brand distractorPool,
    ∀ q ∈ generateChallengeQuestions random challengeId brand distractorPool,
      q.challengeId = challengeId

/-- What a call draws and reads off the clock. -/
structure Draw where
  now : Int
  /-- `randomUUID()` -/
  challengeId : Text
  depositMemo : Text
  random : Nat
deriving DecidableEq, Repr

structure SpawnOpts where
  forcePeriod : Option Text
  startsAtOverride : Option Int
deriving DecidableEq, Repr

/-- `!opts?.forcePeriod` is false for a text that is not empty. -/
def SpawnOpts.isForced (opts : SpawnOpts) : Bool :=
  opts.forcePeriod.any fun period => !period.isEmpty

structure SpawnedChallengeFromTemplate where
  challenge : Challenge
  depositMemo : Text
  periodKey : Text
deriving DecidableEq, Repr

def spawnPeriodKey (deps : Deps) (draw : Draw) (template : ChallengeTemplate)
    (opts : SpawnOpts) : Text :=
  opts.forcePeriod.getD (deps.computeNextPeriodForTemplate template draw.now).periodKey

/-- The values of the `INSERT INTO challenges`. -/
def newChallenge (deps : Deps) (draw : Draw) (templateId : Uuid) (opts : SpawnOpts)
    (template : ChallengeTemplate) (id : Uuid) : Challenge :=
  let startsAt :=
    opts.startsAtOverride.getD (deps.computeNextPeriodForTemplate template draw.now).startsAt
  { id := id
    brandId := template.brandId
    challengeId := draw.challengeId
    depositMemo := draw.depositMemo
    poolAmountStroops := template.poolAmountStroops
    maxPlayers := template.maxPlayers
    startsAt := startsAt
    endsAt := startsAt + template.durationHours * 60 * 60 * 1000
    templateId := some templateId
    spawnedPeriod := some (spawnPeriodKey deps draw template opts) }

abbrev Call (α : Type) := Prog spawnSig ApiError α

/-- `query(…)`. -/
def query (statement : Statement) : Call statement.Ans :=
  Prog.call (S := spawnSig) (.query statement)

/-- `client.query(…)`. -/
def client (statement : Statement) : Call statement.Ans :=
  Prog.call (S := spawnSig) (.client statement)

def connect : Call Unit := Prog.call (S := spawnSig) .connect

/-- `client.query("BEGIN")`. -/
def start : Call Unit := Prog.call (S := spawnSig) .start

/-- `client.query("COMMIT")`. -/
def commit : Call Unit := Prog.call (S := spawnSig) .commit

/-- `client.query("ROLLBACK")`. -/
def rollback : Call Unit := Prog.call (S := spawnSig) .rollback

def markTemplateSpawned (id : Uuid) (period : Text) : Call Unit :=
  query (.updateTemplate period id)

/-- From the `INSERT` on. -/
def insertSpawned (deps : Deps) (draw : Draw) (templateId : Uuid) (opts : SpawnOpts)
    (template : ChallengeTemplate) (brand : Brand) : Call (Option SpawnedChallengeFromTemplate) :=
  do
    let periodKey := spawnPeriodKey deps draw template opts
    let challenge ← client (.insertChallenge (newChallenge deps draw templateId opts template))
    let distractorBrands ← query (.getActiveDistractorBrands template.brandId)
    Prog.forEach
      (deps.generateChallengeQuestions draw.random challenge.id brand distractorBrands)
      fun question => client (.insertQuestion question)
    client (.updateTemplate periodKey templateId)
    commit
    return some ⟨challenge, draw.depositMemo, periodKey⟩

/-- The body of the `try`. -/
def spawnInTransaction (deps : Deps) (draw : Draw) (templateId : Uuid) (opts : SpawnOpts)
    (template : ChallengeTemplate) (brand : Brand) : Call (Option SpawnedChallengeFromTemplate) :=
  do
    let periodKey := spawnPeriodKey deps draw template opts
    start
    let locked ← client (.lockTemplate templateId)
    if locked then
      let already ← client (.countSpawned templateId periodKey)
      if 0 < already then
        markTemplateSpawned templateId periodKey
        commit
        return none
      else insertSpawned deps draw templateId opts template brand
    else
      rollback
      return none

/-- The transaction with its `catch`. -/
def spawnOnClient (deps : Deps) (draw : Draw) (templateId : Uuid) (opts : SpawnOpts)
    (template : ChallengeTemplate) (brand : Brand) : Call (Option SpawnedChallengeFromTemplate) :=
  (spawnInTransaction deps draw templateId opts template brand).tryCatch fun err => do
    rollback
    Prog.raise err

def spawnChallengeFromTemplate (deps : Deps) (draw : Draw) (templateId : Uuid)
    (opts : SpawnOpts) : Call (Option SpawnedChallengeFromTemplate) := do
  let template ← query (.getChallengeTemplateById templateId)
  match template with
  | none => return none
  | some template =>
    if template.status = .deleted || template.deletedAt.isSome then return none
    else
      let brand ← query (.getBrandById template.brandId)
      match brand with
      | none => return none
      | some brand =>
        if template.lastSpawnedPeriod = some (spawnPeriodKey deps draw template opts) &&
            !opts.isForced then
          return none
        else
          connect
          spawnOnClient deps draw templateId opts template brand

end BrandBlitz.Templates

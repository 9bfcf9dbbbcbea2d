import BrandBlitz.Sessions.Answer

/-!
# BrandBlitz.Sessions.Lobby

**The sessions of all players**, from the warm-up on: the table `game_sessions` with the
statements that write it (`apps/api/src/db/queries/sessions.ts`,
`apps/api/src/middleware/anti-cheat.ts`, `apps/api/src/middleware/error.ts`), the keys that the
warm-up leaves in Redis, and the calls that the routes await.

* A statement takes effect at one point in time. On the columns that the answer route knows it
  is the statement of `BrandBlitz.Sessions.Table`, applied to each row as to the only one.
* The calls of the answer route are calls here too (`LobbyOp.answer`).
* `NOW()`, `Date.now()` and the clock of Redis are one clock, in milliseconds. Time passes
  before every call.
* `gen_random_uuid()` is drawn by the environment. A UUID is never drawn twice, so a draw that
  was there before is answered as a duplicate key.
-/

namespace BrandBlitz.Sessions

open BrandBlitz.Lib

/-! ### Rows -/

inductive AbandonReason where
  | timeout | error | explicit
deriving DecidableEq, Repr

/-- A row of `game_sessions` with its rows of `session_round_scores`. -/
structure SessionRow where
  session : GameSession
  roundScores : Round → Option RoundRecord
  deviceId : Option Text
  variantId : Option Id
  tierId : Option Id
  warmupStartedAt : Option Nat
  warmupCompletedAt : Option Nat
  createdAt : Nat
  abandonReason : Option AbandonReason
  flagReasons : List Text
  /-- history: the statuses the session has had, the present one first -/
  trail : List Status

/-- What a session is inserted with. -/
structure SessionData where
  userId : Id
  challengeId : Id
  deviceId : Option Text
  isPractice : Bool
  variantId : Option Id
  tierId : Option Id

def SessionRow.fresh (data : SessionData) (id : Id) (now : Nat) : SessionRow where
  session := .new id data.userId data.challengeId data.isPractice
  roundScores _ := none
  deviceId := data.deviceId
  variantId := data.variantId
  tierId := data.tierId
  warmupStartedAt := none
  warmupCompletedAt := none
  createdAt := now
  abandonReason := none
  flagReasons := []
  trail := [.warmup]

/-- `user_id = $1 AND challenge_id = $2`. -/
def SessionRow.isOf (userId challengeId : Id) (row : SessionRow) : Bool :=
  row.session.userId = userId && row.session.challengeId = challengeId

/-- `status IN ('warmup', 'active')`. -/
def SessionRow.isOpen (row : SessionRow) : Bool :=
  row.session.status = .warmup || row.session.status = .active

def SessionRow.isAbandoned (row : SessionRow) : Bool := row.session.status = .abandoned

/-- The columns of the session are written; a change of status goes down in history. -/
def SessionRow.setSession (row : SessionRow) (session : GameSession) : SessionRow :=
  { row with
    session := session
    trail :=
      if session.status = row.session.status then row.trail else session.status :: row.trail }

/-- The tables with this row as the only session. -/
def SessionRow.alone (row : SessionRow) (db : Db) : Db :=
  { db with session := some row.session, roundScores := row.roundScores }

/-- The row as a statement left it. -/
def SessionRow.after (row : SessionRow) (db : Db) : SessionRow :=
  match db.session with
  | some session => { row.setSession session with roundScores := db.roundScores }
  | none => row

/-- What a statement on the session does to the row. -/
def SessionRow.run (row : SessionRow) (db : Db) (statement : Db → Db) : SessionRow :=
  row.after (statement (row.alone db))

/-- `status = 'abandoned'`, of an open session. -/
def SessionRow.abandon (row : SessionRow) (db : Db) (reason : AbandonReason) (now : Nat) :
    SessionRow :=
  if row.isOpen then
    { row.run db (·.abandonSession now) with abandonReason := some reason }
  else row

/-- Has nothing happened for two hours? -/
def SessionRow.timedOut (row : SessionRow) (now : Nat) : Bool :=
  ((row.session.challengeStartedAt <|> row.warmupStartedAt).getD row.createdAt) + 7200000 < now

/-! ### The world -/

/-- A value in Redis and the last instant at which it is there. -/
structure Kept (α : Type) where
  value : α
  last : Nat

/-- `GET`. -/
def Kept.get {α : Type} (kept : Option (Kept α)) (now : Nat) : Option α :=
  kept.bind fun k => if now ≤ k.last then some k.value else none

/-- A set in Redis; it stays if it was never told to expire. -/
structure Accounts where
  members : List Id
  last : Option Nat

inductive LobbyResponse where
  /-- answered by `authenticate` or by the answer route -/
  | answered (response : Response)
  /-- answered by the error handler -/
  | failed (err : ApiError)
  /-- answered by `challengeStartLimiter` -/
  | tooMany
  | warmupStarted (sessionId : Id) (unlockAt : Nat)
  | warmupCompleted (challengeToken : Text)
  | started (sessionId : Id) (startsAt : Nat)
  | forfeited
deriving DecidableEq

structure Lobby where
  rows : List SessionRow
  /-- what else the answer route uses; the session of these tables does not count -/
  rest : World
  clock : Nat
  /-- history: the UUIDs that were drawn -/
  ids : List Id
  /-- the accounts that are not deleted: is the account suspended? -/
  users : Id → Option Bool
  /-- the challenges with the status `active` -/
  active : List Id
  /-- the active variants of a challenge -/
  variants : Id → List Id
  tiers : Id → List Id
  /-- `fp:…:accounts` -/
  fingerprints : Text → Accounts
  /-- `warmup:unlock:…` -/
  unlocks : Id → Option (Kept Nat)
  /-- `challenge-token:…` -/
  challengeTokens : Text → Option (Kept Id)
  /-- history: the responses, the latest first -/
  responses : List LobbyResponse

/-- What a request or a job awaits. -/
inductive LobbyOp where
  | answer (op : Op)
  | dateNow
  | findUserById (id : Id)
  | getChallengeById (id : Id)
  | selectOptions (challengeId : Id) (tierId : Option Id)
  | claimSession (data : SessionData)
  /-- the CTE that deletes an abandoned session and inserts a fresh one -/
  | replaceAbandoned (data : SessionData)
  /-- `req.session = session`, which is no call -/
  | attachSession (userId challengeId : Id) (session : GameSession)
  | sadd (key : Text) (userId : Id)
  | expire (key : Text)
  | scard (key : Text)
  | markWarmupStarted (sessionId : Id)
  | setUnlock (sessionId : Id) (unlockAt : Nat)
  | getUnlock (sessionId : Id)
  | markWarmupCompleted (sessionId : Id)
  | setChallengeToken (token : Text) (sessionId : Id)
  | getChallengeToken (token : Text)
  | delChallengeToken (token : Text)
  | challengeStartLimiter (userId : Id)
  | sessionStartAllowed (userId : Id)
  | markChallengeStarted (sessionId : Id)
  | setLastActive (userId : Id)
  | setSessionStart (sessionId : Id) (now : Nat)
  | setSessionToken (sessionId : Id) (token : Text)
  | abandonSession (userId challengeId : Id) (reason : AbandonReason)
  /-- the statement of the error handler -/
  | abandonOnError (sessionId : Id)
  | markAbandonedSessions
  | flagSession (sessionId : Id) (reasons : List Text)
  | respond (response : LobbyResponse)

abbrev lobbySig : Sig where
  Op := LobbyOp
  Ans
    | .answer op => answerSig.Ans op
    | .dateNow => Nat
    | .findUserById _ => Option Bool
    | .getChallengeById _ => Option (Id × Bool)
    | .selectOptions .. => Option Id × Option Id
    | .claimSession _ | .replaceAbandoned _ => Option GameSession
    | .scard _ => Nat
    | .getUnlock _ => Option Nat
    | .getChallengeToken _ => Option Id
    | .challengeStartLimiter _ | .sessionStartAllowed _ | .abandonSession .. => Bool
    | .markAbandonedSessions => Nat
    | .attachSession .. | .sadd .. | .expire _ | .markWarmupStarted _ | .setUnlock ..
    | .markWarmupCompleted _ | .setChallengeToken .. | .delChallengeToken _
    | .markChallengeStarted _ | .setLastActive _ | .setSessionStart .. | .setSessionToken ..
    | .abandonOnError _ | .flagSession .. | .respond _ => Unit

/-- What the environment contributes to one call. -/
structure LobbyEnv where
  fault : Option Fault
  /-- the time that passes before the call -/
  elapsed : Nat
  newId : Id
  /-- which row a `LIMIT 1` takes -/
  pick : Nat
  /-- does a limiter let the request through? -/
  allowed : Bool

/-! ### Statements on the table -/

/-- `INSERT … ON CONFLICT (user_id, challenge_id) DO NOTHING RETURNING *`. -/
def Lobby.claimSession (w : Lobby) (newId : Id) (data : SessionData) :
    Except ApiError (Option GameSession) × Lobby :=
  if w.rows.any (·.isOf data.userId data.challengeId) then (.ok none, w)
  else if w.ids.contains newId then
    (.error (dbError "duplicate key value violates unique constraint" "23505"), w)
  else
    let row := SessionRow.fresh data newId w.clock
    (.ok (some row.session), { w with rows := w.rows ++ [row], ids := newId :: w.ids })

/-- The row that the CTE deletes. -/
def SessionRow.replaceable (data : SessionData) (row : SessionRow) : Bool :=
  row.isOf data.userId data.challengeId && row.isAbandoned

/-- What the deletion leaves. -/
def Lobby.withoutAbandoned (w : Lobby) (data : SessionData) : Lobby :=
  { w with rows := w.rows.filter fun row => !row.replaceable data }

/-- The CTE of `enforceOneSessionPerChallenge`: what it deletes is no conflict for what it
inserts. -/
def Lobby.replaceAbandoned (w : Lobby) (newId : Id) (data : SessionData) :
    Except ApiError (Option GameSession) × Lobby :=
  if w.rows.any (SessionRow.replaceable data) then
    match (w.withoutAbandoned data).claimSession newId data with
    | (.error err, _) => (.error err, w)
    | answered => answered
  else (.ok none, w)

/-- `UPDATE game_sessions SET … WHERE …`. -/
def Lobby.update (w : Lobby) (condition : SessionRow → Bool) (set : SessionRow → SessionRow) :
    Lobby :=
  { w with rows := w.rows.map fun row => if condition row then set row else row }

/-- `WHERE id = $1`. -/
def SessionRow.hasId (sessionId : Id) (row : SessionRow) : Bool := row.session.id = sessionId

def Lobby.markWarmupCompleted (w : Lobby) (sessionId : Id) : Except ApiError Unit × Lobby :=
  let condition (row : SessionRow) := row.hasId sessionId && row.warmupCompletedAt.isNone
  if w.rows.any condition then
    (.ok (), w.update condition fun row => { row with warmupCompletedAt := some w.clock })
  else (.error ⟨"Warmup already completed or session not found".toList, none, none⟩, w)

/-- The session that a call of the answer route is about. -/
def Lobby.addressed (w : Lobby) : Op → Option SessionRow
  | .getSession userId challengeId => w.rows.find? (·.isOf userId challengeId)
  | .recordRoundScore sessionId .. | .finishSession sessionId | .storeSessionHmac sessionId _ =>
      w.rows.find? (·.hasId sessionId)
  | _ => none

/-- The world of the answer route, with this session. -/
def Lobby.world (w : Lobby) : Option SessionRow → World
  | some row => { w.rest with db := row.alone w.rest.db }
  | none => { w.rest with db := { w.rest.db with session := none, roundScores := fun _ => none } }

/-- A call of the answer route. -/
def Lobby.answer (w : Lobby) (op : Op) : Except ApiError (answerSig.Ans op) × Lobby :=
  let e : Env := ⟨none, w.clock⟩
  let answered := perform e op (w.world (w.addressed op))
  (answered.1, { w with
    rest := answered.2
    rows := w.rows.map fun row => row.after (perform e op (w.world (some row))).2.db })

/-! ### Keys in Redis -/

/-- The members of a set that is still there. -/
def Lobby.accounts (w : Lobby) (key : Text) : Accounts :=
  if (w.fingerprints key).last.all fun last => w.clock ≤ last then w.fingerprints key
  else ⟨[], none⟩

def Lobby.setAccounts (w : Lobby) (key : Text) (accounts : Accounts) : Lobby :=
  { w with fingerprints := Function.update w.fingerprints key accounts }

/-- An operation as the services perform it. -/
def performLobby (e : LobbyEnv) :
    (op : LobbyOp) → Lobby → Except ApiError (lobbySig.Ans op) × Lobby
  | .answer op, w => w.answer op
  | .dateNow, w => (.ok w.clock, w)
  | .findUserById id, w => (.ok (w.users id), w)
  | .getChallengeById id, w =>
      (.ok (if w.rest.challenges.contains id then some (id, w.active.contains id) else none), w)
  | .selectOptions challengeId tierId, w =>
      let variants := w.variants challengeId
      let tiers := (w.tiers challengeId).filter fun id => tierId.all fun wanted => id = wanted
      (.ok (variants[e.pick % variants.length]?, tiers[e.pick % tiers.length]?), w)
  | .claimSession data, w => w.claimSession e.newId data
  | .replaceAbandoned data, w => w.replaceAbandoned e.newId data
  | .attachSession .., w => (.ok (), w)
  | .sadd key userId, w =>
      let accounts := w.accounts key
      (.ok (), w.setAccounts key { accounts with members := accounts.members.insert userId })
  | .expire key, w =>
      (.ok (), w.setAccounts key { w.accounts key with last := some (w.clock + 86400000) })
  | .scard key, w => (.ok (w.accounts key).members.length, w)
  | .markWarmupStarted sessionId, w =>
      (.ok (), w.update (·.hasId sessionId) fun row =>
        { row with warmupStartedAt := row.warmupStartedAt <|> some w.clock })
  | .setUnlock sessionId unlockAt, w =>
      (.ok (), { w with
        unlocks := Function.update w.unlocks sessionId (some ⟨unlockAt, w.clock + 300000⟩) })
  | .getUnlock sessionId, w => (.ok (Kept.get (w.unlocks sessionId) w.clock), w)
  | .markWarmupCompleted sessionId, w => w.markWarmupCompleted sessionId
  | .setChallengeToken token sessionId, w =>
      (.ok (), { w with
        challengeTokens :=
          Function.update w.challengeTokens token (some ⟨sessionId, w.clock + 600000⟩) })
  | .getChallengeToken token, w => (.ok (Kept.get (w.challengeTokens token) w.clock), w)
  | .delChallengeToken token, w =>
      (.ok (), { w with challengeTokens := Function.update w.challengeTokens token none })
  | .challengeStartLimiter _, w => (.ok e.allowed, w)
  | .sessionStartAllowed _, w => (.ok e.allowed, w)
  | .markChallengeStarted sessionId, w =>
      (.ok (), w.update (·.hasId sessionId) fun row =>
        row.run w.rest.db (·.markChallengeStarted w.clock sessionId))
  | .setLastActive _, w => (.ok (), w)
  | .setSessionStart .., w => (.ok (), w)
  | .setSessionToken .., w => (.ok (), w)
  | .abandonSession userId challengeId reason, w =>
      let condition (row : SessionRow) := row.isOf userId challengeId && row.isOpen
      (.ok (w.rows.any condition),
        w.update condition fun row => row.abandon w.rest.db reason w.clock)
  | .abandonOnError sessionId, w =>
      (.ok (), w.update (·.hasId sessionId) fun row => row.abandon w.rest.db .error w.clock)
  | .markAbandonedSessions, w =>
      let condition (row : SessionRow) := row.isOpen && row.timedOut w.clock
      (.ok (w.rows.countP condition),
        w.update condition fun row => row.abandon w.rest.db .timeout w.clock)
  | .flagSession sessionId reasons, w =>
      (.ok (), w.update (·.hasId sessionId) fun row =>
        { row.run w.rest.db (·.flagSession sessionId) with
          flagReasons := row.flagReasons ++ reasons })
  | .respond response, w => (.ok (), { w with responses := response :: w.responses })

/-- What is no call to a service does not fail. -/
def LobbyOp.infallible : LobbyOp → Bool
  | .dateNow | .attachSession .. | .respond _ => true
  | _ => false

/-- The time before a call has passed. -/
def Lobby.later (w : Lobby) (e : LobbyEnv) : Lobby := { w with clock := w.clock + e.elapsed }

/-- The database and Redis. -/
def lobbyMachine : Machine lobbySig ApiError Lobby LobbyEnv where
  exec e op w :=
    match e.fault with
    | some fault =>
      if op.infallible then performLobby e op (w.later e)
      else (.error fault.err, if fault.applied then (performLobby e op (w.later e)).2
        else w.later e)
    | none => performLobby e op (w.later e)

end BrandBlitz.Sessions

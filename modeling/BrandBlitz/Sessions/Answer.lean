import BrandBlitz.Sessions.Table

/-!
# BrandBlitz.Sessions.Answer

**The answer route** `POST /sessions/:challengeId/answer/:round`
(`apps/api/src/routes/sessions.ts`) with its middleware `authenticate` and
`validateReactionTime`.

A request reads the session once and decides by that copy whether the session is completed
and the round answered; the statements it awaits afterwards do not look again.

* What is behind a call that only the route's callers see is left to the environment:
  tokens are verified before the model starts, and `updateStreak`,
  `checkAndAwardSessionBadges` and `revalidateLeaderboard` are one call each.
* `notifyOvertakenParticipants` is started and not awaited; it writes notifications only.
* Keys that the route deletes and nothing here reads have no place in the world.
-/

namespace BrandBlitz.Sessions

open BrandBlitz.Lib

/-! ### Requests and responses -/

/-- The payload of a token that `jwt.verify` accepts, for this issuer and audience. -/
structure AuthPayload where
  sub : Id
  isImpersonated : Bool

/-- What the route reads of a request. -/
structure Request where
  /-- is there an API key in the headers? -/
  apiKey : Bool
  /-- the bearer token -/
  token : Option Text
  /-- what the token is verified to, if it is valid -/
  payload : Option AuthPayload
  challengeId : Id
  /-- `parseInt(req.params.round)`, `none` for `NaN` -/
  round : Option Int
  /-- `req.body.selectedOption`, `none` if the schema does not accept it -/
  selectedOption : Option (Option Choice)
  /-- `req.body.reactionTimeMs`, `none` if it is no integer -/
  reactionTimeMs : Option Int

inductive Response where
  /-- answered by `authenticate` -/
  | denied (status : Nat) (error : String) (code : Option String)
  /-- the stored result of round 3 again -/
  | replayed (correct : Bool) (score totalScore : Nat) (rank : Option Nat)
  | scored (correct : Bool) (score : Nat) (round : Round) (sessionId : Option Id)
deriving DecidableEq, Repr

structure ChallengeQuestion where
  round : Round
  correctOption : Choice

structure AntiCheatThresholds where
  minHumanReactionMs : Int
  maxHumanReactionMs : Int

/-- `MIN_HUMAN_REACTION_MS` and `MAX_HUMAN_REACTION_MS`. -/
def defaultThresholds : AntiCheatThresholds := ⟨150, 30000⟩

def BOT_REACTION_THRESHOLD_MS : Int := 80

/-- What the route is configured with. -/
structure Config where
  /-- `SESSION_INTEGRITY_KEY`, empty if it is not set -/
  sessionIntegrityKey : Text
  /-- `createHmac("sha256", key).update(text).digest("hex")` -/
  hmacSha256 : Text → Text → Text
  /-- the text of a date in a template -/
  dateText : Nat → Text

def computeSessionHmac (config : Config) (sessionId : Id) (totalScore completedAt : Nat) : Text :=
  if config.sessionIntegrityKey.isEmpty then []
  else
    config.hmacSha256 config.sessionIntegrityKey
      (sessionId ++ ':' :: Nat.toDigits 10 totalScore ++ ':' :: config.dateText completedAt)

/-! ### The world -/

structure World where
  db : Db
  /-- the challenges that are not deleted -/
  challenges : List Id
  questions : Id → List ChallengeQuestion
  /-- `auth:revoked:…` -/
  revoked : Text → Bool
  /-- the cached thresholds -/
  cachedThresholds : Option AntiCheatThresholds
  /-- the configured thresholds, each if it is configured -/
  configThresholds : Option Int × Option Int
  /-- the keys `leaderboard:*` -/
  leaderboards : List Text
  /-- history: calls of `updateStreak`, the latest last -/
  streakUpdates : List Id
  /-- history: calls of `checkAndAwardSessionBadges`, the latest last -/
  badgeChecks : List (Id × Nat)

/-- What a request awaits. -/
inductive Op where
  | getRevoked (token : Text)
  | getCachedThresholds
  | getConfigThresholds
  | cacheThresholds (thresholds : AntiCheatThresholds)
  | createFraudFlag (sessionId userId : Id) (flagType : String)
  | getChallengeById (id : Id)
  | getSession (userId challengeId : Id)
  | getChallengeQuestions (challengeId : Id)
  | recordRoundScore (sessionId : Id) (round : Round) (score : Nat) (answer : Option Choice)
      (reactionTimeMs : Nat)
  | finishSession (sessionId : Id)
  | storeSessionHmac (sessionId : Id) (hmac : Text)
  | updateStreak (userId : Id)
  | checkAndAwardSessionBadges (userId : Id) (totalScore : Nat)
  | leaderboardKeys
  | delLeaderboards (keys : List Text)
  | revalidateLeaderboard
  | delSessionToken (sessionId : Id)
  | delSessionStart (sessionId : Id)
  | revokeToken (token : Text)

abbrev answerSig : Sig where
  Op := Op
  Ans
    | .getRevoked _ => Bool
    | .getCachedThresholds => Option AntiCheatThresholds
    | .getConfigThresholds => Option Int × Option Int
    | .cacheThresholds _ => Unit
    | .createFraudFlag .. => Unit
    | .getChallengeById _ => Option Id
    | .getSession .. => Option GameSession
    | .getChallengeQuestions _ => List ChallengeQuestion
    | .recordRoundScore .. => Unit
    | .finishSession _ => GameSession
    | .storeSessionHmac .. => Unit
    | .updateStreak _ => Unit
    | .checkAndAwardSessionBadges .. => Unit
    | .leaderboardKeys => List Text
    | .delLeaderboards _ => Unit
    | .revalidateLeaderboard => Unit
    | .delSessionToken _ => Unit
    | .delSessionStart _ => Unit
    | .revokeToken _ => Unit

/-- A call that throws. -/
structure Fault where
  err : ApiError
  /-- did the call take effect all the same? -/
  applied : Bool

/-- What the environment contributes to one call. -/
structure Env where
  fault : Option Fault
  now : Nat

/-- An operation as the services perform it. -/
def perform (e : Env) : (op : Op) → World → Except ApiError (answerSig.Ans op) × World
  | .getRevoked token, w => (.ok (w.revoked token), w)
  | .getCachedThresholds, w => (.ok w.cachedThresholds, w)
  | .getConfigThresholds, w => (.ok w.configThresholds, w)
  | .cacheThresholds thresholds, w => (.ok (), { w with cachedThresholds := some thresholds })
  | .createFraudFlag .., w => (.ok (), w)
  | .getChallengeById id, w => (.ok (w.challenges.find? fun challengeId => challengeId = id), w)
  | .getSession userId challengeId, w => (.ok (getSession w.db userId challengeId), w)
  | .getChallengeQuestions challengeId, w => (.ok (w.questions challengeId), w)
  | .recordRoundScore sessionId round score answer reactionTimeMs, w =>
      let (result, db) := w.db.recordRoundScore sessionId round score answer reactionTimeMs
      (result, { w with db := db })
  | .finishSession sessionId, w =>
      let (result, db) := w.db.finishSession e.now sessionId
      (result, { w with db := db })
  | .storeSessionHmac sessionId hmac, w =>
      (.ok (), { w with db := w.db.storeSessionHmac sessionId hmac })
  | .updateStreak userId, w => (.ok (), { w with streakUpdates := w.streakUpdates ++ [userId] })
  | .checkAndAwardSessionBadges userId totalScore, w =>
      (.ok (), { w with badgeChecks := w.badgeChecks ++ [(userId, totalScore)] })
  | .leaderboardKeys, w => (.ok w.leaderboards, w)
  | .delLeaderboards keys, w =>
      (.ok (), { w with leaderboards := w.leaderboards.filter fun key => key ∉ keys })
  | .revalidateLeaderboard, w => (.ok (), w)
  | .delSessionToken _, w => (.ok (), w)
  | .delSessionStart _, w => (.ok (), w)
  | .revokeToken token, w => (.ok (), { w with revoked := Function.update w.revoked token true })

/-- The database and Redis. -/
def answerMachine : Machine answerSig ApiError World Env where
  exec e op w :=
    match e.fault with
    | some fault => (.error fault.err, if fault.applied then (perform e op w).2 else w)
    | none => perform e op w

/-! ### Middleware -/

abbrev Handler := Prog answerSig ApiError

/-- `authenticate`: the payload, or the response that is sent instead. -/
def authenticate (req : Request) : Handler (Except Response AuthPayload) :=
  let invalid := .denied 401 "Invalid or expired token" none
  -- an API key may only read
  if req.apiKey then
    return .error (.denied 403 "Personal API keys are restricted to read-only endpoints"
      (some "API_KEY_READ_ONLY"))
  else
    match req.token, req.payload with
    | none, _ => return .error (.denied 401 "No token provided" none)
    | some _, none => return .error invalid
    | some token, some payload =>
      Prog.tryCatch
        (do
          let revoked ← Prog.call (S := answerSig) (.getRevoked token)
          if revoked then return .error invalid
          else if payload.isImpersonated then
            return .error (.denied 403
              "Impersonated sessions cannot perform mutating actions (read-only mode)"
              (some "IMPERSONATION_READ_ONLY"))
          else return .ok payload)
        fun _ => return .error invalid

def getThresholds : Handler AntiCheatThresholds :=
  Prog.tryCatch
    (do
      let cached ← Prog.call (S := answerSig) .getCachedThresholds
      match cached with
      | some thresholds => return thresholds
      | none => do
        let config ← Prog.call (S := answerSig) .getConfigThresholds
        let thresholds : AntiCheatThresholds :=
          ⟨config.1.getD defaultThresholds.minHumanReactionMs,
            config.2.getD defaultThresholds.maxHumanReactionMs⟩
        Prog.call (S := answerSig) (.cacheThresholds thresholds)
        return thresholds)
    fun _ => return defaultThresholds

/-- The flag is for the session of the challenge in the path, if there is one; an error is
logged. -/
def recordFraudFlagBestEffort (userId : Id) (req : Request) (flagType : String) : Handler Unit :=
  Prog.tryCatch
    (do
      let session ← Prog.call (S := answerSig) (.getSession userId req.challengeId)
      match session with
      | none => return ()
      | some session =>
          Prog.call (S := answerSig) (.createFraudFlag session.id userId flagType))
    fun _ => return ()

/-- A flag, if there is a reason for one. -/
def flagIf (reason : Bool) (userId : Id) (req : Request) (flagType : String) : Handler Unit :=
  if reason then recordFraudFlagBestEffort userId req flagType else return ()

def validateReactionTime (userId : Id) (req : Request) : Handler Unit :=
  match req.reactionTimeMs with
  | none => return ()
  | some reactionTimeMs =>
    if reactionTimeMs < BOT_REACTION_THRESHOLD_MS then do
      recordFraudFlagBestEffort userId req "reaction_time_bot_threshold"
      .raise (createError "Reaction time impossible for humans" 403 (some "REACTION_IMPOSSIBLE"))
    else do
      let thresholds ← getThresholds
      flagIf (reactionTimeMs < thresholds.minHumanReactionMs) userId req
        "reaction_time_below_minimum"
      flagIf (thresholds.maxHumanReactionMs < reactionTimeMs) userId req
        "reaction_time_above_maximum"

/-! ### The handler -/

structure AnswerBody where
  selectedOption : Option Choice
  reactionTimeMs : Nat

/-- `AnswerSchema.parse`; the error is zod's. -/
def parseBody (req : Request) : Except ApiError AnswerBody :=
  match req.selectedOption, req.reactionTimeMs with
  | some selectedOption, some (.ofNat reactionTimeMs) => .ok ⟨selectedOption, reactionTimeMs⟩
  | _, _ => .error ⟨"Validation Error".toList, none, none⟩

/-- `assertValidTotalScore`. -/
def assertValidTotalScore (totalScore : Nat) : Handler Unit :=
  match validateTotalScore totalScore with
  | some failed => .raise (createError failed.message 422 (some failed.code))
  | none => return ()

def revokeSessionToken (sessionId : Id) (token : Text) : Handler Unit := do
  Prog.call (S := answerSig) (.delSessionToken sessionId)
  Prog.call (S := answerSig) (.delSessionStart sessionId)
  Prog.call (S := answerSig) (.revokeToken token)

/-- The token of the request is revoked, if it came with one. -/
def revokeBearerToken (req : Request) (sessionId : Id) : Handler Unit :=
  match req.token with
  | some token => revokeSessionToken sessionId token
  | none => return ()

variable (config : Config)

/-- The HMAC of a completed session is stored if a key is configured. -/
def storeHmac (sessionId : Id) (completed : GameSession) : Handler Unit :=
  let hmac := computeSessionHmac config completed.id completed.totalScore
    (completed.completedAt.getD 0)
  if hmac.isEmpty then return ()
  else Prog.call (S := answerSig) (.storeSessionHmac sessionId hmac)

/-- The cached leaderboards are dropped. -/
def invalidateLeaderboards : Handler Unit := do
  let keys ← Prog.call (S := answerSig) .leaderboardKeys
  if keys.isEmpty then return ()
  else Prog.call (S := answerSig) (.delLeaderboards keys)

/-- What follows a completion, unless it was for practice. -/
def rewardPlayer (completed : GameSession) : Handler Unit :=
  if completed.isPractice then return ()
  else do
    Prog.call (S := answerSig) (.updateStreak completed.userId)
    Prog.call (S := answerSig)
      (.checkAndAwardSessionBadges completed.userId completed.totalScore)
    invalidateLeaderboards
    Prog.tryCatch (Prog.call (S := answerSig) .revalidateLeaderboard) fun _ => return ()

/-- Round 3 completes the session. Returned is the id for the share card. -/
def completeSession (req : Request) (sessionId : Id) : Handler (Option Id) := do
  let completed ← Prog.call (S := answerSig) (.finishSession sessionId)
  assertValidTotalScore completed.totalScore
  storeHmac config sessionId completed
  rewardPlayer completed
  revokeBearerToken req sessionId
  return if completed.isPractice then none else some completed.id

/-- `if (round === 3) { … }`. -/
def afterRound (req : Request) (round : Round) (sessionId : Id) : Handler (Option Id) :=
  if round = .three then completeSession config req sessionId else return none

/-- The answer is scored and stored. -/
def scoreAnswer (req : Request) (round : Round) (body : AnswerBody) (session : GameSession)
    (question : ChallengeQuestion) : Handler Response :=
  let score := calculateRoundScore body.selectedOption question.correctOption body.reactionTimeMs
  match validateRoundScore score with
  | some failed => .raise (createError failed.message 422 (some failed.code))
  | none => do
    Prog.call (S := answerSig)
      (.recordRoundScore session.id round score body.selectedOption body.reactionTimeMs)
    let sessionId ← afterRound config req round session.id
    return .scored (validateAnswer question.correctOption body.selectedOption) score round sessionId

/-- From the question on, for the copy of the session that was read. -/
def answerQuestion (req : Request) (round : Round) (body : AnswerBody) (session : GameSession)
    (question : ChallengeQuestion) : Handler Response :=
  if session.completedAt.isSome && round = .three then
    if (session.rounds .three).answer ≠ body.selectedOption then
      .raise (createError "Answer conflict detected" 409 (some "CONFLICT_REPLAY"))
    else
      return .replayed (validateAnswer question.correctOption body.selectedOption)
        (session.rounds .three).score session.totalScore session.rank
  -- an answer that is stored as `null` does not count as one
  else if (session.rounds round).answer.isSome then
    .raise (createError "Round already answered" 400)
  else scoreAnswer config req round body session question

/-- The handler of the route. -/
def submitAnswer (userId : Id) (req : Request) (round : Round) (body : AnswerBody) :
    Handler Response := do
  let challenge ← Prog.call (S := answerSig) (.getChallengeById req.challengeId)
  match challenge with
  | none => .raise (createError "Challenge not found" 404)
  | some challengeId => do
    let found ← Prog.call (S := answerSig) (.getSession userId challengeId)
    match found with
    | none => .raise (createError "Session not found" 404)
    | some session =>
      if session.userId ≠ userId then .raise (createError "Forbidden" 403)
      else if session.challengeStartedAt.isNone then
        .raise (createError "Challenge not started" 400)
      else if session.completedAt.isSome && round ≠ .three then
        .raise (createError "Session already completed" 409)
      else if session.flagged then .raise (createError "Session flagged for review" 403)
      else do
        let questions ← Prog.call (S := answerSig) (.getChallengeQuestions challengeId)
        match questions.find? fun question => question.round = round with
        | none => .raise (createError "Question not found" 404)
        | some question => answerQuestion config req round body session question

/-- A request to the route. -/
def answer (req : Request) : Handler Response := do
  let authenticated ← authenticate req
  match authenticated with
  | .error response => return response
  | .ok payload => do
    validateReactionTime payload.sub req
    match req.round.bind Round.ofInt? with
    | none => .raise (createError "Invalid round" 400)
    | some round =>
      match parseBody req with
      | .error err => .raise err
      | .ok body => submitAnswer config payload.sub req round body

end BrandBlitz.Sessions

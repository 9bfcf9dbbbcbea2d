import BrandBlitz.Network.Fingerprint
import BrandBlitz.Sessions.Lobby

/-!
# BrandBlitz.Sessions.Entry

**The routes that lead into a challenge** (`apps/api/src/routes/sessions.ts`) with their
middleware (`require-active-user.ts`, `anti-cheat.ts`), and what else moves a session along:

* `POST /sessions/:challengeId/warmup-start`, `…/warmup-complete` and `…/start`;
* `DELETE /sessions/:challengeId`, by which a player quits;
* the answer route, of `BrandBlitz.Sessions.Answer`;
* the job that sweeps up what has timed out, and the statement that flags a session.

`enforceOneSessionPerChallenge` attaches the session to the request before the device and the
challenge are checked. What is thrown later reaches the error handler with this session.
-/

namespace BrandBlitz.Sessions

open BrandBlitz.Lib

abbrev Route := Prog lobbySig ApiError

/-! ### Requests -/

structure LobbyBody where
  /-- `isPractice === true` -/
  isPractice : Bool
  tierId : Option Id
  /-- what is no finite number is `some none` -/
  clientTimestamp : Option (Option Rat)
  challengeToken : Option Text

/-- What the routes read of a request besides. -/
structure LobbyRequest extends Request where
  /-- `X-Visitor-Id` -/
  visitorId : Option Text
  /-- `X-Device-Id` -/
  deviceId : Option Text
  /-- `normalizeClientIp(req.ip)` -/
  ip : Option Text
  userAgent : Option Text
  /-- `none` if the request came without one -/
  body : Option LobbyBody

structure LobbyConfig extends Config where
  /-- `createHash("sha256").update(text).digest("hex")` -/
  sha256 : Text → Text

/-! ### Calls -/

/-- The calls of the answer route among those of the routes. -/
def answerCalls : Prog.Hom answerSig lobbySig where
  op := .answer
  ans _ := id

/-- A part of the answer route. -/
def ofAnswer {α : Type} (p : Handler α) : Route α := p.embed answerCalls

def respond (response : LobbyResponse) : Route Unit :=
  Prog.call (S := lobbySig) (.respond response)

/-- The response to an error. An open session that is attached to the request is abandoned;
nobody waits for that. -/
def errorHandler (attached : Option Id) (err : ApiError) : Route Unit := do
  respond (.failed err)
  match attached with
  | some sessionId =>
      Prog.tryCatch (Prog.call (S := lobbySig) (.abandonOnError sessionId)) fun _ => return ()
  | none => return ()

/-- What runs behind `authenticate`. -/
def authenticated (req : LobbyRequest) (next : AuthPayload → Route Unit) : Route Unit := do
  let payload ← ofAnswer (authenticate req.toRequest)
  match payload with
  | .error response => respond (.answered response)
  | .ok payload => Prog.tryCatch (next payload) (errorHandler none)

def requireActiveUser (payload : AuthPayload) : Route Unit := do
  let user ← Prog.call (S := lobbySig) (.findUserById payload.sub)
  match user with
  | none => .raise (createError "User not found" 404 (some "USER_NOT_FOUND"))
  | some suspended =>
    if payload.isImpersonated then
      .raise (createError "Impersonated sessions cannot perform mutating actions (read-only mode)"
        403 (some "IMPERSONATION_READ_ONLY"))
    else if suspended then
      .raise (createError "Your account has been suspended. Please contact support for assistance."
        403 (some "ACCOUNT_SUSPENDED"))
    else return ()

/-! ### The warm-up begins -/

/-- A session of the player for the challenge exists already. -/
def existingSession (data : SessionData) : Route GameSession := do
  let existing ← Prog.call (S := lobbySig) (.answer (.getSession data.userId data.challengeId))
  match existing with
  | none => .raise (createError "Session not found" 404)
  | some existing =>
    if existing.status = .abandoned then do
      let fresh ← Prog.call (S := lobbySig) (.replaceAbandoned data)
      match fresh with
      | some fresh => return fresh
      | none => do
        -- another request has replaced it
        let refetched ← Prog.call (S := lobbySig)
          (.answer (.getSession data.userId data.challengeId))
        match refetched with
        | none => .raise (createError "Session not found" 404)
        | some session => return session
    else return existing

/-- The player's session for the challenge, claimed or found. -/
def claimOrFetch (data : SessionData) : Route GameSession := do
  let claimed ← Prog.call (S := lobbySig) (.claimSession data)
  match claimed with
  | some session => return session
  | none => existingSession data

/-- Returned is the session that is attached to the request. -/
def enforceOneSessionPerChallenge (req : LobbyRequest) (userId : Id) : Route GameSession :=
  match req.body with
  | none => .raise ⟨"Cannot read properties of undefined".toList, none, none⟩
  | some body => do
    let options ← Prog.call (S := lobbySig) (.selectOptions req.challengeId body.tierId)
    if body.tierId.isSome && options.2.isNone then
      .raise (createError "Invalid challenge tier" 422 (some "INVALID_TIER"))
    else do
      let session ← claimOrFetch {
        userId := userId
        challengeId := req.challengeId
        deviceId := req.deviceId <|> req.visitorId
        isPractice := body.isPractice
        variantId := options.1
        tierId := options.2 }
      Prog.call (S := lobbySig) (.attachSession userId req.challengeId session)
      return session

/-- Is a header missing or empty? -/
def isMissing (header : Option Text) : Bool := (header.getD []).isEmpty

def validateDeviceFingerprint (config : LobbyConfig) (req : LobbyRequest) (userId : Id) :
    Route Unit :=
  if isMissing req.visitorId && isMissing req.deviceId then
    .raise (createError "Missing X-Device-Id header" 400 (some "MISSING_DEVICE_ID"))
  else
    Prog.tryCatch
      (do
        let fingerprint := Network.computeFingerprint config.sha256
          ⟨req.visitorId, req.deviceId, req.ip, req.userAgent⟩
        let fpKey := "fp:".toList ++ fingerprint ++ ":accounts".toList
        Prog.call (S := lobbySig) (.sadd fpKey userId)
        Prog.call (S := lobbySig) (.expire fpKey)
        let count ← Prog.call (S := lobbySig) (.scard fpKey)
        if 3 ≤ count then do
          ofAnswer (recordFraudFlagBestEffort userId req.toRequest "multi_account_fingerprint")
          .raise (createError "Session rejected due to fingerprint collision" 403
            (some "FINGERPRINT_COLLISION"))
        else return ())
      -- without Redis the device is accepted
      fun err => if err.statusCode.isSome then .raise err else return ()

def WARMUP_MIN_SECONDS : Nat := 20

/-- The handler of `warmup-start`. -/
def beginWarmup (req : LobbyRequest) (session : GameSession) : Route LobbyResponse := do
  let challenge ← Prog.call (S := lobbySig) (.getChallengeById req.challengeId)
  match challenge with
  | some (_, true) => do
    Prog.call (S := lobbySig) (.markWarmupStarted session.id)
    let now ← Prog.call (S := lobbySig) .dateNow
    let unlockAt := now + WARMUP_MIN_SECONDS * 1000
    Prog.call (S := lobbySig) (.setUnlock session.id unlockAt)
    return .warmupStarted session.id unlockAt
  | _ => .raise (createError "Challenge not available" 404)

/-- What runs once a session is attached. -/
def admitWarmup (config : LobbyConfig) (req : LobbyRequest) (userId : Id)
    (session : GameSession) : Route Unit := do
  validateDeviceFingerprint config req userId
  let response ← beginWarmup req session
  respond response

/-- A request to `warmup-start`. -/
def warmupStart (config : LobbyConfig) (req : LobbyRequest) : Route Unit :=
  authenticated req fun payload => do
    requireActiveUser payload
    let session ← enforceOneSessionPerChallenge req payload.sub
    Prog.tryCatch (admitWarmup config req payload.sub session) (errorHandler (some session.id))

/-! ### The warm-up ends -/

def MAX_CLOCK_SKEW_MS : Rat := 5000

/-- A flag, and the error that goes with it. -/
def flagAndThrow (req : LobbyRequest) (userId : Id) (flagType : String) (err : ApiError) :
    Route Unit := do
  ofAnswer (recordFraudFlagBestEffort userId req.toRequest flagType)
  .raise err

def detectClockSkew (req : LobbyRequest) (userId : Id) : Route Unit :=
  let invalid := flagAndThrow req userId "invalid_client_timestamp"
    (createError "Invalid client timestamp" 400 (some "INVALID_TIMESTAMP"))
  match req.body with
  | none => .raise ⟨"Cannot destructure property of undefined".toList, none, none⟩
  | some body =>
    match body.clientTimestamp with
    | none => return ()
    | some none => invalid
    | some (some clientTimestamp) =>
      if clientTimestamp ≤ 0 then invalid
      else do
        let serverTime ← Prog.call (S := lobbySig) .dateNow
        let skew : Rat := serverTime - clientTimestamp
        if MAX_CLOCK_SKEW_MS < skew || MAX_CLOCK_SKEW_MS < -skew then
          flagAndThrow req userId "clock_skew"
            (createError "Client clock skew too large" 400 (some "CLOCK_SKEW"))
        else return ()

/-- The exposure time is over. A key that is not there is no obstacle. -/
def enforceUnlock (sessionId : Id) : Route Unit := do
  let stored ← Prog.call (S := lobbySig) (.getUnlock sessionId)
  match stored with
  | none => return ()
  | some unlockAt => do
    let serverNow ← Prog.call (S := lobbySig) .dateNow
    if serverNow < unlockAt then
      .raise (createError "Warm-up minimum not yet elapsed" 400 (some "WARMUP_TOO_FAST"))
    else return ()

/-- `ct:${session.id}:${Date.now()}`. -/
def challengeTokenText (sessionId : Id) (now : Nat) : Text :=
  "ct:".toList ++ sessionId ++ ':' :: Nat.toDigits 10 now

/-- The end of a warm-up, for a session of the player. -/
def completeWarmup (sessionId : Id) : Route LobbyResponse := do
  enforceUnlock sessionId
  Prog.call (S := lobbySig) (.markWarmupCompleted sessionId)
  let now ← Prog.call (S := lobbySig) .dateNow
  Prog.call (S := lobbySig) (.setChallengeToken (challengeTokenText sessionId now) sessionId)
  return .warmupCompleted (challengeTokenText sessionId now)

/-- The handler of `warmup-complete`. -/
def endWarmup (req : LobbyRequest) (userId : Id) : Route LobbyResponse := do
  let challenge ← Prog.call (S := lobbySig) (.getChallengeById req.challengeId)
  match challenge with
  | none => .raise (createError "Challenge not found" 404)
  | some (challengeId, _) => do
    let found ← Prog.call (S := lobbySig) (.answer (.getSession userId challengeId))
    match found with
    | none => .raise (createError "Session not found" 404)
    | some session =>
      if session.userId ≠ userId then .raise (createError "Forbidden" 403)
      else completeWarmup session.id

/-- A request to `warmup-complete`. -/
def warmupComplete (req : LobbyRequest) : Route Unit :=
  authenticated req fun payload => do
    detectClockSkew req payload.sub
    let response ← endWarmup req payload.sub
    respond response

/-! ### The challenge starts -/

/-- The token that the session was started with. -/
def storeBearerToken (req : LobbyRequest) (sessionId : Id) : Route Unit :=
  match req.token with
  | some token => Prog.call (S := lobbySig) (.setSessionToken sessionId token)
  | none => return ()

/-- What follows the start of a challenge. -/
def recordStart (req : LobbyRequest) (userId : Id) (challengeToken : Text) (sessionId : Id) :
    Route LobbyResponse := do
  Prog.call (S := lobbySig) (.setLastActive userId)
  Prog.call (S := lobbySig) (.delChallengeToken challengeToken)
  let now ← Prog.call (S := lobbySig) .dateNow
  Prog.call (S := lobbySig) (.setSessionStart sessionId now)
  storeBearerToken req sessionId
  let startsAt ← Prog.call (S := lobbySig) .dateNow
  return .started sessionId startsAt

/-- The start of the challenge, for the session that the token was issued for. -/
def startChallenge (req : LobbyRequest) (userId : Id) (challengeToken : Text)
    (session : GameSession) : Route LobbyResponse := do
  Prog.call (S := lobbySig) (.markChallengeStarted session.id)
  recordStart req userId challengeToken session.id

/-- The handler of `start`. -/
def redeemToken (req : LobbyRequest) (userId : Id) : Route LobbyResponse :=
  match req.body.bind LobbyBody.challengeToken with
  | none => .raise ⟨"Validation Error".toList, none, none⟩
  | some challengeToken => do
    let challenge ← Prog.call (S := lobbySig) (.getChallengeById req.challengeId)
    match challenge with
    | none => .raise (createError "Challenge not found" 404)
    | some (challengeId, _) => do
      let stored ← Prog.call (S := lobbySig) (.getChallengeToken challengeToken)
      match stored with
      | none => .raise (createError "Invalid or expired challenge token" 401)
      | some storedSessionId => do
        let found ← Prog.call (S := lobbySig) (.answer (.getSession userId challengeId))
        match found with
        | none => .raise (createError "Session mismatch" 403)
        | some session =>
          if session.id ≠ storedSessionId then .raise (createError "Session mismatch" 403)
          else startChallenge req userId challengeToken session

/-- Both limiters let everything through when Redis fails. -/
def challengeStartLimiter (userId : Id) : Route Bool :=
  Prog.tryCatch (Prog.call (S := lobbySig) (.challengeStartLimiter userId)) fun _ => return true

/-- What it decides is up to the environment here; how is in `BrandBlitz.Sessions.Lockout`. -/
def requireSessionStartAllowed (userId : Id) : Route Bool :=
  Prog.tryCatch (Prog.call (S := lobbySig) (.sessionStartAllowed userId)) fun _ => return true

/-- A request to `start`. -/
def start (req : LobbyRequest) : Route Unit :=
  authenticated req fun payload => do
    requireActiveUser payload
    let admitted ← challengeStartLimiter payload.sub
    if admitted then do
      let allowed ← requireSessionStartAllowed payload.sub
      if allowed then do
        let response ← redeemToken req payload.sub
        respond response
      else
        .raise (createError "Too many failed session start attempts. Please try again later." 429
          (some "SESSION_START_LOCKED"))
    else respond .tooMany

/-! ### The session ends -/

/-- A request to quit. -/
def forfeit (req : LobbyRequest) : Route Unit :=
  authenticated req fun payload => do
    let challenge ← Prog.call (S := lobbySig) (.getChallengeById req.challengeId)
    match challenge with
    | none => .raise (createError "Challenge not found" 404)
    | some (challengeId, _) => do
      let abandoned ← Prog.call (S := lobbySig)
        (.abandonSession payload.sub challengeId .explicit)
      if abandoned then respond .forfeited
      else .raise (createError "No open session to forfeit" 404)

/-- A request to the answer route. -/
def answerRoute (config : LobbyConfig) (req : LobbyRequest) : Route Unit :=
  Prog.tryCatch
    (do
      let response ← ofAnswer (answer config.toConfig req.toRequest)
      respond (.answered response))
    (errorHandler none)

/-- The sweeper. -/
def processSessionTimeoutJob : Route Unit := do
  let _ ← Prog.call (S := lobbySig) .markAbandonedSessions
  return ()

/-- A moderator flags a session. -/
def flagging (sessionId : Id) (reasons : List Text) : Route Unit :=
  Prog.call (S := lobbySig) (.flagSession sessionId reasons)

/-- Everything that writes sessions. -/
inductive Activity (config : LobbyConfig) : Route Unit → Prop
  | warmupStart (req : LobbyRequest) : Activity config (warmupStart config req)
  | warmupComplete (req : LobbyRequest) : Activity config (warmupComplete req)
  | start (req : LobbyRequest) : Activity config (start req)
  | forfeit (req : LobbyRequest) : Activity config (forfeit req)
  | answer (req : LobbyRequest) : Activity config (answerRoute config req)
  | timeout : Activity config processSessionTimeoutJob
  | flagging (sessionId : Id) (reasons : List Text) : Activity config (flagging sessionId reasons)

end BrandBlitz.Sessions

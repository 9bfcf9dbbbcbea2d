import BrandBlitz.Sessions.Consistency
import BrandBlitz.Sessions.Signing

/-!
# BrandBlitz.Sessions.Completion

**What follows a completion, and what a retry makes of it.** The answer to round 3 completes the
session in one transaction. The tag, the streak, the badges, the cached leaderboards and the token
have calls of their own after it, and one that throws takes those after it with it.

A request that is sent again finds the session completed and is answered from its row, with none
of these calls. Whether the effects are all there when an attempt is answered 200 is decided by the
request that completed the session: nothing it has left out is made up for.
-/

namespace BrandBlitz.Sessions

open BrandBlitz.Lib

/-! ### Attempts -/

/-- Is the status 200? -/
def Response.isOk : Response → Bool
  | .denied .. => false
  | .replayed .. | .scored .. => true

def answeredOk : Except ApiError Response → Bool
  | .ok response => response.isOk
  | .error _ => false

/-- One request, sent again and again: what it is answered each time, and the world after it. -/
def attempts (config : Config) (req : Request) :
    List (Nat → Env) → World → List (Except ApiError Response) × World
  | [], w => ([], w)
  | s :: rest, w =>
      let (response, w) := (answer config req).run answerMachine s w
      let (responses, w) := attempts config req rest w
      (response :: responses, w)

/-- What a completion consists of, besides the row: each was done once. -/
structure CompletionEffects (config : Config) (req : Request) (before after : World)
    (completed : GameSession) : Prop where
  session : after.db.session = some completed
  tag : config.sessionIntegrityKey ≠ [] →
    completed.integrityHmac = some (tagOf config completed)
  streak : after.streakUpdates = before.streakUpdates ++ [completed.userId]
  badges : after.badgeChecks = before.badgeChecks ++ [(completed.userId, completed.totalScore)]
  leaderboards : ∀ key ∈ before.leaderboards, key ∉ after.leaderboards
  token : ∀ token, req.token = some token → after.revoked token = true

/-- No attempt is answered 200 unless the effects are there. -/
def EffectsKept (config : Config) (req : Request) (s : Nat → Env) (w : World) : Prop :=
  ∀ retries, (∃ response ∈ (attempts config req (s :: retries) w).1, answeredOk response = true) →
    ∃ completed, CompletionEffects config req w (attempts config req (s :: retries) w).2 completed

/-- The call goes through, if it is one that a completion consists of. The last of them may throw
as long as it takes effect. -/
def GoesThrough (_ : World) : Op → Env → Prop
  | .finishSession _, e | .storeSessionHmac .., e | .updateStreak _, e
  | .checkAndAwardSessionBadges .., e | .leaderboardKeys, e | .delLeaderboards _, e
  | .delSessionToken _, e | .delSessionStart _, e => e.fault = none
  | .revokeToken _, e => ∀ fault, e.fault = some fault → fault.applied = true
  | _, _ => True

/-! ### Reading -/

/-- Nothing has changed but the cached thresholds. -/
structure Unchanged (w w' : World) : Prop where
  db : w'.db = w.db
  challenges : w'.challenges = w.challenges
  questions : w'.questions = w.questions
  revoked : w'.revoked = w.revoked
  leaderboards : w'.leaderboards = w.leaderboards
  streakUpdates : w'.streakUpdates = w.streakUpdates
  badgeChecks : w'.badgeChecks = w.badgeChecks

variable {w w' w'' : World}

theorem Unchanged.refl (w : World) : Unchanged w w := ⟨rfl, rfl, rfl, rfl, rfl, rfl, rfl⟩

theorem Unchanged.trans (h : Unchanged w w') (h' : Unchanged w' w'') : Unchanged w w'' where
  db := h'.db.trans h.db
  challenges := h'.challenges.trans h.challenges
  questions := h'.questions.trans h.questions
  revoked := h'.revoked.trans h.revoked
  leaderboards := h'.leaderboards.trans h.leaderboards
  streakUpdates := h'.streakUpdates.trans h.streakUpdates
  badgeChecks := h'.badgeChecks.trans h.badgeChecks

theorem perform_unchanged {op : Op} (e : Env) (hop : op.reads = true) (w : World) :
    Unchanged w (perform e op w).2 := by
  cases op with
  | recordRoundScore | finishSession | storeSessionHmac | updateStreak
  | checkAndAwardSessionBadges | leaderboardKeys | delLeaderboards | revalidateLeaderboard
  | delSessionToken | delSessionStart | revokeToken => cases hop
  | _ => exact ⟨rfl, rfl, rfl, rfl, rfl, rfl, rfl⟩

theorem exec_unchanged {op : Op} (e : Env) (hop : op.reads = true) (w : World) :
    Unchanged w (answerMachine.exec e op w).2 := by
  unfold answerMachine
  dsimp only
  split
  · split
    · exact perform_unchanged e hop w
    · exact .refl w
  · exact perform_unchanged e hop w

theorem goesThrough_of_reads {op : Op} (e : Env) (hop : op.reads = true) : GoesThrough w op e := by
  cases op <;> trivial

/-! ### The calls that follow a completion -/

/-- Runs of which is known whether their calls went through. -/
abbrev Tracked {α : Type} (p : Handler α) (Q : α → World × Prop → Prop)
    (R : World × Prop → Prop) (state : World × Prop) : Prop :=
  p.wp (answerMachine.watched GoesThrough) (fun _ _ _ => True) (fun _ => True)
    (Prog.Ends Q fun _ => R) state

/-- A call of the completion: it is answered, or what follows is lost. -/
theorem watched_call {op : Op} {a : answerSig.Ans op} {R : World × Prop → Prop}
    (hguard : ∀ e, GoesThrough w op e ↔ e.fault = none)
    (hperform : ∀ e, perform e op w = (.ok a, w')) (hbefore : R (w, False))
    (hafter : R (w', False)) :
    Tracked (Prog.call (S := answerSig) op) (fun b state => b = a ∧ state = (w', True)) R
      (w, True) := by
  refine Prog.wp_call fun e _ => ⟨trivial, ?_⟩
  unfold Machine.watched answerMachine
  dsimp only
  cases hfault : e.fault with
  | none =>
      have hgoes : GoesThrough w op e := (hguard e).mpr hfault
      simp only [hperform]
      exact ⟨rfl, Prod.ext rfl (by simp [hgoes])⟩
  | some fault =>
      have hgoes : ¬ GoesThrough w op e := fun h => by simp [(hguard e).mp h] at hfault
      have hlost : (True ∧ GoesThrough w op e) = False := by simp [hgoes]
      simp only [hlost, hperform]
      split
      · exact hafter
      · exact hbefore

/-- What a later request meets is as it was. -/
structure SameForRetry (w w' : World) : Prop where
  session : w'.db.session = w.db.session
  challenges : w'.challenges = w.challenges
  questions : w'.questions = w.questions
  revoked : w'.revoked = w.revoked

/-- A call has thrown, and the token is not revoked. -/
def Lost (w : World) (state : World × Prop) : Prop := ¬ state.2 ∧ SameForRetry w state.1

def World.rewarded (completed : GameSession) (w : World) : World :=
  { w with
    streakUpdates := w.streakUpdates ++ [completed.userId]
    badgeChecks := w.badgeChecks ++ [(completed.userId, completed.totalScore)]
    leaderboards := [] }

theorem watched_invalidateLeaderboards (hsame : ∀ keys, SameForRetry w { w' with
      leaderboards := keys }) :
    Tracked invalidateLeaderboards
      (fun _ state => state = ({ w' with leaderboards := [] }, True)) (Lost w) (w', True) := by
  have hlost : ∀ keys, Lost w ({ w' with leaderboards := keys }, False) :=
    fun keys => ⟨id, hsame keys⟩
  refine Prog.wp_bind (watched_call (fun _ => .rfl) (fun _ => rfl) (hlost _) (hlost _)) ?_
  rintro keys _ ⟨rfl, rfl⟩
  split
  · rename_i hempty
    have hnone : w'.leaderboards = [] := by simpa using hempty
    rw [← hnone]
    rfl
  · refine Prog.wp_weaken (watched_call (fun _ => .rfl) (fun _ => rfl) (hlost _) (hlost _))
      (fun _ state h => ?_) fun _ _ h => h
    rw [h.2]
    simp

theorem watched_rewardPlayer {completed : GameSession} (hpractice : completed.isPractice = false) :
    Tracked (rewardPlayer completed) (fun _ state => state = (w.rewarded completed, True)) (Lost w)
      (w, True) := by
  have hlost : ∀ streakUpdates badgeChecks, Lost w ({ w with
      streakUpdates := streakUpdates, badgeChecks := badgeChecks }, False) :=
    fun _ _ => ⟨id, rfl, rfl, rfl, rfl⟩
  unfold rewardPlayer
  rw [if_neg (by simp [hpractice])]
  refine Prog.wp_bind (watched_call (fun _ => .rfl) (fun _ => rfl) (hlost _ _) (hlost _ _)) ?_
  rintro _ _ ⟨-, rfl⟩
  refine Prog.wp_bind (watched_call (fun _ => .rfl) (fun _ => rfl) (hlost _ _) (hlost _ _)) ?_
  rintro _ _ ⟨-, rfl⟩
  refine Prog.wp_bind (watched_invalidateLeaderboards fun _ => ⟨rfl, rfl, rfl, rfl⟩) ?_
  rintro _ _ rfl
  -- the error of the last call is caught
  refine Prog.wp_tryCatch (P := fun _ state => state = (w.rewarded completed, True)) ?_
    fun _ _ h => h
  refine Prog.wp_call_world fun e _ => ⟨trivial, Prod.ext ?_ ?_⟩
  · show (answerMachine.exec e .revalidateLeaderboard _).2 = _
    unfold answerMachine
    dsimp only
    split
    · split <;> rfl
    · rfl
  · exact and_true True

def World.revoke (token : Text) (w : World) : World :=
  { w with revoked := Function.update w.revoked token true }

/-- Revoking the token is done when the last call has taken effect, whether it throws or not. -/
theorem watched_revokeSessionToken (sessionId : Id) (token : Text) :
    Tracked (revokeSessionToken sessionId token) (fun _ state => state = (w.revoke token, True))
      (fun state => Lost w state ∨ state = (w.revoke token, True)) (w, True) := by
  have hlost : Lost w (w, False) := ⟨id, rfl, rfl, rfl, rfl⟩
  refine Prog.wp_bind (watched_call (fun _ => .rfl) (fun _ => rfl) (.inl hlost) (.inl hlost)) ?_
  rintro _ _ ⟨-, rfl⟩
  refine Prog.wp_bind (watched_call (fun _ => .rfl) (fun _ => rfl) (.inl hlost) (.inl hlost)) ?_
  rintro _ _ ⟨-, rfl⟩
  refine Prog.wp_call fun e _ => ⟨trivial, ?_⟩
  unfold Machine.watched answerMachine GoesThrough
  dsimp only
  cases hfault : e.fault with
  | none => exact Prod.ext rfl (by simp)
  | some fault =>
      dsimp only
      by_cases happlied : fault.applied = true
      · rw [if_pos happlied]
        exact .inr (Prod.ext rfl (by simp [happlied]))
      · rw [if_neg happlied]
        exact .inl ⟨by simp [happlied], rfl, rfl, rfl, rfl⟩

/-! ### Completing the session -/

variable {config : Config} {req : Request} {token : Text} {session completed : GameSession}

/-- The row with its tag, if there is one. -/
def GameSession.tagged (config : Config) (completed : GameSession) : GameSession :=
  if (tagOf config completed).isEmpty then completed
  else { completed with integrityHmac := some (tagOf config completed) }

def World.tagged (config : Config) (completed : GameSession) (w : World) : World :=
  if (tagOf config completed).isEmpty then w
  else { w with db := w.db.storeSessionHmac completed.id (tagOf config completed) }

theorem World.tagged_session (h : w.db.session = some completed) :
    (w.tagged config completed).db.session = some (completed.tagged config) := by
  unfold World.tagged GameSession.tagged
  split
  · exact h
  · simp [Db.storeSessionHmac, Db.updateById, Db.byId, h, Option.filter]

/-- Only the row has changed. -/
theorem World.tagged_eq (config : Config) (completed : GameSession) (w : World) :
    w.tagged config completed = { w with db := (w.tagged config completed).db } := by
  unfold World.tagged
  split <;> rfl

theorem watched_storeHmac :
    Tracked (storeHmac config completed.id completed)
      (fun _ state => state = (w.tagged config completed, True))
      (fun state => ¬ state.2 ∧ (state.1 = w ∨ state.1 = w.tagged config completed))
      (w, True) := by
  unfold storeHmac World.tagged
  dsimp only
  change Tracked (if (tagOf config completed).isEmpty then _ else _) _ _ _
  split
  · rfl
  · exact Prog.wp_weaken (watched_call (fun _ => .rfl) (fun _ => rfl) ⟨id, .inl rfl⟩
      ⟨id, .inr rfl⟩) (fun _ _ h => h.2) fun _ _ h => h

/-- The row of a session, once it is completed. -/
structure FinishOf (session completed : GameSession) : Prop where
  completedAt : completed.completedAt.isSome = true
  userId : completed.userId = session.userId
  challengeId : completed.challengeId = session.challengeId
  challengeStartedAt : completed.challengeStartedAt = session.challengeStartedAt
  flagged : completed.flagged = session.flagged
  rounds : completed.rounds = session.rounds

theorem FinishOf.tagged (h : FinishOf session completed) :
    FinishOf session (completed.tagged config) := by
  unfold GameSession.tagged
  split
  · exact h
  · exact ⟨h.completedAt, h.userId, h.challengeId, h.challengeStartedAt, h.flagged, h.rounds⟩

/-- Nothing but the row of the session has changed: it is finished. -/
structure Finishes (session : GameSession) (w w' : World) (completed : GameSession) : Prop where
  world : w' = { w with db := w'.db }
  row : w'.db.session = some completed
  finish : FinishOf session completed
  id : completed.id = session.id
  totalScore : completed.totalScore ≤ MAX_TOTAL_SCORE
  isPractice : completed.isPractice = session.isPractice

theorem finishSession_cases (hsession : w.db.session = some session)
    (hopen : session.completedAt = none) (e : Env) :
    (∃ err, perform e (.finishSession session.id) w = (.error err, w)) ∨
    ∃ completed w', perform e (.finishSession session.id) w = (.ok completed, w') ∧
      Finishes session w w' completed := by
  have hfound : w.db.byId session.id = some session := by
    simp [Db.byId, hsession, Option.filter]
  unfold perform Db.finishSession
  simp only [hfound]
  rw [if_neg (by simp [hopen])]
  split
  · exact .inl ⟨_, rfl⟩
  · rename_i htotal
    exact .inr ⟨_, _, rfl, rfl, rfl, ⟨rfl, rfl, rfl, rfl, rfl, rfl⟩, rfl,
      Nat.le_of_not_lt htotal, rfl⟩

/-- The session is not completed. -/
def IsOpen (w : World) : Prop := ∃ session, w.db.session = some session ∧ session.completedAt = none

theorem watched_finishSession (hsession : w.db.session = some session)
    (hopen : session.completedAt = none) :
    Tracked (Prog.call (S := answerSig) (.finishSession session.id))
      (fun completed state => state.2 ∧ Finishes session w state.1 completed)
      (fun state => IsOpen state.1 ∨ ¬ state.2 ∧ ∃ completed, Finishes session w state.1 completed)
      (w, True) := by
  refine Prog.wp_call fun e _ => ⟨trivial, ?_⟩
  have hstill : IsOpen w := ⟨session, hsession, hopen⟩
  unfold Machine.watched answerMachine GoesThrough
  dsimp only
  rcases finishSession_cases hsession hopen e with ⟨err, hperform⟩ | ⟨completed, w', hperform, hw'⟩
  · rw [hperform]
    cases e.fault with
    | none => exact .inl hstill
    | some fault =>
        dsimp only
        split <;> exact .inl hstill
  · rw [hperform]
    cases hfault : e.fault with
    | none => exact ⟨⟨trivial, rfl⟩, hw'⟩
    | some fault =>
        dsimp only
        split
        · exact .inr ⟨by simp, completed, hw'⟩
        · exact .inl hstill

/-- The tag does not change what a later request meets. -/
structure RetryMeets (session : GameSession) (w w' : World) : Prop where
  row : ∃ completed, w'.db.session = some completed ∧ FinishOf session completed
  challenges : w'.challenges = w.challenges
  questions : w'.questions = w.questions

theorem Finishes.meets (h : Finishes session w w' completed) : RetryMeets session w w' where
  row := ⟨completed, h.row, h.finish⟩
  challenges := by rw [h.world]
  questions := by rw [h.world]

theorem Finishes.meets_tagged (h : Finishes session w w' completed) :
    RetryMeets session w (w'.tagged config completed) where
  row := ⟨_, World.tagged_session h.row, h.finish.tagged⟩
  challenges := by rw [World.tagged_eq, h.world]
  questions := by rw [World.tagged_eq, h.world]

theorem RetryMeets.same (h : RetryMeets session w w') (hsame : SameForRetry w' w'') :
    RetryMeets session w w'' where
  row := by rw [hsame.session]; exact h.row
  challenges := hsame.challenges.trans h.challenges
  questions := hsame.questions.trans h.questions

/-- How a request that completes the session leaves it: with all the effects, or with a token that
is not revoked. -/
def Settled (config : Config) (req : Request) (token : Text) (session : GameSession) (w : World)
    (state : World × Prop) : Prop :=
  IsOpen state.1 ∨ RetryMeets session w state.1 ∧
    (state.2 ∧ (∃ completed, CompletionEffects config req w state.1 completed) ∨
      ¬ state.2 ∧ state.1.revoked token = w.revoked token)

theorem Finishes.settled (h : Finishes session w w' completed) :
    Settled config req token session w (w', False) :=
  .inr ⟨h.meets, .inr ⟨not_false, by rw [h.world]⟩⟩

theorem Finishes.settled_tagged (h : Finishes session w w' completed) :
    Settled config req token session w (w'.tagged config completed, False) :=
  .inr ⟨h.meets_tagged, .inr ⟨not_false, by rw [World.tagged_eq, h.world]⟩⟩

theorem Finishes.settled_lost (h : Finishes session w w' completed) {state : World × Prop}
    (hlost : Lost (w'.tagged config completed) state) :
    Settled config req token session w state := by
  refine .inr ⟨h.meets_tagged.same hlost.2, .inr ⟨hlost.1, ?_⟩⟩
  rw [hlost.2.revoked, World.tagged_eq, h.world]

theorem tagOf_ne_nil (hdigest : ∀ key text, config.hmacSha256 key text ≠ [])
    (hkey : config.sessionIntegrityKey ≠ []) (completed : GameSession) :
    tagOf config completed ≠ [] := by
  unfold tagOf computeSessionHmac
  rw [if_neg (by simpa using hkey)]
  exact hdigest _ _

/-- All the effects. -/
theorem Finishes.effects (hdigest : ∀ key text, config.hmacSha256 key text ≠ [])
    (htoken : req.token = some token) (h : Finishes session w w' completed) :
    CompletionEffects config req w
      (((w'.tagged config completed).rewarded completed).revoke token)
      (completed.tagged config) := by
  have htagged : w'.tagged config completed =
      { w with db := (w'.tagged config completed).db } := by
    rw [World.tagged_eq, h.world]
  have hcolumns : SameColumns completed (completed.tagged config) ∧
      (completed.tagged config).userId = completed.userId := by
    unfold GameSession.tagged
    split
    · exact ⟨⟨rfl, rfl, rfl⟩, rfl⟩
    · exact ⟨⟨rfl, rfl, rfl⟩, rfl⟩
  refine ⟨World.tagged_session h.row, fun hkey => ?_, ?_, ?_, fun _ _ => List.not_mem_nil, ?_⟩
  · rw [hcolumns.1.tagOf_eq, GameSession.tagged,
      if_neg (by simpa using tagOf_ne_nil hdigest hkey completed)]
  · rw [hcolumns.2, htagged]
    rfl
  · rw [hcolumns.2, hcolumns.1.totalScore, htagged]
    rfl
  · intro token' htoken'
    obtain rfl := Option.some.inj (htoken.symm.trans htoken')
    exact Function.update_self ..

theorem Finishes.settled_all (hdigest : ∀ key text, config.hmacSha256 key text ≠ [])
    (htoken : req.token = some token) (h : Finishes session w w' completed) :
    Settled config req token session w
      (((w'.tagged config completed).rewarded completed).revoke token, True) :=
  .inr ⟨⟨h.meets_tagged.row, h.meets_tagged.challenges, h.meets_tagged.questions⟩,
    .inl ⟨trivial, _, h.effects hdigest htoken⟩⟩

theorem watched_completeSession (session : GameSession)
    (hdigest : ∀ key text, config.hmacSha256 key text ≠ [])
    (htoken : req.token = some token) (hsession : w.db.session = some session)
    (hopen : session.completedAt = none) (hpractice : session.isPractice = false) :
    Tracked (completeSession config req session.id)
      (fun _ => Settled config req token session w) (Settled config req token session w)
      (w, True) := by
  refine Prog.wp_bind (Prog.wp_weaken (watched_finishSession hsession hopen) (fun _ _ h => h) ?_) ?_
  · rintro _ ⟨w', P⟩ (hstill | ⟨hP, completed, h⟩)
    · exact .inl hstill
    · obtain rfl : P = False := eq_false hP
      exact h.settled
  rintro completed ⟨w', P⟩ ⟨hP, h⟩
  obtain rfl : P = True := eq_true hP
  have hvalid : assertValidTotalScore completed.totalScore = Prog.ret () := by
    unfold assertValidTotalScore validateTotalScore validateScore
    rw [if_neg (Nat.not_lt.mpr h.totalScore)]
    rfl
  rw [hvalid, ← h.id]
  refine Prog.wp_bind (P := fun _ state => state = (w', True)) rfl ?_
  rintro _ _ rfl
  refine Prog.wp_bind (Prog.wp_weaken watched_storeHmac (fun _ _ h => h) ?_) ?_
  · rintro _ ⟨w'', P⟩ ⟨hP, hw''⟩
    obtain rfl : P = False := eq_false hP
    rcases hw'' with rfl | rfl
    · exact h.settled
    · exact h.settled_tagged
  rintro _ _ rfl
  refine Prog.wp_bind (Prog.wp_weaken (watched_rewardPlayer (h.isPractice.trans hpractice))
    (fun _ _ h => h) fun _ _ hlost => h.settled_lost hlost) ?_
  rintro _ _ rfl
  unfold revokeBearerToken
  rw [htoken]
  refine Prog.wp_bind (Prog.wp_weaken (watched_revokeSessionToken completed.id token)
    (fun _ _ h => h) ?_) ?_
  · rintro _ state (hlost | rfl)
    · exact h.settled_lost ⟨hlost.1, hlost.2.session, hlost.2.challenges, hlost.2.questions,
        hlost.2.revoked⟩
    · exact h.settled_all hdigest htoken
  rintro _ _ rfl
  exact h.settled_all hdigest htoken

/-! ### What a request has to meet -/

/-- A request that gets past the middleware, for an answer to round 3. -/
structure Passes (req : Request) (token : Text) (userId : Id) (body : AnswerBody) : Prop where
  apiKey : req.apiKey = false
  token : req.token = some token
  payload : req.payload = some ⟨userId, false⟩
  human : ∀ reactionTimeMs, req.reactionTimeMs = some reactionTimeMs →
    BOT_REACTION_THRESHOLD_MS ≤ reactionTimeMs
  round : req.round.bind Round.ofInt? = some .three
  body : parseBody req = .ok body

/-- The handler finds what it looks for: the challenge, the session and the question. -/
structure Finds (w : World) (req : Request) (userId : Id) (session : GameSession)
    (question : ChallengeQuestion) : Prop where
  challenge : w.challenges.find? (fun challengeId => challengeId = req.challengeId) =
    some req.challengeId
  row : w.db.session = some session
  userId : session.userId = userId
  challengeId : session.challengeId = req.challengeId
  started : session.challengeStartedAt.isSome = true
  flagged : session.flagged = false
  question : (w.questions req.challengeId).find? (fun question => question.round = .three) =
    some question

/-- A call that only looks something up. -/
theorem lookup_call {G : World → Op → Env → Prop} {op : Op} {a : answerSig.Ans op}
    {R : ApiError → World → Prop} (hop : op.reads = true) (hw : Unchanged w w')
    (ha : ∀ e v, Unchanged w v → (perform e op v).1 = .ok a)
    (hR : ∀ e fault v, G w' op e → e.fault = some fault → Unchanged w v → R fault.err v) :
    (Prog.call (S := answerSig) op : Handler (answerSig.Ans op)).wp answerMachine G
      (fun _ => True) (Prog.Ends (fun b v => b = a ∧ Unchanged w v) R) w' := by
  refine Prog.wp_call fun e he => ⟨trivial, ?_⟩
  have hexec := hw.trans (exec_unchanged e hop w')
  unfold answerMachine at hexec ⊢
  dsimp only at hexec ⊢
  cases hfault : e.fault with
  | none =>
      rw [hfault] at hexec
      dsimp only at hexec ⊢
      rw [ha e w' hw]
      exact ⟨rfl, hexec⟩
  | some fault =>
      rw [hfault] at hexec
      exact hR e fault _ he hfault hexec

theorem perform_getRevoked (token : Text) (e : Env) (w' : World) (hw : Unchanged w w') :
    (perform e (.getRevoked token) w').1 = .ok (w.revoked token) := by
  rw [← hw.revoked]
  rfl

theorem perform_getChallengeById (id : Id) (e : Env) (w' : World) (hw : Unchanged w w') :
    (perform e (.getChallengeById id) w').1 =
      .ok (w.challenges.find? fun challengeId => challengeId = id) := by
  rw [← hw.challenges]
  rfl

theorem perform_getSession (userId challengeId : Id) (e : Env) (w' : World)
    (hw : Unchanged w w') :
    (perform e (.getSession userId challengeId) w').1 =
      .ok (getSession w.db userId challengeId) := by
  rw [← hw.db]
  rfl

theorem perform_getChallengeQuestions (challengeId : Id) (e : Env) (w' : World)
    (hw : Unchanged w w') :
    (perform e (.getChallengeQuestions challengeId) w').1 = .ok (w.questions challengeId) := by
  rw [← hw.questions]
  rfl

/-- What is known of a request that `authenticate` lets pass. -/
theorem authenticate_passes {G : World → Op → Env → Prop} (w : World) (req : Request) :
    (authenticate req).wp answerMachine G (fun _ => True)
      (Prog.Ends (fun authenticated w' => Unchanged w w' ∧ ∀ payload,
        authenticated = .ok payload → ∃ token, req.apiKey = false ∧ req.token = some token ∧
          req.payload = some ⟨payload.sub, false⟩ ∧ w.revoked token = false)
        fun _ _ => False) w := by
  unfold authenticate
  dsimp only
  split
  · exact ⟨.refl w, nofun⟩
  rename_i hkey
  split
  · exact ⟨.refl w, nofun⟩
  · exact ⟨.refl w, nofun⟩
  rename_i token payload htoken hpayload
  refine Prog.wp_tryCatch (P := fun _ w' => Unchanged w w') ?_ fun _ w' hw' => ⟨hw', nofun⟩
  refine Prog.wp_bind (lookup_call rfl (.refl w) (perform_getRevoked token)
    fun _ _ _ _ _ hv => hv) ?_
  rintro revoked w' ⟨rfl, hw'⟩
  split
  · exact ⟨hw', nofun⟩
  rename_i hrevoked
  split
  · exact ⟨hw', nofun⟩
  rename_i himpersonated
  refine ⟨hw', ?_⟩
  rintro _ ⟨⟩
  refine ⟨token, by simpa using hkey, htoken, ?_, by simpa using hrevoked⟩
  rw [hpayload]
  cases payload
  simp_all

/-! ### The first attempt -/

theorem watched_of_reads {α : Type} {p : Handler α} {Q : α → World → Prop}
    {R : ApiError → World → Prop}
    (hemits : p.Emits (fun op : Op => op.reads = true) (fun _ _ => True) fun _ => True)
    (h : p.wp answerMachine (fun _ _ _ => True) (fun _ => True) (Prog.Ends Q R) w) :
    Tracked p (fun a state => state.2 ∧ Q a state.1) (fun state => ∃ err, R err state.1)
      (w, True) := by
  have hguard : ∀ w op e, op.reads = true → GoesThrough w op e :=
    fun _ _ e hop => goesThrough_of_reads e hop
  refine Prog.wp_mono (Prog.wp_watched hguard hemits h) fun r state hstate => ?_
  cases r with
  | ok a => exact hstate
  | error err => exact ⟨err, hstate.2⟩

/-- How an attempt leaves an open session: open, or completed with everything a retry has to meet,
and with the effects or a token that is not revoked. -/
def Attempted (config : Config) (req : Request) (w : World) (state : World × Prop) : Prop :=
  IsOpen state.1 ∨ ∃ token userId body completed question,
    Passes req token userId body ∧ Finds state.1 req userId completed question ∧
      completed.completedAt.isSome = true ∧ (completed.rounds .three).answer = body.selectedOption ∧
        (state.2 ∧ (∃ completed, CompletionEffects config req w state.1 completed) ∨
          ¬ state.2 ∧ state.1.revoked token = false)

theorem watched_recordRoundScore {round : Round} {score reactionTimeMs : Nat}
    {answer : Option Choice} (hsession : w.db.session = some session)
    (hopen : session.completedAt = none) :
    Tracked (Prog.call (S := answerSig)
        (.recordRoundScore session.id round score answer reactionTimeMs))
      (fun _ state => state = ({ w with
        db := w.db.withRound session round ⟨answer, score, some reactionTimeMs⟩ }, True))
      (fun state => IsOpen state.1) (w, True) := by
  refine Prog.wp_call fun e _ => ⟨trivial, ?_⟩
  have hstill : IsOpen w := ⟨session, hsession, hopen⟩
  unfold Machine.watched answerMachine perform GoesThrough
  dsimp only
  rcases w.db.recordRoundScore_cases session.id round score answer reactionTimeMs with
    ⟨err, heq⟩ | ⟨current, hfound, -, heq⟩
  · rw [heq]
    cases e.fault with
    | none => exact hstill
    | some fault =>
        dsimp only
        split <;> exact hstill
  · obtain ⟨hcurrent, -⟩ := Option.filter_eq_some_iff.mp hfound
    obtain rfl := Option.some.inj (hsession.symm.trans hcurrent)
    rw [heq]
    cases e.fault with
    | none => exact Prod.ext rfl (and_true True)
    | some fault =>
        dsimp only
        split
        · exact ⟨_, rfl, hopen⟩
        · exact hstill

variable {userId : Id} {body : AnswerBody} {question : ChallengeQuestion}

/-- What a retry meets is found again. -/
theorem RetryMeets.finds {rounds : Round → RoundRecord}
    (h : RetryMeets { session with rounds := rounds } w' w'')
    (hchallenges : w'.challenges = w.challenges) (hquestions : w'.questions = w.questions)
    (hfinds : Finds w req userId session question) :
    ∃ completed, Finds w'' req userId completed question ∧
      completed.completedAt.isSome = true ∧ completed.rounds = rounds := by
  obtain ⟨completed, hrow, hfinish⟩ := h.row
  refine ⟨completed, ⟨?_, hrow, ?_, ?_, ?_, ?_, ?_⟩, hfinish.completedAt, hfinish.rounds⟩
  · rw [h.challenges, hchallenges, hfinds.challenge]
  · exact hfinish.userId.trans hfinds.userId
  · exact hfinish.challengeId.trans hfinds.challengeId
  · rw [hfinish.challengeStartedAt, hfinds.started]
  · exact hfinish.flagged.trans hfinds.flagged
  · rw [h.questions, hquestions, hfinds.question]

/-- The effects of a completion that began in `w'` count from `w`. -/
theorem CompletionEffects.from_unchanged (h : CompletionEffects config req w' w'' completed)
    (hstreak : w'.streakUpdates = w.streakUpdates) (hbadges : w'.badgeChecks = w.badgeChecks)
    (hboards : w'.leaderboards = w.leaderboards) :
    CompletionEffects config req w w'' completed where
  session := h.session
  tag := h.tag
  streak := hstreak ▸ h.streak
  badges := hbadges ▸ h.badges
  leaderboards := hboards ▸ h.leaderboards
  token := h.token

theorem attempted_of_settled {row : RoundRecord} {state : World × Prop}
    (hpasses : Passes req token userId body) (hrevoked : w.revoked token = false)
    (hfinds : Finds w req userId session question) (hrow : row.answer = body.selectedOption)
    (h : Settled config req token
      { session with rounds := Function.update session.rounds .three row }
      { w with db := w.db.withRound session .three row } state) :
    Attempted config req w state := by
  rcases h with hstill | ⟨hmeets, hsettled⟩
  · exact .inl hstill
  obtain ⟨completed, hfound, hsome, hrounds⟩ := hmeets.finds (w := w) rfl rfl hfinds
  refine .inr ⟨token, userId, body, completed, question, hpasses, hfound, hsome, ?_, ?_⟩
  · rw [hrounds, Function.update_self, hrow]
  · rcases hsettled with ⟨hgone, completed, heffects⟩ | ⟨hlost, hsame⟩
    · exact .inl ⟨hgone, completed, heffects.from_unchanged rfl rfl rfl⟩
    · exact .inr ⟨hlost, hsame.trans hrevoked⟩

theorem CompletionEffects.after_unchanged (h : CompletionEffects config req w w' completed)
    (hw : Unchanged w' w'') : CompletionEffects config req w w'' completed where
  session := hw.db ▸ h.session
  tag := h.tag
  streak := hw.streakUpdates.trans h.streak
  badges := hw.badgeChecks.trans h.badges
  leaderboards := hw.leaderboards ▸ h.leaderboards
  token := hw.revoked ▸ h.token

theorem watched_answerQuestion (hdigest : ∀ key text, config.hmacSha256 key text ≠ [])
    {round : Round} (hpasses : round = .three → Passes req token userId body)
    (hrevoked : w.revoked token = false)
    (hfinds : round = .three → Finds w req userId session question)
    (hsession : w.db.session = some session) (hopen : session.completedAt = none)
    (hpractice : session.isPractice = false) :
    Tracked (answerQuestion config req round body session question)
      (fun _ => Attempted config req w) (Attempted config req w) (w, True) := by
  have hstill : IsOpen w := ⟨session, hsession, hopen⟩
  unfold answerQuestion
  rw [if_neg (by simp [hopen])]
  split
  · exact .inl hstill
  unfold scoreAnswer
  dsimp only
  split
  · exact .inl hstill
  refine Prog.wp_bind (Prog.wp_weaken (watched_recordRoundScore hsession hopen) (fun _ _ h => h)
    fun _ _ h => .inl h) ?_
  rintro _ _ rfl
  refine Prog.wp_bind (P := fun _ => Attempted config req w) ?_ fun _ _ h => h
  unfold afterRound
  split
  · rename_i hround
    subst hround
    have hcomplete := fun row : RoundRecord => watched_completeSession
      { session with rounds := Function.update session.rounds .three row }
      (w := { w with db := w.db.withRound session .three row })
      hdigest (hpasses rfl).token rfl hopen hpractice
    refine Prog.wp_weaken (hcomplete _) (fun _ state h => ?_) fun _ state h => ?_
    · exact attempted_of_settled (hpasses rfl) hrevoked (hfinds rfl) rfl h
    · exact attempted_of_settled (hpasses rfl) hrevoked (hfinds rfl) rfl h
  · exact .inl ⟨_, rfl, hopen⟩

theorem Attempted.from_unchanged {state : World × Prop} (h : Attempted config req w' state)
    (hw : Unchanged w w') : Attempted config req w state := by
  refine h.imp_right ?_
  rintro ⟨token, userId, body, completed, question, hpasses, hfinds, hsome, hanswer, heffects⟩
  refine ⟨token, userId, body, completed, question, hpasses, hfinds, hsome, hanswer,
    heffects.imp_left fun ⟨hgone, completed, heffects⟩ => ⟨hgone, completed, ?_⟩⟩
  exact heffects.from_unchanged hw.streakUpdates hw.badgeChecks hw.leaderboards

theorem IsOpen.unchanged (h : IsOpen w) (hw : Unchanged w w') : IsOpen w' := by
  obtain ⟨session, hsession, hopen⟩ := h
  exact ⟨session, hw.db ▸ hsession, hopen⟩

/-- A lookup of the first attempt. -/
theorem watched_lookup {op : Op} {a : answerSig.Ans op} (hstill : IsOpen w)
    (hop : op.reads = true) (hw : Unchanged w w')
    (ha : ∀ e v, Unchanged w v → (perform e op v).1 = .ok a) :
    Tracked (Prog.call (S := answerSig) op)
      (fun b state => b = a ∧ state.2 ∧ Unchanged w state.1) (Attempted config req w)
      (w', True) := by
  refine Prog.wp_weaken (watched_of_reads (emits_call hop) (lookup_call (R := fun _ => Unchanged w)
    hop hw ha fun _ _ _ _ _ hv => hv)) (fun _ _ h => ⟨h.2.1, h.1, h.2.2⟩) ?_
  rintro _ state ⟨-, hv⟩
  exact .inl (hstill.unchanged hv)

theorem watched_submitAnswer (hdigest : ∀ key text, config.hmacSha256 key text ≠ [])
    {round : Round} (hpasses : round = .three → Passes req token userId body)
    (hrevoked : w.revoked token = false) (hsession : w.db.session = some session)
    (hopen : session.completedAt = none) (hpractice : session.isPractice = false)
    (hw : Unchanged w w') :
    Tracked (submitAnswer config userId req round body)
      (fun _ => Attempted config req w) (Attempted config req w) (w', True) := by
  have hstill : IsOpen w := ⟨session, hsession, hopen⟩
  -- a branch that ends before the answer is stored leaves the session open
  unfold submitAnswer
  refine Prog.wp_bind (watched_lookup hstill rfl hw (perform_getChallengeById _)) ?_
  rintro _ ⟨v, P⟩ ⟨rfl, hP, hv⟩
  obtain rfl : P = True := eq_true hP
  split
  · exact .inl (hstill.unchanged hv)
  rename_i challengeId hchallenge
  have hid : challengeId = req.challengeId := by simpa using List.find?_some hchallenge
  subst hid
  refine Prog.wp_bind (watched_lookup hstill rfl hv (perform_getSession userId _)) ?_
  rintro _ ⟨v', P⟩ ⟨rfl, hP, hv'⟩
  obtain rfl : P = True := eq_true hP
  have hagain : IsOpen v' := hstill.unchanged hv'
  split
  · exact .inl hagain
  rename_i found hfound
  obtain ⟨hrow, hmatches⟩ := Option.filter_eq_some_iff.mp hfound
  obtain rfl := Option.some.inj (hsession.symm.trans hrow)
  simp only [Bool.and_eq_true, decide_eq_true_eq] at hmatches
  split
  · exact .inl hagain
  split
  · exact .inl hagain
  rename_i hstarted
  split
  · exact .inl hagain
  split
  · exact .inl hagain
  rename_i hflagged
  refine Prog.wp_bind (watched_lookup hstill rfl hv' (perform_getChallengeQuestions _)) ?_
  rintro _ ⟨v'', P⟩ ⟨rfl, hP, hv''⟩
  obtain rfl : P = True := eq_true hP
  split
  · exact .inl (hstill.unchanged hv'')
  rename_i question hquestion
  have hfinds : round = .three → Finds v'' req userId session question := by
    rintro rfl
    refine ⟨?_, hv''.db ▸ hsession, hmatches.1, hmatches.2,
      Option.isSome_iff_ne_none.mpr (by simpa using hstarted), by simpa using hflagged, ?_⟩
    · rw [hv''.challenges, hchallenge]
    · rw [hv''.questions, hquestion]
  have hanswer := watched_answerQuestion hdigest hpasses (hv''.revoked ▸ hrevoked) hfinds
    (hv''.db ▸ hsession) hopen hpractice
  exact Prog.wp_weaken hanswer (fun _ _ h => h.from_unchanged hv'')
    fun _ _ h => h.from_unchanged hv''

theorem watched_answer (req : Request) (hdigest : ∀ key text, config.hmacSha256 key text ≠ [])
    (hsession : w.db.session = some session) (hopen : session.completedAt = none)
    (hpractice : session.isPractice = false) :
    Tracked (answer config req) (fun _ => Attempted config req w) (Attempted config req w)
      (w, True) := by
  have hstill : IsOpen w := ⟨session, hsession, hopen⟩
  unfold answer
  refine Prog.wp_bind (Prog.wp_weaken (watched_of_reads (emits_authenticate (fun _ => id) req)
    (authenticate_passes w req)) (fun _ _ h => h) fun _ _ ⟨_, h⟩ => h.elim) ?_
  rintro authenticated ⟨v, P⟩ ⟨hP, hv, hknown⟩
  obtain rfl : P = True := eq_true hP
  cases authenticated with
  | error response => exact .inl (hstill.unchanged hv)
  | ok payload =>
      obtain ⟨token, hkey, htoken, hpayload, hrevoked⟩ := hknown payload rfl
      have hemits : (validateReactionTime payload.sub req).Emits (fun op : Op => op.reads = true)
          (fun _ _ => True) _ := emits_validateReactionTime (fun _ => id) payload.sub req
      have hreaction := hemits.wp_returns (M := answerMachine) (G := fun _ _ _ => True)
        (I := fun _ => True) (K := Unchanged w) (fun _ _ => trivial)
        (fun v op e hv hop _ => ⟨hv.trans (exec_unchanged e hop v), trivial⟩) hv
      refine Prog.wp_bind (Prog.wp_weaken (watched_of_reads (hemits.mono fun _ _ => trivial)
        hreaction) (fun _ _ h => h) fun _ _ ⟨_, h⟩ => .inl (hstill.unchanged h)) ?_
      rintro _ ⟨v', P⟩ ⟨hP, hhuman, hv'⟩
      obtain rfl : P = True := eq_true hP
      split
      · exact .inl (hstill.unchanged hv')
      rename_i round hround
      split
      · exact .inl (hstill.unchanged hv')
      rename_i body hbody
      exact watched_submitAnswer hdigest (fun hthree => ⟨hkey, htoken, hpayload, hhuman,
        hthree ▸ hround, hbody⟩) hrevoked hsession hopen hpractice hv'

/-! ### Retries -/

/-- With a token that is revoked nothing happens any more. -/
theorem answer_revoked (config : Config) (htoken : req.token = some token)
    (hrevoked : w.revoked token = true) :
    (answer config req).wp answerMachine (fun _ _ _ => True) (fun _ => True)
      (Prog.Ends (fun _ => Unchanged w) fun _ => Unchanged w) w := by
  refine Prog.wp_bind (Prog.wp_weaken (authenticate_passes w req) (fun _ _ h => h)
    fun _ _ h => h.elim) fun authenticated v h => ?_
  obtain ⟨hv, hknown⟩ := h
  cases authenticated with
  | error response => exact hv
  | ok payload =>
      obtain ⟨token', -, htoken', -, hrevoked'⟩ := hknown payload rfl
      obtain rfl := Option.some.inj (htoken.symm.trans htoken')
      rw [hrevoked] at hrevoked'
      cases hrevoked'

theorem attempts_revoked (config : Config) (htoken : req.token = some token) :
    ∀ (retries : List (Nat → Env)) {w : World}, w.revoked token = true →
      Unchanged w (attempts config req retries w).2
  | [], w, _ => .refl w
  | s :: rest, w, hrevoked => by
      have hstep := Prog.run_world_of_wp (s := s) (answer_revoked config htoken hrevoked)
        fun _ _ _ => trivial
      exact hstep.trans (attempts_revoked config htoken rest (hstep.revoked ▸ hrevoked))

/-- No call fails. -/
def Faultless (_ : World) (_ : Op) (e : Env) : Prop := e.fault = none

/-- A lookup that does not fail. -/
theorem faultless_lookup {op : Op} {a : answerSig.Ans op} (hop : op.reads = true)
    (hw : Unchanged w w') (ha : ∀ e v, Unchanged w v → (perform e op v).1 = .ok a) :
    (Prog.call (S := answerSig) op : Handler (answerSig.Ans op)).wp answerMachine Faultless
      (fun _ => True) (Prog.Ends (fun b v => b = a ∧ Unchanged w v) fun _ _ => False) w' :=
  lookup_call hop hw ha fun e fault _ hnone hsome => by
    rw [Faultless, hsome] at hnone
    cases hnone

/-- What may throw is caught. -/
theorem wp_caught {α : Type} {p : Handler α} {a : α} {G : World → Op → Env → Prop}
    (hemits : (p.tryCatch fun _ => Prog.ret a).Emits (fun op : Op => op.reads = true)
      (fun _ _ => True) fun _ => True) (hw : Unchanged w w') :
    (p.tryCatch fun _ => Prog.ret a).wp answerMachine G (fun _ => True)
      (Prog.Ends (fun _ => Unchanged w) fun _ _ => False) w' := by
  refine Prog.wp_tryCatch (P := fun _ => Unchanged w) ?_ fun _ _ hv => hv
  exact hemits.of_tryCatch.wp (fun _ _ => trivial)
    (fun v op e hv hop _ => ⟨hv.trans (exec_unchanged e hop v), trivial⟩) hw

theorem flagIf_passes {G : World → Op → Env → Prop} (reason : Bool) (flagType : String)
    (hw : Unchanged w w') :
    (flagIf reason userId req flagType).wp answerMachine G (fun _ => True)
      (Prog.Ends (fun _ => Unchanged w) fun _ _ => False) w' := by
  unfold flagIf
  split
  · exact wp_caught (emits_recordFraudFlagBestEffort (fun _ => id) userId req flagType) hw
  · exact hw

/-- The reaction time of a human is let through, whatever fails. -/
theorem validateReactionTime_passes {G : World → Op → Env → Prop}
    (hhuman : ∀ reactionTimeMs, req.reactionTimeMs = some reactionTimeMs →
      BOT_REACTION_THRESHOLD_MS ≤ reactionTimeMs) (hw : Unchanged w w') :
    (validateReactionTime userId req).wp answerMachine G (fun _ => True)
      (Prog.Ends (fun _ => Unchanged w) fun _ _ => False) w' := by
  unfold validateReactionTime
  cases hreaction : req.reactionTimeMs with
  | none => exact hw
  | some reactionTimeMs =>
      dsimp only
      rw [if_neg (Int.not_lt.mpr (hhuman _ hreaction))]
      refine Prog.wp_bind (wp_caught (emits_getThresholds fun _ => id) hw) fun _ v hv => ?_
      exact Prog.wp_bind (flagIf_passes _ _ hv) fun _ v hv => flagIf_passes _ _ hv

theorem authenticate_faultless (hpasses : Passes req token userId body)
    (hrevoked : w.revoked token = false) :
    (authenticate req).wp answerMachine Faultless (fun _ => True)
      (Prog.Ends (fun authenticated v => authenticated = .ok ⟨userId, false⟩ ∧ Unchanged w v)
        fun _ _ => False) w := by
  unfold authenticate
  dsimp only
  rw [if_neg (by simp [hpasses.apiKey]), hpasses.token, hpasses.payload]
  refine Prog.wp_tryCatch (P := fun _ _ => False) ?_ fun _ _ h => h.elim
  refine Prog.wp_bind (faultless_lookup rfl (.refl w) (perform_getRevoked token)) ?_
  rintro _ v ⟨rfl, hv⟩
  rw [if_neg (by simp [hrevoked])]
  exact ⟨rfl, hv⟩

/-- A retry finds the session completed and is answered 200, without a call of those that the
completion consists of. -/
theorem answer_replayed (config : Config) (hpasses : Passes req token userId body)
    (hfinds : Finds w req userId session question) (hsome : session.completedAt.isSome = true)
    (hanswer : (session.rounds .three).answer = body.selectedOption)
    (hrevoked : w.revoked token = false) :
    (answer config req).wp answerMachine Faultless (fun _ => True)
      (Prog.Ends (fun response v => response.isOk = true ∧ Unchanged w v) fun _ _ => False) w := by
  unfold answer
  refine Prog.wp_bind (authenticate_faultless hpasses hrevoked) ?_
  rintro _ v ⟨rfl, hv⟩
  refine Prog.wp_bind (validateReactionTime_passes hpasses.human hv) fun _ v hv => ?_
  rw [hpasses.round, hpasses.body]
  unfold submitAnswer answerQuestion
  refine Prog.wp_bind (faultless_lookup rfl hv (perform_getChallengeById _)) ?_
  rintro _ v ⟨rfl, hv⟩
  rw [hfinds.challenge]
  refine Prog.wp_bind (faultless_lookup rfl hv (perform_getSession userId _)) ?_
  rintro _ v ⟨rfl, hv⟩
  have hfound : getSession w.db userId req.challengeId = some session := by
    simp [getSession, hfinds.row, Option.filter, hfinds.userId, hfinds.challengeId]
  rw [hfound]
  dsimp only
  have hstarted : session.challengeStartedAt ≠ none := Option.isSome_iff_ne_none.mp hfinds.started
  rw [if_neg (by simp [hfinds.userId]), if_neg (by simpa using hstarted), if_neg (by simp),
    if_neg (by simp [hfinds.flagged])]
  refine Prog.wp_bind (faultless_lookup rfl hv (perform_getChallengeQuestions _)) ?_
  rintro _ v ⟨rfl, hv⟩
  rw [hfinds.question]
  dsimp only
  rw [if_pos (by simp [hsome]), if_neg (not_not.mpr hanswer)]
  exact ⟨rfl, hv⟩

/-- Nothing fails. -/
def faultless : Nat → Env := fun _ => ⟨none, 0⟩

theorem retry_answered (config : Config) (hpasses : Passes req token userId body)
    (hfinds : Finds w req userId session question) (hsome : session.completedAt.isSome = true)
    (hanswer : (session.rounds .three).answer = body.selectedOption)
    (hrevoked : w.revoked token = false) :
    answeredOk ((answer config req).run answerMachine faultless w).1 = true ∧
      Unchanged w ((answer config req).run answerMachine faultless w).2 := by
  have hanswered := Prog.wp_mono (answer_replayed config hpasses hfinds hsome hanswer
    hrevoked) (R := fun r v => answeredOk r = true ∧ Unchanged w v) fun r v hr => by
      cases r with
      | ok response => exact hr
      | error err => exact hr.elim
  have hguard : ∀ w op n, Faultless w op (faultless n) := fun _ _ _ => rfl
  exact Prog.run_of_wp hanswered hguard

/-! ### The property -/

/-- **Completion effects are kept exactly if no call has lost them.** A request completes a session
that is not for practice. Then no attempt at it is ever answered 200 without the effects if and
only if every call that the completion consists of goes through. -/
theorem completion_effects_kept_iff (config : Config)
    (hdigest : ∀ key text, config.hmacSha256 key text ≠ []) (req : Request) (s : Nat → Env)
    (w : World) {session completed : GameSession} (hsession : w.db.session = some session)
    (hopen : session.completedAt = none) (hpractice : session.isPractice = false)
    (hrow : ((answer config req).run answerMachine s w).2.db.session = some completed)
    (hcompletes : completed.completedAt.isSome = true) :
    EffectsKept config req s w ↔ (answer config req).runOk answerMachine GoesThrough s w := by
  have hattempted := Prog.run_of_wp_watched (s := s) (Prog.wp_world
    (watched_answer req hdigest hsession hopen hpractice))
  rcases hattempted with ⟨session', hsession', hopen'⟩ | ⟨token, userId, body, completed,
    question, hpasses, hfinds, hsome, hanswer, heffects⟩
  · obtain rfl := Option.some.inj (hrow.symm.trans hsession')
    rw [hopen'] at hcompletes
    cases hcompletes
  constructor
  · intro hkept
    by_contra hlost
    obtain ⟨-, hrevoked⟩ := heffects.resolve_left fun h => hlost h.1
    -- a retry without failures is answered 200, and does not revoke the token
    obtain ⟨hok, hsame⟩ := retry_answered config hpasses hfinds hsome hanswer hrevoked
    obtain ⟨completed, heffects⟩ := hkept [faultless]
      ⟨_, List.mem_cons_of_mem _ List.mem_cons_self, hok⟩
    have hstill := heffects.token token hpasses.token
    exact absurd (hstill.symm.trans (hsame.revoked ▸ hrevoked)) (by decide)
  · intro hgone retries _
    obtain ⟨-, completed, heffects⟩ := heffects.resolve_right fun h => h.1 hgone
    have hsame := attempts_revoked config hpasses.token retries
      (heffects.token token hpasses.token)
    exact ⟨completed, heffects.after_unchanged hsame⟩

/-! ### The last answer -/

/-- With a key, and the digest of the text that is signed. -/
def signingConfig : Config where
  sessionIntegrityKey := "replace-with-at-least-32-random-chars".toList
  hmacSha256 _ text :=
    if text = "s:146:Thu Jan 01 1970 00:00:00 GMT+0000 (Coordinated Universal Time)".toList then
      "52fa6448cceb312dc0c8b780d9e5fa146e18504df7adbe16ccfa2566d3b98c12".toList
    else List.replicate 64 '0'
  dateText _ := "Thu Jan 01 1970 00:00:00 GMT+0000 (Coordinated Universal Time)".toList

theorem signingConfig_digest (key text : Text) : signingConfig.hmacSha256 key text ≠ [] := by
  show (if text = _ then _ else _) ≠ []
  split <;> decide

/-- One leaderboard is cached. -/
def cachedWorld : World := { World.started with leaderboards := ["leaderboard:c".toList] }

/-- The row that the request leaves. -/
def signedSession (tag : Option Text) : GameSession :=
  { startedSession with
    status := .completed
    completedAt := some 0
    rounds := Function.update startedSession.rounds .three ⟨some .C, 146, some 1000⟩
    totalScore := 146
    integrityHmac := tag }

/-- Nothing fails, and the effects are there whatever is sent again. -/
theorem last_answer_keeps_effects :
    answeredOk ((answer signingConfig (answerAfterSecond 3 .C)).run answerMachine faultless
        cachedWorld).1 = true ∧
      EffectsKept signingConfig (answerAfterSecond 3 .C) faultless cachedWorld := by
  refine ⟨by decide +kernel, (completion_effects_kept_iff signingConfig signingConfig_digest
    (answerAfterSecond 3 .C) faultless cachedWorld
    (show cachedWorld.db.session = some startedSession from rfl) rfl rfl
    (show _ = some (signedSession (some
      "52fa6448cceb312dc0c8b780d9e5fa146e18504df7adbe16ccfa2566d3b98c12".toList)) from rfl)
    rfl).mpr (Prog.runOk_of_forall fun w op n => ?_)⟩
  cases op <;> first | rfl | trivial | nofun

/-- A call may throw once the session is completed. -/
def AfterCompletion (w : World) (_ : Op) (e : Env) : Prop :=
  e.fault.isSome = true → (w.db.session.any fun session => session.completedAt.isSome) = true

instance (w : World) (op : Op) (e : Env) : Decidable (AfterCompletion w op e) :=
  inferInstanceAs (Decidable (_ → _))

/-- Storing the tag throws. -/
def tagNotStored : Nat → Env
  | 7 => ⟨some ⟨dbError "Connection terminated" "57P01", false⟩, 0⟩
  | _ => ⟨none, 0⟩

/-- The request is answered 500, and the same request 200, with no tag, no streak, no badges, the
leaderboards still cached and the token still valid. -/
theorem effects_lost :
    ¬ ∀ (config : Config) (req : Request) (s : Nat → Env) (w : World)
        (session completed : GameSession),
      (∀ key text, config.hmacSha256 key text ≠ []) → w.db.session = some session →
      session.completedAt = none → session.isPractice = false →
      (answer config req).runOk answerMachine AfterCompletion s w →
      ((answer config req).run answerMachine s w).2.db.session = some completed →
      completed.completedAt.isSome = true → EffectsKept config req s w := by
  intro hall
  have hkept := hall signingConfig (answerAfterSecond 3 .C) tagNotStored cachedWorld
    startedSession (signedSession none) signingConfig_digest rfl rfl rfl (by decide +kernel)
    rfl rfl
  obtain ⟨completed, heffects⟩ := hkept [faultless]
    ⟨_, List.mem_cons_of_mem _ List.mem_cons_self, by decide +kernel⟩
  have hstreak : (attempts signingConfig (answerAfterSecond 3 .C) [tagNotStored, faultless]
      cachedWorld).2.streakUpdates = [] := by decide +kernel
  have hupdated := heffects.streak
  rw [hstreak] at hupdated
  cases hupdated

end BrandBlitz.Sessions

import BrandBlitz.Lib.Crew
import BrandBlitz.Sessions.Answer

/-!
# BrandBlitz.Sessions.Consistency

**The scores of a completed session agree.** A score is stored in the row of its round, in
the columns of the session, in the session's total and in the total of the user. Two
statements write them: `recordRoundScore` the first two, and `finishSession` the others, once
and for all.

So everything depends on what is recorded after the session is completed. The route does not
let a request through that finds the session completed, but a request which has read the
session before may record after. The scores agree in every state of every interleaving in
which such a late record writes the score that the round already has (`Orderly`), and there
are interleavings in which they do not agree.
-/

namespace BrandBlitz.Sessions

open BrandBlitz.Lib

/-! ### What the route emits -/

/-- Is this the upsert of a round? -/
def Op.records : Op → Bool
  | .recordRoundScore .. => true
  | _ => false

/-- Is this neither a write of a session nor anything that follows its completion? -/
def Op.reads : Op → Bool
  | .getRevoked _ | .getCachedThresholds | .getConfigThresholds | .cacheThresholds _
  | .createFraudFlag .. | .getChallengeById _ | .getSession .. | .getChallengeQuestions _ => true
  | _ => false

theorem records_of_reads {op : Op} (h : op.reads = true) : op.records = false := by
  cases op <;> first | rfl | cases h

section Emission

variable {ok : Op → Prop} {good : (op : Op) → Except ApiError (answerSig.Ans op) → Prop}

theorem emits_call {op : Op} (h : ok op) :
    (Prog.call (S := answerSig) op : Handler (answerSig.Ans op)).Emits ok good fun _ => True :=
  Prog.Emits.call h fun _ _ => trivial

section Middleware

variable (hreads : ∀ op : Op, op.reads = true → ok op)
include hreads

theorem emits_authenticate (req : Request) :
    (authenticate req).Emits ok good fun _ => True := by
  unfold authenticate
  dsimp only
  split
  · trivial
  split
  · trivial
  · trivial
  · refine Prog.Emits.tryCatch ((emits_call (hreads _ rfl)).bind fun revoked _ => ?_)
      fun _ => trivial
    split
    · trivial
    split
    · trivial
    · trivial

theorem emits_getThresholds : getThresholds.Emits ok good fun _ => True := by
  refine Prog.Emits.tryCatch ((emits_call (hreads _ rfl)).bind fun cached _ => ?_) fun _ => trivial
  cases cached with
  | some thresholds => trivial
  | none =>
      exact (emits_call (hreads _ rfl)).bind fun config _ =>
        (emits_call (hreads _ rfl)).bind fun _ _ => trivial

theorem emits_recordFraudFlagBestEffort (userId : Id) (req : Request) (flagType : String) :
    (recordFraudFlagBestEffort userId req flagType).Emits ok good fun _ => True := by
  refine Prog.Emits.tryCatch ((emits_call (hreads _ rfl)).bind fun session _ => ?_) fun _ => trivial
  cases session with
  | none => trivial
  | some session => exact emits_call (hreads _ rfl)

theorem emits_flagIf (reason : Bool) (userId : Id) (req : Request) (flagType : String) :
    (flagIf reason userId req flagType).Emits ok good fun _ => True := by
  unfold flagIf
  split
  · exact emits_recordFraudFlagBestEffort hreads userId req flagType
  · trivial

/-- What it lets through was possible for a human. -/
theorem emits_validateReactionTime (userId : Id) (req : Request) :
    (validateReactionTime userId req).Emits ok good fun _ =>
      ∀ reactionTimeMs, req.reactionTimeMs = some reactionTimeMs →
        BOT_REACTION_THRESHOLD_MS ≤ reactionTimeMs := by
  unfold validateReactionTime
  cases req.reactionTimeMs with
  | none => exact fun _ h => by cases h
  | some reactionTimeMs =>
      dsimp only
      split
      · exact (emits_recordFraudFlagBestEffort hreads userId req _).bind fun _ _ => trivial
      · rename_i hslow
        refine (emits_getThresholds hreads).bind fun thresholds _ =>
          (emits_flagIf hreads _ userId req _).bind fun _ _ =>
            (emits_flagIf hreads _ userId req _).mono fun _ _ => ?_
        rintro _ ⟨⟩
        exact Int.not_lt.mp hslow

end Middleware

variable (hquiet : ∀ op : Op, op.records = false → ok op)
include hquiet

theorem emits_rewardPlayer (completed : GameSession) :
    (rewardPlayer completed).Emits ok good fun _ => True := by
  have hinvalidate : invalidateLeaderboards.Emits ok good fun _ => True := by
    refine (emits_call (hquiet _ rfl)).bind fun keys _ => ?_
    split
    · trivial
    · exact emits_call (hquiet _ rfl)
  unfold rewardPlayer
  split
  · trivial
  · exact (emits_call (hquiet _ rfl)).bind fun _ _ => (emits_call (hquiet _ rfl)).bind fun _ _ =>
      hinvalidate.bind fun _ _ => (emits_call (hquiet _ rfl)).tryCatch fun _ => trivial

theorem emits_revokeBearerToken (req : Request) (sessionId : Id) :
    (revokeBearerToken req sessionId).Emits ok good fun _ => True := by
  unfold revokeBearerToken
  split
  · exact (emits_call (hquiet _ rfl)).bind fun _ _ => (emits_call (hquiet _ rfl)).bind fun _ _ =>
      emits_call (hquiet _ rfl)
  · trivial

variable (config : Config)

theorem emits_completeSession (req : Request) (sessionId : Id) :
    (completeSession config req sessionId).Emits ok good fun _ => True := by
  refine Prog.Emits.bind (emits_call (hquiet _ rfl)) fun completed _ => ?_
  refine Prog.Emits.bind (P := fun _ => True) ?_ fun _ _ => ?_
  · unfold assertValidTotalScore
    split
    · trivial
    · trivial
  refine Prog.Emits.bind (P := fun _ => True) ?_ fun _ _ => ?_
  · unfold storeHmac
    dsimp only
    split
    · trivial
    · exact emits_call (hquiet _ rfl)
  · exact (emits_rewardPlayer hquiet completed).bind fun _ _ =>
      (emits_revokeBearerToken hquiet req sessionId).bind fun _ _ => trivial

variable (hrecord : ∀ sessionId round selectedOption correctOption reactionTimeMs,
  ok (.recordRoundScore sessionId round
    (calculateRoundScore selectedOption correctOption reactionTimeMs) selectedOption
    reactionTimeMs))
include hrecord

theorem emits_answerQuestion (req : Request) (round : Round) (body : AnswerBody)
    (session : GameSession) (question : ChallengeQuestion) :
    (answerQuestion config req round body session question).Emits ok good fun _ => True := by
  unfold answerQuestion
  split
  · split
    · trivial
    · trivial
  split
  · trivial
  unfold scoreAnswer
  dsimp only
  split
  · trivial
  · refine Prog.Emits.bind (emits_call (hrecord _ _ _ _ _)) fun _ _ => ?_
    refine Prog.Emits.bind (P := fun _ => True) ?_ fun _ _ => trivial
    unfold afterRound
    split
    · exact emits_completeSession hquiet config req session.id
    · trivial

theorem emits_submitAnswer (userId : Id) (req : Request) (round : Round) (body : AnswerBody) :
    (submitAnswer config userId req round body).Emits ok good fun _ => True := by
  refine Prog.Emits.bind (emits_call (hquiet _ rfl)) fun challenge _ => ?_
  cases challenge with
  | none => trivial
  | some challengeId =>
      refine Prog.Emits.bind (emits_call (hquiet _ rfl)) fun found _ => ?_
      cases found with
      | none => trivial
      | some session =>
          dsimp only
          split
          · trivial
          split
          · trivial
          split
          · trivial
          split
          · trivial
          refine Prog.Emits.bind (emits_call (hquiet _ rfl)) fun questions _ => ?_
          split
          · trivial
          · exact emits_answerQuestion hquiet config hrecord req round body session _

/-- A request records what it has calculated, and nothing else. -/
theorem emits_answer (req : Request) : (answer config req).Emits ok good fun _ => True := by
  refine Prog.Emits.bind (emits_authenticate (fun op hop => hquiet op (records_of_reads hop)) req)
    fun authenticated _ => ?_
  cases authenticated with
  | error response => trivial
  | ok payload =>
      refine Prog.Emits.bind (emits_validateReactionTime
        (fun op hop => hquiet op (records_of_reads hop)) payload.sub req) fun _ _ => ?_
      split
      · trivial
      split
      · trivial
      · exact emits_submitAnswer hquiet config hrecord payload.sub req _ _

end Emission

/-! ### The property -/

/-- What was added to `users.total_score` for a session. -/
def Db.addedFor (db : Db) (sessionId : Id) : List Nat :=
  (db.additions.filter fun addition => addition.sessionId = sessionId).map Addition.amount

/-- The four places of a session's score agree. -/
structure ScoresAgree (db : Db) (session : GameSession) : Prop where
  /-- the total is the sum over the rows of the rounds -/
  rows : session.totalScore = sumRounds fun round => scoreOf (db.roundScores round)
  /-- and the sum over the columns -/
  columns : session.totalScore = sumRounds fun round => (session.rounds round).score
  range : session.totalScore ≤ 450
  /-- and it was added to the user's total, once -/
  added : db.addedFor session.id = [session.totalScore]

/-- They agree whenever the session is completed. -/
def Consistent (w : World) : Prop :=
  ∀ session, w.db.session = some session → session.status = .completed →
    ScoresAgree w.db session

/-- Does the call take effect? -/
def Env.takesEffect (e : Env) : Bool :=
  match e.fault with
  | none => true
  | some fault => fault.applied

/-- A score that is recorded for a completed session is the one its round has. -/
def Orderly (w : World) (op : Op) (e : Env) : Prop :=
  match op with
  | .recordRoundScore sessionId round score _ reactionTimeMs =>
      e.takesEffect = true → reactionTimeMs ≤ maxInteger →
      (w.db.byId sessionId).any (fun session => session.status = .completed) = true →
      score = scoreOf (w.db.roundScores round)
  | _ => True

/-- A condition that only a recording has to meet is decided at the recordings. -/
def decideRecording {P : Op → Prop}
    (hrecords : ∀ sessionId round score answer reactionTimeMs,
      Decidable (P (.recordRoundScore sessionId round score answer reactionTimeMs)))
    (hother : ∀ op : Op, op.records = false → P op) : ∀ op : Op, Decidable (P op)
  | .recordRoundScore .. => hrecords ..
  | .getRevoked _ | .getCachedThresholds | .getConfigThresholds | .cacheThresholds _
  | .createFraudFlag .. | .getChallengeById _ | .getSession .. | .getChallengeQuestions _
  | .finishSession _ | .storeSessionHmac .. | .updateStreak _ | .checkAndAwardSessionBadges ..
  | .leaderboardKeys | .delLeaderboards _ | .revalidateLeaderboard | .delSessionToken _
  | .delSessionStart _ | .revokeToken _ => .isTrue (hother _ rfl)

instance (w : World) (op : Op) (e : Env) : Decidable (Orderly w op e) :=
  decideRecording (P := (Orderly w · e)) (fun _ _ _ _ _ =>
    inferInstanceAs (Decidable (_ → _ → _ → _)))
    (fun op h => by cases op <;> trivial) op

/-- What others may do to the world at any time. -/
inductive Outside : World → World → Prop
  | claimed {w : World} {id : Id} (userId challengeId : Id) (isPractice : Bool)
      (hnew : w.db.addedFor id = []) :
      Outside w { w with db := w.db.claimSession id userId challengeId isPractice }
  | started {w : World} (now : Nat) (sessionId : Id) :
      Outside w { w with db := w.db.markChallengeStarted now sessionId }
  | flagged {w : World} (sessionId : Id) : Outside w { w with db := w.db.flagSession sessionId }
  | abandoned {w : World} (now : Nat) : Outside w { w with db := w.db.abandonSession now }
  | deleted {w : World} : Outside w { w with db := w.db.deleteSession }
  /-- whatever else there is: challenges, questions, keys, other sessions of the user -/
  | elsewhere {w w' : World} (hsession : w'.db.session = w.db.session)
      (hrows : w'.db.roundScores = w.db.roundScores)
      (hadditions : w'.db.additions = w.db.additions) : Outside w w'

/-! ### The invariant -/

/-- The two copies of a round's score agree and are in range; what is not completed has not
been added; and what is completed has been added once, with the sum of the rows. -/
structure Db.Accounted (db : Db) : Prop where
  copied : ∀ session, db.session = some session → ∀ round,
    (session.rounds round).score = scoreOf (db.roundScores round)
  bounded : ∀ round, scoreOf (db.roundScores round) ≤ MAX_ROUND_SCORE
  notYet : ∀ session, db.session = some session → session.completedAt = none →
    db.addedFor session.id = []
  completed : ∀ session, db.session = some session → session.status = .completed →
    session.completedAt ≠ none ∧ session.totalScore = db.roundTotal ∧
      db.addedFor session.id = [session.totalScore]

variable {db : Db} {sessionId : Id} {session : GameSession}

theorem Db.byId_eq_some (h : db.byId sessionId = some session) :
    db.session = some session ∧ session.id = sessionId := by
  obtain ⟨hsession, hid⟩ := Option.filter_eq_some_iff.mp h
  exact ⟨hsession, of_decide_eq_true hid⟩

theorem Db.Accounted.roundTotal_le (h : db.Accounted) : db.roundTotal ≤ 450 := by
  have h₁ := h.bounded .one
  have h₂ := h.bounded .two
  have h₃ := h.bounded .three
  simp only [MAX_ROUND_SCORE, BASE_POINTS, MAX_SPEED_BONUS] at h₁ h₂ h₃
  dsimp only [Db.roundTotal, sumRounds]
  omega

/-- The invariant gives the property. -/
theorem Db.Accounted.scoresAgree (h : db.Accounted) (hsession : db.session = some session)
    (hstatus : session.status = .completed) : ScoresAgree db session := by
  obtain ⟨-, htotal, hadded⟩ := h.completed session hsession hstatus
  have hcolumns : (fun round => (session.rounds round).score) =
      fun round => scoreOf (db.roundScores round) := funext (h.copied session hsession)
  refine ⟨htotal, ?_, htotal ▸ h.roundTotal_le, hadded⟩
  rw [hcolumns]
  exact htotal

/-! ### Statements that leave the scores alone -/

/-- The row has changed, but neither its scores nor whether it is open; and it is not
completed now if it was not before. -/
structure SameScores (session session' : GameSession) : Prop where
  id : session'.id = session.id
  rounds : session'.rounds = session.rounds
  total : session'.totalScore = session.totalScore
  notYet : session'.completedAt = none → session.completedAt = none
  completed : session'.status = .completed → session.status = .completed

theorem Db.Accounted.replace {session' : GameSession} (h : db.Accounted)
    (hsession : db.session = some session) (hsame : SameScores session session') :
    Db.Accounted { db with session := some session' } where
  copied s hs round := by
    obtain rfl := Option.some.inj hs
    rw [hsame.rounds]
    exact h.copied session hsession round
  bounded := h.bounded
  notYet s hs hopen := by
    obtain rfl := Option.some.inj hs
    rw [hsame.id]
    exact h.notYet session hsession (hsame.notYet hopen)
  completed s hs hstatus := by
    obtain rfl := Option.some.inj hs
    obtain ⟨hclosed, htotal, hadded⟩ := h.completed session hsession (hsame.completed hstatus)
    rw [hsame.total, hsame.id]
    exact ⟨fun hopen => hclosed (hsame.notYet hopen), htotal, hadded⟩

theorem Db.Accounted.updateById {set : GameSession → GameSession} (h : db.Accounted)
    (hset : ∀ session, SameScores session (set session)) :
    (db.updateById sessionId set).Accounted := by
  unfold Db.updateById
  split
  · rename_i session hfound
    exact h.replace (Db.byId_eq_some hfound).1 (hset session)
  · exact h

/-- Only the session, the rows of its rounds and the additions count. -/
theorem Db.Accounted.congr {db' : Db} (h : db.Accounted) (hsession : db'.session = db.session)
    (hrows : db'.roundScores = db.roundScores) (hadditions : db'.additions = db.additions) :
    db'.Accounted := by
  obtain ⟨hcopied, hbounded, hnotYet, hcompleted⟩ := h
  have hadded : db'.addedFor = db.addedFor := by
    funext sessionId
    unfold Db.addedFor
    rw [hadditions]
  have htotal : db'.roundTotal = db.roundTotal := by
    unfold Db.roundTotal
    rw [hrows]
  constructor
  · rw [hsession, hrows]
    exact hcopied
  · rw [hrows]
    exact hbounded
  · rw [hsession, hadded]
    exact hnotYet
  · rw [hsession, hadded, htotal]
    exact hcompleted

/-- Without a row nothing has to be counted. -/
theorem Db.Accounted.fresh (h : ∀ round, db.roundScores round = none)
    (hsession : ∀ session, db.session = some session →
      (∀ round, (session.rounds round).score = 0) ∧ session.status ≠ .completed ∧
        db.addedFor session.id = []) : db.Accounted where
  copied session hs round := by
    rw [h round]
    exact (hsession session hs).1 round
  bounded round := by
    rw [h round]
    exact Nat.zero_le _
  notYet session hs _ := (hsession session hs).2.2
  completed session hs hstatus := absurd hstatus (hsession session hs).2.1

theorem Db.Accounted.outside {w w' : World} (h : w.db.Accounted) (hout : Outside w w') :
    w'.db.Accounted := by
  cases hout with
  | claimed userId challengeId isPractice hnew =>
      dsimp only
      unfold Db.claimSession
      split
      · exact h
      · refine .fresh (fun _ => rfl) fun session hs => ?_
        obtain rfl := Option.some.inj hs
        exact ⟨fun _ => rfl, nofun, hnew⟩
  | started now sessionId => exact h.updateById fun session => ⟨rfl, rfl, rfl, id, nofun⟩
  | flagged sessionId => exact h.updateById fun session => ⟨rfl, rfl, rfl, id, nofun⟩
  | abandoned now =>
      dsimp only
      unfold Db.abandonSession
      split
      · rename_i session hs
        split
        · refine h.replace hs ⟨rfl, rfl, rfl, fun hopen => ?_, nofun⟩
          cases hcompletedAt : session.completedAt with
          | none => rfl
          | some at_ => simp [hcompletedAt] at hopen
        · exact h
      · exact h
  | deleted => exact .fresh (fun _ => rfl) nofun
  | elsewhere hsession hrows hadditions => exact h.congr hsession hrows hadditions

/-! ### The two writers -/

/-- The scores of the rounds after one was recorded. -/
theorem scoreOf_update (rows : Round → Option RoundRecord) (round : Round) (row : RoundRecord) :
    (fun r => scoreOf (Function.update rows round (some row) r)) =
      Function.update (fun r => scoreOf (rows r)) round row.score :=
  funext (Function.apply_update (fun _ => scoreOf) rows round (some row))

/-- The same for the columns. -/
theorem score_update (rounds : Round → RoundRecord) (round : Round) (row : RoundRecord) :
    (fun r => (Function.update rounds round row r).score) =
      Function.update (fun r => (rounds r).score) round row.score :=
  funext (Function.apply_update (fun _ => RoundRecord.score) rounds round row)

/-- Recording keeps the invariant, unless it changes the score of a completed session. -/
theorem Db.Accounted.recordRoundScore {round : Round} {score reactionTimeMs : Nat}
    {answer : Option Choice} (h : db.Accounted) (hscore : score ≤ MAX_ROUND_SCORE)
    (horderly : reactionTimeMs ≤ maxInteger → ∀ session, db.byId sessionId = some session →
      session.status = .completed → score = scoreOf (db.roundScores round)) :
    (db.recordRoundScore sessionId round score answer reactionTimeMs).2.Accounted := by
  unfold Db.recordRoundScore
  split
  · exact h
  rename_i hfits
  split
  · exact h
  rename_i session hfound
  obtain ⟨hsession, -⟩ := Db.byId_eq_some hfound
  have hrows := scoreOf_update db.roundScores round ⟨answer, score, some reactionTimeMs⟩
  have hcolumns := score_update session.rounds round ⟨answer, score, some reactionTimeMs⟩
  have hcopied : (fun r => (session.rounds r).score) = fun r => scoreOf (db.roundScores r) :=
    funext (h.copied session hsession)
  constructor
  · intro s hs r
    obtain rfl := Option.some.inj hs
    show (fun r => (Function.update session.rounds round _ r).score) r =
      (fun r => scoreOf (Function.update db.roundScores round _ r)) r
    rw [hrows, hcolumns, hcopied]
  · intro r
    show (fun r => scoreOf (Function.update db.roundScores round _ r)) r ≤ MAX_ROUND_SCORE
    rw [hrows, Function.update_apply]
    split
    · exact hscore
    · exact h.bounded r
  · intro s hs hopen
    obtain rfl := Option.some.inj hs
    exact h.notYet session hsession hopen
  · intro s hs hstatus
    obtain rfl := Option.some.inj hs
    obtain ⟨hclosed, htotal, hadded⟩ := h.completed session hsession hstatus
    refine ⟨hclosed, ?_, hadded⟩
    have hsame := horderly (Nat.le_of_not_lt hfits) session hfound hstatus
    -- the same score again: the sum is what it was
    unfold Db.roundTotal
    dsimp only at hrows ⊢
    rw [hrows, hsame, Function.update_eq_self]
    exact htotal

theorem sumRounds_update_ne {score : Round → Nat} {round : Round} {n : Nat}
    (hn : n ≠ score round) : sumRounds (Function.update score round n) ≠ sumRounds score := by
  unfold sumRounds
  cases round <;> simp [Function.update] <;> omega

/-- Another score, recorded for a completed session, is not in its total. -/
theorem Db.Accounted.not_scoresAgree_of_record {round : Round} {score reactionTimeMs : Nat}
    (answer : Option Choice) (h : db.Accounted) (hfits : reactionTimeMs ≤ maxInteger)
    (hfound : db.byId sessionId = some session) (hstatus : session.status = .completed)
    (hscore : score ≠ scoreOf (db.roundScores round)) :
    ∃ session', (db.recordRoundScore sessionId round score answer reactionTimeMs).2.session =
        some session' ∧ session'.status = .completed ∧
      ¬ ScoresAgree (db.recordRoundScore sessionId round score answer reactionTimeMs).2
        session' := by
  obtain ⟨-, htotal, -⟩ := h.completed session (Db.byId_eq_some hfound).1 hstatus
  have hrows := scoreOf_update db.roundScores round ⟨answer, score, some reactionTimeMs⟩
  unfold Db.recordRoundScore
  rw [if_neg (Nat.not_lt.mpr hfits), hfound]
  refine ⟨_, rfl, hstatus, fun hagree => ?_⟩
  have hsum := hagree.rows
  dsimp only at hrows hsum
  rw [hrows, htotal] at hsum
  exact sumRounds_update_ne hscore hsum.symm

theorem Db.addedFor_append (db : Db) (addition : Addition) :
    Db.addedFor { db with additions := db.additions ++ [addition] } addition.sessionId =
      db.addedFor addition.sessionId ++ [addition.amount] := by
  simp [Db.addedFor]

theorem Db.Accounted.finishSession (h : db.Accounted) (now : Nat) :
    (db.finishSession now sessionId).2.Accounted := by
  unfold Db.finishSession
  split
  · exact h
  rename_i current hfound
  split
  · exact h
  rename_i hopen
  split
  · exact h
  obtain ⟨hsession, -⟩ := Db.byId_eq_some hfound
  have hnone := h.notYet current hsession (by simpa using hopen)
  constructor
  · intro s hs round
    obtain rfl := Option.some.inj hs
    exact h.copied current hsession round
  · exact h.bounded
  · intro s hs hnotYet
    obtain rfl := Option.some.inj hs
    cases hnotYet
  · intro s hs _
    obtain rfl := Option.some.inj hs
    refine ⟨nofun, rfl, ?_⟩
    have hadded := db.addedFor_append ⟨current.id, current.userId, db.roundTotal⟩
    rw [hnone] at hadded
    exact hadded

/-! ### Every interleaving -/

variable {w : World} {op : Op} {e : Env}

/-- The score that an operation records is in range. -/
def Op.InRange : Op → Prop
  | .recordRoundScore _ _ score _ _ => score ≤ MAX_ROUND_SCORE
  | _ => True

theorem exec_world :
    (answerMachine.exec e op w).2 = if e.takesEffect then (perform e op w).2 else w := by
  obtain ⟨fault, now⟩ := e
  cases fault with
  | none => rfl
  | some fault => rfl

theorem accounted_perform (h : w.db.Accounted) (hrange : op.InRange) (horderly : Orderly w op e)
    (heffect : e.takesEffect = true) : (perform e op w).2.db.Accounted := by
  cases op with
  | recordRoundScore sessionId round score answer reactionTimeMs =>
      refine h.recordRoundScore hrange fun hfits session hfound hstatus => ?_
      refine horderly heffect hfits ?_
      rw [hfound]
      exact decide_eq_true hstatus
  | finishSession sessionId => exact h.finishSession e.now
  | storeSessionHmac sessionId hmac =>
      exact h.updateById fun session => ⟨rfl, rfl, rfl, id, id⟩
  | _ => exact h

theorem accounted_exec (h : w.db.Accounted) (hrange : op.InRange) (horderly : Orderly w op e) :
    (answerMachine.exec e op w).2.db.Accounted := by
  rw [exec_world]
  split
  · rename_i heffect
    exact accounted_perform h hrange horderly heffect
  · exact h

/-- A step that is not orderly leaves scores that do not agree. -/
theorem not_consistent_exec (h : w.db.Accounted) (hdisorder : ¬ Orderly w op e) :
    ¬ Consistent (answerMachine.exec e op w).2 := by
  cases op with
  | recordRoundScore sessionId round score answer reactionTimeMs =>
      simp only [Orderly, Classical.not_imp] at hdisorder
      obtain ⟨heffect, hfits, hcompleted, hscore⟩ := hdisorder
      obtain ⟨session, hfound, hstatus⟩ := (Option.any_eq_true _ _).mp hcompleted
      obtain ⟨session', hsession', hstatus', hnot⟩ := h.not_scoresAgree_of_record answer hfits
        hfound (of_decide_eq_true hstatus) hscore
      rw [exec_world, if_pos heffect]
      exact fun hall => hnot (hall session' hsession' hstatus')
  | _ => exact absurd trivial hdisorder

/-- A request to the route, whoever sends it and whatever is in it. -/
def AnyRequest (config : Config) (p : Handler Response) : Prop := ∃ req, p = answer config req

theorem emits_inRange {config : Config} {p : Handler Response} (hp : AnyRequest config p) :
    p.Emits Op.InRange (fun _ _ => True) fun _ => True := by
  obtain ⟨req, rfl⟩ := hp
  refine emits_answer (fun op hop => ?_) config
    (fun _ _ selectedOption correctOption reactionTimeMs =>
      calculateRoundScore_le selectedOption correctOption reactionTimeMs) req
  cases op with
  | recordRoundScore sessionId round score answer reactionTimeMs => cases hop
  | _ => trivial

/-- No round is answered, and the session, if there is one, is not completed. -/
structure Unanswered (w : World) : Prop where
  noRows : ∀ round, w.db.roundScores round = none
  noScores : ∀ session, w.db.session = some session → ∀ round,
    (session.rounds round).score = 0
  notCompleted : ∀ session, w.db.session = some session → session.status ≠ .completed
  notAdded : ∀ session, w.db.session = some session → w.db.addedFor session.id = []

/-- **The scores of a completed session agree.** Whatever answers are sent and however they
interleave, with each other, with failing calls and with other writers of the session: if
every score that is recorded for a completed session is the one its round has, then in every
state the total of a completed session is the sum of its rows and of its columns, at most
450, and was added to the user's total exactly once. The first step that records another
score leads to a state in which it is not so. -/
theorem completed_session_consistent_of_orderly (config : Config) {w₀ w : World}
    {ps : List (Handler Response)} (hstart : Unanswered w₀)
    (h : Pool answerMachine Orderly (AnyRequest config) Outside w₀ w ps) :
    Consistent w ∧
      ∀ op e, ¬ Orderly w op e → ¬ Consistent (answerMachine.exec e op w).2 := by
  have haccounted : w₀.db.Accounted := .fresh hstart.noRows fun session hs =>
    ⟨hstart.noScores session hs, hstart.notCompleted session hs, hstart.notAdded session hs⟩
  have hw := Pool.sound (I := fun w => w.db.Accounted) haccounted (fun p hp => emits_inRange hp)
    (fun w op e hw hrange horderly => ⟨accounted_exec hw hrange horderly, trivial⟩)
    (fun w w' hw hout => hw.outside hout) h
  exact ⟨fun session hs hstatus => hw.1.scoresAgree hs hstatus,
    fun op e hdisorder => not_consistent_exec hw.1 hdisorder⟩

/-! ### Two answers -/

/-- No integrity key is set. -/
def plainConfig : Config := ⟨[], fun _ text => text, fun _ => []⟩

def startedSession : GameSession :=
  { GameSession.new ['s'] ['p'] ['c'] false with
    status := .active
    challengeStartedAt := some 1 }

/-- A started session, and three questions with the answers `A`, `B` and `C`. -/
def World.started : World where
  db := ⟨some startedSession, fun _ => none, fun _ => 0, fun _ => 0, []⟩
  challenges := [['c']]
  questions _ := [⟨.one, .A⟩, ⟨.two, .B⟩, ⟨.three, .C⟩]
  revoked _ := false
  cachedThresholds := some defaultThresholds
  configThresholds := (none, none)
  leaderboards := []
  streakUpdates := []
  badgeChecks := []

theorem unanswered_started : Unanswered World.started := by
  refine ⟨fun _ => rfl, ?_, ?_, ?_⟩ <;> rintro session ⟨⟩
  · exact fun _ => rfl
  · exact nofun
  · rfl

/-- The player answers after a second. -/
def answerAfterSecond (round : Int) (option : Choice) : Request where
  apiKey := false
  token := some ['t']
  payload := some ⟨['p'], false⟩
  challengeId := ['c']
  round := some round
  selectedOption := some (some option)
  reactionTimeMs := some 1000

/-- The right answers to rounds 1 and 3. -/
def twoAnswers : List (Handler Response) :=
  [answer plainConfig (answerAfterSecond 1 .A), answer plainConfig (answerAfterSecond 3 .C)]

theorem twoAnswers_pool {G : World → Op → Env → Prop} {drift : World → World → Prop} :
    Pool answerMachine G (AnyRequest plainConfig) drift World.started World.started twoAnswers :=
  (Crew.init.spawn ⟨_, rfl⟩).spawn ⟨_, rfl⟩

/-- The next `n` steps of a request, without failures. -/
def stepsOf (request n : Nat) : List (Nat × Env) := List.replicate n (request, ⟨none, 2⟩)

/-- One answer after the other. -/
def answersInTurn : List (Nat × Env) := stepsOf 0 6 ++ stepsOf 1 14

/-- The same answers; but the first is recorded only after the second has completed the
session. -/
def answersCrossed : List (Nat × Env) := stepsOf 0 5 ++ stepsOf 1 14 ++ stepsOf 0 1

/-- The total of a completed session. -/
def completedTotal (w : World) : Option Nat :=
  (w.db.session.filter fun session => session.status = .completed).map GameSession.totalScore

/-- In turn, both answers are in the total. -/
theorem answers_in_turn_consistent :
    completedTotal (play answerMachine answersInTurn World.started twoAnswers).1 = some 292 ∧
      Consistent (play answerMachine answersInTurn World.started twoAnswers).1 := by
  refine ⟨by decide +kernel, ?_⟩
  have hpool : Pool answerMachine Orderly (AnyRequest plainConfig) Outside World.started _ _ :=
    twoAnswers_pool.play answersInTurn (by decide +kernel)
  exact (completed_session_consistent_of_orderly plainConfig unanswered_started hpool).1

/-- Crossed, the total is that of round 3 alone, and the row of round 1 is there as well. No
call has failed, and there is nothing but the two answers. -/
theorem late_answer_not_in_total :
    ¬ ∀ (config : Config) (w₀ w : World) (ps : List (Handler Response)), Unanswered w₀ →
      Pool answerMachine (fun _ _ e => e.fault.isNone = true) (AnyRequest config)
        (fun _ _ => False) w₀ w ps → Consistent w := by
  intro hall
  let w := (play answerMachine answersCrossed World.started twoAnswers).1
  have hconsistent : Consistent w := hall plainConfig World.started _ _ unanswered_started
    (twoAnswers_pool.play answersCrossed (by decide +kernel))
  have htotal : completedTotal w = some 146 := by decide +kernel
  have hrows : w.db.roundTotal = 292 := by decide +kernel
  obtain ⟨session, hsession, htotal⟩ := Option.map_eq_some_iff.mp htotal
  obtain ⟨hsession, hstatus⟩ := Option.filter_eq_some_iff.mp hsession
  have hsum : session.totalScore = w.db.roundTotal :=
    (hconsistent session hsession (of_decide_eq_true hstatus)).rows
  rw [htotal, hrows] at hsum
  cases hsum

end BrandBlitz.Sessions

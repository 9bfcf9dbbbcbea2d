import BrandBlitz.Lib.Joins
import BrandBlitz.Paging.Challenges
import BrandBlitz.Paging.Leaderboard

/-!
# BrandBlitz.Analytics.QuestionAccuracy

**The analytics of a brand** (`apps/api/src/db/queries/analytics.ts`): how often each question
of its challenges was answered, and answered right.

The query joins a question with the answers of its round in any of the challenges, whichever
challenge they were given in. It also counts `srs.id`, a column that `session_round_scores` has
in one of the tests but in no migration; so the columns of that table are part of the database
here.

* Where `ORDER BY` leaves the order open, the groups stand in the order of their last rows.
* The rounded percentages and the costs are numbers that JavaScript computes in floating point:
  they are parameters.
-/

namespace BrandBlitz.Analytics

open BrandBlitz.Lib
open BrandBlitz.Lib.Joins
open BrandBlitz.Paging (Uuid Timestamp Challenge SessionRow)
open BrandBlitz.Sessions (dbError maxInteger)

/-! ### Tables -/

/-- What the query reads of a row of `challenge_questions`. -/
structure QuestionRow where
  challengeId : Uuid
  round : Nat
  questionType : Text
  questionText : Text
deriving DecidableEq, Repr

/-- A row of `session_round_scores`. -/
structure RoundScore where
  sessionId : Uuid
  round : Nat
  score : Nat
deriving DecidableEq, Repr

structure Db where
  challenges : List Challenge
  /-- `PRIMARY KEY` -/
  challenges_unique : (challenges.map Challenge.id).Nodup
  questions : List QuestionRow
  /-- `UNIQUE (challenge_id, round)` -/
  questions_unique : (questions.map fun q => (q.challengeId, q.round)).Nodup
  sessions : List SessionRow
  /-- `PRIMARY KEY` -/
  sessions_unique : (sessions.map SessionRow.id).Nodup
  roundScores : List RoundScore
  /-- `PRIMARY KEY (session_id, round)` -/
  roundScores_unique : (roundScores.map fun srs => (srs.sessionId, srs.round)).Nodup
  /-- the columns of `session_round_scores` -/
  roundScoreColumns : List String

/-- The columns that the migrations create. -/
def migratedColumns : List String :=
  ["session_id", "round", "answer", "score", "reaction_time_ms", "created_at"]

/-! ### Queries -/

/-- Without a bound, `from` and `to` admit every time; they are given in milliseconds. -/
def Db.getChallengeIdsForBrand (db : Db) (brandId : Uuid) (fromDate toDate : Option Int) :
    List Uuid :=
  (db.challenges.filter fun c =>
    c.brandId = brandId && c.deletedAt.isNone &&
      fromDate.all (fun ms => ms * 1000 ≤ c.createdAt) &&
      toDate.all (fun ms => c.createdAt ≤ ms * 1000)).map Challenge.id

def outOfRange : ApiError := dbError "integer out of range" "22003"

def missingColumn : ApiError := dbError "column srs.id does not exist" "42703"

structure SessionStats where
  totalSessions : Nat
  completedSessions : Nat
deriving DecidableEq, Repr

def Db.getSessionStats (db : Db) (challengeIds : List Uuid) : Except ApiError SessionStats :=
  let sessions := db.sessions.filter fun s => s.challengeId ∈ challengeIds
  if sessions.length ≤ maxInteger then
    .ok ⟨sessions.length, sessions.countP fun s => s.status = .completed⟩
  else .error outOfRange

structure QuestionAccuracy where
  round : Nat
  questionType : Text
  questionText : Text
  totalAttempts : Nat
  correctAttempts : Nat
  accuracy : Int
deriving DecidableEq, Repr

/-- `cq.round, cq.question_type, cq.question_text`. -/
def QuestionRow.key (q : QuestionRow) : Nat × Text × Text :=
  (q.round, q.questionType, q.questionText)

/-- `srs.session_id IN (SELECT id FROM game_sessions WHERE …)`. -/
def Db.inCompleted (db : Db) (challengeIds : List Uuid) (srs : RoundScore) : Bool :=
  db.sessions.any fun s =>
    s.id = srs.sessionId && s.challengeId ∈ challengeIds && s.status = .completed

/-- `WHERE cq.challenge_id = ANY($1::uuid[])`. -/
def Db.questionsOf (db : Db) (challengeIds : List Uuid) : List QuestionRow :=
  db.questions.filter fun cq => cq.challengeId ∈ challengeIds

/-- `FROM challenge_questions cq LEFT JOIN session_round_scores srs ON …`. -/
def Db.questionAnswers (db : Db) (challengeIds : List Uuid) :
    List (QuestionRow × Option RoundScore) :=
  leftJoin (fun cq srs => srs.round = cq.round && db.inCompleted challengeIds srs)
    (db.questionsOf challengeIds) db.roundScores

/-- `COUNT(srs.id) FILTER (WHERE …)` of a group. -/
def Db.attempts (db : Db) (challengeIds : List Uuid) (key : Nat × Text × Text)
    (keep : RoundScore → Bool) : Nat :=
  (db.questionAnswers challengeIds).countP fun row => row.1.key = key && row.2.any keep

variable (percent : Nat → Nat → Int)

/-- One row of the result; `percent` is `Math.round((part / whole) * 100)`. -/
def Db.accuracyRow (db : Db) (challengeIds : List Uuid) (key : Nat × Text × Text) :
    QuestionAccuracy :=
  let totalAttempts := db.attempts challengeIds key fun _ => true
  let correctAttempts := db.attempts challengeIds key fun srs => 0 < srs.score
  { round := key.1
    questionType := key.2.1
    questionText := key.2.2
    totalAttempts
    correctAttempts
    accuracy := if 0 < totalAttempts then percent correctAttempts totalAttempts else 0 }

/-- The rows before they are sent. -/
def Db.accuracyRows (db : Db) (challengeIds : List Uuid) : List QuestionAccuracy :=
  Sql.orderBy QuestionAccuracy.round
    ((groupKeys (fun row => row.1.key) (db.questionAnswers challengeIds)).map
      (db.accuracyRow percent challengeIds))

def Db.getQuestionAccuracy (db : Db) (challengeIds : List Uuid) :
    Except ApiError (List QuestionAccuracy) :=
  if challengeIds.isEmpty then .ok []
  else if "id" ∉ db.roundScoreColumns then .error missingColumn
  else
    let rows := db.accuracyRows percent challengeIds
    if rows.all fun row => row.totalAttempts ≤ maxInteger && row.correctAttempts ≤ maxInteger then
      .ok rows
    else .error outOfRange

structure BrandAnalytics (κ : Type) where
  totalSessions : Nat
  completedSessions : Nat
  completionRate : Int
  questionAccuracy : List QuestionAccuracy
  costPerSession : List κ

variable {κ : Type}
  (getCostPerSession : List Uuid → Option Int → Option Int → Except ApiError (List κ))

def Db.getBrandAnalytics (db : Db) (brandId : Uuid) (fromDate toDate : Option Int) :
    Except ApiError (BrandAnalytics κ) := do
  let challengeIds := db.getChallengeIdsForBrand brandId fromDate toDate
  if challengeIds.isEmpty then return ⟨0, 0, 0, [], []⟩
  let sessionStats ← db.getSessionStats challengeIds
  let questionAccuracy ← db.getQuestionAccuracy percent challengeIds
  let costData ← getCostPerSession challengeIds fromDate toDate
  return {
    totalSessions := sessionStats.totalSessions
    completedSessions := sessionStats.completedSessions
    completionRate :=
      if 0 < sessionStats.totalSessions then
        percent sessionStats.completedSessions sessionStats.totalSessions
      else 0
    questionAccuracy
    costPerSession := costData }

/-- The accuracy in the analytics is what the query returns. -/
theorem getBrandAnalytics_questionAccuracy {percent : Nat → Nat → Int}
    {getCostPerSession : List Uuid → Option Int → Option Int → Except ApiError (List κ)} {db : Db}
    {brandId : Uuid} {fromDate toDate : Option Int} {analytics : BrandAnalytics κ}
    (h : db.getBrandAnalytics percent getCostPerSession brandId fromDate toDate = .ok analytics) :
    db.getQuestionAccuracy percent (db.getChallengeIdsForBrand brandId fromDate toDate) =
      .ok analytics.questionAccuracy := by
  unfold Db.getBrandAnalytics at h
  cases hempty : (db.getChallengeIdsForBrand brandId fromDate toDate).isEmpty with
  | true =>
      simp only [hempty, if_true, pure, Except.pure, Except.ok.injEq] at h
      subst h
      simp [Db.getQuestionAccuracy, hempty]
  | false =>
      simp only [hempty, Bool.false_eq_true, if_false] at h
      cases hstats : db.getSessionStats (db.getChallengeIdsForBrand brandId fromDate toDate) with
      | error err => simp [hstats, bind, Except.bind] at h
      | ok stats =>
          cases haccuracy : db.getQuestionAccuracy percent
              (db.getChallengeIdsForBrand brandId fromDate toDate) with
          | error err => simp [hstats, haccuracy, bind, Except.bind] at h
          | ok rows =>
              cases hcost : getCostPerSession (db.getChallengeIdsForBrand brandId fromDate toDate)
                  fromDate toDate with
              | error err => simp [hstats, haccuracy, hcost, bind, Except.bind] at h
              | ok cost =>
                  simp only [hstats, haccuracy, hcost, bind, Except.bind, pure, Except.pure,
                    Except.ok.injEq] at h
                  rw [← h]

/-! ### What the numbers should be -/

/-- The answers of a round in completed sessions of the challenges. -/
def Db.answers (db : Db) (challengeIds : List Uuid) (round : Nat) : List RoundScore :=
  db.roundScores.filter fun srs => srs.round = round && db.inCompleted challengeIds srs

/-- Was the answer given in a challenge in which its round has such a question? -/
def Db.asks (db : Db) (challengeIds : List Uuid) (key : Nat × Text × Text) (srs : RoundScore) :
    Bool :=
  db.sessions.any fun s =>
    s.id = srs.sessionId && s.status = .completed &&
      (db.questionsOf challengeIds).any fun cq => cq.challengeId = s.challengeId && cq.key = key

/-- The answers to a question. -/
def Db.answersTo (db : Db) (challengeIds : List Uuid) (key : Nat × Text × Text) :
    List RoundScore :=
  db.roundScores.filter fun srs => srs.round = key.1 && db.asks challengeIds key srs

def QuestionAccuracy.key (row : QuestionAccuracy) : Nat × Text × Text :=
  (row.round, row.questionType, row.questionText)

/-- Every row counts the answers to its question, and the rows of a round count all of them. -/
structure Db.CountsAnswers (db : Db) (challengeIds : List Uuid) (rows : List QuestionAccuracy) :
    Prop where
  total : ∀ row ∈ rows, row.totalAttempts = (db.answersTo challengeIds row.key).length
  correct : ∀ row ∈ rows,
    row.correctAttempts = (db.answersTo challengeIds row.key).countP fun srs => 0 < srs.score
  sum : ∀ round, ((rows.filter fun row => row.round = round).map
    QuestionAccuracy.totalAttempts).sum = (db.answers challengeIds round).length

/-- Was every answer of a round given in the one challenge that has a question of that round? -/
def Db.OneQuestionPerRound (db : Db) (challengeIds : List Uuid) : Prop :=
  ∀ round, db.answers challengeIds round ≠ [] →
    ∃ cq, (db.questionsOf challengeIds).filter (fun cq => cq.round = round) = [cq] ∧
      ∀ srs ∈ db.answers challengeIds round, db.sessions.any fun s =>
        s.id = srs.sessionId && s.status = .completed && s.challengeId = cq.challengeId

/-! ### What they are -/

section
variable {db : Db} {challengeIds : List Uuid}

/-- The groups are the questions of the challenges. -/
theorem mem_groupKeys_questionAnswers {key : Nat × Text × Text} :
    key ∈ groupKeys (fun row => row.1.key) (db.questionAnswers challengeIds) ↔
      ∃ cq ∈ db.questionsOf challengeIds, cq.key = key := by
  rw [mem_groupKeys]
  constructor
  · intro h
    obtain ⟨row, hrow, hkey⟩ := h
    exact ⟨row.1, mem_left_iff.mpr ⟨row.2, hrow⟩, hkey⟩
  · intro h
    obtain ⟨cq, hcq, hkey⟩ := h
    obtain ⟨srs, hrow⟩ := mem_left_iff.mp hcq
    exact ⟨(cq, srs), hrow, hkey⟩

theorem mem_accuracyRows {row : QuestionAccuracy} :
    row ∈ db.accuracyRows percent challengeIds ↔
      ∃ cq ∈ db.questionsOf challengeIds, db.accuracyRow percent challengeIds cq.key = row := by
  rw [Db.accuracyRows, (Sql.orderBy_perm _ _).mem_iff, List.mem_map]
  simp only [mem_groupKeys_questionAnswers]
  constructor
  · intro h
    obtain ⟨key, hkey, hrow⟩ := h
    obtain ⟨cq, hcq, hkey⟩ := hkey
    exact ⟨cq, hcq, by rwa [hkey]⟩
  · intro h
    obtain ⟨cq, hcq, hrow⟩ := h
    exact ⟨cq.key, ⟨cq, hcq, rfl⟩, hrow⟩

/-- The matches of some questions of a round: each of them has all answers of the round. -/
theorem countP_questionAnswers {keep : QuestionRow → Bool} {round : Nat}
    (hround : ∀ cq, keep cq = true → cq.round = round) (p : RoundScore → Bool) :
    (db.questionAnswers challengeIds).countP (fun row => keep row.1 && row.2.any p) =
      (db.questionsOf challengeIds).countP keep *
        (db.answers challengeIds round).countP p := by
  have hmatches : ∀ cq ∈ (db.questionsOf challengeIds).filter keep,
      (db.roundScores.countP fun srs =>
        decide (srs.round = cq.round) && db.inCompleted challengeIds srs && p srs) =
        (db.answers challengeIds round).countP p := by
    intro cq hcq
    rw [hround cq (List.mem_filter.mp hcq).2, Db.answers, List.countP_filter]
    exact List.countP_congr fun srs _ => by simp [and_comm]
  rw [Db.questionAnswers, countP_leftJoin, List.map_congr_left hmatches, List.map_const',
    List.sum_replicate_nat, ← List.countP_eq_length_filter]

/-- **A row counts the answers of its round once for every question with its text.** -/
theorem attempts_eq (key : Nat × Text × Text) (p : RoundScore → Bool) :
    db.attempts challengeIds key p =
      ((db.questionsOf challengeIds).countP fun cq => cq.key = key) *
        (db.answers challengeIds key.1).countP p := by
  have hround : ∀ cq : QuestionRow, decide (cq.key = key) = true → cq.round = key.1 := by
    intro cq hcq
    rw [← of_decide_eq_true hcq]
    rfl
  exact countP_questionAnswers hround p

/-- **The rows of a round count its answers once for every question of the round.** -/
theorem sum_totalAttempts (round : Nat) :
    (((db.accuracyRows percent challengeIds).filter fun row => row.round = round).map
        QuestionAccuracy.totalAttempts).sum =
      ((db.questionsOf challengeIds).countP fun cq => cq.round = round) *
        (db.answers challengeIds round).length := by
  -- the order does not matter, and the groups of the round are those of its questions
  have hperm : (((db.accuracyRows percent challengeIds).filter fun row => row.round = round).map
      QuestionAccuracy.totalAttempts).Perm
      (((groupKeys (fun row => row.1.key) (db.questionAnswers challengeIds)).filter fun key =>
        key.1 = round).map fun key => db.attempts challengeIds key fun _ => true) := by
    refine (((Sql.orderBy_perm _ _).filter _).map _).trans ?_
    rw [List.filter_map, List.map_map]
    exact List.Perm.refl _
  have hgroups : (((groupKeys (fun row => row.1.key) (db.questionAnswers challengeIds)).filter
      fun key => key.1 = round).map fun key => db.attempts challengeIds key fun _ => true).sum =
      (db.questionAnswers challengeIds).countP fun row =>
        decide (row.1.round = round) && row.2.any fun _ => true :=
    sum_countP_groupKeys (fun key : Nat × Text × Text => decide (key.1 = round))
      fun row : QuestionRow × Option RoundScore => row.2.any fun _ => true
  have hround : ∀ cq : QuestionRow, decide (cq.round = round) = true → cq.round = round :=
    fun _ => of_decide_eq_true
  rw [hperm.sum_eq, hgroups, countP_questionAnswers hround fun _ => true, List.countP_true]

/-! ### When they are right -/

theorem asks_iff {key : Nat × Text × Text} {srs : RoundScore} :
    db.asks challengeIds key srs = true ↔
      ∃ s ∈ db.sessions, (s.id = srs.sessionId ∧ s.status = .completed) ∧
        ∃ cq ∈ db.questionsOf challengeIds, cq.challengeId = s.challengeId ∧ cq.key = key := by
  simp [Db.asks]

theorem inCompleted_of_asks {key : Nat × Text × Text} {srs : RoundScore}
    (h : db.asks challengeIds key srs = true) : db.inCompleted challengeIds srs = true := by
  obtain ⟨s, hs, hsession, cq, hcq, hchallenge, -⟩ := asks_iff.mp h
  have hin : s.challengeId ∈ challengeIds :=
    hchallenge ▸ of_decide_eq_true (List.mem_filter.mp hcq).2
  rw [Db.inCompleted, List.any_eq_true]
  exact ⟨s, hs, by simp [hsession, hin]⟩

/-- Answers to a question are answers of its round. -/
theorem answersTo_sublist (key : Nat × Text × Text) :
    (db.answersTo challengeIds key).Sublist (db.answers challengeIds key.1) := by
  refine List.monotone_filter_right db.roundScores fun srs hsrs => ?_
  rw [Bool.and_eq_true] at hsrs ⊢
  exact ⟨hsrs.1, inCompleted_of_asks hsrs.2⟩

/-- With one question a round, all answers of its round are answers to it. -/
theorem answersTo_eq {cq : QuestionRow} (hcq : cq ∈ db.questionsOf challengeIds)
    (h : ∀ srs ∈ db.answers challengeIds cq.round, db.sessions.any fun s =>
      s.id = srs.sessionId && s.status = .completed && s.challengeId = cq.challengeId) :
    db.answersTo challengeIds cq.key = db.answers challengeIds cq.round := by
  refine (answersTo_sublist cq.key).antisymm ?_
  have hsub : ((db.answers challengeIds cq.round).filter (db.asks challengeIds cq.key)).Sublist
      (db.answersTo challengeIds cq.key) := by
    rw [Db.answers, List.filter_filter]
    refine List.monotone_filter_right db.roundScores fun srs hsrs => ?_
    simp only [Bool.and_eq_true] at hsrs ⊢
    exact ⟨hsrs.2.1, hsrs.1⟩
  rwa [List.filter_eq_self.mpr fun srs hsrs => ?_] at hsub
  obtain ⟨s, hs, hsession⟩ := List.any_eq_true.mp (h srs hsrs)
  simp only [Bool.and_eq_true, decide_eq_true_eq] at hsession
  exact asks_iff.mpr ⟨s, hs, hsession.1, cq, hcq, hsession.2.symm, rfl⟩

theorem countP_round_of_eq {round : Nat} {cq : QuestionRow}
    (h : (db.questionsOf challengeIds).filter (fun cq => cq.round = round) = [cq]) :
    (db.questionsOf challengeIds).countP (fun cq => cq.round = round) = 1 := by
  rw [List.countP_eq_length_filter, h, List.length_singleton]

/-- The only question of a round is a question of the challenges. -/
theorem mem_questionsOf_of_eq {round : Nat} {cq : QuestionRow}
    (h : (db.questionsOf challengeIds).filter (fun cq => cq.round = round) = [cq]) :
    cq ∈ db.questionsOf challengeIds ∧ cq.round = round := by
  have hmem : cq ∈ (db.questionsOf challengeIds).filter fun cq => cq.round = round := by
    rw [h]
    exact List.mem_singleton_self cq
  obtain ⟨hquestion, hround⟩ := List.mem_filter.mp hmem
  exact ⟨hquestion, of_decide_eq_true hround⟩

/-- The question of such a round is the only one with its text. -/
theorem countP_key_of_eq {cq : QuestionRow}
    (h : (db.questionsOf challengeIds).filter (fun other => other.round = cq.round) = [cq]) :
    (db.questionsOf challengeIds).countP (fun other => other.key = cq.key) = 1 := by
  have hround : ((db.questionsOf challengeIds).countP fun other => other.key = cq.key) =
      ((db.questionsOf challengeIds).filter fun other => other.round = cq.round).countP
        fun other => other.key = cq.key := by
    rw [List.countP_filter]
    refine List.countP_congr fun other _ => ?_
    simp only [Bool.and_eq_true, decide_eq_true_eq]
    exact ⟨fun hkey => ⟨hkey, congrArg Prod.fst hkey⟩, fun hboth => hboth.1⟩
  rw [hround, h]
  simp

/-- The counts of a question whose round is answered in its own challenge only. -/
theorem attempts_of_onePerRound (h : db.OneQuestionPerRound challengeIds) {cq : QuestionRow}
    (hcq : cq ∈ db.questionsOf challengeIds) (p : RoundScore → Bool) :
    db.attempts challengeIds cq.key p = (db.answersTo challengeIds cq.key).countP p := by
  rw [attempts_eq]
  show _ * (db.answers challengeIds cq.round).countP p = _
  -- a round without answers may have several questions: all counts are zero
  by_cases hnone : db.answers challengeIds cq.round = []
  · have hsub : (db.answersTo challengeIds cq.key).Sublist (db.answers challengeIds cq.round) :=
      answersTo_sublist cq.key
    rw [hnone] at hsub
    have hempty := List.sublist_nil.mp hsub
    rw [hnone, hempty, List.countP_nil, Nat.mul_zero]
  · obtain ⟨only, honly, hgiven⟩ := h cq.round hnone
    have hmem : cq ∈ (db.questionsOf challengeIds).filter fun other => other.round = cq.round :=
      List.mem_filter.mpr ⟨hcq, decide_eq_true rfl⟩
    rw [honly, List.mem_singleton] at hmem
    subst hmem
    rw [countP_key_of_eq honly, Nat.one_mul, answersTo_eq hcq hgiven]

theorem countsAnswers_of_onePerRound (h : db.OneQuestionPerRound challengeIds) :
    db.CountsAnswers challengeIds (db.accuracyRows percent challengeIds) where
  total := by
    intro row hrow
    obtain ⟨cq, hcq, rfl⟩ := (mem_accuracyRows percent).mp hrow
    exact (attempts_of_onePerRound h hcq fun _ => true).trans (List.countP_true ▸ rfl)
  correct := by
    intro row hrow
    obtain ⟨cq, hcq, rfl⟩ := (mem_accuracyRows percent).mp hrow
    exact attempts_of_onePerRound h hcq fun srs => 0 < srs.score
  sum := by
    intro round
    rw [sum_totalAttempts]
    by_cases hnone : db.answers challengeIds round = []
    · rw [hnone, List.length_nil, Nat.mul_zero]
    · obtain ⟨cq, hcq, -⟩ := h round hnone
      rw [countP_round_of_eq hcq, Nat.one_mul]

theorem onePerRound_of_countsAnswers
    (h : db.CountsAnswers challengeIds (db.accuracyRows percent challengeIds)) :
    db.OneQuestionPerRound challengeIds := by
  intro round hsome
  have hpos := List.length_pos_iff.mpr hsome
  -- the totals of the round leave room for one question
  have hsum := h.sum round
  rw [sum_totalAttempts] at hsum
  have hone : ((db.questionsOf challengeIds).countP fun cq => cq.round = round) = 1 :=
    Nat.eq_of_mul_eq_mul_right hpos (hsum.trans (Nat.one_mul _).symm)
  rw [List.countP_eq_length_filter] at hone
  obtain ⟨cq, hcq⟩ := List.length_eq_one_iff.mp hone
  obtain ⟨hquestion, rfl⟩ := mem_questionsOf_of_eq hcq
  refine ⟨cq, hcq, ?_⟩
  -- so its row has all answers of the round
  have htotal := h.total (db.accuracyRow percent challengeIds cq.key)
    ((mem_accuracyRows percent).mpr ⟨cq, hquestion, rfl⟩)
  have hrow : (db.accuracyRow percent challengeIds cq.key).totalAttempts =
      (db.answers challengeIds cq.round).length := by
    have hattempts : db.attempts challengeIds cq.key (fun _ => true) =
        (db.answers challengeIds cq.round).length := by
      rw [attempts_eq, countP_key_of_eq hcq, Nat.one_mul, List.countP_true]
      rfl
    exact hattempts
  have hto : db.answersTo challengeIds cq.key = db.answers challengeIds cq.round :=
    (answersTo_sublist cq.key).eq_of_length (htotal.symm.trans hrow)
  intro srs hsrs
  rw [← hto, Db.answersTo, List.mem_filter, Bool.and_eq_true] at hsrs
  obtain ⟨s, hs, hsession, other, hother, hchallenge, hkey⟩ := asks_iff.mp hsrs.2.2
  have honly : other ∈ (db.questionsOf challengeIds).filter fun other => other.round = cq.round :=
    List.mem_filter.mpr ⟨hother, decide_eq_true (congrArg Prod.fst hkey)⟩
  rw [hcq, List.mem_singleton] at honly
  rw [honly] at hchallenge
  exact List.any_eq_true.mpr ⟨s, hs, by simp [hsession, hchallenge]⟩

/-- **The counts are right just if every round has its answers in one challenge.** -/
theorem countsAnswers_iff :
    db.CountsAnswers challengeIds (db.accuracyRows percent challengeIds) ↔
      db.OneQuestionPerRound challengeIds :=
  ⟨onePerRound_of_countsAnswers percent, countsAnswers_of_onePerRound percent⟩

/-- Right counts are as large as the answers of their rounds. -/
theorem accuracyRows_fit_iff (h : db.OneQuestionPerRound challengeIds) :
    ((db.accuracyRows percent challengeIds).all fun row =>
      row.totalAttempts ≤ maxInteger && row.correctAttempts ≤ maxInteger) = true ↔
      ∀ round, (db.answers challengeIds round).length ≤ maxInteger := by
  rw [List.all_eq_true]
  constructor
  · intro hfit round
    by_cases hnone : db.answers challengeIds round = []
    · rw [hnone]
      exact Nat.zero_le _
    · obtain ⟨cq, hcq, -⟩ := h round hnone
      obtain ⟨hquestion, rfl⟩ := mem_questionsOf_of_eq hcq
      have hrow := hfit _ ((mem_accuracyRows percent).mpr ⟨cq, hquestion, rfl⟩)
      rw [Bool.and_eq_true, decide_eq_true_eq] at hrow
      have htotal : db.attempts challengeIds cq.key (fun _ => true) ≤ maxInteger := hrow.1
      rw [attempts_eq, countP_key_of_eq hcq, Nat.one_mul, List.countP_true] at htotal
      exact htotal
  · intro hfit row hrow
    obtain ⟨cq, hcq, rfl⟩ := (mem_accuracyRows percent).mp hrow
    have hle (p : RoundScore → Bool) : db.attempts challengeIds cq.key p ≤ maxInteger := by
      rw [attempts_of_onePerRound h hcq]
      exact (List.countP_le_length.trans (answersTo_sublist cq.key).length_le).trans
        (hfit cq.round)
    simp [Db.accuracyRow, hle]

/-- What the query returns of challenges. -/
theorem getQuestionAccuracy_ok_iff (hids : challengeIds ≠ []) {rows : List QuestionAccuracy} :
    db.getQuestionAccuracy percent challengeIds = .ok rows ↔
      "id" ∈ db.roundScoreColumns ∧ rows = db.accuracyRows percent challengeIds ∧
        ((db.accuracyRows percent challengeIds).all fun row =>
          row.totalAttempts ≤ maxInteger && row.correctAttempts ≤ maxInteger) = true := by
  have hempty : challengeIds.isEmpty = false := by simpa using hids
  unfold Db.getQuestionAccuracy
  simp only [hempty, Bool.false_eq_true, if_false]
  by_cases hcolumn : "id" ∈ db.roundScoreColumns
  · simp only [hcolumn, not_true_eq_false, if_false, true_and]
    split
    next hfit => simp [hfit, eq_comm]
    next hfit => simp [hfit]
  · simp [hcolumn]

/-- Of no challenges, there are no answers. -/
theorem countsAnswers_nil : db.CountsAnswers [] [] where
  total := by simp
  correct := by simp
  sum := by
    intro round
    have hnone : db.answers [] round = [] :=
      List.filter_eq_nil_iff.mpr fun srs _ => by simp [Db.inCompleted]
    rw [hnone]
    rfl

end

/-- **When the accuracy counts the answers to each question.** -/
theorem questionAccuracy_iff (db : Db) (brandId : Uuid) (fromDate toDate : Option Int) :
    ((∃ rows, db.getQuestionAccuracy percent
        (db.getChallengeIdsForBrand brandId fromDate toDate) = .ok rows ∧
        db.CountsAnswers (db.getChallengeIdsForBrand brandId fromDate toDate) rows) ↔
      db.getChallengeIdsForBrand brandId fromDate toDate = [] ∨
        "id" ∈ db.roundScoreColumns ∧
        db.OneQuestionPerRound (db.getChallengeIdsForBrand brandId fromDate toDate) ∧
        ∀ round, (db.answers (db.getChallengeIdsForBrand brandId fromDate toDate) round).length ≤
          maxInteger) ∧
    ∀ analytics : BrandAnalytics κ,
      db.getBrandAnalytics percent getCostPerSession brandId fromDate toDate = .ok analytics →
        db.getQuestionAccuracy percent (db.getChallengeIdsForBrand brandId fromDate toDate) =
          .ok analytics.questionAccuracy := by
  refine ⟨?_, fun analytics => getBrandAnalytics_questionAccuracy⟩
  generalize db.getChallengeIdsForBrand brandId fromDate toDate = challengeIds
  by_cases hids : challengeIds = []
  · subst hids
    simp only [true_or, iff_true]
    exact ⟨[], rfl, countsAnswers_nil⟩
  · simp only [hids, false_or, getQuestionAccuracy_ok_iff percent hids]
    constructor
    · intro h
      obtain ⟨rows, ⟨hcolumn, rfl, hfit⟩, hcounts⟩ := h
      have hone := (countsAnswers_iff percent).mp hcounts
      exact ⟨hcolumn, hone, (accuracyRows_fit_iff percent hone).mp hfit⟩
    · intro h
      obtain ⟨hcolumn, hone, hfit⟩ := h
      exact ⟨_, ⟨hcolumn, rfl, (accuracyRows_fit_iff percent hone).mpr hfit⟩,
        (countsAnswers_iff percent).mpr hone⟩

/-- Two challenges of brand 1 with the question "Which brand?" in round 1, each completed once. -/
def twoChallenges (roundScoreColumns : List String) : Db where
  challenges := [Paging.settledChallenge 1 50000000, Paging.settledChallenge 2 30000000]
  challenges_unique := by decide
  questions := [⟨1, 1, "which_brand".toList, "Which brand?".toList⟩,
    ⟨2, 1, "which_brand".toList, "Which brand?".toList⟩]
  questions_unique := by decide
  sessions := [⟨10, some 100, 1, .completed, false, false, none, 120, some 7000, 1000⟩,
    ⟨20, some 100, 2, .completed, false, false, none, 0, some 8000, 1000⟩]
  sessions_unique := by decide
  roundScores := [⟨10, 1, 120⟩, ⟨20, 1, 0⟩]
  roundScores_unique := by decide
  roundScoreColumns

/-- The migrated table has no `id`; with one, both answers count for both questions. -/
theorem answers_counted_twice :
    (twoChallenges migratedColumns).getQuestionAccuracy (fun _ _ => 50)
        ((twoChallenges migratedColumns).getChallengeIdsForBrand 1 none none) =
      .error missingColumn ∧
    (twoChallenges ("id" :: migratedColumns)).getQuestionAccuracy (fun _ _ => 50)
        ((twoChallenges ("id" :: migratedColumns)).getChallengeIdsForBrand 1 none none) =
      .ok [⟨1, "which_brand".toList, "Which brand?".toList, 4, 2, 50⟩] ∧
    ¬ ∃ rows, (twoChallenges ("id" :: migratedColumns)).getQuestionAccuracy (fun _ _ => 50)
        ((twoChallenges ("id" :: migratedColumns)).getChallengeIdsForBrand 1 none none) =
        .ok rows ∧
      (twoChallenges ("id" :: migratedColumns)).CountsAnswers
        ((twoChallenges ("id" :: migratedColumns)).getChallengeIdsForBrand 1 none none) rows := by
  have hrows : (twoChallenges ("id" :: migratedColumns)).getQuestionAccuracy (fun _ _ => 50)
      ((twoChallenges ("id" :: migratedColumns)).getChallengeIdsForBrand 1 none none) =
      .ok [⟨1, "which_brand".toList, "Which brand?".toList, 4, 2, 50⟩] := by decide +kernel
  refine ⟨by decide +kernel, hrows, ?_⟩
  intro h
  obtain ⟨rows, hok, hcounts⟩ := h
  obtain rfl := Except.ok.inj (hrows.symm.trans hok)
  have htotal := hcounts.total _ (List.mem_singleton_self _)
  revert htotal
  decide +kernel

end BrandBlitz.Analytics

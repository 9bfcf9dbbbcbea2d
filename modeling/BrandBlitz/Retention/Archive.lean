import BrandBlitz.Retention.Tables

/-!
# BrandBlitz.Retention.Archive

**The monthly archive job** (`apps/api/src/queues/archive.queue.ts`). It moves the settled
challenges that ended more than 90 days ago, with their sessions, into the archive tables.
To the database that is a deletion: the rows that refer to a challenge or a session go with
it where their foreign key says `ON DELETE CASCADE`, and in `apps/api/migrations` all of
them say so.

`ended_at` and the later columns of `challenges` are taken to be there, in both tables; where
they are not, every run fails at the statement that needs them (a fault of its `Stage`).

`archivesSafely_iff`: a run that goes through loses no record exactly when no payout, refund
or fraud flag refers to what it moves.
-/

namespace BrandBlitz.Retention

open BrandBlitz.Paging BrandBlitz.Payout

/-! ### What is moved -/

/-- `INTERVAL '90 days'` in microseconds. -/
def archiveInterval : Int := 90 * 24 * 60 * 60 * 1000000

/-- `ARCHIVE_PREDICATE`; a challenge without `ended_at` does not meet it. -/
def archivePredicate (now : Timestamp) (c : ChallengeRecord) : Bool :=
  c.status = .settled && c.endedAt.any (· < now - archiveInterval)

/-- `SELECT id FROM challenges WHERE …`. -/
def archivedIds (now : Timestamp) (db : Database) : List Uuid :=
  (db.challenges.filter (archivePredicate now)).map (·.id)

/-- Is the session moved with its challenge? -/
def archivedWith (now : Timestamp) (db : Database) (s : GameSession) : Bool :=
  (archivedIds now db).contains s.challengeId

/-! ### The archive tables

They are `LIKE … INCLUDING ALL`: the keys are copied, the foreign keys are not. -/

/-- Keys that can be `NULL` are equal only if they are there. -/
def sameKey {α : Type} [DecidableEq α] (a b : Option α) : Bool := a.isSome && a = b

def challengeClash (c d : ChallengeRecord) : Bool :=
  c.id = d.id || c.challengeId = d.challengeId || sameKey c.depositMemo d.depositMemo ||
    sameKey c.depositTxHash d.depositTxHash

def sessionClash (s t : GameSession) : Bool :=
  s.id = t.id || (sameKey s.userId t.userId && s.challengeId = t.challengeId)

/-- `INSERT INTO … SELECT * FROM …`, row by row. -/
def insertAll {α : Type} (clash : α → α → Bool) : List α → List α → Except Err (List α)
  | table, [] => .ok table
  | table, row :: rows =>
      if table.any (clash row) then
        .error (Err.new "duplicate key value violates unique constraint".toList)
      else insertAll clash (table ++ [row]) rows

theorem insertAll_ok {α : Type} {clash : α → α → Bool} {table rows table' : List α}
    (h : insertAll clash table rows = .ok table') : table' = table ++ rows := by
  induction rows generalizing table with
  | nil =>
      cases h
      simp
  | cons row rows ih =>
      rw [insertAll] at h
      split at h
      · cases h
      · rw [ih h, List.append_assoc, List.singleton_append]

/-! ### The job -/

/-- The statements of the job that may be failed. -/
inductive Stage
  | begin | selectSessions | deleteRoundScores | move | commit
deriving DecidableEq, Repr

/-- `SELECT id FROM game_sessions WHERE challenge_id IN (…)`. -/
def selectSessionIds (now : Timestamp) : Statements (List Uuid) := fun db =>
  .ok ((db.gameSessions.filter (archivedWith now db)).map (·.id), db)

/-- `DELETE FROM session_round_scores WHERE session_id = ANY($1)`. -/
def deleteRoundScores (sessionIds : List Uuid) : Statements Unit := fun db =>
  .ok ((), { db with
    sessionRoundScores := db.sessionRoundScores.filter (!sessionIds.contains ·.sessionId) })

/-- The foreign keys at the end of a statement that deleted these rows. A session that goes
with its challenge takes its own rows along. -/
def cascade (challengeIds sessionIds : List Uuid) (db : Database) : Database :=
  let sessionIds := sessionIds ++
    (db.gameSessions.filter (challengeIds.contains ·.challengeId)).map (·.id)
  { db with
    gameSessions := db.gameSessions.filter (!challengeIds.contains ·.challengeId)
    sessionRoundScores := db.sessionRoundScores.filter (!sessionIds.contains ·.sessionId)
    payouts := db.payouts.filter fun p =>
      !challengeIds.contains p.challengeId && !sessionIds.contains p.sessionId
    refunds := db.refunds.filter (!challengeIds.contains ·.challengeId)
    fraudFlags := db.fraudFlags.filter (!sessionIds.contains ·.sessionId) }

/-- The statement with the data-modifying `WITH` parts: all of them see the tables as they
were before it. -/
def moveRows (now : Timestamp) : Statements Unit := fun db => do
  let movedSessions := db.gameSessions.filter (archivedWith now db)
  let movedChallenges := db.challenges.filter (archivePredicate now)
  let gameSessionsArchive ← insertAll sessionClash db.gameSessionsArchive movedSessions
  let challengesArchive ← insertAll challengeClash db.challengesArchive movedChallenges
  return ((), cascade (movedChallenges.map (·.id)) (movedSessions.map (·.id)) { db with
    gameSessions := db.gameSessions.filter (!archivedWith now db ·)
    challenges := db.challenges.filter (!archivePredicate now ·)
    gameSessionsArchive
    challengesArchive })

/-- Between `BEGIN` and `COMMIT`. -/
def archiveBody (faults : Stage → Option Err) (now : Timestamp) : Statements Unit := do
  let sessionIds ← statement (faults .selectSessions) (selectSessionIds now)
  if sessionIds.length > 0 then
    statement (faults .deleteRoundScores) (deleteRoundScores sessionIds)
  statement (faults .move) (moveRows now)

/-- A run of the job. -/
def archiveJob (faults : Stage → Option Err) (now : Timestamp) (db : Database) :
    Except Err Unit × Database :=
  transaction (faults .begin) (faults .commit) (archiveBody faults now) db

/-! ### What a run does -/

/-- The ids of the sessions that are moved. -/
def movedSessionIds (now : Timestamp) (db : Database) : List Uuid :=
  (db.gameSessions.filter (archivedWith now db)).map (·.id)

/-- The database after a run that went through. -/
def archived (now : Timestamp) (db : Database) : Database :=
  { db with
    challenges := db.challenges.filter (!archivePredicate now ·)
    challengesArchive := db.challengesArchive ++ db.challenges.filter (archivePredicate now)
    gameSessions := db.gameSessions.filter (!archivedWith now db ·)
    gameSessionsArchive :=
      db.gameSessionsArchive ++ db.gameSessions.filter (archivedWith now db)
    sessionRoundScores :=
      db.sessionRoundScores.filter (!(movedSessionIds now db).contains ·.sessionId)
    payouts := db.payouts.filter fun p =>
      !(archivedIds now db).contains p.challengeId &&
        !(movedSessionIds now db).contains p.sessionId
    refunds := db.refunds.filter (!(archivedIds now db).contains ·.challengeId)
    fraudFlags := db.fraudFlags.filter (!(movedSessionIds now db).contains ·.sessionId) }

/-- Every statement of the run goes through, and the archive has room for the keys. -/
structure GoesThrough (faults : Stage → Option Err) (now : Timestamp) (db : Database) : Prop where
  begin : faults .begin = none
  selectSessions : faults .selectSessions = none
  deleteRoundScores : movedSessionIds now db ≠ [] → faults .deleteRoundScores = none
  move : faults .move = none
  commit : faults .commit = none
  sessions : ∃ table, insertAll sessionClash db.gameSessionsArchive
    (db.gameSessions.filter (archivedWith now db)) = .ok table
  challenges : ∃ table, insertAll challengeClash db.challengesArchive
    (db.challenges.filter (archivePredicate now)) = .ok table

theorem filter_idem {α : Type} (p : α → Bool) (l : List α) :
    (l.filter p).filter p = l.filter p := by
  rw [List.filter_filter]
  simp

/-- No session of a challenge that is moved stays behind, so the cascade finds none. -/
theorem cascade_moved (now : Timestamp) (db : Database) :
    (db.gameSessions.filter (!archivedWith now db ·)).filter
      ((archivedIds now db).contains ·.challengeId) = [] := by
  rw [List.filter_filter, List.filter_eq_nil_iff]
  intro s _
  simp [archivedWith]

/-- What is left of the tables once the foreign keys have been looked after. -/
theorem cascade_eq_archived (now : Timestamp) (db : Database) :
    cascade (archivedIds now db) (movedSessionIds now db) { db with
      gameSessions := db.gameSessions.filter (!archivedWith now db ·)
      challenges := db.challenges.filter (!archivePredicate now ·)
      gameSessionsArchive :=
        db.gameSessionsArchive ++ db.gameSessions.filter (archivedWith now db)
      challengesArchive := db.challengesArchive ++ db.challenges.filter (archivePredicate now) } =
    archived now db := by
  have hkept : (db.gameSessions.filter (!archivedWith now db ·)).filter
      (!(archivedIds now db).contains ·.challengeId) =
      db.gameSessions.filter (!archivedWith now db ·) := filter_idem _ _
  simp only [cascade, archived, cascade_moved, hkept, List.map_nil, List.append_nil]

theorem moveRows_ok_iff (now : Timestamp) (db db' : Database) :
    moveRows now db = .ok ((), db') ↔
      (∃ table, insertAll sessionClash db.gameSessionsArchive
        (db.gameSessions.filter (archivedWith now db)) = .ok table) ∧
      (∃ table, insertAll challengeClash db.challengesArchive
        (db.challenges.filter (archivePredicate now)) = .ok table) ∧
      db' = archived now db := by
  unfold moveRows
  cases hsessions : insertAll sessionClash db.gameSessionsArchive
      (db.gameSessions.filter (archivedWith now db)) with
  | error err => simp [bind, Except.bind, hsessions]
  | ok sessions =>
  cases hchallenges : insertAll challengeClash db.challengesArchive
      (db.challenges.filter (archivePredicate now)) with
  | error err => simp [bind, Except.bind, hsessions, hchallenges]
  | ok challenges =>
      have heq := cascade_eq_archived now db
      rw [← insertAll_ok hsessions, ← insertAll_ok hchallenges] at heq
      simp only [bind, Except.bind, pure, Except.pure, hsessions, hchallenges, Except.ok.injEq,
        Prod.mk.injEq, true_and, exists_eq', ← heq]
      exact eq_comm

/-- Scores deleted one statement earlier make no difference. -/
theorem moveRows_deleteRoundScores (now : Timestamp) (db db' : Database) :
    moveRows now { db with
      sessionRoundScores :=
        db.sessionRoundScores.filter (!(movedSessionIds now db).contains ·.sessionId) } =
      .ok ((), db') ↔ moveRows now db = .ok ((), db') := by
  rw [moveRows_ok_iff, moveRows_ok_iff]
  refine and_congr_right fun _ => and_congr_right fun _ => ?_
  have hscores : ∀ scores, archived now { db with sessionRoundScores := scores } =
      { archived now db with
        sessionRoundScores :=
          scores.filter (!(movedSessionIds now db).contains ·.sessionId) } := fun _ => rfl
  rw [hscores, filter_idem]
  rfl

theorem archiveBody_ok_iff (faults : Stage → Option Err) (now : Timestamp) (db db' : Database) :
    archiveBody faults now db = .ok ((), db') ↔ faults .selectSessions = none ∧
      (movedSessionIds now db ≠ [] → faults .deleteRoundScores = none) ∧
      faults .move = none ∧ moveRows now db = .ok ((), db') := by
  have hselect : selectSessionIds now db = .ok (movedSessionIds now db, db) := rfl
  have hdelete : deleteRoundScores (movedSessionIds now db) db = .ok ((), { db with
      sessionRoundScores :=
        db.sessionRoundScores.filter (!(movedSessionIds now db).contains ·.sessionId) }) := rfl
  unfold archiveBody
  simp only [bind_ok_iff, statement_ok_iff, hselect, Except.ok.injEq, Prod.mk.injEq]
  by_cases hnone : movedSessionIds now db = []
  · constructor
    · rintro ⟨_, _, ⟨hfault, rfl, rfl⟩, h⟩
      rw [if_neg (by simp [hnone]), statement_ok_iff] at h
      exact ⟨hfault, fun hne => absurd hnone hne, h⟩
    · rintro ⟨hfault, -, h⟩
      refine ⟨_, _, ⟨hfault, rfl, rfl⟩, ?_⟩
      rw [if_neg (by simp [hnone]), statement_ok_iff]
      exact h
  · have hpos : (movedSessionIds now db).length > 0 := List.length_pos_of_ne_nil hnone
    constructor
    · rintro ⟨_, _, ⟨hfault, rfl, rfl⟩, h⟩
      rw [if_pos hpos, bind_ok_iff] at h
      obtain ⟨_, _, h, hmove⟩ := h
      rw [statement_ok_iff, hdelete] at h
      obtain ⟨hscores, h⟩ := h
      cases h
      rw [statement_ok_iff, moveRows_deleteRoundScores] at hmove
      exact ⟨hfault, fun _ => hscores, hmove⟩
    · rintro ⟨hfault, hscores, hmove⟩
      refine ⟨_, _, ⟨hfault, rfl, rfl⟩, ?_⟩
      rw [if_pos hpos, bind_ok_iff]
      refine ⟨_, _, statement_ok_iff.mpr ⟨hscores hnone, hdelete⟩, ?_⟩
      rw [statement_ok_iff, moveRows_deleteRoundScores]
      exact hmove

theorem archiveJob_ok_iff (faults : Stage → Option Err) (now : Timestamp) (db db' : Database) :
    archiveJob faults now db = (.ok (), db') ↔
      GoesThrough faults now db ∧ db' = archived now db := by
  rw [archiveJob, transaction_ok_iff, archiveBody_ok_iff, moveRows_ok_iff]
  constructor
  · rintro ⟨hbegin, hcommit, hselect, hdelete, hmove, hsessions, hchallenges, heq⟩
    exact ⟨⟨hbegin, hselect, hdelete, hmove, hcommit, hsessions, hchallenges⟩, heq⟩
  · rintro ⟨⟨hbegin, hselect, hdelete, hmove, hcommit, hsessions, hchallenges⟩, heq⟩
    exact ⟨hbegin, hcommit, hselect, hdelete, hmove, hsessions, hchallenges, heq⟩

/-! ### Which runs lose nothing -/

/-- Every challenge and session is in one of its two tables as often as it was before, and
the rows that are money or evidence are still there. -/
structure KeepsRecords (db db' : Database) : Prop where
  challenges : (db'.challenges ++ db'.challengesArchive).Perm
    (db.challenges ++ db.challengesArchive)
  sessions : (db'.gameSessions ++ db'.gameSessionsArchive).Perm
    (db.gameSessions ++ db.gameSessionsArchive)
  payouts : ∀ p ∈ db.payouts, p ∈ db'.payouts
  refunds : ∀ r ∈ db.refunds, r ∈ db'.refunds
  fraudFlags : ∀ f ∈ db.fraudFlags, f ∈ db'.fraudFlags

/-- Every challenge and session is live or archived, and only once. -/
structure Once (db : Database) : Prop where
  challenges : ((db.challenges ++ db.challengesArchive).map (·.id)).Nodup
  sessions : ((db.gameSessions ++ db.gameSessionsArchive).map (·.id)).Nodup

theorem KeepsRecords.once {db db' : Database} (h : KeepsRecords db db') (honce : Once db) :
    Once db' where
  challenges := (h.challenges.map _).nodup_iff.mpr honce.challenges
  sessions := (h.sessions.map _).nodup_iff.mpr honce.sessions

/-- A run that goes through loses nothing, and one that fails changes nothing. -/
def ArchivesSafely (db : Database) (run : Except Err Unit × Database) : Prop :=
  match run.1 with
  | .ok () => KeepsRecords db run.2 ∧ (Once db → Once run.2)
  | .error _ => run.2 = db

/-- No payout, refund or fraud flag refers to a challenge or session that is moved. -/
structure NoneReferred (now : Timestamp) (db : Database) : Prop where
  payouts : ∀ p ∈ db.payouts, p.challengeId ∉ archivedIds now db ∧
    p.sessionId ∉ movedSessionIds now db
  refunds : ∀ r ∈ db.refunds, r.challengeId ∉ archivedIds now db
  fraudFlags : ∀ f ∈ db.fraudFlags, f.sessionId ∉ movedSessionIds now db

/-- Rows that change tables are as many as before. -/
theorem perm_moved {α : Type} (p : α → Bool) (live archive : List α) :
    (live.filter (!p ·) ++ (archive ++ live.filter p)).Perm (live ++ archive) := by
  have hsplit : (live.filter p ++ live.filter (!p ·)).Perm live := List.filter_append_perm p live
  have hswap : (live.filter (!p ·) ++ (archive ++ live.filter p)).Perm
      (live.filter (!p ·) ++ (live.filter p ++ archive)) := List.perm_append_comm.append_left _
  refine hswap.trans ?_
  rw [← List.append_assoc]
  exact (List.perm_append_comm.trans hsplit).append_right _

theorem keepsRecords_archived_iff (now : Timestamp) (db : Database) :
    KeepsRecords db (archived now db) ↔ NoneReferred now db := by
  constructor
  · intro h
    refine ⟨fun p hp => ?_, fun r hr => ?_, fun f hf => ?_⟩
    · have hkept := h.payouts p hp
      simp only [archived, List.mem_filter] at hkept
      simpa using hkept.2
    · have hkept := h.refunds r hr
      simp only [archived, List.mem_filter] at hkept
      simpa using hkept.2
    · have hkept := h.fraudFlags f hf
      simp only [archived, List.mem_filter] at hkept
      simpa using hkept.2
  · intro h
    exact {
      challenges := perm_moved _ _ _
      sessions := perm_moved _ _ _
      payouts := fun p hp => List.mem_filter.mpr ⟨hp, by simpa using h.payouts p hp⟩
      refunds := fun r hr => List.mem_filter.mpr ⟨hr, by simpa using h.refunds r hr⟩
      fraudFlags := fun f hf => List.mem_filter.mpr ⟨hf, by simpa using h.fraudFlags f hf⟩ }

/-- **Archiving loses no record**, in any state and whatever is failed, exactly when nothing
refers to what a run that goes through moves. -/
theorem archivesSafely_iff (faults : Stage → Option Err) (now : Timestamp) (db : Database) :
    ArchivesSafely db (archiveJob faults now db) ↔
      (GoesThrough faults now db → NoneReferred now db) := by
  cases hrun : archiveJob faults now db with
  | mk answer db' =>
      cases answer with
      | error err =>
          have hnot : ¬ GoesThrough faults now db := by
            intro h
            rw [(archiveJob_ok_iff faults now db _).mpr ⟨h, rfl⟩] at hrun
            cases hrun
          have hsame := transaction_error hrun
          simp [ArchivesSafely, hsame, hnot]
      | ok answer =>
          obtain ⟨hthrough, rfl⟩ := (archiveJob_ok_iff faults now db db').mp hrun
          rw [← keepsRecords_archived_iff]
          show KeepsRecords db (archived now db) ∧ _ ↔ _
          constructor
          · exact fun h _ => h.1
          · exact fun h => ⟨h hthrough, (h hthrough).once⟩

/-- A settled challenge with one winner, 91 days after it ended. -/
def paidChallenge : Database where
  users := []
  challenges := [⟨0, "spring".toList, .settled, some 0, none, none⟩]
  challengesArchive := []
  gameSessions := [⟨1, some 2, 0, none⟩]
  gameSessionsArchive := []
  sessionRoundScores := [⟨1, 1⟩]
  payouts := [⟨3, 0, 1⟩]
  refunds := []
  fraudFlags := []
  auditLog := []

/-- The payout goes with the challenge. -/
theorem archiving_drops_the_payout : ¬ ArchivesSafely paidChallenge
    (archiveJob (fun _ => none) (91 * 24 * 60 * 60 * 1000000) paidChallenge) := by
  intro h
  have hkept : KeepsRecords paidChallenge (archiveJob (fun _ => none)
    (91 * 24 * 60 * 60 * 1000000) paidChallenge).2 := h.1
  exact absurd (hkept.payouts ⟨3, 0, 1⟩ (by decide)) (by decide)

end BrandBlitz.Retention

import BrandBlitz.Payout.Usdc
import BrandBlitz.Paging.Cursor

/-!
# BrandBlitz.Paging.History

**The pages of a player's session history** (`getSessionHistory` in
`apps/api/src/db/queries/sessions.ts`), the latest completion first and the sessions that have
none last.

The condition on the next page admits every session without a completion time, whatever the
cursor is. That is right as long as the cursor has a time; a page that ends among the sessions
without one is followed by all of them again.

A session joins one completed payout at most. No constraint says so of `session_id`, but `payouts`
is `UNIQUE (challenge_id, user_id)`, and the service that fills it takes both from the session.
-/

namespace BrandBlitz.Paging

open BrandBlitz.Lib
open BrandBlitz.Lib.Keyset (Page Lists Cut lookAhead)
open BrandBlitz.Sessions (Status Round)
open BrandBlitz.Payout (stroopsToUsdc)

/-! ### Tables -/

/-- A row of `game_sessions`. -/
structure HistorySession where
  id : Uuid
  userId : Option Uuid
  challengeId : Uuid
  status : Status
  flagged : Bool
  totalScore : Int
  challengeStartedAt : Option Timestamp
  completedAt : Option Timestamp
deriving DecidableEq, Repr

/-- A row of `session_round_scores`. -/
structure RoundScore where
  sessionId : Uuid
  round : Round
  answer : Option Text
  score : Nat
  reactionTimeMs : Option Nat
deriving DecidableEq, Repr

/-- The number of a round. -/
def roundNumber : Round → Nat
  | .one => 1
  | .two => 2
  | .three => 3

/-- `ORDER BY session_id, round`. -/
def roundKey (row : RoundScore) : Nat ×ₗ Nat := toLex (row.sessionId, roundNumber row.round)

structure HistoryDb where
  sessions : List HistorySession
  /-- `PRIMARY KEY` -/
  ids_nodup : (sessions.map HistorySession.id).Nodup
  /-- `challenges.challenge_id`, by id -/
  challengeTitles : Uuid → Option Text
  /-- the amount in stroops of the completed payout for a session -/
  completedPayouts : Uuid → Option Nat
  roundScores : List RoundScore
  /-- `PRIMARY KEY (session_id, round)` -/
  rounds_nodup : Sql.KeyUnique roundKey roundScores

/-! ### The query -/

inductive HistoryStatusFilter where
  | completed | disqualified | all
deriving DecidableEq, Repr

inductive Outcome where
  | won | lost | disqualified | inProgress
deriving DecidableEq, Repr

structure HistoryRound where
  round : Round
  answer : Option Text
  score : Nat
  reactionTimeMs : Option Nat
deriving DecidableEq, Repr

structure HistoryItem where
  sessionId : Uuid
  challengeId : Uuid
  challengeTitle : Text
  startedAt : Option Timestamp
  completedAt : Option Timestamp
  totalScore : Int
  outcome : Outcome
  payoutAmountUsdc : Option Text
  rounds : Option (List HistoryRound)
deriving DecidableEq, Repr

/-- A row of the query: a session with its challenge's title and its completed payout. -/
structure HistoryRow where
  session : HistorySession
  challengeTitle : Text
  payout : Option Nat
deriving DecidableEq, Repr

def HistoryDb.joined (db : HistoryDb) : List HistoryRow :=
  db.sessions.filterMap fun session =>
    (db.challengeTitles session.challengeId).map fun title =>
      ⟨session, title, db.completedPayouts session.id⟩

/-- `statusClause`. -/
def statusClause (status : HistoryStatusFilter) (session : HistorySession) : Bool :=
  match status with
  | .completed => session.status = .completed && !session.flagged
  | .disqualified => session.flagged
  | .all => true

def historyWhere (userId : Uuid) (status : HistoryStatusFilter) (row : HistoryRow) : Bool :=
  row.session.userId = some userId && statusClause status row.session

/-- `gs.completed_at DESC NULLS LAST, gs.id DESC`. -/
def historyKey (session : HistorySession) : WithTop Intᵒᵈ ×ₗ Natᵒᵈ :=
  toLex (Sql.nullsLast (session.completedAt.map OrderDual.toDual), OrderDual.toDual session.id)

def outcome (row : HistoryRow) : Outcome :=
  if row.session.flagged then .disqualified
  else if row.session.status = .completed && row.payout.isSome then .won
  else if row.session.status = .completed then .lost
  else .inProgress

/-- `cursorClause`, for a time and an id. -/
def historyCursorClause (completedAt : Option Timestamp) (id : Option Uuid)
    (session : HistorySession) : Sql.Cond :=
  Sql.or
    (Sql.or (Sql.lt session.completedAt completedAt)
      (Sql.and (Sql.eq session.completedAt completedAt) (Sql.lt (some session.id) id)))
    (Sql.isNull session.completedAt)

/-- The condition a cursor adds; without a usable cursor it adds none. -/
def historyClause (cursor : Option Cursor) : Except ApiError (HistorySession → Sql.Cond) :=
  match decodeCursorSafe cursor ["completed_at", "id"] with
  | none => .ok fun _ => some true
  | some decoded => do
      let completedAt ← timestampParam (decoded.get "completed_at")
      let id ← uuidParam (decoded.get "id")
      return historyCursorClause completedAt id

/-- The cursor after an item. -/
def historyCursor (item : HistoryItem) : Cursor :=
  encodeCursor [("completed_at", jsTimestamp item.completedAt),
    ("id", .string (.uuid item.sessionId))]

/-- The rounds of the sessions on a page, in the order of the second query. -/
def roundsOf (db : HistoryDb) (sessionIds : List Uuid) : List RoundScore :=
  Sql.orderBy roundKey (db.roundScores.filter fun row => row.sessionId ∈ sessionIds)

/-- `roundsBySession.get(sessionId) ?? []`. -/
def roundsBySession (rows : List RoundScore) (sessionId : Uuid) : List HistoryRound :=
  (rows.filter fun row => row.sessionId = sessionId).map fun row =>
    ⟨row.round, row.answer, row.score, row.reactionTimeMs⟩

def historyItem (rounds : Option (Uuid → List HistoryRound)) (row : HistoryRow) :
    HistoryItem where
  sessionId := row.session.id
  challengeId := row.session.challengeId
  challengeTitle := row.challengeTitle
  startedAt := row.session.challengeStartedAt
  completedAt := row.session.completedAt
  totalScore := row.session.totalScore
  outcome := outcome row
  payoutAmountUsdc := row.payout.map stroopsToUsdc
  rounds := rounds.map fun rounds => rounds row.session.id

structure HistoryQuery where
  userId : Uuid
  status : HistoryStatusFilter
  limit : Nat
  includeRounds : Bool

def getSessionHistory (db : HistoryDb) (q : HistoryQuery) (cursor : Option Cursor) :
    Except ApiError (Page HistoryItem Cursor) := do
  let clause ← historyClause cursor
  let matching := db.joined.filter fun row =>
    historyWhere q.userId q.status row && Sql.holds (clause row.session)
  let fetched := (Sql.orderBy (fun row => historyKey row.session) matching).take (q.limit + 1)
  let rows := fetched.take q.limit
  let rounds := if q.includeRounds then
    some (roundsBySession (roundsOf db (rows.map fun row => row.session.id))) else none
  let items := rows.map (historyItem rounds)
  return ⟨items, if q.limit < fetched.length then items.getLast?.map historyCursor else none⟩

/-- The rows of the query without pages. -/
def historyRows (db : HistoryDb) (q : HistoryQuery) : List HistoryRow :=
  Sql.orderBy (fun row => historyKey row.session)
    (db.joined.filter (historyWhere q.userId q.status))

/-- All rounds of a session, if rounds are asked for. -/
def allRounds (db : HistoryDb) (q : HistoryQuery) : Option (Uuid → List HistoryRound) :=
  if q.includeRounds then some (roundsBySession (Sql.orderBy roundKey db.roundScores)) else none

/-- The query without pages. -/
def sessionHistory (db : HistoryDb) (q : HistoryQuery) : List HistoryItem :=
  (historyRows db q).map (historyItem (allRounds db q))

/-! ### One page -/

/-- What the cursor made from `b` admits. -/
def historyAfter (b r : HistoryItem) : Bool :=
  Sql.holds (Sql.or
    (Sql.or (Sql.lt r.completedAt (b.completedAt.map clip))
      (Sql.and (Sql.eq r.completedAt (b.completedAt.map clip))
        (Sql.lt (some r.sessionId) (some b.sessionId))))
    (Sql.isNull r.completedAt))

theorem historyAfter_iff {b r : HistoryItem} :
    historyAfter b r = true ↔ ∀ u, r.completedAt = some u →
      ∃ t, b.completedAt = some t ∧ (u < clip t ∨ u = clip t ∧ r.sessionId < b.sessionId) := by
  simp only [historyAfter, Sql.holds_or, Sql.holds_and, Bool.or_eq_true, Bool.and_eq_true,
    Sql.holds_isNull, Sql.holds_lt_some]
  cases hr : r.completedAt with
  | none => simp
  | some u =>
      cases hb : b.completedAt with
      | none => simp
      | some t =>
          simp only [Option.map_some, Sql.holds_lt_some, Sql.holds_eq_some]
          simp

theorem historyClause_cursor (b : HistoryItem) :
    historyClause (some (historyCursor b)) =
      .ok (historyCursorClause (b.completedAt.map clip) (some b.sessionId)) := by
  have hdecode : decodeCursorSafe (some (historyCursor b)) ["completed_at", "id"] =
      some (historyCursor b) := rfl
  have htime : (historyCursor b).get "completed_at" = (jsTimestamp b.completedAt).toJson := rfl
  have hid : uuidParam ((historyCursor b).get "id") = .ok (some b.sessionId) := rfl
  simp only [historyClause, hdecode, htime, timestampParam_jsTimestamp, hid]
  rfl

/-- A session joins one challenge and at most one payout. -/
theorem HistoryDb.joined_ids_nodup (db : HistoryDb) :
    (db.joined.map fun row => row.session.id).Nodup := by
  have hsub : (db.joined.map HistoryRow.session).Sublist db.sessions := by
    refine Sql.join_sublist (fun session row hrow => ?_) db.sessions
    obtain ⟨title, -, rfl⟩ := Option.map_eq_some_iff.mp hrow
    rfl
  have hids := db.ids_nodup.sublist (hsub.map HistorySession.id)
  rwa [List.map_map] at hids

theorem historyKey_unique {rows : List HistoryRow}
    (h : (rows.map fun row => row.session.id).Nodup) :
    Sql.KeyUnique (fun row => historyKey row.session) rows :=
  .of_column (fun key => OrderDual.ofDual (ofLex key).2) h

/-- The rounds of a session on a page are all rounds of the session. -/
theorem roundsBySession_roundsOf (db : HistoryDb) {sessionIds : List Uuid} {id : Uuid}
    (hid : id ∈ sessionIds) :
    roundsBySession (roundsOf db sessionIds) id =
      roundsBySession (Sql.orderBy roundKey db.roundScores) id := by
  rw [roundsBySession, roundsOf, Sql.orderBy_filter db.rounds_nodup, List.filter_filter,
    roundsBySession]
  congr 1
  refine List.filter_congr fun row _ => ?_
  by_cases h : row.sessionId = id
  · simp [h, hid]
  · simp [h]

variable (db : HistoryDb) (q : HistoryQuery)

/-- The items of a page do not depend on the other sessions on it. -/
theorem historyItems_eq (rows : List HistoryRow) :
    rows.map (historyItem (if q.includeRounds then
      some (roundsBySession (roundsOf db (rows.map fun row => row.session.id))) else none)) =
      rows.map (historyItem (allRounds db q)) := by
  refine List.map_congr_left fun row hrow => ?_
  have hid : row.session.id ∈ rows.map fun row => row.session.id := List.mem_map_of_mem hrow
  by_cases h : q.includeRounds
  · simp [historyItem, allRounds, h, roundsBySession_roundsOf db hid]
  · simp [historyItem, allRounds, h]

/-- The sessions that a cursor keeps, as items of the unpaged query. -/
theorem window_sessionHistory (b : HistoryItem) :
    Keyset.window (sessionHistory db q) historyAfter (some b) =
      (Sql.orderBy (fun row => historyKey row.session) (db.joined.filter fun row =>
        historyWhere q.userId q.status row &&
          Sql.holds (historyCursorClause (b.completedAt.map clip) (some b.sessionId)
            row.session))).map (historyItem (allRounds db q)) := by
  have hunique : Sql.KeyUnique (fun row => historyKey row.session)
      (db.joined.filter (historyWhere q.userId q.status)) :=
    historyKey_unique (db.joined_ids_nodup.sublist (List.filter_sublist.map _))
  rw [Keyset.window, sessionHistory, historyRows, List.filter_map, ← Sql.orderBy_filter hunique,
    List.filter_filter]
  simp only [Bool.and_comm (historyWhere q.userId q.status _)]
  rfl

/-- One page, in terms of the unpaged query. -/
theorem getSessionHistory_eq (b : Option HistoryItem) :
    getSessionHistory db q (b.map historyCursor) =
      .ok (lookAhead q.limit historyCursor
        ((Keyset.window (sessionHistory db q) historyAfter b).take (q.limit + 1))) := by
  cases b with
  | none =>
      simp only [getSessionHistory, historyClause, decodeCursorSafe, Option.map_none]
      simp only [bind, Except.bind, pure, Except.pure, Sql.holds_some, Bool.and_true,
        historyItems_eq]
      simp only [lookAhead, Keyset.window, sessionHistory, historyRows, ← List.map_take,
        List.length_map]
  | some b =>
      simp only [getSessionHistory, Option.map_some, historyClause_cursor]
      simp only [bind, Except.bind, pure, Except.pure, historyItems_eq]
      simp only [lookAhead, window_sessionHistory, ← List.map_take, List.length_map]

/-! ### When the pages are the history -/

theorem historyKey_lt_iff {b r : HistorySession} :
    historyKey b < historyKey r ↔
      Sql.nullsLast (b.completedAt.map OrderDual.toDual) <
          Sql.nullsLast (r.completedAt.map OrderDual.toDual) ∨
        b.completedAt = r.completedAt ∧ r.id < b.id := by
  simp only [historyKey, Prod.Lex.toLex_lt_toLex, Sql.nullsLast_inj,
    OrderDual.toDual_lt_toDual]
  refine or_congr Iff.rfl (and_congr_left' ?_)
  exact (Option.map_injective OrderDual.toDual.injective).eq_iff

/-- The order of the items: the timed ones first, by falling time and falling id. -/
def HistoryBefore (a b : HistoryItem) : Prop :=
  ∀ u, b.completedAt = some u →
    ∃ t, a.completedAt = some t ∧ (u < t ∨ u = t ∧ b.sessionId < a.sessionId)

theorem sessionHistory_pairwise : (sessionHistory db q).Pairwise HistoryBefore := by
  have hunique : Sql.KeyUnique (fun row => historyKey row.session)
      (db.joined.filter (historyWhere q.userId q.status)) :=
    historyKey_unique (db.joined_ids_nodup.sublist (List.filter_sublist.map _))
  refine List.pairwise_map.mpr ((Sql.orderBy_pairwise_lt hunique).imp fun {a b} hab => ?_)
  intro u hu
  have hu' : b.session.completedAt = some u := hu
  show ∃ t, a.session.completedAt = some t ∧ _
  rcases historyKey_lt_iff.mp hab with hlt | ⟨heq, hid⟩
  · rw [hu', Option.map_some, Sql.nullsLast_lt_some] at hlt
    obtain ⟨t, ht, hlt⟩ := hlt
    obtain ⟨t', ht', rfl⟩ := Option.map_eq_some_iff.mp ht
    exact ⟨t', ht', .inl hlt⟩
  · exact ⟨u, heq.trans hu', .inr ⟨rfl, hid⟩⟩

theorem sessionHistory_ids_nodup :
    ((sessionHistory db q).map HistoryItem.sessionId).Nodup := by
  rw [sessionHistory, List.map_map]
  have hids := db.joined_ids_nodup.sublist
    ((List.filter_sublist (p := historyWhere q.userId q.status)).map fun row => row.session.id)
  exact (((Sql.orderBy_perm _ _).map _).nodup_iff).mpr hids

/-- What a cursor admits after a row it admits, it admits. -/
theorem historyAfter_trans {a b c : HistoryItem} (hab : historyAfter a b = true)
    (hbc : historyAfter b c = true) : historyAfter a c = true := by
  rw [historyAfter_iff] at hab hbc ⊢
  intro u hu
  obtain ⟨t, ht, hlt⟩ := hbc u hu
  obtain ⟨s, hs, hlt'⟩ := hab t ht
  refine ⟨s, hs, ?_⟩
  rcases hlt' with hlt' | ⟨rfl, hid'⟩
  · have hut : u ≤ t := by
      rcases hlt with hlt | ⟨rfl, -⟩
      · exact le_of_lt (lt_of_lt_of_le hlt (clip_le t))
      · exact clip_le t
    exact .inl (lt_of_le_of_lt hut hlt')
  · rw [clip_clip] at hlt
    exact hlt.imp id fun h => ⟨h.1, lt_trans h.2 hid'⟩

/-- A cut is right if the last item before it is timed, and its cursor admits the items of the
next page. -/
theorem cut_history_iff {rows : List HistoryItem} {k n : Nat}
    (hrows : rows.Pairwise HistoryBefore) :
    Cut rows historyAfter k n ↔ ∀ b ∈ (rows.take k).getLast?, b.completedAt.isSome ∧
      ∀ r ∈ (rows.drop k).take n, historyAfter b r = true := by
  constructor
  · intro hcut b hb
    refine ⟨?_, hcut.ahead b hb⟩
    -- a cursor without a time admits its own row again
    by_contra hnone
    have hself := hcut.behind b hb b (List.mem_of_getLast? hb)
    rw [Bool.eq_false_iff, Ne, historyAfter_iff] at hself
    refine hself fun u hu => ?_
    rw [hu] at hnone
    exact absurd rfl hnone
  · intro h
    refine ⟨fun b hb r hr => ?_, fun b hb r hr => (h b hb).2 r hr⟩
    obtain ⟨t, ht⟩ := Option.isSome_iff_exists.mp (h b hb).1
    by_contra hafter
    have hr' := historyAfter_iff.mp (by simpa using hafter)
    rcases Keyset.rel_getLast_of_mem_take hrows hb hr with rfl | hbefore
    · obtain ⟨t', ht', hlt⟩ := hr' t ht
      rw [ht] at ht'
      obtain rfl := Option.some.inj ht'
      rcases hlt with hlt | ⟨-, hid⟩
      · exact absurd (clip_le t) (not_le.mpr hlt)
      · exact lt_irrefl _ hid
    · obtain ⟨u, hu, horder⟩ := hbefore t ht
      obtain ⟨t', ht', hlt⟩ := hr' u hu
      rw [ht] at ht'
      obtain rfl := Option.some.inj ht'
      have hle := clip_le t
      rcases horder with horder | ⟨rfl, hid⟩
      · have hlate : clip t < u := lt_of_le_of_lt hle horder
        rcases hlt with hlt | ⟨rfl, -⟩
        · exact lt_asymm hlt hlate
        · exact lt_irrefl _ hlate
      · rcases hlt with hlt | ⟨-, hid'⟩
        · exact absurd hle (not_le.mpr hlt)
        · exact lt_asymm hid hid'

/-- `r` was not completed in the fraction of a millisecond that the cursor of `b` loses, nor, with
a larger id, at its start. -/
def ClearsFraction (b r : HistoryItem) : Prop :=
  ∀ t u, b.completedAt = some t → r.completedAt = some u →
    u < clip t ∨ u = clip t ∧ r.sessionId < b.sessionId

theorem historyAfter_iff_clearsFraction {b r : HistoryItem} (hb : b.completedAt.isSome = true) :
    historyAfter b r = true ↔ ClearsFraction b r := by
  obtain ⟨t, ht⟩ := Option.isSome_iff_exists.mp hb
  rw [historyAfter_iff]
  constructor
  · intro h t' u ht' hu
    obtain ⟨t'', ht'', hlt⟩ := h u hu
    rw [ht'] at ht''
    obtain rfl := Option.some.inj ht''
    exact hlt
  · exact fun h u hu => ⟨t, ht, h t u ht hu⟩

/-- With whole milliseconds nothing is lost. -/
theorem clearsFraction_of_wholeMs {b r : HistoryItem} (hbefore : HistoryBefore b r)
    (hms : ∀ t ∈ b.completedAt, WholeMs t) : ClearsFraction b r := by
  intro t u ht hu
  obtain ⟨t', ht', hlt⟩ := hbefore u hu
  rw [ht] at ht'
  obtain rfl := Option.some.inj ht'
  rwa [clip_eq_self_iff.mpr (hms t ht)]

/-- What follows a page comes after its last session. -/
theorem historyBefore_of_cut {n m : Nat} {b r : HistoryItem}
    (hb : b ∈ ((sessionHistory db q).take n).getLast?)
    (hr : r ∈ ((sessionHistory db q).drop n).take m) : HistoryBefore b r := by
  have hrows := sessionHistory_pairwise db q
  rw [← List.take_append_drop n (sessionHistory db q), List.pairwise_append] at hrows
  exact hrows.2.2 b (List.mem_of_getLast? hb) r (List.mem_of_mem_take hr)

/-- **When following the cursors of a session history lists it**: no page that has a successor
ends among the sessions without a completion time, and no session of the next page falls into
the fraction of a millisecond that a cursor loses. -/
theorem getSessionHistory_lists_iff (hlimit : 0 < q.limit) :
    Lists (getSessionHistory db q) (sessionHistory db q) ↔
      (∀ j, j * q.limit < (sessionHistory db q).length →
        j * q.limit ≤ (sessionHistory db q).countP fun item => item.completedAt.isSome) ∧
      ∀ j, j * q.limit < (sessionHistory db q).length →
        ∀ b ∈ ((sessionHistory db q).take (j * q.limit)).getLast?,
        ∀ r ∈ ((sessionHistory db q).drop (j * q.limit)).take q.limit, ClearsFraction b r := by
  have hrows := sessionHistory_pairwise db q
  have hnodup : (sessionHistory db q).Nodup := (sessionHistory_ids_nodup db q).of_map _
  have hparts : (sessionHistory db q).Pairwise fun a b =>
      b.completedAt.isSome = true → a.completedAt.isSome = true := by
    refine hrows.imp fun {a b} hab hb => ?_
    obtain ⟨u, hu⟩ := Option.isSome_iff_exists.mp hb
    obtain ⟨t, ht, -⟩ := hab u hu
    simp [ht]
  have htrans : ∀ a ∈ sessionHistory db q, ∀ b ∈ sessionHistory db q,
      ∀ c ∈ sessionHistory db q, historyAfter a b = true → historyAfter b c = true →
      historyAfter a c = true := fun _ _ _ _ _ _ => historyAfter_trans
  rw [Keyset.lookAhead_lists_iff hnodup hlimit htrans fun b _ => getSessionHistory_eq db q b,
    ← forall₂_and]
  refine forall₂_congr fun j hj => ?_
  rw [cut_history_iff hrows]
  rcases Nat.eq_zero_or_pos (j * q.limit) with hzero | hpos
  · simp [hzero]
  · obtain ⟨b, hb⟩ := Keyset.exists_getLast?_take hpos (Nat.le_of_lt hj)
    have htimed := Keyset.getLast_take_iff_le_countP hparts hpos (Nat.le_of_lt hj) hb
    rw [hb]
    simp only [Option.mem_def, Option.some.injEq, forall_eq']
    rw [← htimed]
    exact and_congr_right fun hsome =>
      forall₂_congr fun r _ => historyAfter_iff_clearsFraction hsome

/-- A session of user 10, completed or still open. -/
def playedSession (id : Uuid) (completedAt : Option Timestamp) : HistorySession :=
  ⟨id, some 10, 7, if completedAt.isSome then .completed else .active, false, 0, none,
    completedAt⟩

/-- One completed and two open sessions. -/
def twoOpen : HistoryDb where
  sessions := [playedSession 1 (some 5000), playedSession 2 none, playedSession 3 none]
  ids_nodup := by decide
  challengeTitles _ := some []
  completedPayouts _ := none
  roundScores := []
  rounds_nodup := List.nodup_nil

/-- Their history. -/
def historyOf (status : HistoryStatusFilter) (limit : Nat) : HistoryQuery :=
  ⟨10, status, limit, true⟩

/-- Four completed sessions, in whole milliseconds, and an open one. -/
def fourCompleted : HistoryDb where
  sessions :=
    [playedSession 1 (some 5000), playedSession 2 (some 9000), playedSession 3 none,
      playedSession 4 (some 9000), playedSession 5 (some 7000)]
  ids_nodup := by decide
  challengeTitles _ := some []
  completedPayouts _ := none
  roundScores := []
  rounds_nodup := List.nodup_nil

/-- Three pages, two of them full; the open session is on the last. -/
theorem three_pages_listed :
    (sessionHistory fourCompleted (historyOf .all 2)).map (·.sessionId) = [4, 2, 5, 1, 3] ∧
      Lists (getSessionHistory fourCompleted (historyOf .all 2))
        (sessionHistory fourCompleted (historyOf .all 2)) := by
  have hlength : (sessionHistory fourCompleted (historyOf .all 2)).length = 5 := by
    decide +kernel
  have htimed : (sessionHistory fourCompleted (historyOf .all 2)).countP
      (fun item => item.completedAt.isSome) = 4 := by decide +kernel
  have hms : ∀ item ∈ sessionHistory fourCompleted (historyOf .all 2),
      ∀ t ∈ item.completedAt, WholeMs t := by decide +kernel
  have htwo : (historyOf .all 2).limit = 2 := rfl
  refine ⟨by decide +kernel,
    (getSessionHistory_lists_iff fourCompleted (historyOf .all 2) (by decide)).mpr
      ⟨fun j hj => ?_, fun j hj b hb r hr => ?_⟩⟩
  · rw [hlength, htwo] at hj
    rw [htimed, htwo]
    omega
  · exact clearsFraction_of_wholeMs (historyBefore_of_cut _ _ hb hr)
      (hms b (List.mem_of_mem_take (List.mem_of_getLast? hb)))

/-- Two a page, the first page ends with an open session, and the second repeats it. -/
theorem open_session_repeated :
    (sessionHistory twoOpen (historyOf .all 2)).map (·.sessionId) = [1, 3, 2] ∧
      (∃ rows, Lists (getSessionHistory twoOpen (historyOf .all 2)) rows ∧
        rows.map (·.sessionId) = [1, 3, 3, 2]) ∧
      ¬ Lists (getSessionHistory twoOpen (historyOf .all 2))
        (sessionHistory twoOpen (historyOf .all 2)) := by
  have hfollow : ((Keyset.follow (getSessionHistory twoOpen (historyOf .all 2)) 2 none).map
      fun rows => rows.map (·.sessionId)) = some [1, 3, 3, 2] := by decide +kernel
  obtain ⟨rows, hrows, hids⟩ := Option.map_eq_some_iff.mp hfollow
  have hall : (sessionHistory twoOpen (historyOf .all 2)).map (·.sessionId) = [1, 3, 2] := by
    decide +kernel
  refine ⟨hall, ⟨rows, ⟨2, hrows⟩, hids⟩, fun h => ?_⟩
  rw [Keyset.ListsFrom.unique h ⟨2, hrows⟩, hids] at hall
  revert hall
  decide

end BrandBlitz.Paging

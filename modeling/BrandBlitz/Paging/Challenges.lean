import BrandBlitz.Paging.Cursor

/-!
# BrandBlitz.Paging.Challenges

**The pages of challenge listings** (`apps/api/src/db/queries/challenges.ts`):
`getActiveChallengesSorted` in its four orders, `getFilteredChallenges` and
`getGalleryTemplates`. All of them fetch one row more than a page holds.

* The active challenges have a cursor of the sorted column and the id. For `ending_soon` the
  condition treats challenges without an end apart, and a cursor with an end admits none of
  them.
* The other two carry only an id, and admit larger ids, whatever the order is. A smallest pool
  beyond `BIGINT`, and a slug with the character zero, reject the statement.
-/

namespace BrandBlitz.Paging

open BrandBlitz.Lib
open BrandBlitz.Lib.Keyset (Page Lists Cut lookAhead)
open BrandBlitz.Sessions (Status dbError)

/-! ### Tables -/

inductive ChallengeStatus where
  | pendingDeposit | active | ended | settled | payoutFailed | cancelled | refunded
deriving DecidableEq, Repr

/-- A row of `challenges`. -/
structure Challenge where
  id : Uuid
  brandId : Uuid
  challengeId : Text
  status : ChallengeStatus
  poolAmountStroops : Int
  endsAt : Option Timestamp
  participantCount : Nat
  isGalleryTemplate : Bool
  galleryOptedInAt : Option Timestamp
  createdAt : Timestamp
  deletedAt : Option Timestamp
deriving DecidableEq, Repr

/-- What a listing shows of a row of `brands`. -/
structure Brand where
  name : Text
  logoUrl : Option Text
  primaryColor : Option Text
  secondaryColor : Option Text
  createdAt : Timestamp
  deletedAt : Option Timestamp
deriving DecidableEq, Repr

/-- What the gallery counts of a row of `game_sessions`. -/
structure PlayedSession where
  challengeId : Uuid
  userId : Option Uuid
  status : Status
deriving DecidableEq, Repr

structure ChallengesDb where
  challenges : List Challenge
  /-- `PRIMARY KEY` -/
  ids_nodup : (challenges.map Challenge.id).Nodup
  /-- `brands`, by id -/
  brands : Uuid → Option Brand
  /-- `challenge_tag_map` joined with `challenge_tags`: a challenge and a slug -/
  tags : List (Uuid × Text)
  sessions : List PlayedSession

/-- A row of `challenges c JOIN brands b ON c.brand_id = b.id`. -/
structure ChallengeRow where
  challenge : Challenge
  brand : Brand
deriving DecidableEq, Repr

def ChallengesDb.joined (db : ChallengesDb) : List ChallengeRow :=
  db.challenges.filterMap fun challenge =>
    (db.brands challenge.brandId).map fun brand => ⟨challenge, brand⟩

/-- `c.deleted_at IS NULL AND b.deleted_at IS NULL`. -/
def ChallengeRow.visible (row : ChallengeRow) : Bool :=
  row.challenge.deletedAt.isNone && row.brand.deletedAt.isNone

/-- A challenge joins at most one brand. -/
theorem ChallengesDb.joined_ids_nodup (db : ChallengesDb) :
    (db.joined.map fun row => row.challenge.id).Nodup := by
  have hsub : (db.joined.map ChallengeRow.challenge).Sublist db.challenges := by
    refine Sql.join_sublist (fun challenge row hrow => ?_) db.challenges
    obtain ⟨brand, -, rfl⟩ := Option.map_eq_some_iff.mp hrow
    rfl
  have hids := db.ids_nodup.sublist (hsub.map Challenge.id)
  rwa [List.map_map] at hids

theorem ChallengesDb.mem_challenges {db : ChallengesDb} {row : ChallengeRow}
    (h : row ∈ db.joined) : row.challenge ∈ db.challenges := by
  obtain ⟨challenge, hmem, hrow⟩ := List.mem_filterMap.mp h
  obtain ⟨brand, -, rfl⟩ := Option.map_eq_some_iff.mp hrow
  exact hmem

/-! ### Active challenges -/

inductive ActiveChallengesSort where
  | poolDesc | poolAsc | newest | endingSoon
deriving DecidableEq, Repr

inductive Direction where
  | asc | desc
deriving DecidableEq, Repr

/-- `"<"` or `">"`. -/
def Direction.op : Direction → Option Int → Option Int → Sql.Cond
  | .desc => Sql.lt
  | .asc => Sql.gt

/-- `"<"` or `">"`, for ids. -/
def Direction.idOp : Direction → Option Uuid → Option Uuid → Sql.Cond
  | .desc => Sql.lt
  | .asc => Sql.gt

structure SortConfig where
  orderBy : List ChallengeRow → List ChallengeRow
  cursorKeys : String × String
  cursorDir : Direction

def poolDescKey (row : ChallengeRow) : Intᵒᵈ ×ₗ Natᵒᵈ :=
  toLex (OrderDual.toDual row.challenge.poolAmountStroops, OrderDual.toDual row.challenge.id)

def poolAscKey (row : ChallengeRow) : Int ×ₗ Nat :=
  toLex (row.challenge.poolAmountStroops, row.challenge.id)

def newestKey (row : ChallengeRow) : Intᵒᵈ ×ₗ Natᵒᵈ :=
  toLex (OrderDual.toDual row.challenge.createdAt, OrderDual.toDual row.challenge.id)

/-- `c.ends_at ASC NULLS LAST, c.id ASC`. -/
def endingSoonKey (row : ChallengeRow) : WithTop Int ×ₗ Nat :=
  toLex (Sql.nullsLast row.challenge.endsAt, row.challenge.id)

/-- `SORT_CONFIG`. -/
def sortConfig : ActiveChallengesSort → SortConfig
  | .poolDesc => ⟨Sql.orderBy poolDescKey, ("pool_amount_stroops", "id"), .desc⟩
  | .poolAsc => ⟨Sql.orderBy poolAscKey, ("pool_amount_stroops", "id"), .asc⟩
  | .newest => ⟨Sql.orderBy newestKey, ("created_at", "id"), .desc⟩
  | .endingSoon => ⟨Sql.orderBy endingSoonKey, ("ends_at", "id"), .asc⟩

/-- The column `c.${primaryKey}`. -/
def primaryColumn (sort : ActiveChallengesSort) (challenge : Challenge) : Option Int :=
  match sort with
  | .poolDesc | .poolAsc => some challenge.poolAmountStroops
  | .newest => some challenge.createdAt
  | .endingSoon => challenge.endsAt

/-- `last[primaryKey]`: the pool is selected as text. -/
def primaryValue (sort : ActiveChallengesSort) (challenge : Challenge) : JsValue :=
  match sort with
  | .poolDesc | .poolAsc => .string (.digits challenge.poolAmountStroops)
  | .newest => jsTimestamp (some challenge.createdAt)
  | .endingSoon => jsTimestamp challenge.endsAt

/-- `$1`, of the type of the column it is compared with. -/
def primaryParam : ActiveChallengesSort → JsonValue → Except ApiError (Option Int)
  | .poolDesc | .poolAsc => integerParam
  | .newest | .endingSoon => timestampParam

/-- `cursorClause`, for the parameters `$1` and `$2`. -/
def activeCursorClause (sort : ActiveChallengesSort) (primaryVal : Option Int)
    (secondaryVal : Option Uuid) (challenge : Challenge) : Sql.Cond :=
  let dir := (sortConfig sort).cursorDir
  let primary := primaryColumn sort challenge
  let beyond := Sql.or (dir.op primary primaryVal)
    (Sql.and (Sql.eq primary primaryVal) (dir.idOp (some challenge.id) secondaryVal))
  match sort with
  | .endingSoon =>
      Sql.or (Sql.and (Sql.isNotNull primary) beyond)
        (Sql.and (Sql.and (Sql.isNull primary) (Sql.isNull primaryVal))
          (dir.idOp (some challenge.id) secondaryVal))
  | _ => beyond

def activeCursor (sort : ActiveChallengesSort) (challenge : Challenge) : Cursor :=
  encodeCursor [((sortConfig sort).cursorKeys.1, primaryValue sort challenge),
    ("id", .string (.uuid challenge.id))]

/-- The condition a cursor adds; without a usable cursor it adds none. -/
def activeClause (sort : ActiveChallengesSort) (cursor : Option Cursor) :
    Except ApiError (Challenge → Sql.Cond) :=
  let cfg := sortConfig sort
  match decodeCursorSafe cursor [cfg.cursorKeys.1, cfg.cursorKeys.2] with
  | none => .ok fun _ => some true
  | some decoded => do
      let primaryVal ← primaryParam sort (decoded.get cfg.cursorKeys.1)
      let secondaryVal ← uuidParam (decoded.get cfg.cursorKeys.2)
      return activeCursorClause sort primaryVal secondaryVal

/-- An active challenge of a brand, neither of them deleted. -/
def isActive (row : ChallengeRow) : Bool := row.challenge.status = .active && row.visible

def getActiveChallengesSorted (db : ChallengesDb) (sort : ActiveChallengesSort) (limit : Nat)
    (cursor : Option Cursor) : Except ApiError (Page ChallengeRow Cursor) := do
  let clause ← activeClause sort cursor
  let matching := db.joined.filter fun row =>
    isActive row && Sql.holds (clause row.challenge)
  return lookAhead limit (fun row => activeCursor sort row.challenge)
    (((sortConfig sort).orderBy matching).take (limit + 1))

/-- The query without pages. -/
def activeChallenges (db : ChallengesDb) (sort : ActiveChallengesSort) : List ChallengeRow :=
  (sortConfig sort).orderBy (db.joined.filter isActive)

/-! ### Filtered challenges -/

inductive FilteredStatus where
  | active | upcoming | ended
deriving DecidableEq, Repr

/-- The statuses a filter stands for. -/
def FilteredStatus.statuses : Option FilteredStatus → List ChallengeStatus
  | some .active => [.active]
  | some .upcoming => [.pendingDeposit]
  | some .ended => [.ended, .settled, .payoutFailed, .cancelled, .refunded]
  | none => [.active, .pendingDeposit, .ended, .settled, .payoutFailed, .cancelled, .refunded]

structure ChallengeFilter where
  status : Option FilteredStatus
  /-- `Math.round(minPoolUsdc * 10_000_000)` -/
  minPoolStroops : Option Int
  endBefore : Option Timestamp
  tagSlug : Option Text

/-- The amount as a `BIGINT`. From `10 ^ 21` on `String` prints an exponent. -/
def minPoolParam (minPool : Int) : Except ApiError Int :=
  if -2 ^ 63 ≤ minPool ∧ minPool < 2 ^ 63 then .ok minPool
  else if minPool.natAbs < 10 ^ 21 then
    .error (dbError "value out of range for type bigint" "22003")
  else .error (dbError "invalid input syntax for type bigint" "22P02")

def slugParam (slug : Text) : Except ApiError Text :=
  if '\x00' ∈ slug then .error (dbError "invalid byte sequence for encoding" "22021")
  else .ok slug

/-- The filter, as the statement reads its parameters. -/
def ChallengeFilter.bind (filter : ChallengeFilter) : Except ApiError ChallengeFilter := do
  let minPoolStroops ← filter.minPoolStroops.mapM minPoolParam
  let tagSlug ← filter.tagSlug.mapM slugParam
  return { filter with minPoolStroops, tagSlug }

/-- An empty slug adds no condition. -/
def filteredWhere (db : ChallengesDb) (filter : ChallengeFilter) (row : ChallengeRow) : Bool :=
  row.visible && row.challenge.status ∈ FilteredStatus.statuses filter.status &&
    filter.minPoolStroops.all (fun minPool => minPool ≤ row.challenge.poolAmountStroops) &&
    filter.endBefore.all (fun endBefore =>
      Sql.holds (Sql.lt row.challenge.endsAt (some endBefore))) &&
    filter.tagSlug.all (fun slug => slug.isEmpty || db.tags.any fun (challengeId, tag) =>
      challengeId = row.challenge.id && tag = slug)

/-- `c.id > $n::uuid`, if there is a cursor. -/
def idClause (cursor : Option Uuid) (challenge : Challenge) : Bool :=
  cursor.all fun id => Sql.holds (Sql.gt (some challenge.id) (some id))

/-- The cursor is the id of the last row as it is. -/
def getFilteredChallenges (db : ChallengesDb) (filter : ChallengeFilter) (limit : Nat)
    (cursor : Option Uuid) : Except ApiError (Page ChallengeRow Uuid) := do
  let filter ← filter.bind
  let matching := db.joined.filter fun row =>
    filteredWhere db filter row && idClause cursor row.challenge
  return lookAhead limit (fun row => row.challenge.id)
    ((Sql.orderBy poolDescKey matching).take (limit + 1))

/-- The query without pages. -/
def filteredChallenges (db : ChallengesDb) (filter : ChallengeFilter) : List ChallengeRow :=
  Sql.orderBy poolDescKey (db.joined.filter (filteredWhere db filter))

/-! ### The gallery -/

/-- The columns of `GalleryTemplate` that order the gallery, with the row they are for. -/
structure GalleryTemplate where
  row : ChallengeRow
  completedSessions : Nat
deriving DecidableEq, Repr

/-- `COUNT(gs.id) FILTER (WHERE gs.status = 'completed')`. -/
def galleryTemplate (db : ChallengesDb) (row : ChallengeRow) : GalleryTemplate where
  row := row
  completedSessions := db.sessions.countP fun session =>
    session.challengeId = row.challenge.id && session.status = .completed

def galleryWhere (row : ChallengeRow) : Bool :=
  row.challenge.isGalleryTemplate && row.visible &&
    row.challenge.status ∈ [ChallengeStatus.settled, .ended, .payoutFailed]

/-- `completed_sessions DESC, c.id ASC`. -/
def galleryKey (template : GalleryTemplate) : Natᵒᵈ ×ₗ Nat :=
  toLex (OrderDual.toDual template.completedSessions, template.row.challenge.id)

def getGalleryTemplates (db : ChallengesDb) (limit : Nat) (cursor : Option Uuid) :
    Except ApiError (Page GalleryTemplate Uuid) :=
  let groups := (db.joined.filter fun row =>
    galleryWhere row && idClause cursor row.challenge).map (galleryTemplate db)
  .ok (lookAhead limit (fun template => template.row.challenge.id)
    ((Sql.orderBy galleryKey groups).take (limit + 1)))

/-- The query without pages. -/
def galleryTemplates (db : ChallengesDb) : List GalleryTemplate :=
  Sql.orderBy galleryKey ((db.joined.filter galleryWhere).map (galleryTemplate db))

/-! ### The pages of active challenges -/

/-- The timestamps have whole milliseconds. -/
def ChallengesDb.WholeMs (db : ChallengesDb) : Prop :=
  ∀ challenge ∈ db.challenges, Paging.WholeMs challenge.createdAt ∧
    ∀ t ∈ challenge.endsAt, Paging.WholeMs t

/-- The primary value of a row as its cursor carries it. -/
def cursorPrimary (sort : ActiveChallengesSort) (challenge : Challenge) : Option Int :=
  match sort with
  | .poolDesc | .poolAsc => some challenge.poolAmountStroops
  | .newest => some (clip challenge.createdAt)
  | .endingSoon => challenge.endsAt.map clip

/-- The rows of the next page, after the row `b`. -/
def activeAfter (sort : ActiveChallengesSort) (b r : Challenge) : Bool :=
  Sql.holds (activeCursorClause sort (cursorPrimary sort b) (some b.id) r)

theorem activeClause_cursor (sort : ActiveChallengesSort) (b : Challenge) :
    activeClause sort (some (activeCursor sort b)) =
      .ok (activeCursorClause sort (cursorPrimary sort b) (some b.id)) := by
  have hprimary : primaryParam sort (primaryValue sort b).toJson = .ok (cursorPrimary sort b) := by
    cases sort with
    | poolDesc => rfl
    | poolAsc => rfl
    | newest => exact timestampParam_jsTimestamp (some b.createdAt)
    | endingSoon => exact timestampParam_jsTimestamp b.endsAt
  have hget : (activeCursor sort b).get (sortConfig sort).cursorKeys.1 =
      (primaryValue sort b).toJson := by
    cases sort <;> rfl
  have hdecode : decodeCursorSafe (some (activeCursor sort b))
      [(sortConfig sort).cursorKeys.1, (sortConfig sort).cursorKeys.2] =
        some (activeCursor sort b) := by
    cases sort <;> rfl
  have hid : uuidParam ((activeCursor sort b).get (sortConfig sort).cursorKeys.2) =
      .ok (some b.id) := by
    cases sort <;> rfl
  simp only [activeClause, hdecode, hget, hprimary, hid]
  rfl

theorem cursorPrimary_of_wholeMs {sort : ActiveChallengesSort} {b : Challenge}
    (hb : Paging.WholeMs b.createdAt ∧ ∀ t ∈ b.endsAt, Paging.WholeMs t) :
    cursorPrimary sort b = primaryColumn sort b := by
  cases sort with
  | poolDesc => rfl
  | poolAsc => rfl
  | newest => rw [cursorPrimary, clip_eq_self_iff.mpr hb.1]; rfl
  | endingSoon => exact clip_of_wholeMs hb.2

/-- In the three orders by a column that is always there, a cursor admits what comes after its
row. -/
theorem activeAfter_iff_key_lt {b r : ChallengeRow}
    (hb : Paging.WholeMs b.challenge.createdAt ∧ ∀ t ∈ b.challenge.endsAt, Paging.WholeMs t) :
    (activeAfter .poolDesc b.challenge r.challenge = true ↔ poolDescKey b < poolDescKey r) ∧
    (activeAfter .poolAsc b.challenge r.challenge = true ↔ poolAscKey b < poolAscKey r) ∧
    (activeAfter .newest b.challenge r.challenge = true ↔ newestKey b < newestKey r) := by
  simp only [activeAfter, cursorPrimary_of_wholeMs hb, activeCursorClause, primaryColumn,
    sortConfig, Direction.op, Direction.idOp, Sql.holds_or, Sql.holds_and, Bool.or_eq_true,
    Bool.and_eq_true, Sql.holds_lt_some, Sql.holds_gt_some, Sql.holds_eq_some, poolDescKey,
    poolAscKey, newestKey, Prod.Lex.toLex_lt_toLex, OrderDual.toDual_lt_toDual,
    OrderDual.toDual_inj, eq_comm (a := r.challenge.poolAmountStroops),
    eq_comm (a := r.challenge.createdAt), and_self]

theorem endingSoonKey_lt_iff {b r : ChallengeRow} :
    endingSoonKey b < endingSoonKey r ↔
      Sql.nullsLast b.challenge.endsAt < Sql.nullsLast r.challenge.endsAt ∨
        b.challenge.endsAt = r.challenge.endsAt ∧ b.challenge.id < r.challenge.id := by
  simp [endingSoonKey, Prod.Lex.toLex_lt_toLex]

/-- By end, a cursor admits what comes after its row and has an end if the row has one. -/
theorem activeAfter_endingSoon_iff {b r : ChallengeRow}
    (hb : Paging.WholeMs b.challenge.createdAt ∧ ∀ t ∈ b.challenge.endsAt, Paging.WholeMs t) :
    activeAfter .endingSoon b.challenge r.challenge = true ↔
      endingSoonKey b < endingSoonKey r ∧
        (b.challenge.endsAt.isSome → r.challenge.endsAt.isSome) := by
  rw [activeAfter, cursorPrimary_of_wholeMs hb, endingSoonKey_lt_iff]
  simp only [activeCursorClause, primaryColumn, sortConfig, Direction.op, Direction.idOp,
    Sql.holds_or, Sql.holds_and, Bool.or_eq_true, Bool.and_eq_true, Sql.holds_isNotNull,
    Sql.holds_isNull]
  cases b.challenge.endsAt with
  | none =>
      cases r.challenge.endsAt with
      | none => simp
      | some u => simp
  | some t =>
      cases r.challenge.endsAt with
      | none => simp
      | some u =>
          simp only [Sql.holds_gt_some, Sql.holds_eq_some, eq_comm (a := u)]
          simp

section
variable {rows : List ChallengeRow} (h : (rows.map fun row => row.challenge.id).Nodup)
include h

theorem poolDescKey_unique : Sql.KeyUnique poolDescKey rows :=
  .of_column (fun key => OrderDual.ofDual (ofLex key).2) h

theorem poolAscKey_unique : Sql.KeyUnique poolAscKey rows :=
  .of_column (fun key => (ofLex key).2) h

theorem newestKey_unique : Sql.KeyUnique newestKey rows :=
  .of_column (fun key => OrderDual.ofDual (ofLex key).2) h

theorem endingSoonKey_unique : Sql.KeyUnique endingSoonKey rows :=
  .of_column (fun key => (ofLex key).2) h

/-- A condition may be tested before or after sorting, in each order. -/
theorem sortConfig_orderBy_filter (sort : ActiveChallengesSort) (keep : ChallengeRow → Bool) :
    (sortConfig sort).orderBy (rows.filter keep) =
      ((sortConfig sort).orderBy rows).filter keep := by
  cases sort with
  | poolDesc => exact Sql.orderBy_filter (poolDescKey_unique h) keep
  | poolAsc => exact Sql.orderBy_filter (poolAscKey_unique h) keep
  | newest => exact Sql.orderBy_filter (newestKey_unique h) keep
  | endingSoon => exact Sql.orderBy_filter (endingSoonKey_unique h) keep

theorem sortConfig_orderBy_nodup (sort : ActiveChallengesSort) :
    ((sortConfig sort).orderBy rows).Nodup := by
  cases sort with
  | poolDesc => exact (poolDescKey_unique h).orderBy_nodup
  | poolAsc => exact (poolAscKey_unique h).orderBy_nodup
  | newest => exact (newestKey_unique h).orderBy_nodup
  | endingSoon => exact (endingSoonKey_unique h).orderBy_nodup

end

section
variable (db : ChallengesDb) (sort : ActiveChallengesSort) (limit : Nat)

theorem ChallengesDb.filtered_ids_nodup (keep : ChallengeRow → Bool) :
    ((db.joined.filter keep).map fun row => row.challenge.id).Nodup :=
  db.joined_ids_nodup.sublist (List.filter_sublist.map _)

/-- The listing is the active challenges, each once. -/
theorem activeChallenges_perm :
    (activeChallenges db sort).Perm (db.joined.filter isActive) := by
  cases sort <;> exact Sql.orderBy_perm _ _

theorem activeChallenges_wholeMs (hms : db.WholeMs) : ∀ row ∈ activeChallenges db sort,
    Paging.WholeMs row.challenge.createdAt ∧ ∀ t ∈ row.challenge.endsAt, Paging.WholeMs t := by
  intro row hrow
  have hjoined := List.mem_of_mem_filter ((activeChallenges_perm db sort).mem_iff.mp hrow)
  exact hms _ (ChallengesDb.mem_challenges hjoined)

/-- One page, in terms of the unpaged query. -/
theorem getActiveChallengesSorted_eq (b : Option ChallengeRow) :
    getActiveChallengesSorted db sort limit (b.map fun row => activeCursor sort row.challenge) =
      .ok (lookAhead limit (fun row => activeCursor sort row.challenge)
        ((Keyset.window (activeChallenges db sort)
          (fun b r => activeAfter sort b.challenge r.challenge) b).take (limit + 1))) := by
  have hids := db.filtered_ids_nodup isActive
  cases b with
  | none =>
      simp only [getActiveChallengesSorted, activeClause, decodeCursorSafe, Option.map_none]
      simp only [bind, Except.bind, pure, Except.pure, Sql.holds_some, Bool.and_true]
      rfl
  | some b =>
      simp only [getActiveChallengesSorted, Option.map_some, activeClause_cursor]
      simp only [bind, Except.bind, pure, Except.pure]
      simp only [Keyset.window, activeChallenges, ← sortConfig_orderBy_filter hids,
        List.filter_filter]
      simp only [activeAfter, Bool.and_comm]

/-- With whole milliseconds a cursor admits what comes after a row it admits. -/
theorem activeAfter_trans {a b c : ChallengeRow}
    (ha : Paging.WholeMs a.challenge.createdAt ∧ ∀ t ∈ a.challenge.endsAt, Paging.WholeMs t)
    (hb : Paging.WholeMs b.challenge.createdAt ∧ ∀ t ∈ b.challenge.endsAt, Paging.WholeMs t)
    (hab : activeAfter sort a.challenge b.challenge = true)
    (hbc : activeAfter sort b.challenge c.challenge = true) :
    activeAfter sort a.challenge c.challenge = true := by
  cases sort with
  | poolDesc =>
      rw [(activeAfter_iff_key_lt ha).1] at hab ⊢
      exact hab.trans ((activeAfter_iff_key_lt hb).1.mp hbc)
  | poolAsc =>
      rw [(activeAfter_iff_key_lt ha).2.1] at hab ⊢
      exact hab.trans ((activeAfter_iff_key_lt hb).2.1.mp hbc)
  | newest =>
      rw [(activeAfter_iff_key_lt ha).2.2] at hab ⊢
      exact hab.trans ((activeAfter_iff_key_lt hb).2.2.mp hbc)
  | endingSoon =>
      rw [activeAfter_endingSoon_iff ha] at hab ⊢
      rw [activeAfter_endingSoon_iff hb] at hbc
      exact ⟨hab.1.trans hbc.1, fun h => hbc.2 (hab.2 h)⟩

end

/-! ### When the pages are the active challenges -/

section
variable {rows : List ChallengeRow} {n : Nat}

/-- By end, a cut is right if it lies among the challenges without an end, or has only
challenges with an end on the next page. -/
theorem cut_endingSoon_iff (hrows : rows.Pairwise fun a b => endingSoonKey a < endingSoonKey b)
    (hms : ∀ row ∈ rows,
      Paging.WholeMs row.challenge.createdAt ∧ ∀ t ∈ row.challenge.endsAt, Paging.WholeMs t)
    (k : Nat) :
    Cut rows (fun b r => activeAfter .endingSoon b.challenge r.challenge) k n ↔
      ∀ b ∈ (rows.take k).getLast?, b.challenge.endsAt.isSome →
        ∀ r ∈ (rows.drop k).take n, r.challenge.endsAt.isSome := by
  have hmem : ∀ b ∈ (rows.take k).getLast?,
      Paging.WholeMs b.challenge.createdAt ∧ ∀ t ∈ b.challenge.endsAt, Paging.WholeMs t :=
    fun b hb => hms b (List.mem_of_mem_take (List.mem_of_getLast? hb))
  constructor
  · intro hcut b hb hend r hr
    exact ((activeAfter_endingSoon_iff (hmem b hb)).mp (hcut.ahead b hb r hr)).2 hend
  · intro h
    constructor
    · intro b hb r hr
      by_contra hafter
      have hlt := ((activeAfter_endingSoon_iff (hmem b hb)).mp (by simpa using hafter)).1
      rcases Keyset.rel_getLast_of_mem_take hrows hb hr with rfl | hgt
      · exact lt_irrefl _ hlt
      · exact lt_asymm hlt hgt
    · intro b hb r hr
      have hlt := Keyset.getLast_rel_of_mem_drop hrows hb (List.mem_of_mem_take hr)
      exact (activeAfter_endingSoon_iff (hmem b hb)).mpr ⟨hlt, fun hend => h b hb hend r hr⟩

/-- Challenges with an end come first. -/
theorem endsAt_isSome_of_lt {a b : ChallengeRow} (h : endingSoonKey a < endingSoonKey b)
    (hb : b.challenge.endsAt.isSome = true) : a.challenge.endsAt.isSome = true := by
  rcases endingSoonKey_lt_iff.mp h with hlt | ⟨heq, -⟩
  · obtain ⟨u, hu⟩ := Option.isSome_iff_exists.mp hb
    rw [hu, Sql.nullsLast_lt_some] at hlt
    obtain ⟨t, ht, -⟩ := hlt
    simp [ht]
  · rw [heq]
    exact hb

/-- All cuts by end are right if every challenge has an end, or if the first page reaches the
challenges without one. -/
theorem cuts_endingSoon_iff (hn : 0 < n)
    (hrows : rows.Pairwise fun a b => endingSoonKey a < endingSoonKey b)
    (hms : ∀ row ∈ rows,
      Paging.WholeMs row.challenge.createdAt ∧ ∀ t ∈ row.challenge.endsAt, Paging.WholeMs t) :
    (∀ j, j * n < rows.length →
      Cut rows (fun b r => activeAfter .endingSoon b.challenge r.challenge) (j * n) n) ↔
      (∀ row ∈ rows, row.challenge.endsAt.isSome) ∨
        rows.countP (fun row => row.challenge.endsAt.isSome) < n := by
  have hparts : rows.Pairwise fun a b =>
      b.challenge.endsAt.isSome = true → a.challenge.endsAt.isSome = true :=
    hrows.imp fun hab hb => endsAt_isSome_of_lt hab hb
  simp only [cut_endingSoon_iff hrows hms]
  constructor
  · intro h
    by_contra hno
    rw [not_or, Nat.not_lt] at hno
    obtain ⟨hall, hcount⟩ := hno
    -- the page on which the first challenge without an end stands
    generalize hm : rows.countP (fun row => row.challenge.endsAt.isSome) = m at hcount
    have hlt : m < rows.length := by
      refine lt_of_le_of_ne (hm ▸ List.countP_le_length) fun heq => hall ?_
      rw [← hm, List.countP_eq_length] at heq
      exact heq
    have hle : m / n * n ≤ m := Nat.div_mul_le_self m n
    have hnext : m < m / n * n + n := Nat.lt_div_mul_add hn
    have hpos : 0 < m / n * n := Nat.mul_pos (Nat.div_pos hcount hn) hn
    obtain ⟨b, hb⟩ := Keyset.exists_getLast?_take hpos (by omega : m / n * n ≤ rows.length)
    have hend : b.challenge.endsAt.isSome = true :=
      (Keyset.getLast_take_iff_le_countP hparts hpos (by omega) hb).mpr (by omega)
    have hpage : rows[m] ∈ (rows.drop (m / n * n)).take n := by
      refine List.mem_take_iff_getElem.mpr ⟨m - m / n * n, ?_, ?_⟩
      · rw [List.length_drop]
        omega
      · rw [List.getElem_drop]
        congr 1
        omega
    have hsome := h (m / n) (by omega) b hb hend _ hpage
    rw [Keyset.getElem_iff_lt_countP hparts hlt] at hsome
    omega
  · rintro (hall | hcount) j hj b hb hend r hr
    · exact hall r (List.mem_of_mem_drop (List.mem_of_mem_take hr))
    · rcases Nat.eq_zero_or_pos (j * n) with hzero | hpos
      · simp [hzero] at hb
      · have hle := (Keyset.getLast_take_iff_le_countP hparts hpos (Nat.le_of_lt hj) hb).mp hend
        have : n ≤ j * n := Nat.le_mul_of_pos_left n (Nat.pos_of_mul_pos_right hpos)
        omega

end

/-- In the other orders every cut is right. -/
theorem cut_active (db : ChallengesDb) {sort : ActiveChallengesSort} (hms : db.WholeMs)
    (hsort : sort ≠ .endingSoon) (k n : Nat) :
    Cut (activeChallenges db sort) (fun b r => activeAfter sort b.challenge r.challenge) k n := by
  have hids := db.filtered_ids_nodup isActive
  have hrowsMs := activeChallenges_wholeMs db sort hms
  cases sort with
  | poolDesc =>
      have hrows : (activeChallenges db .poolDesc).Pairwise fun a b =>
          poolDescKey a < poolDescKey b := Sql.orderBy_pairwise_lt (poolDescKey_unique hids)
      exact Keyset.cut_of_admits_iff hrows
        (fun b hb r _ => (activeAfter_iff_key_lt (hrowsMs b hb)).1) k n
  | poolAsc =>
      have hrows : (activeChallenges db .poolAsc).Pairwise fun a b =>
          poolAscKey a < poolAscKey b := Sql.orderBy_pairwise_lt (poolAscKey_unique hids)
      exact Keyset.cut_of_admits_iff hrows
        (fun b hb r _ => (activeAfter_iff_key_lt (hrowsMs b hb)).2.1) k n
  | newest =>
      have hrows : (activeChallenges db .newest).Pairwise fun a b =>
          newestKey a < newestKey b := Sql.orderBy_pairwise_lt (newestKey_unique hids)
      exact Keyset.cut_of_admits_iff hrows
        (fun b hb r _ => (activeAfter_iff_key_lt (hrowsMs b hb)).2.2) k n
  | endingSoon => exact absurd rfl hsort

theorem forall_activeChallenges {db : ChallengesDb} {sort : ActiveChallengesSort}
    {P : ChallengeRow → Prop} :
    (∀ row ∈ activeChallenges db sort, P row) ↔
      ∀ row ∈ db.joined, isActive row = true → P row := by
  simp only [(activeChallenges_perm db sort).mem_iff, List.mem_filter, and_imp]

theorem countP_activeChallenges {db : ChallengesDb} {sort : ActiveChallengesSort}
    (P : ChallengeRow → Bool) :
    (activeChallenges db sort).countP P =
      db.joined.countP fun row => P row && isActive row := by
  rw [(activeChallenges_perm db sort).countP_eq, List.countP_filter]

/-- **When following the cursors of the active challenges lists them**: by pool and by time of
creation always, by end if every active challenge has one, or if fewer than a page have. -/
theorem getActiveChallengesSorted_lists_iff (db : ChallengesDb) (sort : ActiveChallengesSort)
    (limit : Nat) (hlimit : 0 < limit) (hms : db.WholeMs) :
    Lists (getActiveChallengesSorted db sort limit) (activeChallenges db sort) ↔
      (sort = .endingSoon →
        (∀ row ∈ db.joined, isActive row = true → row.challenge.endsAt.isSome) ∨
        db.joined.countP (fun row => row.challenge.endsAt.isSome && isActive row) < limit) := by
  have hids := db.filtered_ids_nodup isActive
  have hrowsMs := activeChallenges_wholeMs db sort hms
  have hnodup : (activeChallenges db sort).Nodup := sortConfig_orderBy_nodup hids sort
  have htrans : ∀ a ∈ activeChallenges db sort, ∀ b ∈ activeChallenges db sort,
      ∀ c ∈ activeChallenges db sort, activeAfter sort a.challenge b.challenge = true →
      activeAfter sort b.challenge c.challenge = true →
      activeAfter sort a.challenge c.challenge = true :=
    fun a ha b hb c _ => activeAfter_trans sort (hrowsMs a ha) (hrowsMs b hb)
  rw [Keyset.lookAhead_lists_iff hnodup hlimit htrans
    fun b _ => getActiveChallengesSorted_eq db sort limit b]
  by_cases hsort : sort = .endingSoon
  · subst hsort
    have hrows : (activeChallenges db .endingSoon).Pairwise fun a b =>
        endingSoonKey a < endingSoonKey b := Sql.orderBy_pairwise_lt (endingSoonKey_unique hids)
    have hcuts := cuts_endingSoon_iff hlimit hrows hrowsMs
    rw [forall_activeChallenges, countP_activeChallenges] at hcuts
    exact hcuts.trans ⟨fun h _ => h, fun h => h rfl⟩
  · exact iff_of_true (fun j _ => cut_active db hms hsort _ _) fun h => absurd h hsort

/-- A challenge of brand 1 with a pool of 5 USDC. -/
def challengeEnding (id : Uuid) (endsAt : Option Timestamp) : Challenge :=
  ⟨id, 1, [], .active, 50000000, endsAt, 0, false, none, 1000, none⟩

/-- One challenge with an end and one without. -/
def openEnded : ChallengesDb where
  challenges := [challengeEnding 1 (some 7000), challengeEnding 2 none]
  ids_nodup := by decide
  brands _ := some ⟨[], none, none, none, 500, none⟩
  tags := []
  sessions := []

theorem openEnded_wholeMs : openEnded.WholeMs := by
  unfold ChallengesDb.WholeMs
  decide

/-- Two a page, they are listed. -/
theorem openEnded_listed_by_two :
    Lists (getActiveChallengesSorted openEnded .endingSoon 2)
      (activeChallenges openEnded .endingSoon) :=
  (getActiveChallengesSorted_lists_iff openEnded .endingSoon 2 (by decide)
    openEnded_wholeMs).mpr fun _ => .inr (by decide +kernel)

/-- One a page, the challenge without an end is lost. -/
theorem open_challenge_lost :
    openEnded.WholeMs ∧
      (activeChallenges openEnded .endingSoon).map (·.challenge.id) = [1, 2] ∧
      (∃ rows, Lists (getActiveChallengesSorted openEnded .endingSoon 1) rows ∧
        rows.map (·.challenge.id) = [1]) ∧
      ¬ Lists (getActiveChallengesSorted openEnded .endingSoon 1)
        (activeChallenges openEnded .endingSoon) := by
  have hlists : Lists (getActiveChallengesSorted openEnded .endingSoon 1)
      ((activeChallenges openEnded .endingSoon).take 1) := ⟨2, by decide +kernel⟩
  refine ⟨openEnded_wholeMs, by decide +kernel, ⟨_, hlists, by decide +kernel⟩, fun h => ?_⟩
  have hlength := congrArg List.length (Keyset.ListsFrom.unique h hlists)
  revert hlength
  decide +kernel

/-! ### When the pages are the filtered challenges and the gallery -/

/-- At the end of every page, the last row has the largest id so far, and the rows of the next
page have larger ones. -/
def IdsAgree {α : Type} (id : α → Uuid) (n : Nat) (rows : List α) : Prop :=
  ∀ j, j * n < rows.length → ∀ b ∈ (rows.take (j * n)).getLast?,
    (∀ r ∈ rows.take (j * n), id r ≤ id b) ∧ ∀ r ∈ (rows.drop (j * n)).take n, id b < id r

/-- The statement can read the amount and the slug. -/
def ChallengeFilter.Readable (filter : ChallengeFilter) : Prop :=
  (∀ minPool ∈ filter.minPoolStroops, -2 ^ 63 ≤ minPool ∧ minPool < 2 ^ 63) ∧
    ∀ slug ∈ filter.tagSlug, '\x00' ∉ slug

theorem mapM_eq_ok {α ε : Type} {f : α → Except ε α} {o : Option α} (h : ∀ a ∈ o, f a = .ok a) :
    o.mapM f = .ok o := by
  cases o with
  | none => rfl
  | some a => simp [h a rfl]

theorem ok_of_mapM_eq_ok {α ε : Type} {f : α → Except ε α} {o o' : Option α}
    (h : o.mapM f = .ok o') {a : α} (ha : a ∈ o) : ∃ b, f a = .ok b := by
  subst ha
  cases hf : f a with
  | ok b => exact ⟨b, rfl⟩
  | error err =>
      rw [Option.mapM_some, hf] at h
      cases h

theorem ChallengeFilter.bind_of_readable {filter : ChallengeFilter} (h : filter.Readable) :
    filter.bind = .ok filter := by
  rw [bind, mapM_eq_ok (f := minPoolParam) fun minPool hmin => if_pos (h.1 minPool hmin),
    mapM_eq_ok (f := slugParam) fun slug hslug => if_neg (h.2 slug hslug)]
  rfl

/-- A parameter that cannot be read rejects the statement. -/
theorem ChallengeFilter.bind_of_not_readable {filter : ChallengeFilter}
    (h : ¬ filter.Readable) : ∃ err, filter.bind = .error err := by
  cases hmin : filter.minPoolStroops.mapM minPoolParam with
  | error err => exact ⟨err, by rw [bind, hmin]; rfl⟩
  | ok minPool =>
    cases hslug : filter.tagSlug.mapM slugParam with
    | error err => exact ⟨err, by rw [bind, hmin, hslug]; rfl⟩
    | ok slug =>
      refine absurd ⟨fun m hm => ?_, fun t ht => ?_⟩ h
      · by_contra hout
        obtain ⟨b, hb⟩ := ok_of_mapM_eq_ok hmin hm
        rw [minPoolParam, if_neg hout] at hb
        split at hb <;> cases hb
      · intro hnul
        obtain ⟨b, hb⟩ := ok_of_mapM_eq_ok hslug ht
        rw [slugParam, if_pos hnul] at hb
        cases hb

/-- Pages whose cursor admits the larger ids. -/
theorem lists_iff_idsAgree {α : Type} {id : α → Uuid} {rows : List α} {n : Nat}
    {fetch : Option Uuid → Except ApiError (Page α Uuid)} (hnodup : rows.Nodup) (hn : 0 < n)
    (hfetch : ∀ b : Option α, fetch (b.map id) = .ok (lookAhead n id
      ((Keyset.window rows (fun b r => decide (id b < id r)) b).take (n + 1)))) :
    Lists fetch rows ↔ IdsAgree id n rows := by
  rw [Keyset.lookAhead_lists_iff hnodup hn (fun a _ b _ c _ hab hbc => by
    simp only [decide_eq_true_eq] at hab hbc ⊢
    exact Nat.lt_trans hab hbc) fun b _ => hfetch b]
  refine forall₂_congr fun j hj => ?_
  constructor
  · intro hcut b hb
    refine ⟨fun r hr => ?_, fun r hr => by simpa using hcut.ahead b hb r hr⟩
    simpa using hcut.behind b hb r hr
  · intro h
    exact ⟨fun b hb r hr => by simpa using (h b hb).1 r hr,
      fun b hb r hr => by simpa using (h b hb).2 r hr⟩

theorem idClause_some (b : Uuid) (challenge : Challenge) :
    idClause (some b) challenge = decide (b < challenge.id) := by
  simp [idClause, Sql.gt, Sql.compare]

variable (db : ChallengesDb)

theorem getFilteredChallenges_eq {filter : ChallengeFilter} (h : filter.Readable) (limit : Nat)
    (b : Option ChallengeRow) :
    getFilteredChallenges db filter limit (b.map fun row => row.challenge.id) =
      .ok (lookAhead limit (fun row => row.challenge.id)
        ((Keyset.window (filteredChallenges db filter)
          (fun b r => decide (b.challenge.id < r.challenge.id)) b).take (limit + 1))) := by
  have hunique := poolDescKey_unique (db.filtered_ids_nodup (filteredWhere db filter))
  cases b with
  | none =>
      simp [getFilteredChallenges, filter.bind_of_readable h, Keyset.window, filteredChallenges,
        idClause]
  | some b =>
      simp only [getFilteredChallenges, filter.bind_of_readable h, Option.map_some, idClause_some, Keyset.window,
        filteredChallenges, ← Sql.orderBy_filter hunique, List.filter_filter, Bool.and_comm]
      rfl

theorem gallery_ids_nodup (keep : ChallengeRow → Bool) :
    (((db.joined.filter keep).map (galleryTemplate db)).map
      fun template => template.row.challenge.id).Nodup := by
  rw [List.map_map]
  exact db.filtered_ids_nodup keep

theorem galleryKey_unique (keep : ChallengeRow → Bool) :
    Sql.KeyUnique galleryKey ((db.joined.filter keep).map (galleryTemplate db)) :=
  .of_column (fun key => (ofLex key).2) (gallery_ids_nodup db keep)

theorem getGalleryTemplates_eq (limit : Nat) (b : Option GalleryTemplate) :
    getGalleryTemplates db limit (b.map fun template => template.row.challenge.id) =
      .ok (lookAhead limit (fun template => template.row.challenge.id)
        ((Keyset.window (galleryTemplates db)
          (fun b r => decide (b.row.challenge.id < r.row.challenge.id)) b).take (limit + 1))) := by
  cases b with
  | none => simp [getGalleryTemplates, Keyset.window, galleryTemplates, idClause]
  | some b =>
      simp only [getGalleryTemplates, Option.map_some, idClause_some, Keyset.window,
        galleryTemplates, ← Sql.orderBy_filter (galleryKey_unique db galleryWhere),
        List.filter_map, List.filter_filter]
      simp only [Function.comp_def, galleryTemplate, Bool.and_comm]
      rfl

/-- **When following the cursors of the filtered challenges, and of the gallery, lists them.** -/
theorem browsing_lists_iff (filter : ChallengeFilter) (limit : Nat) (hlimit : 0 < limit) :
    (Lists (getFilteredChallenges db filter limit) (filteredChallenges db filter) ↔
      filter.Readable ∧ IdsAgree (fun row => row.challenge.id) limit
        (filteredChallenges db filter)) ∧
    (Lists (getGalleryTemplates db limit) (galleryTemplates db) ↔
      IdsAgree (fun template => template.row.challenge.id) limit (galleryTemplates db)) := by
  refine ⟨?_, lists_iff_idsAgree (galleryKey_unique db galleryWhere).orderBy_nodup hlimit
    (getGalleryTemplates_eq db limit)⟩
  by_cases hreadable : filter.Readable
  · rw [and_iff_right hreadable]
    exact lists_iff_idsAgree
      (poolDescKey_unique (db.filtered_ids_nodup (filteredWhere db filter))).orderBy_nodup
      hlimit (getFilteredChallenges_eq db hreadable limit)
  · -- already the first page is an error
    obtain ⟨err, herr⟩ := ChallengeFilter.bind_of_not_readable hreadable
    have hfirst : getFilteredChallenges db filter limit none = .error err := by
      rw [getFilteredChallenges, herr]
      rfl
    exact iff_of_false (Keyset.not_listsFrom_error hfirst) fun h => hreadable h.1

/-- A settled challenge of brand 1 that is in the gallery. -/
def settledChallenge (id : Uuid) (poolAmountStroops : Int) : Challenge :=
  ⟨id, 1, [], .settled, poolAmountStroops, some 7000, 0, true, some 9000, 1000, none⟩

/-- Two of them, with the pools of `pools`; the first is also the one that was played. -/
def twoSettled (first second : Uuid) (hne : first ≠ second) : ChallengesDb where
  challenges := [settledChallenge first 50000000, settledChallenge second 30000000]
  ids_nodup := by simpa [settledChallenge] using hne
  brands _ := some ⟨[], none, none, none, 500, none⟩
  tags := []
  sessions := [⟨first, some 10, .completed⟩]

def endedFilter : ChallengeFilter := ⟨some .ended, none, none, none⟩

theorem endedFilter_readable : endedFilter.Readable :=
  ⟨fun _ h => (by cases h), fun _ h => (by cases h)⟩

/-- In the order of their ids, they are listed one a page. -/
theorem rising_ids_listed :
    Lists (getFilteredChallenges (twoSettled 1 2 (by decide)) endedFilter 1)
      (filteredChallenges (twoSettled 1 2 (by decide)) endedFilter) ∧
    Lists (getGalleryTemplates (twoSettled 1 2 (by decide)) 1)
      (galleryTemplates (twoSettled 1 2 (by decide))) := by
  have hiff := browsing_lists_iff (twoSettled 1 2 (by decide)) endedFilter 1 (by decide)
  have hfiltered : (filteredChallenges (twoSettled 1 2 (by decide)) endedFilter).length = 2 := by
    decide +kernel
  have hgallery : (galleryTemplates (twoSettled 1 2 (by decide))).length = 2 := by
    decide +kernel
  refine ⟨hiff.1.mpr ⟨endedFilter_readable, fun j hj => ?_⟩, hiff.2.mpr fun j hj => ?_⟩
  · obtain rfl | rfl : j = 0 ∨ j = 1 := by omega
    · simp
    · decide +kernel
  · obtain rfl | rfl : j = 0 ∨ j = 1 := by omega
    · simp
    · decide +kernel

/-- Against the order of their ids, the second is lost. -/
theorem falling_ids_lost :
    (filteredChallenges (twoSettled 2 1 (by decide)) endedFilter).map (·.challenge.id) = [2, 1] ∧
      ¬ Lists (getFilteredChallenges (twoSettled 2 1 (by decide)) endedFilter 1)
        (filteredChallenges (twoSettled 2 1 (by decide)) endedFilter) ∧
      (galleryTemplates (twoSettled 2 1 (by decide))).map (·.row.challenge.id) = [2, 1] ∧
      ¬ Lists (getGalleryTemplates (twoSettled 2 1 (by decide)) 1)
        (galleryTemplates (twoSettled 2 1 (by decide))) := by
  have hfiltered : Lists (getFilteredChallenges (twoSettled 2 1 (by decide)) endedFilter 1)
      ((filteredChallenges (twoSettled 2 1 (by decide)) endedFilter).take 1) :=
    ⟨2, by decide +kernel⟩
  have hgallery : Lists (getGalleryTemplates (twoSettled 2 1 (by decide)) 1)
      ((galleryTemplates (twoSettled 2 1 (by decide))).take 1) := ⟨2, by decide +kernel⟩
  refine ⟨by decide +kernel, fun h => ?_, by decide +kernel, fun h => ?_⟩
  · have hlength := congrArg List.length (Keyset.ListsFrom.unique h hfiltered)
    revert hlength
    decide +kernel
  · have hlength := congrArg List.length (Keyset.ListsFrom.unique h hgallery)
    revert hlength
    decide +kernel

end BrandBlitz.Paging

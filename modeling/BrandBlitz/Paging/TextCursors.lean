import BrandBlitz.Comments.Posting
import BrandBlitz.Invites.Redeem

/-!
# BrandBlitz.Paging.TextCursors

**Cursors with the text of a timestamp**: `listChallengeComments` of
`apps/api/src/db/queries/challenge-comments.ts` and `listInviteCodes` of
`apps/api/src/db/queries/invite-codes.ts`.

* Both queries replace `created_at` by a text with microseconds, which goes into the cursor as it
  is, and comes back by a cast. How the database writes and reads a timestamp is the parameter
  `TimestampText`.
* The cursor is compared as a row, `(created_at, id) < ($2, $3)`; without a cursor both parameters
  are `NULL`.
* One row more than the page is fetched.
-/

namespace BrandBlitz.Paging

open BrandBlitz.Lib
open BrandBlitz.Lib.Keyset (Page Lists lookAhead)
open BrandBlitz.Comments (ChallengeComment)
open BrandBlitz.Sessions (dbError)

/-! ### Cursors -/

structure TimestampText where
  /-- `to_char(… AT TIME ZONE 'UTC', 'YYYY-MM-DD"T"HH24:MI:SS.US"Z"')` -/
  toChar : Timestamp → Text
  /-- `::timestamptz`, which not every text can be cast to -/
  read : Text → Option Timestamp

/-- The cast takes back what was written of the timestamp. -/
def TimestampText.Exact (text : TimestampText) (t : Timestamp) : Prop :=
  text.read (text.toChar t) = some t

instance (text : TimestampText) (t : Timestamp) : Decidable (text.Exact t) :=
  inferInstanceAs (Decidable (_ = _))

def TimestampText.param (text : TimestampText) : JsonValue → Except ApiError (Option Timestamp)
  | .string (.plain value) =>
    match text.read value with
    | some t => .ok (some t)
    | none =>
      .error (dbError "invalid input syntax for type timestamp with time zone" "22007")
  | value => timestampParam value

/-- `{ createdAt, id }`. -/
structure TextCursor where
  createdAt : JsonValue
  id : JsonValue

/-- The second argument of the queries, from the cursor of a request. -/
def cursorArgument (cursor : Option Cursor) : Option TextCursor :=
  (decodeCursorSafe cursor ["createdAt", "id"]).map fun values =>
    ⟨values.get "createdAt", values.get "id"⟩

/-- `encodeCursor({ createdAt, id })`. -/
def encodeTextCursor (createdAt : Text) (id : Uuid) : Cursor :=
  encodeCursor [("createdAt", .string (.plain createdAt)), ("id", .string (.uuid id))]

/-- `$2::timestamptz IS NULL OR (created_at, id) < ($2, $3::uuid)`. -/
def beforeCursor (text : TimestampText) (cursor : Option TextCursor) :
    Except ApiError (Timestamp → Uuid → Sql.Cond) := do
  let createdAt ← text.param ((cursor.map TextCursor.createdAt).getD .null)
  let id ← uuidParam ((cursor.map TextCursor.id).getD .null)
  return fun rowCreatedAt rowId =>
    Sql.or (Sql.isNull createdAt) (Sql.rowLt (some rowCreatedAt) createdAt (some rowId) id)

/-! ### Pages -/

section

variable {ρ : Type}

/-- `ORDER BY created_at DESC, id DESC`. -/
def newestFirst (createdAt : ρ → Timestamp) (id : ρ → Uuid) (rows : List ρ) : List ρ :=
  Sql.orderBy (fun row => toLex (OrderDual.toDual (createdAt row), OrderDual.toDual (id row))) rows

/-- A page of `rows`, where `written` is the text of `created_at`. -/
def textPage (text : TimestampText) (createdAt : ρ → Timestamp) (written : ρ → Text)
    (id : ρ → Uuid) (rows : List ρ) (limit : Nat) (cursor : Option TextCursor) :
    Except ApiError (Page ρ Cursor) := do
  let before ← beforeCursor text cursor
  return lookAhead limit (fun row => encodeTextCursor (written row) (id row))
    ((newestFirst createdAt id (rows.filter fun row =>
      Sql.holds (before (createdAt row) (id row)))).take (limit + 1))

end

/-! ### The comments of a challenge -/

structure CommentsDb where
  comments : List ChallengeComment
  /-- `PRIMARY KEY` -/
  ids_nodup : (comments.map ChallengeComment.id).Nodup
  /-- `users`, by id -/
  users : Uuid → Option Comments.User
  /-- `challenges`, by id -/
  challenges : Uuid → Option Comments.Challenge

/-- A row of the listing. -/
structure CommentItem where
  comment : ChallengeComment
  displayName : Text
  /-- the text that takes the place of `created_at` -/
  createdAt : Text
deriving DecidableEq, Repr

/-- The two joins. -/
def CommentsDb.item (text : TimestampText) (db : CommentsDb) (comment : ChallengeComment) :
    Option CommentItem := do
  let user ← (db.users comment.userId).filter fun user => user.deletedAt.isNone
  let _ ← (db.challenges comment.challengeId).filter fun challenge => challenge.deletedAt.isNone
  return ⟨comment, user.displayName, text.toChar comment.createdAt⟩

/-- What the query selects from, `WHERE cc.challenge_id = $1`. -/
def CommentsDb.commentsOf (text : TimestampText) (db : CommentsDb) (challengeId : Uuid) :
    List CommentItem :=
  (db.comments.filterMap (db.item text)).filter fun item => item.comment.challengeId = challengeId

def listChallengeComments (text : TimestampText) (db : CommentsDb) (challengeId : Uuid)
    (limit : Nat) (cursor : Option TextCursor) : Except ApiError (Page CommentItem Cursor) :=
  textPage text (fun item => item.comment.createdAt) CommentItem.createdAt
    (fun item => item.comment.id) (db.commentsOf text challengeId) limit cursor

/-! ### The invite codes of a brand -/

/-- A row of `invite_codes`. -/
structure InviteCodeRow where
  invite : Invites.InviteCode
  useCount : Nat
  createdBy : Option Uuid
  createdAt : Timestamp
deriving DecidableEq, Repr

structure InviteCodesDb where
  codes : List InviteCodeRow
  /-- `PRIMARY KEY` -/
  ids_nodup : (codes.map fun row => row.invite.id).Nodup

structure InviteCodeItem where
  row : InviteCodeRow
  /-- the text that takes the place of `created_at` -/
  createdAt : Text
deriving DecidableEq, Repr

/-- What the query selects from, `WHERE ic.brand_id = $1`. -/
def InviteCodesDb.codesOf (text : TimestampText) (db : InviteCodesDb) (brandId : Uuid) :
    List InviteCodeItem :=
  (db.codes.filter fun row => row.invite.brandId = brandId).map fun row =>
    ⟨row, text.toChar row.createdAt⟩

def listInviteCodes (text : TimestampText) (db : InviteCodesDb) (brandId : Uuid)
    (cursor : Option TextCursor) : Except ApiError (Page InviteCodeItem Cursor) := do
  let before ← beforeCursor text cursor
  let rows := (newestFirst (fun item => item.row.createdAt) (fun item => item.row.invite.id)
    ((db.codesOf text brandId).filter fun item =>
      Sql.holds (before item.row.createdAt item.row.invite.id))).take 101
  let data := rows.take 100
  return ⟨data, if 100 < rows.length then
      data[99]?.map fun item => encodeTextCursor item.createdAt item.row.invite.id
    else none⟩

/-! ### One page -/

/-- What the cursor of `b` admits. -/
def textAfter {ρ : Type} (createdAt : ρ → Timestamp) (id : ρ → Uuid) (b r : ρ) : Bool :=
  Sql.holds (Sql.rowLt (some (createdAt r)) (some (createdAt b)) (some (id r)) (some (id b)))

theorem textAfter_iff {ρ : Type} {createdAt : ρ → Timestamp} {id : ρ → Uuid} {b r : ρ} :
    textAfter createdAt id b r = true ↔
      createdAt r < createdAt b ∨ createdAt r = createdAt b ∧ id r < id b :=
  Sql.holds_rowLt_some ..

theorem beforeCursor_none (text : TimestampText) :
    beforeCursor text (cursorArgument none) = .ok fun t id =>
      Sql.or (some true) (Sql.rowLt (some t) none (some id) none) := rfl

/-- The timestamp of a row comes back from its cursor with its microseconds. -/
theorem beforeCursor_encode {text : TimestampText} {written : Text} {t : Timestamp} (id : Uuid)
    (h : text.read written = some t) :
    beforeCursor text (cursorArgument (some (encodeTextCursor written id))) =
      .ok fun t' id' =>
        Sql.or (some false) (Sql.rowLt (some t') (some t) (some id') (some id)) := by
  have hargument : cursorArgument (some (encodeTextCursor written id)) =
      some ⟨.string (.plain written), .string (.uuid id)⟩ := rfl
  have hparam : text.param (.string (.plain written)) = .ok (some t) := by
    rw [TimestampText.param, h]
  rw [hargument, beforeCursor, Option.map_some, Option.getD_some, hparam]
  rfl

section

variable {ρ : Type} {text : TimestampText} {createdAt : ρ → Timestamp} {written : ρ → Text}
  {id : ρ → Uuid} {rows : List ρ} {limit : Nat}

/-- The cursor keeps what comes after its row. -/
theorem textAfter_iff_key {b r : ρ} :
    textAfter createdAt id b r = true ↔
      (toLex (OrderDual.toDual (createdAt b), OrderDual.toDual (id b)) : Intᵒᵈ ×ₗ Natᵒᵈ) <
        toLex (OrderDual.toDual (createdAt r), OrderDual.toDual (id r)) := by
  rw [textAfter_iff, Prod.Lex.toLex_lt_toLex, OrderDual.toDual_lt_toDual,
    OrderDual.toDual_lt_toDual]
  exact or_congr Iff.rfl (and_congr_left' (eq_comm.trans OrderDual.toDual_inj.symm))

theorem textKey_unique (hids : (rows.map id).Nodup) :
    Sql.KeyUnique (fun row =>
      (toLex (OrderDual.toDual (createdAt row), OrderDual.toDual (id row)) : Intᵒᵈ ×ₗ Natᵒᵈ))
      rows :=
  .of_column (fun key => OrderDual.ofDual (ofLex key).2) hids

/-- One page, in terms of the listing. -/
theorem textPage_eq (hids : (rows.map id).Nodup) (b : Option ρ)
    (hread : ∀ row ∈ b, text.read (written row) = some (createdAt row)) :
    textPage text createdAt written id rows limit
        (cursorArgument (b.map fun row => encodeTextCursor (written row) (id row))) =
      .ok (lookAhead limit (fun row => encodeTextCursor (written row) (id row))
        ((Keyset.window (newestFirst createdAt id rows) (textAfter createdAt id) b).take
          (limit + 1))) := by
  cases b with
  | none =>
      rw [Option.map_none, textPage, beforeCursor_none]
      have hall : rows.filter (fun row => Sql.holds (Sql.or (some true)
          (Sql.rowLt (some (createdAt row)) none (some (id row)) none))) = rows :=
        List.filter_eq_self.mpr fun row _ => by rw [Sql.holds_or, Sql.holds_some, Bool.true_or]
      show Except.ok _ = _
      rw [hall]
      rfl
  | some b =>
      rw [Option.map_some, textPage, beforeCursor_encode (id b) (hread b rfl)]
      have hfilter : (rows.filter fun row => Sql.holds (Sql.or (some false)
          (Sql.rowLt (some (createdAt row)) (some (createdAt b)) (some (id row)) (some (id b))))) =
          rows.filter (textAfter createdAt id b) :=
        List.filter_congr fun row _ => by
          rw [Sql.holds_or, Sql.holds_some, Bool.false_or]
          rfl
      show Except.ok _ = _
      rw [hfilter, newestFirst, Sql.orderBy_filter (textKey_unique hids)]
      rfl

/-- **The pages are the listing.** -/
theorem textPage_lists (hids : (rows.map id).Nodup) (hlimit : 1 ≤ limit)
    (hread : ∀ row ∈ rows, text.read (written row) = some (createdAt row)) :
    Lists (fun cursor => textPage text createdAt written id rows limit (cursorArgument cursor))
      (newestFirst createdAt id rows) := by
  refine Keyset.lookAhead_lists (Sql.orderBy_pairwise_lt (textKey_unique hids)) hlimit
    (fun b _ r _ => textAfter_iff_key) fun b hb => textPage_eq hids b fun row hrow => hread row ?_
  exact (Sql.orderBy_perm _ _).mem_iff.mp (hb row hrow)

/-- By falling time, and falling id at the same time. -/
theorem newestFirst_pairwise (hids : (rows.map id).Nodup) :
    (newestFirst createdAt id rows).Pairwise fun a b =>
      createdAt b < createdAt a ∨ createdAt b = createdAt a ∧ id b < id a :=
  (Sql.orderBy_pairwise_lt (textKey_unique hids)).imp fun hab =>
    textAfter_iff.mp (textAfter_iff_key.mpr hab)

end

/-! ### Both listings -/

section

variable {text : TimestampText}

theorem mem_of_item {db : CommentsDb} {comment : ChallengeComment} {item : CommentItem}
    (h : db.item text comment = some item) :
    item.comment = comment ∧ item.createdAt = text.toChar comment.createdAt := by
  obtain ⟨user, -, h⟩ := Option.bind_eq_some_iff.mp h
  obtain ⟨challenge, -, h⟩ := Option.bind_eq_some_iff.mp h
  obtain rfl := Option.some.inj h
  exact ⟨rfl, rfl⟩

/-- A comment is joined once. -/
theorem commentsOf_ids_nodup (text : TimestampText) (db : CommentsDb) (challengeId : Uuid) :
    ((db.commentsOf text challengeId).map fun item => item.comment.id).Nodup := by
  have hsub : ((db.commentsOf text challengeId).map CommentItem.comment).Sublist db.comments :=
    (List.filter_sublist.map _).trans
      (Sql.join_sublist (fun _ _ hitem => (mem_of_item hitem).1) db.comments)
  have hids := db.ids_nodup.sublist (hsub.map ChallengeComment.id)
  rwa [List.map_map] at hids

theorem codesOf_ids_nodup (text : TimestampText) (db : InviteCodesDb) (brandId : Uuid) :
    ((db.codesOf text brandId).map fun item => item.row.invite.id).Nodup := by
  rw [InviteCodesDb.codesOf, List.map_map]
  exact db.ids_nodup.sublist (List.filter_sublist.map _)

/-- `data[99]` is the last of a full page. -/
theorem listInviteCodes_eq (text : TimestampText) (db : InviteCodesDb) (brandId : Uuid)
    (cursor : Option TextCursor) :
    listInviteCodes text db brandId cursor =
      textPage text (fun item => item.row.createdAt) InviteCodeItem.createdAt
        (fun item => item.row.invite.id) (db.codesOf text brandId) 100 cursor := by
  rw [listInviteCodes, textPage]
  refine congrArg (Except.bind _) (funext fun before => ?_)
  dsimp only
  refine congrArg (fun next => Except.ok (⟨_, next⟩ : Page InviteCodeItem Cursor)) ?_
  split
  · rename_i hmore
    rw [List.getLast?_eq_getElem?, List.length_take, Nat.min_eq_left (Nat.le_of_lt hmore)]
  · rfl

/-- **Text-timestamp cursors page exactly**: for the comments of every challenge with every page
size, and for the invite codes of every brand. -/
theorem text_cursors_page_exactly {text : TimestampText} (commentsDb : CommentsDb)
    (challengeId : Uuid) {limit : Nat} (invitesDb : InviteCodesDb) (brandId : Uuid)
    (hlimit : 1 ≤ limit)
    (hcomments : ∀ comment ∈ commentsDb.comments, text.Exact comment.createdAt)
    (hcodes : ∀ row ∈ invitesDb.codes, text.Exact row.createdAt) :
    (∃ items, Lists (fun cursor =>
        listChallengeComments text commentsDb challengeId limit (cursorArgument cursor)) items ∧
      items.Perm (commentsDb.commentsOf text challengeId) ∧
      items.Pairwise fun a b => b.comment.createdAt < a.comment.createdAt ∨
        b.comment.createdAt = a.comment.createdAt ∧ b.comment.id < a.comment.id) ∧
    ∃ items, Lists (fun cursor =>
        listInviteCodes text invitesDb brandId (cursorArgument cursor)) items ∧
      items.Perm (invitesDb.codesOf text brandId) ∧
      items.Pairwise fun a b => b.row.createdAt < a.row.createdAt ∨
        b.row.createdAt = a.row.createdAt ∧ b.row.invite.id < a.row.invite.id := by
  have hcommentIds := commentsOf_ids_nodup text commentsDb challengeId
  have hcodeIds := codesOf_ids_nodup text invitesDb brandId
  constructor
  · refine ⟨_, textPage_lists hcommentIds hlimit fun item hitem => ?_, Sql.orderBy_perm _ _,
      newestFirst_pairwise hcommentIds⟩
    obtain ⟨comment, hcomment, hjoined⟩ := List.mem_filterMap.mp (List.mem_of_mem_filter hitem)
    obtain ⟨rfl, hwritten⟩ := mem_of_item hjoined
    rw [hwritten]
    exact hcomments _ hcomment
  · simp only [listInviteCodes_eq]
    refine ⟨_, textPage_lists hcodeIds (by decide) fun item hitem => ?_, Sql.orderBy_perm _ _,
      newestFirst_pairwise hcodeIds⟩
    obtain ⟨row, hrow, rfl⟩ := List.mem_map.mp hitem
    exact hcodes row (List.mem_of_mem_filter hrow)

end

/-! ### Three comments

Two of them have the same timestamp, and the third one came a microsecond later. -/

/-- The text of two timestamps of one second. -/
def twoTexts : TimestampText where
  toChar t := if t = 1767225600000001 then "2026-01-01T00:00:00.000001Z".toList
    else "2026-01-01T00:00:00.000002Z".toList
  read text := if text = "2026-01-01T00:00:00.000001Z".toList then some 1767225600000001
    else if text = "2026-01-01T00:00:00.000002Z".toList then some 1767225600000002
    else none

def threeComments : CommentsDb where
  comments :=
    [⟨1, 5, 7, ['a'], 1767225600000001, 0⟩, ⟨2, 5, 7, ['b'], 1767225600000001, 0⟩,
      ⟨3, 5, 8, ['c'], 1767225600000002, 0⟩]
  ids_nodup := by decide
  users id := some ⟨id, ['x'], none⟩
  challenges id := some ⟨id, .active, none⟩

def oneCode : InviteCodesDb where
  codes := [⟨⟨1, 4, none, ['A'], none, some 3⟩, 0, some 7, 1767225600000002⟩]
  ids_nodup := by decide

theorem ties_paged_exactly :
    (threeComments.commentsOf twoTexts 5).length = 3 ∧
    (∃ items, Lists (fun cursor =>
        listChallengeComments twoTexts threeComments 5 1 (cursorArgument cursor)) items ∧
      items.Perm (threeComments.commentsOf twoTexts 5) ∧
      items.Pairwise fun a b => b.comment.createdAt < a.comment.createdAt ∨
        b.comment.createdAt = a.comment.createdAt ∧ b.comment.id < a.comment.id) ∧
    ∃ items, Lists (fun cursor => listInviteCodes twoTexts oneCode 4 (cursorArgument cursor))
        items ∧
      items.Perm (oneCode.codesOf twoTexts 4) ∧
      items.Pairwise fun a b => b.row.createdAt < a.row.createdAt ∨
        b.row.createdAt = a.row.createdAt ∧ b.row.invite.id < a.row.invite.id := by
  have hcomments : ∀ comment ∈ threeComments.comments, twoTexts.Exact comment.createdAt := by
    decide +kernel
  have hcodes : ∀ row ∈ oneCode.codes, twoTexts.Exact row.createdAt := by decide +kernel
  exact ⟨by decide +kernel, text_cursors_page_exactly threeComments 5 oneCode 4 (by decide)
    hcomments hcodes⟩

end BrandBlitz.Paging

import BrandBlitz.Paging.Timestamps

/-!
# BrandBlitz.Paging.FraudFlags

**The fraud review queue**: `getFraudFlags` of `apps/api/src/db/queries/fraud-flags.ts`.

The query joins three tables that all have an `id`. The clause that a cursor adds
(`buildCursorWhereSimple`) names that column without a table, so PostgreSQL rejects the query of
every page but the first.
-/

namespace BrandBlitz.Paging

open BrandBlitz.Lib
open BrandBlitz.Lib.Keyset (Page Lists fullPage)

/-! ### Tables -/

/-- `CHECK (status IN ('open', 'resolved', 'escalated'))`. -/
inductive FlagStatus where
  | open | resolved | escalated
deriving DecidableEq, Repr

def FlagStatus.text : FlagStatus → Text
  | .open => "open".toList
  | .resolved => "resolved".toList
  | .escalated => "escalated".toList

/-- A row of `fraud_flags`. -/
structure FraudFlag where
  id : Uuid
  sessionId : Uuid
  userId : Uuid
  flagType : Text
  /-- JSON -/
  details : Option Text
  status : FlagStatus
  resolutionReason : Option Text
  resolvedBy : Option Uuid
  resolvedAt : Option Timestamp
  createdAt : Timestamp
  updatedAt : Timestamp
deriving DecidableEq, Repr

/-- What is read of a user. -/
structure FlaggedUser where
  displayName : Text
  email : Text
  createdAt : Timestamp
deriving DecidableEq, Repr

/-- What is read of a session. -/
structure FlaggedSession where
  challengeId : Uuid
  round1ReactionMs : Option Nat
  round2ReactionMs : Option Nat
  round3ReactionMs : Option Nat
  flagReasons : List Text
  deviceId : Option Text
  createdAt : Timestamp
deriving DecidableEq, Repr

structure FraudFlagsDb where
  flags : List FraudFlag
  /-- `PRIMARY KEY` -/
  ids_nodup : (flags.map FraudFlag.id).Nodup
  /-- `users`, by id -/
  users : Uuid → Option FlaggedUser
  /-- `game_sessions`, by id -/
  sessions : Uuid → Option FlaggedSession

/-! ### The query -/

structure FraudFlagDetail where
  flag : FraudFlag
  user : FlaggedUser
  session : FlaggedSession
deriving DecidableEq, Repr

def FraudFlagsDb.detail (db : FraudFlagsDb) (flag : FraudFlag) : Option FraudFlagDetail := do
  let user ← db.users flag.userId
  let session ← db.sessions flag.sessionId
  return ⟨flag, user, session⟩

def fraudFlagsScope : Scope :=
  [("ff", [("id", .uuid), ("created_at", .timestamptz)]),
    ("u", [("id", .uuid), ("created_at", .timestamptz)]),
    ("gs", [("id", .uuid), ("created_at", .timestamptz)])]

/-- The columns of a flag, its user and its session. -/
def fraudFlagColumns (detail : FraudFlagDetail) : JoinedColumns where
  uuids table _ := some (
    if table = "ff" then detail.flag.id
    else if table = "u" then detail.flag.userId
    else detail.flag.sessionId)
  timestamps table _ := some (
    if table = "ff" then detail.flag.createdAt
    else if table = "u" then detail.user.createdAt
    else detail.session.createdAt)

/-- `$1::text IS NULL OR ff.status = $1`. -/
def fraudFlagsWhere (status : Option Text) (detail : FraudFlagDetail) : Bool :=
  status.all fun status => detail.flag.status.text = status

/-- `ff.created_at DESC, ff.id DESC`. -/
def fraudFlagKey (detail : FraudFlagDetail) : Intᵒᵈ ×ₗ Natᵒᵈ :=
  toLex (OrderDual.toDual detail.flag.createdAt, OrderDual.toDual detail.flag.id)

def fraudFlagCursor (detail : FraudFlagDetail) : Cursor :=
  createdAtCursor detail.flag.createdAt detail.flag.id

def getFraudFlags (db : FraudFlagsDb) (status : Option Text) (pageSize : Nat)
    (cursor : Option Cursor) : Except ApiError (Page FraudFlagDetail Cursor) := do
  let statusParam := match status with
    | some status => .string (.plain status)
    | none => .null
  let clause ← createdAtClause fraudFlagsScope ⟨some "ff", "created_at"⟩ statusParam cursor
  let matching := (db.flags.filterMap db.detail).filter fun detail =>
    fraudFlagsWhere status detail && Sql.holds (clause (fraudFlagColumns detail))
  return fullPage pageSize fraudFlagCursor ((Sql.orderBy fraudFlagKey matching).take pageSize)

/-! ### When the pages are the queue -/

section

variable (db : FraudFlagsDb) (status : Option Text) (pageSize : Nat)

/-- The flags that a status filter keeps. -/
def FraudFlagsDb.matching : List FraudFlagDetail :=
  (db.flags.filterMap db.detail).filter (fraudFlagsWhere status)

/-- Newer flags first, and larger ids at the same time. -/
def NewerFlag (a b : FraudFlagDetail) : Prop :=
  b.flag.createdAt < a.flag.createdAt ∨
    b.flag.createdAt = a.flag.createdAt ∧ b.flag.id < a.flag.id

theorem createdAtClause_fraudFlags (first : JsonValue) (createdAt : Timestamp) (id : Uuid) :
    createdAtClause fraudFlagsScope ⟨some "ff", "created_at"⟩ first
      (some (createdAtCursor createdAt id)) = .error ambiguousId := rfl

theorem getFraudFlags_first :
    getFraudFlags db status pageSize none =
      .ok (fullPage pageSize fraudFlagCursor
        ((Sql.orderBy fraudFlagKey (db.matching status)).take pageSize)) := by
  simp only [getFraudFlags, createdAtClause, decodeCursorSafe, bind, Except.bind, pure,
    Except.pure, Sql.holds_some, Bool.and_true]
  rfl

/-- No second page. -/
theorem getFraudFlags_next (b : FraudFlagDetail) :
    getFraudFlags db status pageSize (some (fraudFlagCursor b)) = .error ambiguousId := by
  simp only [getFraudFlags, fraudFlagCursor, createdAtClause_fraudFlags, bind, Except.bind]

/-- A flag joins one user and one session. -/
theorem FraudFlagsDb.matching_ids_nodup :
    ((db.matching status).map fun detail => detail.flag.id).Nodup := by
  have hsub : ((db.matching status).map FraudFlagDetail.flag).Sublist db.flags := by
    refine (List.filter_sublist.map _).trans (Sql.join_sublist (fun flag detail hdetail => ?_) _)
    obtain ⟨user, -, hdetail⟩ := Option.bind_eq_some_iff.mp hdetail
    obtain ⟨session, -, hdetail⟩ := Option.bind_eq_some_iff.mp hdetail
    obtain rfl := Option.some.inj hdetail
    rfl
  have hids := db.ids_nodup.sublist (hsub.map FraudFlag.id)
  rwa [List.map_map] at hids

theorem fraudFlags_pairwise :
    (Sql.orderBy fraudFlagKey (db.matching status)).Pairwise NewerFlag := by
  have hunique : Sql.KeyUnique fraudFlagKey (db.matching status) :=
    .of_column (fun key => OrderDual.ofDual (ofLex key).2) (db.matching_ids_nodup status)
  refine (Sql.orderBy_pairwise_lt hunique).imp fun {a b} hab => ?_
  rw [fraudFlagKey, fraudFlagKey, Prod.Lex.toLex_lt_toLex, OrderDual.toDual_lt_toDual,
    OrderDual.toDual_lt_toDual] at hab
  exact hab.imp_right fun h => ⟨(OrderDual.toDual_inj.mp h.1).symm, h.2⟩

/-- **The fraud review queue hides nothing** exactly if it fits on the first page with room to
spare. -/
theorem fraud_queue_complete_iff (hpageSize : 1 ≤ pageSize) :
    (∃ details, Lists (getFraudFlags db status pageSize) details ∧
      details.Perm (db.matching status) ∧ details.Pairwise NewerFlag) ↔
      (db.matching status).length < pageSize := by
  have hperm := Sql.orderBy_perm fraudFlagKey (db.matching status)
  have hiff := Keyset.firstPage_lists_iff hpageSize (getFraudFlags_first db status pageSize)
    (getFraudFlags_next db status pageSize)
  rw [hperm.length_eq] at hiff
  constructor
  · rintro ⟨details, hlists, hall, -⟩
    exact hiff.mp ⟨details, hlists, hall.trans hperm.symm⟩
  · intro hlength
    rw [← hperm.length_eq] at hlength
    exact ⟨_, Keyset.firstPage_lists (getFraudFlags_first db status pageSize) hlength, hperm,
      fraudFlags_pairwise db status⟩

end

/-! ### One flag -/

def oneFlag : FraudFlagsDb where
  flags := [⟨1, 2, 3, "velocity".toList, none, .open, none, none, none, 1767225600000000,
    1767225600000000⟩]
  ids_nodup := by decide
  users _ := some ⟨['x'], ['y'], 0⟩
  sessions _ := some ⟨4, some 900, some 900, some 900, [], none, 0⟩

/-- Two flags a page. -/
theorem one_flag_complete :
    ∃ details, Lists (getFraudFlags oneFlag (some "open".toList) 2) details ∧
      details.Perm (oneFlag.matching (some "open".toList)) ∧ details.Pairwise NewerFlag :=
  (fraud_queue_complete_iff oneFlag (some "open".toList) 2 (by decide)).mpr (by decide)

/-- One flag a page: the page comes with a cursor, and the query with the cursor fails. -/
theorem one_flag_fails :
    ¬ ∃ details, Lists (getFraudFlags oneFlag none 1) details ∧
      details.Perm (oneFlag.matching none) ∧ details.Pairwise NewerFlag := by
  rintro ⟨details, hlists, -⟩
  obtain ⟨detail, hfirst⟩ : ∃ detail, getFraudFlags oneFlag none 1 none =
      .ok ⟨[detail], some (fraudFlagCursor detail)⟩ := ⟨_, rfl⟩
  obtain ⟨rest, hrest, -⟩ := (Keyset.listsFrom_more hfirst).mp hlists
  exact Keyset.not_listsFrom_error (getFraudFlags_next oneFlag none 1 detail) hrest

end BrandBlitz.Paging

import BrandBlitz.Paging.Cursor

/-!
# BrandBlitz.Paging.Users

**The pages of the users** (`listUsers` of `apps/api/src/db/queries/users.ts`).

* The text of the `WHERE` grows with the filters and the cursor, and so does the list of its
  parameters. The page is queried with all of them. The number of users is queried with the
  same text, but only with the first few parameters.
* A statement is rejected if it does not get as many parameters as it has placeholders; one
  with a text that has the character zero is rejected too.
* `ILIKE` compares in lower case, which depends on the locale of the database: `lower` is a
  parameter.
-/

namespace BrandBlitz.Paging.Users

open BrandBlitz.Lib
open BrandBlitz.Lib.Keyset (Page Lists Visited fullPage)
open BrandBlitz.Sessions (dbError)

/-! ### The table -/

/-- `CHECK (status IN ('active', 'suspended'))`. -/
inductive UserStatus where
  | active | suspended
deriving DecidableEq, Repr

def UserStatus.text : UserStatus → Text
  | .active => "active".toList
  | .suspended => "suspended".toList

/-- A row of `users`, with the columns that the listing reads. -/
structure User where
  id : Uuid
  email : Text
  displayName : Text
  username : Option Text
  status : UserStatus
  suspendedAt : Option Timestamp
  createdAt : Timestamp
  deletedAt : Option Timestamp
deriving DecidableEq, Repr

structure UsersDb where
  users : List User
  /-- `PRIMARY KEY` -/
  ids_nodup : (users.map User.id).Nodup

/-! ### `LIKE` -/

/-- `text LIKE pattern`. A pattern that ends with a lone backslash is an error, but the patterns
of a search end with a percent sign. -/
def like : Text → Text → Bool
  | [], text => text.isEmpty
  | '%' :: pattern, text => text.tails.any (like pattern)
  | '_' :: pattern, text => text.tail?.any (like pattern)
  | '\\' :: c :: pattern, text => text.head? = some c && like pattern text.tail
  | c :: pattern, text => text.head? = some c && like pattern text.tail

/-- `text ILIKE pattern`. -/
def ilike (lower : Text → Text) (text pattern : Option Text) : Sql.Cond :=
  Option.map₂ (fun text pattern => like (lower pattern) (lower text)) text pattern

/-! ### Placeholders -/

/-- A value that a statement is sent with. -/
inductive Param where
  | text (text : Text)
  | json (value : JsonValue)
  | number (n : Nat)
deriving DecidableEq, Repr

/-- The values of the placeholders `$1`, `$2`, … -/
abbrev Binding := Nat → Param

def bindingOf (params : List Param) : Binding := fun n => params.getD (n - 1) (.json .null)

def bindParams (placeholders : Nat) (params : List Param) : Except ApiError Binding :=
  if params.length = placeholders then .ok (bindingOf params)
  else .error (dbError "bind message supplies a wrong number of parameters" "08P01")

def textParam : Param → Except ApiError (Option Text)
  | .text text =>
    if text.contains '\x00' then
      .error (dbError "invalid byte sequence for encoding" "22021")
    else .ok (some text)
  | .json .null => .ok none
  | _ => .error (dbError "could not determine data type of parameter" "42P18")

def Param.timestamp : Param → Except ApiError (Option Timestamp)
  | .json value => timestampParam value
  | _ => .error (dbError "invalid input syntax for type timestamp with time zone" "22007")

def Param.uuid : Param → Except ApiError (Option Uuid)
  | .json value => uuidParam value
  | _ => .error (dbError "invalid input syntax for type uuid" "22P02")

/-- One of the conditions that `AND` joins. -/
structure Condition where
  /-- the number of its last placeholder -/
  last : Nat
  test : Binding → Except ApiError (User → Sql.Cond)

/-- The `WHERE` and its parameters while they are put together. -/
structure Where where
  conditions : List Condition
  params : List Param
  paramIdx : Nat

def Where.placeholders (w : Where) : Nat := (w.conditions.map Condition.last).foldl max 0

/-- The users that a `WHERE` keeps. -/
def Where.filter (w : Where) (binding : Binding) (users : List User) :
    Except ApiError (List User) := do
  let tests ← w.conditions.mapM fun condition => condition.test binding
  return users.filter fun user =>
    Sql.holds (tests.foldr (fun test => Sql.and (test user)) (some true))

/-! ### The query -/

structure ListUsersOpts where
  status : Option UserStatus
  search : Option Text
  pageSize : Nat := 20

/-- `["deleted_at IS NULL"]`. -/
def Where.start : Where where
  conditions := [⟨0, fun _ => .ok fun user => Sql.isNull user.deletedAt⟩]
  params := []
  paramIdx := 1

def Where.addStatus (status : Option UserStatus) (w : Where) : Where :=
  match status with
  | none => w
  | some status =>
    { conditions := w.conditions ++ [⟨w.paramIdx, fun binding => do
        let status ← textParam (binding w.paramIdx)
        return fun user => Sql.eq (some user.status.text) status⟩]
      params := w.params ++ [.text status.text]
      paramIdx := w.paramIdx + 1 }

def Where.addSearch (lower : Text → Text) (search : Option Text) (w : Where) : Where :=
  match (search.map trim).filter (!·.isEmpty) with
  | none => w
  | some search =>
    { conditions := w.conditions ++ [⟨w.paramIdx, fun binding => do
        let pattern ← textParam (binding w.paramIdx)
        return fun user => Sql.or (ilike lower (some user.displayName) pattern)
          (Sql.or (ilike lower (some user.email) pattern)
            (ilike lower user.username pattern))⟩]
      params := w.params ++ [.text ('%' :: search ++ ['%'])]
      paramIdx := w.paramIdx + 1 }

/-- `cursorValues.suspended_at === null`. -/
def neverSuspended (cursorValues : Cursor) : Bool := cursorValues.get "suspended_at" = .null

def Where.addCursor (cursorValues : Cursor) (w : Where) : Where :=
  let suspendedAt := cursorValues.get "suspended_at"
  let createdAt := cursorValues.get "created_at"
  let id := cursorValues.get "id"
  if neverSuspended cursorValues then
    { conditions := w.conditions ++ [⟨w.paramIdx + 1, fun binding => do
        let createdAt ← (binding w.paramIdx).timestamp
        let id ← (binding (w.paramIdx + 1)).uuid
        return fun user => Sql.and (Sql.isNull user.suspendedAt)
          (Sql.or (Sql.lt (some user.createdAt) createdAt)
            (Sql.and (Sql.eq (some user.createdAt) createdAt)
              (Sql.lt (some user.id) id)))⟩]
      params := w.params ++ [.json createdAt, .json id]
      paramIdx := w.paramIdx + 2 }
  else
    { conditions := w.conditions ++ [⟨w.paramIdx + 2, fun binding => do
        let suspendedAt ← (binding w.paramIdx).timestamp
        let createdAt ← (binding (w.paramIdx + 1)).timestamp
        let id ← (binding (w.paramIdx + 2)).uuid
        return fun user => Sql.and (Sql.isNotNull user.suspendedAt)
          (Sql.or (Sql.lt user.suspendedAt suspendedAt)
            (Sql.or
              (Sql.and (Sql.eq user.suspendedAt suspendedAt)
                (Sql.lt (some user.createdAt) createdAt))
              (Sql.and (Sql.eq user.suspendedAt suspendedAt)
                (Sql.and (Sql.eq (some user.createdAt) createdAt)
                  (Sql.lt (some user.id) id)))))⟩]
      params := w.params ++ [.json suspendedAt, .json createdAt, .json id]
      paramIdx := w.paramIdx + 3 }

/-- The conditions of the filters. -/
def filterWhere (lower : Text → Text) (opts : ListUsersOpts) : Where :=
  (Where.start.addStatus opts.status).addSearch lower opts.search

/-- `suspended_at DESC NULLS LAST, created_at DESC, id DESC`. -/
def usersKey (user : User) : WithTop Intᵒᵈ ×ₗ Intᵒᵈ ×ₗ Natᵒᵈ :=
  toLex (Sql.nullsLast (user.suspendedAt.map OrderDual.toDual),
    toLex (OrderDual.toDual user.createdAt, OrderDual.toDual user.id))

def userCursor (user : User) : Cursor :=
  encodeCursor [("suspended_at", jsTimestamp user.suspendedAt),
    ("created_at", jsTimestamp (some user.createdAt)), ("id", .string (.uuid user.id))]

structure UsersPage extends Page User Cursor where
  total : Nat

def listUsers (lower : Text → Text) (db : UsersDb) (opts : ListUsersOpts)
    (cursor : Option Cursor) : Except ApiError UsersPage := do
  let cursorValues := decodeCursorSafe cursor ["suspended_at", "created_at", "id"]
  let w := match cursorValues with
    | none => filterWhere lower opts
    | some values => (filterWhere lower opts).addCursor values
  let countParams := w.params.take (match cursorValues with
    | none => w.paramIdx - 1
    | some values => w.paramIdx - (if neverSuspended values then 2 else 3))
  let countBinding ← bindParams w.placeholders countParams
  let counted ← w.filter countBinding db.users
  -- `LIMIT` has the last placeholder
  let binding ← bindParams (max w.placeholders w.paramIdx) (w.params ++ [.number opts.pageSize])
  let matching ← w.filter binding db.users
  let page := fullPage opts.pageSize userCursor
    ((Sql.orderBy usersKey matching).take opts.pageSize)
  return { page with total := counted.length }

/-! ### What a listing should be -/

/-- What is searched for, if anything is. -/
def ListUsersOpts.searchText (opts : ListUsersOpts) : Option Text :=
  (opts.search.map trim).filter (!·.isEmpty)

/-- Does the text occur in the name, the address or the username? -/
def User.isFound (lower : Text → Text) (text : Text) (user : User) : Bool :=
  ([user.displayName, user.email] ++ user.username.toList).any fun field =>
    like (lower ('%' :: text ++ ['%'])) (lower field)

/-- Is the user to be listed? -/
def ListUsersOpts.keeps (lower : Text → Text) (opts : ListUsersOpts) (user : User) : Bool :=
  user.deletedAt.isNone && opts.status.all (fun status => user.status = status) &&
    opts.searchText.all fun text => user.isFound lower text

/-- The query without pages. -/
def matchingUsers (lower : Text → Text) (db : UsersDb) (opts : ListUsersOpts) : List User :=
  Sql.orderBy usersKey (db.users.filter (opts.keeps lower))

/-- The page without the total. -/
def fetchUsers (lower : Text → Text) (db : UsersDb) (opts : ListUsersOpts)
    (cursor : Option Cursor) : Except ApiError (Page User Cursor) :=
  (listUsers lower db opts cursor).map UsersPage.toPage

/-- Following the cursors lists the users, and every page has their number. -/
structure ListsAll (lower : Text → Text) (db : UsersDb) (opts : ListUsersOpts) : Prop where
  lists : Lists (fetchUsers lower db opts) (matchingUsers lower db opts)
  totals : ∀ cursor, Visited (fetchUsers lower db opts) cursor →
    ∀ page, listUsers lower db opts cursor = .ok page →
      page.total = (matchingUsers lower db opts).length

/-! ### The statements -/

/-- There are as many parameters as placeholders. -/
structure Where.Balanced (w : Where) : Prop where
  placeholders : w.placeholders + 1 = w.paramIdx
  params : w.params.length + 1 = w.paramIdx

theorem UserStatus.text_inj {a b : UserStatus} : a.text = b.text ↔ a = b := by
  cases a <;> cases b <;> decide

/-- The status and the search bring a parameter each. -/
theorem filterWhere_balanced (lower : Text → Text) (opts : ListUsersOpts) :
    (filterWhere lower opts).Balanced := by
  unfold filterWhere Where.addSearch Where.addStatus Where.start
  cases opts.status <;> cases (opts.search.map trim).filter (!·.isEmpty) <;>
    exact ⟨rfl, rfl⟩

/-- A text with the character zero cannot be searched for. -/
def ListUsersOpts.hasNul (opts : ListUsersOpts) : Bool :=
  opts.searchText.any fun text => text.contains '\x00'

def nulError : ApiError := dbError "invalid byte sequence for encoding" "22021"

theorem textParam_status (status : UserStatus) :
    textParam (.text status.text) = .ok (some status.text) := by
  cases status <;> rfl

theorem textParam_pattern (text : Text) :
    textParam (.text ('%' :: text ++ ['%'])) =
      if text.contains '\x00' then .error nulError else .ok (some ('%' :: text ++ ['%'])) := by
  simp [textParam, nulError]

/-- One more condition keeps some of the users. -/
theorem Where.filter_append (w : Where) (condition : Condition) (params : List Param)
    (paramIdx : Nat) (binding : Binding) (users : List User) :
    ({ conditions := w.conditions ++ [condition], params, paramIdx } : Where).filter
        binding users = (do
      let kept ← w.filter binding users
      let test ← condition.test binding
      return kept.filter fun user => Sql.holds (test user)) := by
  simp only [Where.filter, List.mapM_append, List.mapM_cons, List.mapM_nil, bind_assoc, pure_bind]
  refine bind_congr fun tests => bind_congr fun test => ?_
  rw [List.filter_filter]
  congr 1
  refine List.filter_congr fun user _ => ?_
  rw [Sql.holds_conjunction, Sql.holds_conjunction]
  simp [Bool.and_comm]

theorem start_filter (binding : Binding) (users : List User) :
    Where.start.filter binding users =
      .ok (users.filter fun user => user.deletedAt.isNone) := by
  simp [Where.start, Where.filter, bind, Except.bind, pure, Except.pure]

theorem addStatus_filter (status : Option UserStatus) (w : Where) {binding : Binding}
    (hbinding : ∀ s ∈ status, binding w.paramIdx = .text s.text) {users kept : List User}
    (hkept : w.filter binding users = .ok kept) :
    (w.addStatus status).filter binding users =
      .ok (kept.filter fun user => status.all fun status => user.status = status) := by
  cases status with
  | none => simpa [Where.addStatus] using hkept
  | some status =>
      rw [Where.addStatus, Where.filter_append, hkept]
      simp only [hbinding status rfl, textParam_status]
      show Except.ok _ = Except.ok _
      congr 1
      refine List.filter_congr fun user _ => ?_
      rw [Bool.eq_iff_iff, Sql.holds_eq_some, UserStatus.text_inj]
      simp

theorem holds_ilike (lower : Text → Text) (field : Option Text) (pattern : Text) :
    Sql.holds (ilike lower field (some pattern)) =
      field.toList.any fun field => like (lower pattern) (lower field) := by
  cases field <;> simp [ilike, Sql.holds]

theorem addSearch_filter (lower : Text → Text) (opts : ListUsersOpts) (w : Where)
    {binding : Binding}
    (hbinding : ∀ text ∈ opts.searchText,
      binding w.paramIdx = .text ('%' :: text ++ ['%'])) {users kept : List User}
    (hkept : w.filter binding users = .ok kept) :
    (w.addSearch lower opts.search).filter binding users =
      if opts.hasNul then .error nulError
      else .ok (kept.filter fun user => opts.searchText.all fun text =>
        user.isFound lower text) := by
  rw [Where.addSearch, ← ListUsersOpts.searchText, ListUsersOpts.hasNul]
  cases htext : opts.searchText with
  | none => simpa using hkept
  | some text =>
      simp only [Where.filter_append, hkept, hbinding text htext, textParam_pattern,
        Option.any_some]
      split
      · rfl
      · show Except.ok _ = Except.ok _
        congr 1
        refine List.filter_congr fun user _ => ?_
        simp [User.isFound, holds_ilike]

/-- The placeholders of the filters have their values, whatever parameters follow. -/
theorem bindingOf_append (params more : List Param) :
    ∀ i, ∀ param ∈ params[i]?, bindingOf (params ++ more) (i + 1) = param := by
  intro i param hparam
  have hi := (List.getElem?_eq_some_iff.mp hparam).1
  rw [bindingOf, Nat.add_sub_cancel, List.getD_eq_getElem?_getD, List.getElem?_append_left hi,
    Option.mem_def.mp hparam, Option.getD_some]

/-- The users that the conditions of the filters keep. -/
theorem filterWhere_filter (lower : Text → Text) (opts : ListUsersOpts) (more : List Param)
    (users : List User) :
    (filterWhere lower opts).filter (bindingOf ((filterWhere lower opts).params ++ more)) users =
      if opts.hasNul then .error nulError else .ok (users.filter (opts.keeps lower)) := by
  have hbinding := bindingOf_append (filterWhere lower opts).params more
  generalize bindingOf ((filterWhere lower opts).params ++ more) = binding at hbinding ⊢
  have hstatus : ∀ s ∈ opts.status, binding 1 = .text s.text := by
    intro s hs
    refine hbinding 0 _ ?_
    simp only [filterWhere, Where.addSearch, Where.addStatus, Where.start, Option.mem_def.mp hs]
    split <;> rfl
  have hsearch : ∀ text ∈ opts.searchText,
      binding (Where.start.addStatus opts.status).paramIdx = .text ('%' :: text ++ ['%']) := by
    intro text htext
    have hparams := hbinding ((Where.start.addStatus opts.status).paramIdx - 1)
    rw [filterWhere, Where.addSearch, ← ListUsersOpts.searchText, Option.mem_def.mp htext]
      at hparams
    cases hs : opts.status <;> rw [hs] at hparams <;> exact hparams _ rfl
  rw [filterWhere, addSearch_filter lower opts _ hsearch
    (addStatus_filter opts.status _ hstatus (start_filter binding users))]
  simp only [List.filter_filter]
  congr 2
  refine List.filter_congr fun user _ => ?_
  rw [ListUsersOpts.keeps, Bool.and_comm, Bool.and_comm user.deletedAt.isNone, Bool.and_assoc]

/-! ### The pages -/

def bindError : ApiError := dbError "bind message supplies a wrong number of parameters" "08P01"

theorem bindParams_eq {placeholders : Nat} {params : List Param}
    (h : params.length = placeholders) :
    bindParams placeholders params = .ok (bindingOf params) := if_pos h

theorem bindParams_error {placeholders : Nat} {params : List Param}
    (h : params.length ≠ placeholders) : bindParams placeholders params = .error bindError :=
  if_neg h

/-- The first page. -/
theorem listUsers_first (lower : Text → Text) (db : UsersDb) (opts : ListUsersOpts) :
    listUsers lower db opts none =
      if opts.hasNul then .error nulError
      else .ok
        { fullPage opts.pageSize userCursor ((matchingUsers lower db opts).take opts.pageSize) with
          total := (matchingUsers lower db opts).length } := by
  have hbalanced := filterWhere_balanced lower opts
  have hlength : (filterWhere lower opts).params.length =
      (filterWhere lower opts).placeholders := by
    have := hbalanced.params
    have := hbalanced.placeholders
    omega
  have hlimit : ((filterWhere lower opts).params ++ [Param.number opts.pageSize]).length =
      max (filterWhere lower opts).placeholders (filterWhere lower opts).paramIdx := by
    have := hbalanced.placeholders
    rw [List.length_append, hlength, List.length_singleton]
    omega
  have htake : (filterWhere lower opts).params.take ((filterWhere lower opts).paramIdx - 1) =
      (filterWhere lower opts).params :=
    List.take_of_length_le (by have := hbalanced.params; omega)
  have hcount := filterWhere_filter lower opts [] db.users
  have hpage := filterWhere_filter lower opts [.number opts.pageSize] db.users
  rw [List.append_nil] at hcount
  simp only [listUsers, decodeCursorSafe, htake, bindParams_eq hlength, bindParams_eq hlimit]
  simp only [bind, Except.bind, hcount, hpage]
  cases opts.hasNul with
  | true => rfl
  | false =>
      rw [matchingUsers, (Sql.orderBy_perm usersKey _).length_eq]
      rfl

/-- The cursor brings two or three parameters. -/
theorem addCursor_balanced (values : Cursor) {w : Where} (hw : w.Balanced) :
    (w.addCursor values).Balanced ∧
      (w.addCursor values).paramIdx = w.paramIdx + (if neverSuspended values then 2 else 3) := by
  have hplaceholders := hw.placeholders
  have hparams := hw.params
  unfold Where.placeholders at hplaceholders
  unfold Where.addCursor
  split
  · refine ⟨⟨?_, ?_⟩, rfl⟩
    · simp [Where.placeholders]
      omega
    · simp [← hparams]
  · refine ⟨⟨?_, ?_⟩, rfl⟩
    · simp [Where.placeholders]
      omega
    · simp [← hparams]

/-- The cursor of a user asks for more placeholders than the count has parameters. -/
theorem listUsers_next (lower : Text → Text) (db : UsersDb) (opts : ListUsersOpts) (user : User) :
    listUsers lower db opts (some (userCursor user)) = .error bindError := by
  obtain ⟨⟨hplaceholders, hparams⟩, hparamIdx⟩ :=
    addCursor_balanced (userCursor user) (filterWhere_balanced lower opts)
  have hdecode : decodeCursorSafe (some (userCursor user)) ["suspended_at", "created_at", "id"] =
      some (userCursor user) := rfl
  have hmore : 2 ≤ if neverSuspended (userCursor user) then 2 else 3 := by split <;> decide
  rw [listUsers, hdecode]
  simp only []
  rw [bindParams_error]
  · rfl
  · rw [List.length_take]
    omega

/-! ### When the pages are the users -/

/-- **When following the cursors of the users lists them all.** -/
theorem listUsers_listsAll_iff (lower : Text → Text) (db : UsersDb) (opts : ListUsersOpts)
    (hpage : 0 < opts.pageSize) :
    ListsAll lower db opts ↔
      (matchingUsers lower db opts).length < opts.pageSize ∧ opts.hasNul = false := by
  have hfirst := listUsers_first lower db opts
  cases hnul : opts.hasNul with
  | true =>
      rw [hnul] at hfirst
      have herror : fetchUsers lower db opts none = .error nulError := by
        rw [fetchUsers, hfirst]
        rfl
      exact iff_of_false (fun h => Keyset.not_listsFrom_error herror h.lists) (by simp)
  | false =>
      rw [hnul] at hfirst
      have hfetch : fetchUsers lower db opts none =
          .ok (fullPage opts.pageSize userCursor
            ((matchingUsers lower db opts).take opts.pageSize)) := by
        rw [fetchUsers, hfirst]
        rfl
      have hnext : ∀ user, fetchUsers lower db opts (some (userCursor user)) =
          .error bindError := by
        intro user
        rw [fetchUsers, listUsers_next]
        rfl
      have hiff := Keyset.firstPage_lists_iff hpage hfetch hnext
      constructor
      · exact fun h => ⟨hiff.mp ⟨_, h.lists, List.Perm.refl _⟩, rfl⟩
      · rintro ⟨hlength, -⟩
        have hshort : (matchingUsers lower db opts).take opts.pageSize =
            matchingUsers lower db opts := List.take_of_length_le (Nat.le_of_lt hlength)
        have hlast : fetchUsers lower db opts none = .ok ⟨matchingUsers lower db opts, none⟩ := by
          rw [hfetch, hshort, fullPage, if_neg (Nat.ne_of_lt hlength)]
        refine ⟨(Keyset.listsFrom_last hlast).mpr rfl, fun cursor hvisited page hpage => ?_⟩
        rw [hvisited.eq_none hlast, hfirst] at hpage
        exact congrArg UsersPage.total (Except.ok.inj hpage).symm

/-- A user who was never suspended. -/
def newUser (id : Uuid) (createdAt : Timestamp) : User :=
  ⟨id, "player@example.com".toList, "Player".toList, none, .active, none, createdAt, none⟩

/-- A single user. -/
def oneUser : UsersDb := ⟨[newUser 1 5000000], by decide⟩

/-- Three users, one of them suspended, and one who was deleted. -/
def fourUsers : UsersDb where
  users :=
    [newUser 1 5000000, { newUser 2 7000000 with status := .suspended, suspendedAt := some 8000000 },
      newUser 3 6000000, { newUser 4 4000000 with deletedAt := some 9000000 }]
  ids_nodup := by decide

/-- Four a page, the three are listed, the suspended one first. -/
theorem three_users_listed :
    (matchingUsers id fourUsers ⟨none, none, 4⟩).map User.id = [2, 3, 1] ∧
      ListsAll id fourUsers ⟨none, none, 4⟩ :=
  ⟨by decide +kernel,
    (listUsers_listsAll_iff id fourUsers ⟨none, none, 4⟩ (by decide)).mpr (by decide +kernel)⟩

/-- One a page, the page after the user fails. -/
theorem one_user_page_fails :
    matchingUsers id oneUser ⟨none, none, 1⟩ = [newUser 1 5000000] ∧
      ((listUsers id oneUser ⟨none, none, 1⟩ none).toOption.bind fun page => page.nextCursor) =
        some (userCursor (newUser 1 5000000)) ∧
      listUsers id oneUser ⟨none, none, 1⟩ (some (userCursor (newUser 1 5000000))) =
        .error bindError ∧
      ¬ ListsAll id oneUser ⟨none, none, 1⟩ := by
  have hnext := listUsers_next id oneUser ⟨none, none, 1⟩ (newUser 1 5000000)
  have hfirst : fetchUsers id oneUser ⟨none, none, 1⟩ none =
      .ok ⟨[newUser 1 5000000], some (userCursor (newUser 1 5000000))⟩ := rfl
  refine ⟨by decide +kernel, by decide +kernel, hnext, fun h => ?_⟩
  obtain ⟨rest, hrest, -⟩ := (Keyset.listsFrom_more hfirst).mp h.lists
  exact Keyset.not_listsFrom_error (congrArg (Except.map UsersPage.toPage) hnext) hrest

end BrandBlitz.Paging.Users

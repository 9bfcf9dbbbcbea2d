import BrandBlitz.Lib.Csv
import BrandBlitz.Paging.Timestamps

/-!
# BrandBlitz.Paging.CsvExports

**The exports as texts**: `GET /admin/users/cohort/export` of `apps/api/src/routes/admin/users.ts`
and `GET /leaderboard/:challengeId/export.csv` of `apps/api/src/routes/leaderboard.ts`.

Each route has its own function to escape a field. `escapeCsv` puts quotes around every field that
needs them, and the leaderboard is always read back (`parse_leaderboardCsv`). `escapeCsvField` does
not look for carriage returns, and a cohort is read back if no field has one without a comma, a
quote or a line feed (`parse_cohortCsv_iff`).
-/

namespace BrandBlitz.Paging.CsvExports

open BrandBlitz.Lib
open BrandBlitz.Lib.Keyset (Page Lists)
open BrandBlitz.Lib.NumberText

/-! ### The cohort -/

/-- A row of `getCohortUsersForExport` as the driver hands it over: numbers of any size, dates and
enumerations are texts, so that nothing is assumed of what the columns hold. -/
structure ExportedUser where
  id : Text
  email : Text
  displayName : Text
  username : Option Text
  role : Text
  status : Text
  league : Option Text
  totalScore : Int
  totalEarnedUsdc : Text
  challengesPlayed : Int
  streak : Int
  lastActiveAt : Option Text
  createdAt : Text
  referralCode : Option Text
  fraudFlagCount : Int
deriving DecidableEq, Repr

/-- A column: its label, and its value by `String(value)`. -/
structure CsvColumn where
  label : Text
  value : ExportedUser → Option Text

def numberColumn (label : String) (value : ExportedUser → Int) : CsvColumn where
  label := label.toList
  value user := some (numberText (some (value user)))

def CSV_COLUMNS : List CsvColumn := [
  ⟨"id".toList, fun user => some user.id⟩,
  ⟨"email".toList, fun user => some user.email⟩,
  ⟨"display_name".toList, fun user => some user.displayName⟩,
  ⟨"username".toList, ExportedUser.username⟩,
  ⟨"role".toList, fun user => some user.role⟩,
  ⟨"status".toList, fun user => some user.status⟩,
  ⟨"league".toList, ExportedUser.league⟩,
  numberColumn "total_score" ExportedUser.totalScore,
  ⟨"total_earned_usdc".toList, fun user => some user.totalEarnedUsdc⟩,
  numberColumn "challenges_played" ExportedUser.challengesPlayed,
  numberColumn "streak" ExportedUser.streak,
  ⟨"last_active_at".toList, ExportedUser.lastActiveAt⟩,
  ⟨"created_at".toList, fun user => some user.createdAt⟩,
  ⟨"referral_code".toList, ExportedUser.referralCode⟩,
  numberColumn "fraud_flag_count" ExportedUser.fraudFlagCount]

/-- `str.replace(/"/g, '""')`, between quotes. -/
def wrap (str : Text) : Text :=
  '"' :: (str.flatMap (fun c => if c = '"' then ['"', '"'] else [c]) ++ ['"'])

def escapeCsvField : Option Text → Text
  | none => []
  | some str =>
    if str.contains ',' || str.contains '"' || str.contains '\n' then wrap str else str

def cohortCsv (users : List ExportedUser) : Text :=
  let headerRow := [','].intercalate (CSV_COLUMNS.map CsvColumn.label)
  let dataRows := users.map fun user =>
    [','].intercalate (CSV_COLUMNS.map fun column => escapeCsvField (column.value user))
  ['\n'].intercalate (headerRow :: dataRows)

/-! ### The leaderboard -/

/-- A row of `getLeaderboardForCsvExport`. -/
structure CsvSession where
  username : Option Text
  displayName : Option Text
  totalScore : Int
  payoutAmountUsdc : Option Text
deriving DecidableEq, Repr

def escapeCsv : Option Text → Text
  | none => ['"', '"']
  | some str =>
    if str.contains ',' || str.contains '"' || str.contains '\n' || str.contains '\r' then wrap str
    else str

/-- `s.username || s.display_name || "Anonymous"` -/
def CsvSession.shownName (s : CsvSession) : Text :=
  (nonempty s.username <|> nonempty s.displayName).getD "Anonymous".toList

/-- `s.payout_amount_usdc || "0"` -/
def CsvSession.shownPayout (s : CsvSession) : Text := (nonempty s.payoutAmountUsdc).getD "0".toList

def leaderboardHeader : Text := "rank,username,score,payout_amount_usdc\n".toList

def csvLine (rank : Nat) (s : CsvSession) : Text :=
  numberText (some rank) ++ ',' :: (escapeCsv (some s.shownName) ++
    ',' :: (numberText (some s.totalScore) ++ ',' :: (escapeCsv (some s.shownPayout) ++ ['\n'])))

/-- The lines of a batch, from a rank on. -/
def csvLines (rankCounter : Nat) : List CsvSession → Text
  | [] => []
  | s :: sessions => csvLine rankCounter s ++ csvLines (rankCounter + 1) sessions

def batchSize : Nat := 500

/-- What answers `getLeaderboardForCsvExport(challengeId, batchSize, cursor)`. -/
abbrev Fetch := Option Cursor → Except ApiError (Page CsvSession Cursor)

/-- The loop over the batches, within `fuel` rounds. -/
def csvBatches (fetch : Fetch) : Nat → Option Cursor → Nat → Option Text
  | 0, _, _ => none
  | fuel + 1, cursor, rankCounter =>
    match fetch cursor with
    | .error _ => none
    | .ok result =>
      if result.rows = [] then some []
      else
        let written := csvLines rankCounter result.rows
        match result.nextCursor with
        | none => some written
        | some next =>
          if result.rows.length < batchSize then some written
          else (csvBatches fetch fuel (some next) (rankCounter + result.rows.length)).map
            (written ++ ·)

def leaderboardCsv (fetch : Fetch) (fuel : Nat) : Option Text :=
  (csvBatches fetch fuel none 1).map (leaderboardHeader ++ ·)

def CsvSession.ofRow (row : CsvRow) : CsvSession where
  username := some row.user.username
  displayName := some row.user.displayName
  totalScore := row.session.totalScore
  payoutAmountUsdc := some row.payoutAmountUsdc

/-- The batches of a challenge. -/
def fetchBatch (db : LeaderboardDb) (challengeId : Uuid) : Fetch := fun cursor =>
  (getLeaderboardForCsvExport db challengeId batchSize cursor).map fun page =>
    ⟨page.rows.map CsvSession.ofRow, page.nextCursor⟩

/-! ### Fields -/

theorem wrap_eq (str : Text) : wrap str = Csv.quoted str := rfl

/-- A carriage return that `escapeCsvField` does not see. -/
def hasBareReturn (str : Text) : Bool :=
  str.contains '\r' && !(str.contains ',' || str.contains '"' || str.contains '\n')

section
variable {str : Text}

theorem plain_iff : Csv.Plain str ↔ (str.contains ',' || str.contains '"' || str.contains '\n' ||
    str.contains '\r') = false := by
  simp only [Csv.Plain, Bool.or_eq_false_iff, List.contains_eq_mem, decide_eq_false_iff_not,
    forall_and, List.forall_mem_ne']
  tauto

theorem spells_escapeCsv (str : Text) : Csv.Spells (escapeCsv (some str)) str := by
  unfold escapeCsv
  simp only
  split
  next => exact .inr rfl
  next hplain => exact .inl ⟨rfl, plain_iff.mpr (eq_false_of_ne_true hplain)⟩

theorem escapeCsv_of_plain (h : Csv.Plain str) : escapeCsv (some str) = str := by
  rw [plain_iff] at h
  unfold escapeCsv
  simp only [h, Bool.false_eq_true, if_false]

theorem spells_escapeCsvField (h : hasBareReturn str = false) :
    Csv.Spells (escapeCsvField (some str)) str := by
  unfold escapeCsvField
  unfold hasBareReturn at h
  cases hseen : str.contains ',' || str.contains '"' || str.contains '\n' with
  | true =>
      simp only [hseen, if_true]
      exact .inr rfl
  | false =>
      simp only [hseen, Bool.not_false, Bool.and_true] at h
      simp only [hseen, Bool.false_eq_true, if_false]
      exact .inl ⟨rfl, plain_iff.mpr (by rw [hseen, h, Bool.or_false])⟩

/-- No spelling of a field is shorter than that of `escapeCsvField`, and none is as short if the
field has a bare carriage return. -/
theorem length_escapeCsvField (str s : Text) (h : Csv.Spells s str) :
    (escapeCsvField (some str)).length + (if hasBareReturn str = true then 1 else 0) ≤
      s.length := by
  have hlength := Csv.length_doubled str
  unfold escapeCsvField hasBareReturn
  cases hseen : str.contains ',' || str.contains '"' || str.contains '\n' with
  | true =>
      rcases h with ⟨rfl, hplain⟩ | rfl
      · rw [plain_iff, hseen, Bool.true_or] at hplain
        cases hplain
      · simp only [hseen, wrap_eq, Bool.not_true, Bool.and_false, Bool.false_eq_true, if_true,
          if_false]
        exact le_rfl
  | false =>
      simp only [hseen, Bool.not_false, Bool.and_true, Bool.false_eq_true, if_false]
      rcases h with ⟨rfl, hplain⟩ | rfl
      · rw [plain_iff, hseen, Bool.false_or] at hplain
        rw [if_neg (by rw [hplain]; exact Bool.false_ne_true)]
        exact le_rfl
      · simp only [Csv.quoted, List.length_cons, List.length_append, List.length_nil]
        split <;> omega

end

/-! ### The cohort, read back -/

def cohortHeader : Csv.Record := CSV_COLUMNS.map CsvColumn.label

/-- The fields of a user, where `null` is the empty text. -/
def ExportedUser.record (user : ExportedUser) : Csv.Record :=
  CSV_COLUMNS.map fun column => (column.value user).getD []

theorem cohortCsv_eq (users : List ExportedUser) :
    cohortCsv users = Csv.joined (fun f => escapeCsvField (some f))
      (cohortHeader :: users.map ExportedUser.record) := by
  have hheader : Csv.line (fun f => escapeCsvField (some f)) cohortHeader =
      [','].intercalate (CSV_COLUMNS.map CsvColumn.label) :=
    congrArg [','].intercalate (by decide)
  have hnull (value : Option Text) :
      escapeCsvField (some (value.getD [])) = escapeCsvField value := by
    cases value with
    | none => rfl
    | some str => rfl
  have huser (user : ExportedUser) : Csv.line (fun f => escapeCsvField (some f)) user.record =
      [','].intercalate (CSV_COLUMNS.map fun column => escapeCsvField (column.value user)) := by
    rw [Csv.line, ExportedUser.record, List.map_map]
    exact congrArg [','].intercalate (List.map_congr_left fun column _ => hnull _)
  rw [cohortCsv, Csv.joined, List.map_cons, List.map_map, hheader]
  exact congrArg (fun rows => ['\n'].intercalate (_ :: rows))
    (List.map_congr_left fun user _ => (huser user).symm)

/-- **When a cohort is read back.** -/
theorem parse_cohortCsv_iff (users : List ExportedUser) :
    Csv.parse (cohortCsv users) = some (cohortHeader :: users.map ExportedUser.record) ↔
      ∀ user ∈ users, ∀ column ∈ CSV_COLUMNS, ∀ text ∈ column.value user,
        hasBareReturn text = false := by
  have hheader : ∀ f ∈ cohortHeader, hasBareReturn f = false := by decide
  have hwide : ∀ r ∈ cohortHeader :: users.map ExportedUser.record, 2 ≤ r.length := by
    intro r hr
    rcases List.mem_cons.mp hr with rfl | hr
    · decide
    · obtain ⟨user, -, rfl⟩ := List.mem_map.mp hr
      rw [ExportedUser.record, List.length_map]
      decide
  rw [cohortCsv_eq, Csv.parse_joined_iff (fun _ => spells_escapeCsvField) length_escapeCsvField
    (List.cons_ne_nil _ _) hwide, List.forall_mem_cons, and_iff_right hheader, List.forall_mem_map]
  refine forall₂_congr fun user _ => ?_
  rw [ExportedUser.record, List.forall_mem_map]
  refine forall₂_congr fun column _ => ?_
  cases column.value user with
  | none => exact iff_of_true rfl fun text htext => by cases htext
  | some text => simp

/-! ### The leaderboard, read back -/

def leaderboardFields : Csv.Record :=
  ["rank".toList, "username".toList, "score".toList, "payout_amount_usdc".toList]

def csvRecord (rank : Nat) (s : CsvSession) : Csv.Record :=
  [numberText (some rank), s.shownName, numberText (some s.totalScore), s.shownPayout]

def csvRecords (rankCounter : Nat) : List CsvSession → List Csv.Record
  | [] => []
  | s :: sessions => csvRecord rankCounter s :: csvRecords (rankCounter + 1) sessions

theorem csvRecords_ne_nil (rankCounter : Nat) (sessions : List CsvSession) :
    ∀ r ∈ csvRecords rankCounter sessions, r ≠ [] := by
  induction sessions generalizing rankCounter with
  | nil => exact fun r hr => absurd hr List.not_mem_nil
  | cons s sessions ih => exact List.forall_mem_cons.mpr ⟨List.cons_ne_nil _ _, ih _⟩

theorem plain_digits (n : Nat) : Csv.Plain (Nat.toDigits 10 n) := by
  intro c hc
  have hdigit := isDigit_of_mem_digits hc
  refine ⟨?_, ?_, ?_, ?_⟩ <;>
  · rintro rfl
    exact absurd hdigit (by decide)

theorem plain_numberText (n : Int) : Csv.Plain (numberText (some n)) := by
  cases n with
  | ofNat n => exact plain_digits n
  | negSucc n => exact List.forall_mem_cons.mpr ⟨by decide, plain_digits (n + 1)⟩

theorem csvLine_eq (rank : Nat) (s : CsvSession) :
    csvLine rank s = Csv.line (fun f => escapeCsv (some f)) (csvRecord rank s) ++ ['\n'] := by
  simp only [csvRecord, Csv.line_cons _ (List.cons_ne_nil _ _),
    escapeCsv_of_plain (plain_numberText _)]
  simp [csvLine, Csv.line]

theorem csvLines_eq (rankCounter : Nat) (sessions : List CsvSession) :
    csvLines rankCounter sessions =
      Csv.lines (fun f => escapeCsv (some f)) (csvRecords rankCounter sessions) := by
  induction sessions generalizing rankCounter with
  | nil => rfl
  | cons s sessions ih =>
      rw [csvLines, ih, csvRecords, csvLine_eq]
      rfl

theorem csvLines_append (rankCounter : Nat) (sessions rest : List CsvSession) :
    csvLines rankCounter (sessions ++ rest) =
      csvLines rankCounter sessions ++ csvLines (rankCounter + sessions.length) rest := by
  induction sessions generalizing rankCounter with
  | nil => rfl
  | cons s sessions ih =>
      rw [List.cons_append, csvLines, ih, csvLines, List.append_assoc, List.length_cons,
        Nat.add_assoc, Nat.add_comm 1]

/-- A batch that is not the last is full. -/
def FullPages (fetch : Fetch) : Prop :=
  ∀ cursor page, fetch cursor = .ok page → page.nextCursor ≠ none → page.rows.length = batchSize

theorem fullPages_fetchBatch (db : LeaderboardDb) (challengeId : Uuid) :
    FullPages (fetchBatch db challengeId) := by
  intro cursor page hfetch hnext
  unfold fetchBatch getLeaderboardForCsvExport at hfetch
  cases hclause : sessionCursorClause Sql.lt cursor with
  | error e =>
      rw [hclause] at hfetch
      cases hfetch
  | ok clause =>
      rw [hclause] at hfetch
      obtain rfl := Except.ok.inj hfetch
      simp only [Keyset.fullPage, List.length_map] at hnext ⊢
      split at hnext
      next hlength => exact hlength
      next => exact absurd rfl hnext

theorem csvBatches_of_follow {fetch : Fetch} (hfull : FullPages fetch) (fuel : Nat) :
    ∀ (cursor : Option Cursor) (rankCounter : Nat) (sessions : List CsvSession),
      Keyset.follow fetch fuel cursor = some sessions →
        csvBatches fetch fuel cursor rankCounter = some (csvLines rankCounter sessions) := by
  induction fuel with
  | zero =>
      intro cursor rankCounter sessions h
      cases h
  | succ fuel ih =>
      intro cursor rankCounter sessions h
      rw [Keyset.follow] at h
      rw [csvBatches]
      split at h
      next => cases h
      next rows hfetch =>
        obtain rfl := Option.some.inj h
        simp only [hfetch]
        split
        next hnil => rw [hnil, csvLines]
        next => rfl
      next rows next hfetch =>
        obtain ⟨rest, hrest, rfl⟩ := Option.map_eq_some_iff.mp h
        have hlength : rows.length = batchSize := hfull cursor _ hfetch (Option.some_ne_none next)
        have hne : rows ≠ [] := List.ne_nil_of_length_pos (by rw [hlength]; decide)
        simp only [hfetch, if_neg hne, hlength, lt_irrefl, if_false]
        rw [← hlength, ih _ _ _ hrest, csvLines_append]
        rfl

/-- **A leaderboard is read back.** -/
theorem parse_leaderboardCsv {fetch : Fetch} (hfull : FullPages fetch) {sessions : List CsvSession}
    (h : Lists fetch sessions) : ∃ fuel text, leaderboardCsv fetch fuel = some text ∧
      Csv.parse text = some (leaderboardFields :: csvRecords 1 sessions) := by
  obtain ⟨fuel, hfollow⟩ := h
  refine ⟨fuel, leaderboardHeader ++ csvLines 1 sessions, ?_, ?_⟩
  · rw [leaderboardCsv, csvBatches_of_follow hfull fuel _ _ _ hfollow]
    rfl
  · have hheader : leaderboardHeader =
        Csv.line (fun f => escapeCsv (some f)) leaderboardFields ++ ['\n'] := by decide
    rw [hheader, csvLines_eq]
    exact Csv.parse_lines (List.cons_ne_nil _ _)
      (List.forall_mem_cons.mpr ⟨List.cons_ne_nil _ _, csvRecords_ne_nil 1 sessions⟩)
      fun _ _ f _ => spells_escapeCsv f

/-- The export of a challenge whose sessions the paging lists is read back. -/
theorem parse_challengeCsv {db : LeaderboardDb} {challengeId : Uuid} {sessions : List CsvSession}
    (h : Lists (fetchBatch db challengeId) sessions) :
    ∃ fuel text, leaderboardCsv (fetchBatch db challengeId) fuel = some text ∧
      Csv.parse text = some (leaderboardFields :: csvRecords 1 sessions) :=
  parse_leaderboardCsv (fullPages_fetchBatch db challengeId) h

/-! ### Both exports -/

/-- **When the exports are read back.** -/
theorem exports_parse_back_iff (users : List ExportedUser) :
    (Csv.parse (cohortCsv users) = some (cohortHeader :: users.map ExportedUser.record) ∧
      ∀ (fetch : Fetch) (sessions : List CsvSession), FullPages fetch → Lists fetch sessions →
        ∃ fuel text, leaderboardCsv fetch fuel = some text ∧
          Csv.parse text = some (leaderboardFields :: csvRecords 1 sessions)) ↔
      ∀ user ∈ users, ∀ column ∈ CSV_COLUMNS, ∀ text ∈ column.value user,
        hasBareReturn text = false := by
  rw [parse_cohortCsv_iff]
  exact and_iff_left fun fetch sessions hfull h => parse_leaderboardCsv hfull h

def returning : ExportedUser where
  id := "u".toList
  email := "e".toList
  displayName := "a\rb".toList
  username := none
  role := "player".toList
  status := "active".toList
  league := none
  totalScore := 0
  totalEarnedUsdc := "0".toList
  challengesPlayed := 0
  streak := 0
  lastActiveAt := none
  createdAt := "t".toList
  referralCode := none
  fraudFlagCount := 0

theorem cohort_not_read_back : ¬ ∀ users : List ExportedUser,
    Csv.parse (cohortCsv users) = some (cohortHeader :: users.map ExportedUser.record) := by
  intro h
  have hread := (parse_cohortCsv_iff [returning]).mp (h [returning]) returning
    (List.mem_singleton_self _) ⟨"display_name".toList, fun user => some user.displayName⟩
    (by simp [CSV_COLUMNS]) "a\rb".toList rfl
  exact absurd hread (by decide)

end BrandBlitz.Paging.CsvExports

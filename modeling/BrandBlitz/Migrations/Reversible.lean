import BrandBlitz.Migrations.Runner

/-!
# BrandBlitz.Migrations.Reversible

**Migrations are atomic, applied once, and rolled back in order.**

Whoever writes anything but the runner's own tables has locked the row, so the rows and the schema
that a run has read are still the same when it commits. Both lists then change together, and stay
the same list. That holds of all runs.

A rollback goes by `applied_at`, which is the start of a transaction and not its turn: it takes the
last ones applied if the runs got the lock in the order in which they began. Within a run it
depends on whether the database orders the names as the runner did.
-/

namespace BrandBlitz.Migrations

open BrandBlitz.Lib
open BrandBlitz.Paging (Timestamp)

/-! ### What holds of the commits -/

section

variable (platform : Platform)

/-- The files of a directory whose effect is not there, in the order of the runner. -/
def pending (directory : Directory) (schema : List Text) : List Text :=
  ((listMigrations platform directory).map MigrationFile.file).filter fun file =>
    !schema.contains file

/-- All files that are pending are applied, or a number of them is undone. -/
structure Commit.Whole (c : Commit) : Prop where
  up : ∀ directory, c.run = some (.up directory) →
    c.applied = pending platform directory c.before ∧ c.undone = [] ∧
      c.after = c.before ++ c.applied
  down : ∀ directory count, c.run = some (.down directory count) →
    c.applied = [] ∧ c.after = c.before.filter fun file => !c.undone.contains file

/-- In order of sequence number, and the last one applied first. -/
structure Commit.InOrder (c : Commit) : Prop where
  up : ∀ directory, c.run = some (.up directory) →
    c.applied.Pairwise fun a b => sequence a ≤ sequence b
  down : ∀ directory count, c.run = some (.down directory count) →
    ∃ n : Nat, count = some (n : Int) ∧ 1 ≤ n ∧
      c.undone = (c.before.drop (c.before.length - n)).reverse ∧
      c.after = c.before.take (c.before.length - n)

end

/-- Every commit starts from the schema that the one before has left. -/
def Chain : List Text → List Commit → List Text → Prop
  | schema, [], schema' => schema = schema'
  | schema, c :: commits, schema' => c.before = schema ∧ Chain c.after commits schema'

theorem chain_append {c : Commit} {schema' : List Text} (hc : c.before = schema') :
    ∀ {commits : List Commit} {schema : List Text}, Chain schema commits schema' →
      Chain schema (commits ++ [c]) c.after
  | [], _, h => ⟨hc.trans (Eq.symm h), rfl⟩
  | _ :: _, _, h => ⟨h.1, chain_append hc h.2⟩

/-! ### The order of the rows -/

section

variable (platform : Platform)

/-- By number, and by name. -/
def numberKey (file : Text) : WithTop Nat ×ₗ List Nat :=
  toLex (Sql.nullsLast (some (sequence file)), platform.collationKey file)

/-- The order in which rows are rolled back, the other way round. -/
def newerKey (row : Row) : Timestamp ×ₗ WithTop Nat ×ₗ List Nat :=
  toLex (row.appliedAt, numberKey platform row.version)

/-- The version is an integer of the database. -/
structure Numbered (version : Text) : Prop where
  digits : digits version ≠ []
  small : sequence version ≤ maxInteger

end

section

variable {platform : Platform} {directory : Directory}

/-- Small numbers are doubles. -/
theorem toDouble_of_lt {n : Nat} (h : n < 2 ^ 53) : toDouble n = (n : WithTop Nat) := by
  have hlog : n.log2 < 53 := by
    rcases Nat.eq_zero_or_pos n with rfl | hpos
    · decide
    · exact (Nat.log2_lt (Nat.pos_iff_ne_zero.mp hpos)).mpr h
  have hunit : n.log2 - 52 = 0 := by omega
  have hfinite : n.log2 < 1024 := by omega
  simp [toDouble, hunit, Nat.mod_one, hfinite]

theorem map_file_listMigrations (platform : Platform) (directory : Directory) :
    (listMigrations platform directory).map MigrationFile.file =
      Sql.orderBy (fileKey platform) (directory.names.filter isMigration) := by
  simp [listMigrations, Function.comp_def]

theorem mem_files {file : Text}
    (h : file ∈ (listMigrations platform directory).map MigrationFile.file) :
    file ∈ directory.names.filter isMigration := by
  rw [map_file_listMigrations] at h
  exact (Sql.orderBy_perm _ _).mem_iff.mp h

theorem files_nodup (platform : Platform) (directory : Directory) :
    ((listMigrations platform directory).map MigrationFile.file).Nodup := by
  rw [map_file_listMigrations]
  exact (Sql.orderBy_perm _ _).nodup_iff.mpr (directory.nodup.filter _)

theorem numbered_of_fits (hfits : directory.fits platform = true) {file : Text}
    (h : file ∈ (listMigrations platform directory).map MigrationFile.file) : Numbered file := by
  have hmem := mem_files h
  rw [Directory.fits, Bool.and_eq_true] at hfits
  obtain ⟨hname, hmigration⟩ := List.mem_filter.mp hmem
  exact ⟨directory.numbered file hname hmigration,
    of_decide_eq_true (List.all_eq_true.mp hfits.1 file hmem)⟩

theorem agree_of_fits (hfits : directory.fits platform = true) {a b : Text}
    (ha : a ∈ (listMigrations platform directory).map MigrationFile.file)
    (hb : b ∈ (listMigrations platform directory).map MigrationFile.file) (hne : a ≠ b)
    (hnumber : sequence a = sequence b) : platform.agree a b = true := by
  rw [Directory.fits, Bool.and_eq_true] at hfits
  have hpair := List.all_eq_true.mp (List.all_eq_true.mp hfits.2 a (mem_files ha)) b (mem_files hb)
  simpa [hne, hnumber] using hpair

/-- In a directory that fits, the runner's order is that of the database. -/
theorem files_pairwise (hfits : directory.fits platform = true) :
    ((listMigrations platform directory).map MigrationFile.file).Pairwise fun a b =>
      numberKey platform a < numberKey platform b := by
  have hsorted : ((listMigrations platform directory).map MigrationFile.file).Pairwise fun a b =>
      fileKey platform a ≤ fileKey platform b := by
    rw [map_file_listMigrations]
    exact Sql.orderBy_pairwise_le _ _
  refine (hsorted.and (files_nodup platform directory)).imp_of_mem fun {a b} ha hb hab => ?_
  obtain ⟨hle, hne⟩ := hab
  have hdouble : ∀ file ∈ (listMigrations platform directory).map MigrationFile.file,
      parseInt file = (sequence file : WithTop Nat) := by
    intro file hfile
    refine toDouble_of_lt (Nat.lt_of_le_of_lt (numbered_of_fits hfits hfile).small ?_)
    decide
  rw [fileKey, fileKey, Prod.Lex.toLex_le_toLex, hdouble a ha, hdouble b hb] at hle
  rw [numberKey, numberKey, Prod.Lex.toLex_lt_toLex]
  rcases hle with hlt | ⟨heq, hle⟩
  · exact .inl hlt
  · have hagree := agree_of_fits hfits ha hb hne (WithTop.coe_inj.mp heq)
    rw [Platform.agree, Bool.or_eq_true, Bool.and_eq_true, Bool.and_eq_true, decide_eq_true_eq,
      decide_eq_true_eq, decide_eq_true_eq, decide_eq_true_eq] at hagree
    rcases hagree with ⟨-, hcollation⟩ | ⟨hlocale, -⟩
    · exact .inr ⟨heq, hcollation⟩
    · exact absurd hlocale (not_lt.mpr hle)

theorem sequence_le_of_numberKey_lt {a b : Text} (h : numberKey platform a < numberKey platform b) :
    sequence a ≤ sequence b := by
  rw [numberKey, numberKey, Prod.Lex.toLex_lt_toLex] at h
  rcases h with hlt | ⟨heq, -⟩
  · exact Nat.le_of_lt (WithTop.coe_lt_coe.mp hlt)
  · exact Nat.le_of_eq (Option.some.inj (Sql.nullsLast_inj.mp heq))

/-- A loop that does not fail. -/
theorem mapM_ok {α β ε : Type} {f : α → Except ε β} {g : α → β} :
    ∀ {xs : List α}, (∀ x ∈ xs, f x = .ok (g x)) → xs.mapM f = .ok (xs.map g)
  | [], _ => rfl
  | x :: xs, h => by
      rw [List.mapM_cons, h x List.mem_cons_self,
        mapM_ok fun y hy => h y (List.mem_cons_of_mem _ hy)]
      rfl

/-- Rows in their order come back the other way round. -/
theorem newest_of_pairwise {tables : Tables}
    (hordered : tables.rows.Pairwise fun a b => newerKey platform a < newerKey platform b)
    (hnumbered : ∀ row ∈ tables.rows, Numbered row.version) :
    tables.newest platform = .ok (tables.rows.map Row.version).reverse := by
  have hrows : tables.rows.mapM (fun row => do
      let number ← integerOf row.version
      return (row, number)) =
      Except.ok (tables.rows.map fun row => (row, some (sequence row.version))) := by
    refine mapM_ok fun row hrow => ?_
    have hnumber := hnumbered row hrow
    rw [integerOf, if_neg hnumber.digits, if_pos hnumber.small]
    rfl
  have hreverse : Sql.orderBy (fun row => OrderDual.toDual (rowKey platform row))
      (tables.rows.map fun row => (row, some (sequence row.version))) =
      (tables.rows.map fun row => (row, some (sequence row.version))).reverse := by
    have hkeys : (tables.rows.map fun row => (row, some (sequence row.version))).Pairwise
        fun a b => rowKey platform a < rowKey platform b := List.pairwise_map.mpr hordered
    refine Sql.eq_of_pairwise_lt (Sql.orderBy_pairwise_lt ?_) (List.pairwise_reverse.mpr ?_)
      ((Sql.orderBy_perm _ _).trans (List.reverse_perm _).symm)
    · exact List.pairwise_map.mpr (hkeys.imp fun hab heq => ne_of_lt hab
        (OrderDual.toDual.injective heq))
    · exact hkeys.imp fun hab => OrderDual.toDual_lt_toDual.mpr hab
  rw [Tables.newest, hrows]
  show Except.ok _ = _
  rw [hreverse, ← List.map_reverse, List.map_map, ← List.map_reverse]
  rfl

theorem mapM_error {α β ε : Type} {f : α → Except ε β} {x : α} {err : ε} (h : f x = .error err) :
    ∀ {xs : List α}, x ∈ xs → ∃ err', xs.mapM f = .error err'
  | y :: xs, hx => by
      rw [List.mapM_cons]
      cases hy : f y with
      | error err' => exact ⟨err', rfl⟩
      | ok b =>
          have hrest : x ∈ xs := by
            rcases List.mem_cons.mp hx with rfl | hx
            · rw [h] at hy
              cases hy
            · exact hx
          obtain ⟨err', herr⟩ := mapM_error h hrest
          exact ⟨err', by rw [herr]; rfl⟩

/-- **A number too large for the database** can be applied, and then nothing can be rolled back. -/
theorem newest_fails {tables : Tables} {row : Row} (hrow : row ∈ tables.rows)
    (hdigits : digits row.version ≠ []) (hlarge : maxInteger < sequence row.version) :
    ∃ err, tables.newest platform = .error err := by
  have herror : ∃ err, (do
      let number ← integerOf row.version
      return (row, number) : Except ApiError NumberedRow) = .error err := by
    rw [integerOf, if_neg hdigits, if_neg (Nat.not_le_of_lt hlarge)]
    exact ⟨_, rfl⟩
  obtain ⟨err, herr⟩ := herror
  obtain ⟨err', hrows⟩ := mapM_error (f := fun row : Row => do
    let number ← integerOf row.version
    return (row, number)) herr hrow
  exact ⟨err', by rw [Tables.newest, hrows]; rfl⟩

end

/-! ### Transactions in flight -/

/-- While all was regular, the rows stand in the order in which they were inserted. -/
structure Regular (platform : Platform) (w : World) : Prop where
  ordered : w.db.committed.rows.Pairwise fun a b => newerKey platform a < newerKey platform b
  numbered : ∀ row ∈ w.db.committed.rows, Numbered row.version
  inOrder : ∀ c ∈ w.commits, c.InOrder

structure Inv (platform : Platform) (w : World) : Prop where
  listed : w.db.committed.rows.map Row.version = w.db.committed.schema
  once : w.db.committed.schema.Nodup
  chain : Chain [] w.commits w.db.committed.schema
  programs : (w.commits.map Commit.program).Nodup
  whole : ∀ c ∈ w.commits, c.Whole platform
  regular : w.regular = true → Regular platform w
  /-- who writes more than the runner's own tables has locked the row -/
  locked : ∀ i ω, w.db.Pending i ω → ω ≠ .createTables → w.db.holder .row = some i

/-- Run `i` has committed nothing. -/
def World.Quiet (w : World) (i : Nat) : Prop := ∀ c ∈ w.commits, c.program ≠ i

/-- What others do while run `i` waits. -/
structure Rely (platform : Platform) (i : Nat) (w w' : World) : Prop where
  inv : Inv platform w'
  alone : TxStore.Alone i w.db w'.db
  runs : w'.runs i = w.runs i
  began : w'.began i = w.began i
  kept : w.db.holder .row = some i →
    w'.db.committed.rows = w.db.committed.rows ∧ w'.db.committed.schema = w.db.committed.schema
  commits : ∀ c : Commit, c.program = i → (c ∈ w'.commits ↔ c ∈ w.commits)
  regular : w'.regular = true → w.regular = true

section

variable {platform : Platform} {i j : Nat} {w w' w'' : World} {ws : List Write}

theorem Rely.refl (h : Inv platform w) : Rely platform i w w :=
  ⟨h, .refl, rfl, rfl, fun _ => ⟨rfl, rfl⟩, fun _ _ => Iff.rfl, fun h => h⟩

theorem Rely.trans (h : Rely platform i w w') (h' : Rely platform i w' w'') :
    Rely platform i w w'' where
  inv := h'.inv
  alone := h.alone.trans h'.alone
  runs := h'.runs.trans h.runs
  began := h'.began.trans h.began
  kept hheld := by
    obtain ⟨hrows, hschema⟩ := h.kept hheld
    obtain ⟨hrows', hschema'⟩ := h'.kept ((h.alone.holder _).mpr hheld)
    exact ⟨hrows'.trans hrows, hschema'.trans hschema⟩
  commits c hc := (h'.commits c hc).trans (h.commits c hc)
  regular hregular := h.regular (h'.regular hregular)

theorem Rely.quiet (h : Rely platform i w w') (hquiet : w.Quiet i) : w'.Quiet i :=
  fun c hc hi => hquiet c ((h.commits c hi).mp hc) hi

/-- The runner's own tables are no migration. -/
theorem foldl_of_createTables (hws : ∀ ω ∈ ws, ω = .createTables) :
    ∀ tables : Tables, (ws.foldl Tables.apply tables).rows = tables.rows ∧
      (ws.foldl Tables.apply tables).schema = tables.schema := by
  induction ws with
  | nil => intro tables; exact ⟨rfl, rfl⟩
  | cons ω ws ih =>
      intro tables
      obtain rfl := hws ω List.mem_cons_self
      exact ih (fun ω hmem => hws ω (List.mem_cons_of_mem _ hmem)) _

/-- Without the lock nothing is pending but these tables. -/
theorem Inv.createTables_of_not_holder (h : Inv platform w) (hother : w.db.holder .row ≠ some j) :
    ∀ ω ∈ (w.db.writes j).getD [], ω = .createTables := by
  intro ω hmem
  by_contra hne
  exact hother (h.locked j ω ((TxStore.mem_getD_writes _).mp hmem) hne)

/-! ### The invariant through one operation -/

/-- A step that commits nothing. -/
theorem Inv.kept (h : Inv platform w) (keep : Nat → Prop)
    (hcommitted : w'.db.committed = w.db.committed) (hcommits : w'.commits = w.commits)
    (hregular : w'.regular = true → w.regular = true)
    (hpending : ∀ j ω, w'.db.Pending j ω → keep j ∧ w.db.Pending j ω)
    (hholder : ∀ j, keep j → w.db.holder .row = some j → w'.db.holder .row = some j) :
    Inv platform w' where
  listed := by rw [hcommitted]; exact h.listed
  once := by rw [hcommitted]; exact h.once
  chain := by rw [hcommitted, hcommits]; exact h.chain
  programs := by rw [hcommits]; exact h.programs
  whole := by rw [hcommits]; exact h.whole
  regular hreg := by
    obtain ⟨hordered, hnumbered, hinOrder⟩ := h.regular (hregular hreg)
    refine ⟨?_, ?_, ?_⟩
    · rw [hcommitted]
      exact hordered
    · rw [hcommitted]
      exact hnumbered
    · rw [hcommits]
      exact hinOrder
  locked j ω hj hne := by
    obtain ⟨hkeep, hwas⟩ := hpending j ω hj
    exact hholder j hkeep (h.locked j ω hwas hne)

theorem Inv.abort (h : Inv platform w) (i : Nat) : Inv platform (w.abort i) :=
  h.kept (· ≠ i) rfl rfl (fun h => h) (fun _ _ => (TxStore.pending_finish _).mp)
    fun _ hne hj => (TxStore.finish_holder_eq_some_iff ..).mpr ⟨hj, hne⟩

theorem Inv.start (h : Inv platform w) (i : Nat) (began : Nat → Timestamp) :
    Inv platform { w with db := w.db.start i, began := began } :=
  h.kept (· ≠ i) rfl rfl (fun h => h) (fun _ _ => (TxStore.pending_start _).mp) fun _ _ hj => hj

theorem Inv.enter (h : Inv platform w) (runs : Nat → Option Run) (fits : Bool) :
    Inv platform { w with runs := runs, regular := w.regular && fits } :=
  h.kept (fun _ => True) rfl rfl (fun h => (Bool.and_eq_true_iff.mp h).1)
    (fun _ _ hj => ⟨trivial, hj⟩) fun _ _ hj => hj

theorem Inv.lock (h : Inv platform w) {l : Lock}
    (hfree : (w.db.holder l).filter (· ≠ i) = none) :
    Inv platform { w with db := w.db.lock i l } :=
  h.kept (fun _ => True) rfl rfl (fun h => h) (fun _ _ hj => ⟨trivial, hj⟩)
    fun _ _ hj => TxStore.lock_holder_of_holder hfree hj

/-- More writes of an open transaction. -/
theorem Inv.write (h : Inv platform w) (news : List Write) (hws : w.db.writes i = some ws)
    (hlocked : ∀ ω ∈ news, ω ≠ .createTables → w.db.holder .row = some i) (inTurn : Bool) :
    Inv platform { w with db := w.db.write i news, regular := w.regular && inTurn } where
  listed := h.listed
  once := h.once
  chain := h.chain
  programs := h.programs
  whole := h.whole
  regular hreg := by
    obtain ⟨hordered, hnumbered, hinOrder⟩ := h.regular (Bool.and_eq_true_iff.mp hreg).1
    exact ⟨hordered, hnumbered, hinOrder⟩
  locked j ω hj hne := by
    rcases (TxStore.pending_write _ hws).mp hj with hj | ⟨rfl, hmem⟩
    · exact h.locked j ω hj hne
    · exact hlocked ω hmem hne

/-- The commit of connection `i`, with what it does to the tables. -/
def World.commitOf (w : World) (i : Nat) : Commit where
  program := i
  run := w.runs i
  before := w.db.committed.schema
  after := (w.db.view Tables.apply i).schema
  applied := ((w.db.writes i).getD []).filterMap Write.applied?
  undone := ((w.db.writes i).getD []).filterMap Write.undone?

/-- The end of a transaction. -/
theorem Inv.commit (h : Inv platform w) (hquiet : w.Quiet i)
    (hlisted : (w.db.view Tables.apply i).rows.map Row.version =
      (w.db.view Tables.apply i).schema)
    (honce : (w.db.view Tables.apply i).schema.Nodup)
    (hwhole : (w.commitOf i).Whole platform)
    (hregular : w.regular = true →
      (w.db.view Tables.apply i).rows.Pairwise
          (fun a b => newerKey platform a < newerKey platform b) ∧
        (∀ row ∈ (w.db.view Tables.apply i).rows, Numbered row.version) ∧
        (w.commitOf i).InOrder) : Inv platform (w.commit i) where
  listed := hlisted
  once := honce
  chain := chain_append (c := w.commitOf i) rfl h.chain
  programs := by
    show ((w.commits ++ [w.commitOf i]).map Commit.program).Nodup
    rw [List.map_append, List.nodup_append]
    refine ⟨h.programs, List.nodup_singleton _, fun program hprogram program' hprogram' heq => ?_⟩
    obtain ⟨c, hc, rfl⟩ := List.mem_map.mp hprogram
    rw [List.mem_singleton.mp hprogram'] at heq
    exact hquiet c hc heq
  whole c hc := by
    rcases List.mem_append.mp hc with hc | hc
    · exact h.whole c hc
    · rw [List.mem_singleton.mp hc]
      exact hwhole
  regular hreg := by
    obtain ⟨hordered, hnumbered, hinOrder⟩ := hregular hreg
    refine ⟨hordered, hnumbered, fun c hc => ?_⟩
    rcases List.mem_append.mp hc with hc | hc
    · exact (h.regular hreg).inOrder c hc
    · rw [List.mem_singleton.mp hc]
      exact hinOrder
  locked j ω hj hne := by
    obtain ⟨hother, hwas⟩ := (TxStore.pending_finish _).mp hj
    exact (TxStore.finish_holder_eq_some_iff ..).mpr ⟨h.locked j ω hwas hne, hother⟩

/-! ### What the moves of others change -/

/-- A step that commits nothing. -/
theorem rely_of_alone (hinv : Inv platform w') (halone : TxStore.Alone i w.db w'.db)
    (hcommitted : w'.db.committed = w.db.committed) (hruns : w'.runs i = w.runs i)
    (hbegan : w'.began i = w.began i) (hcommits : w'.commits = w.commits)
    (hregular : w'.regular = true → w.regular = true) : Rely platform i w w' where
  inv := hinv
  alone := halone
  runs := hruns
  began := hbegan
  kept _ := by rw [hcommitted]; exact ⟨rfl, rfl⟩
  commits _ _ := by rw [hcommits]
  regular := hregular

theorem rely_abort (hne : i ≠ j) (hinv : Inv platform (w.abort j)) :
    Rely platform i w (w.abort j) :=
  rely_of_alone hinv (TxStore.alone_finish hne) rfl rfl rfl rfl fun h => h

/-- A run that has not locked the row commits no migration. -/
theorem rely_commit (hne : i ≠ j) (h : Inv platform w) (hinv : Inv platform (w.commit j)) :
    Rely platform i w (w.commit j) where
  inv := hinv
  alone := TxStore.alone_finish hne
  runs := rfl
  began := rfl
  kept hheld := foldl_of_createTables (h.createTables_of_not_holder fun hj =>
    hne (Option.some.inj (hheld.symm.trans hj))) _
  commits c hc := by
    refine ⟨fun hmem => ?_, fun hmem => List.mem_append_left _ hmem⟩
    rcases List.mem_append.mp hmem with hmem | hmem
    · exact hmem
    · rw [List.mem_singleton.mp hmem] at hc
      exact absurd hc hne.symm
  regular h := h

theorem rely_client {statement : Statement} (hne : i ≠ j)
    (hfree : w.blocker j (.client statement) = none)
    (hinv : Inv platform (w.client platform j statement).2) :
    Rely platform i w (w.client platform j statement).2 := by
  unfold World.client at hinv ⊢
  dsimp only at hinv ⊢
  split
  · rename_i hrun
    rw [hrun] at hinv
    exact rely_abort hne hinv
  · rename_i ws hrun
    rw [hrun] at hinv
    have hregular : (w.regular && w.inTurn j statement) = true → w.regular = true :=
      fun h => (Bool.and_eq_true_iff.mp h).1
    cases statement with
    | ensureTables =>
        dsimp only at hinv ⊢
        split at hinv
        · rename_i hready
          rw [if_pos hready]
          exact rely_of_alone hinv (TxStore.alone_write hne) rfl rfl rfl rfl hregular
        · rename_i hmissing
          rw [if_neg hmissing]
          exact rely_of_alone hinv ((TxStore.alone_write hne).trans (TxStore.alone_lock hne hfree))
            rfl rfl rfl rfl hregular
    | lockRow =>
        exact rely_of_alone hinv ((TxStore.alone_write hne).trans (TxStore.alone_lock hne hfree))
          rfl rfl rfl rfl hregular
    | selectApplied | selectNewest | up _ | insertVersion _ | down _ | deleteVersion _ =>
        exact rely_of_alone hinv (TxStore.alone_write hne) rfl rfl rfl rfl hregular

theorem rely_perform {op : MigrateOp} {now : Timestamp} (hne : i ≠ j) (h : Inv platform w)
    (hfree : w.blocker j op = none) (hinv : Inv platform (w.perform platform j now op).2) :
    Rely platform i w (w.perform platform j now op).2 := by
  cases op with
  | enter run =>
      exact rely_of_alone hinv .refl rfl (Function.update_of_ne hne ..) rfl rfl fun h =>
        (Bool.and_eq_true_iff.mp h).1
  | client statement => exact rely_client hne hfree hinv
  | start =>
      exact rely_of_alone hinv (TxStore.alone_start hne) rfl rfl (Function.update_of_ne hne ..) rfl
        fun h => h
  | commit => exact rely_commit hne h hinv
  | rollback => exact rely_abort hne hinv
  | readdir | readFile _ | connect | analyze => exact .refl hinv

theorem rely_fail {op : MigrateOp} {applied : Bool} (hne : i ≠ j) (h : Inv platform w)
    (hinv : Inv platform (w.fail j applied op)) : Rely platform i w (w.fail j applied op) := by
  cases op with
  | commit =>
      cases applied with
      | true => exact rely_commit hne h hinv
      | false => exact rely_abort hne hinv
  | client _ | start | rollback => exact rely_abort hne hinv
  | enter _ | readdir | readFile _ | connect | analyze => exact .refl hinv

theorem blocker_of_isHistory {op : MigrateOp} (h : op.isHistory = true) :
    w.blocker i op = none := by
  cases op with
  | enter _ => rfl
  | _ => cases h

/-- An operation fails, or succeeds without having to wait. -/
theorem exec_cases (platform : Platform) {op : MigrateOp} {e : MigrateEnv}
    (hguard : guard i w op e) :
    (∃ err applied, op.isHistory = false ∧
      (machine platform i).exec e op w = (.error err, w.fail i applied op)) ∨
    ∃ now, w.blocker i op = none ∧
      (machine platform i).exec e op w = w.perform platform i now op := by
  cases e with
  | fails err applied =>
      cases hhistory : op.isHistory with
      | true =>
          exact .inr ⟨0, blocker_of_isHistory hhistory, by simp [machine, hhistory]⟩
      | false => exact .inl ⟨err, applied, rfl, by simp [machine, hhistory]⟩
  | succeeds now => exact .inr ⟨now, hguard rfl, rfl⟩

/-- What another run does leaves a waiting one alone. -/
theorem rely_exec {op : MigrateOp} {e : MigrateEnv} (hne : i ≠ j) (h : Inv platform w)
    (hguard : guard j w op e) (hinv : Inv platform ((machine platform j).exec e op w).2) :
    Rely platform i w ((machine platform j).exec e op w).2 := by
  obtain ⟨err, applied, -, heq⟩ | ⟨now, hfree, heq⟩ := exec_cases platform hguard
  · rw [heq] at hinv ⊢
    exact rely_fail hne h hinv
  · rw [heq] at hinv ⊢
    exact rely_perform hne h hfree hinv

end

/-! ### The stages of a run -/

/-- What applying the files writes. -/
def appliedWrites (now : Timestamp) (done : List Text) : List Write :=
  done.flatMap fun file => [.up file, .insertVersion ⟨file, now⟩]

/-- What undoing them writes. -/
def undoneWrites (done : List Text) : List Write :=
  done.flatMap fun file => [.down file, .deleteVersion file]

section

variable (platform : Platform) (i : Nat) (run : Run)

/-- Program `i` is this run, and has committed nothing. -/
structure Running (w : World) : Prop where
  inv : Inv platform w
  quiet : w.Quiet i
  entered : w.runs i = some run
  fits : w.regular = true → run.fits platform = true

/-- It has written `ws` in its transaction. -/
structure Opened (ws : List Write) (w : World) : Prop extends Running platform i run w where
  writes : w.db.writes i = some ws

/-- It has locked the row, and written `ws` since. -/
structure Holding (ws : List Write) (w : World) : Prop extends Running platform i run w where
  holder : w.db.holder .row = some i
  writes : ∃ setup : List Write, (∀ ω ∈ setup, ω = .createTables) ∧
    w.db.writes i = some (setup ++ ws)

/-- It is done with the files `done`, and has `rest` to apply. -/
structure Applying (done rest : List Text) (ws : List Write) (w : World) : Prop
    extends Holding platform i run ws w where
  files : ∀ directory, run = .up directory →
    pending platform directory w.db.committed.schema = done ++ rest
  later : done ≠ [] → w.regular = true → ∀ row ∈ w.db.committed.rows, row.appliedAt < w.began i

/-- It is done with the files `done`, and has `rest` to undo. -/
structure Undoing (n : Nat) (done rest : List Text) (ws : List Write) (w : World) : Prop
    extends Holding platform i run ws w where
  targets : ∀ newest, w.db.committed.newest platform = .ok newest → newest.take n = done ++ rest

/-- The end of the transaction is all that is left to do. -/
def Complete (w : World) : Prop :=
  (∃ directory done, run = .up directory ∧
    Applying platform i run done [] (appliedWrites (w.began i) done) w) ∨
  ∃ (directory : Directory) (count : Option Int) (n : Nat) (done : List Text),
    run = .down directory count ∧ count = some (n : Int) ∧ 1 ≤ n ∧
    Undoing platform i run n done [] (undoneWrites done) w

/-- It has committed. -/
def Committed (w : World) : Prop := Inv platform w ∧ ∃ c ∈ w.commits, c.program = i

end

section

variable {platform : Platform} {i : Nat} {run : Run} {w w' : World} {ws : List Write}
  {done rest : List Text} {n : Nat}

theorem Running.stable (h : Running platform i run w) (hrely : Rely platform i w w') :
    Running platform i run w' :=
  ⟨hrely.inv, hrely.quiet h.quiet, hrely.runs.trans h.entered,
    fun hregular => h.fits (hrely.regular hregular)⟩

theorem Opened.stable (h : Opened platform i run ws w) (hrely : Rely platform i w w') :
    Opened platform i run ws w' :=
  ⟨h.toRunning.stable hrely, hrely.alone.writes.trans h.writes⟩

theorem Holding.stable (h : Holding platform i run ws w) (hrely : Rely platform i w w') :
    Holding platform i run ws w' := by
  refine ⟨h.toRunning.stable hrely, (hrely.alone.holder _).mpr h.holder, ?_⟩
  rw [hrely.alone.writes]
  exact h.writes

theorem Applying.stable (h : Applying platform i run done rest ws w)
    (hrely : Rely platform i w w') : Applying platform i run done rest ws w' := by
  obtain ⟨hrows, hschema⟩ := hrely.kept h.holder
  refine ⟨h.toHolding.stable hrely, ?_, fun hdone hregular => ?_⟩
  · rw [hschema]
    exact h.files
  · rw [hrows, hrely.began]
    exact h.later hdone (hrely.regular hregular)

theorem newest_congr {tables tables' : Tables} (h : tables'.rows = tables.rows) :
    tables'.newest platform = tables.newest platform := by
  rw [Tables.newest, h, Tables.newest]

theorem Undoing.stable (h : Undoing platform i run n done rest ws w)
    (hrely : Rely platform i w w') : Undoing platform i run n done rest ws w' := by
  refine ⟨h.toHolding.stable hrely, ?_⟩
  rw [newest_congr (hrely.kept h.holder).1]
  exact h.targets

theorem Complete.stable (h : Complete platform i run w) (hrely : Rely platform i w w') :
    Complete platform i run w' := by
  obtain ⟨directory, done, hrun, happlying⟩ |
    ⟨directory, count, n, done, hrun, hcount, hn, hundoing⟩ := h
  · refine .inl ⟨directory, done, hrun, ?_⟩
    rw [hrely.began]
    exact happlying.stable hrely
  · exact .inr ⟨directory, count, n, done, hrun, hcount, hn, hundoing.stable hrely⟩

theorem Complete.running (h : Complete platform i run w) : Running platform i run w := by
  obtain ⟨directory, done, -, happlying⟩ | ⟨directory, count, n, done, -, -, -, hundoing⟩ := h
  · exact happlying.toRunning
  · exact hundoing.toRunning

theorem Committed.stable (h : Committed platform i w) (hrely : Rely platform i w w') :
    Committed platform i w' := by
  obtain ⟨-, c, hc, hi⟩ := h
  exact ⟨hrely.inv, c, (hrely.commits c hi).mpr hc, hi⟩

/-! ### What a complete run commits -/

theorem foldl_applied (now : Timestamp) : ∀ (done : List Text) (tables : Tables),
    (appliedWrites now done).foldl Tables.apply tables =
      ⟨tables.ready, tables.rows ++ done.map fun file => ⟨file, now⟩, tables.schema ++ done⟩
  | [], tables => by simp [appliedWrites]
  | file :: done, tables => by
      rw [appliedWrites, List.flatMap_cons, List.foldl_append, ← appliedWrites,
        foldl_applied now done]
      simp [Tables.apply]

theorem foldl_undone : ∀ (done : List Text) (tables : Tables),
    (undoneWrites done).foldl Tables.apply tables =
      ⟨tables.ready, tables.rows.filter fun row => !done.contains row.version,
        tables.schema.filter fun file => !done.contains file⟩
  | [], tables => by simp [undoneWrites]
  | file :: done, tables => by
      rw [undoneWrites, List.flatMap_cons, List.foldl_append, ← undoneWrites, foldl_undone done]
      simp [Tables.apply, List.filter_filter, Bool.and_comm]

/-- What the transaction sees, in terms of what it has written since it has the lock. -/
theorem Holding.view (h : Holding platform i run ws w) :
    ∃ ready, w.db.view Tables.apply i =
      ws.foldl Tables.apply ⟨ready, w.db.committed.rows, w.db.committed.schema⟩ := by
  obtain ⟨setup, hsetup, hwrites⟩ := h.writes
  obtain ⟨hrows, hschema⟩ := foldl_of_createTables hsetup w.db.committed
  refine ⟨(setup.foldl Tables.apply w.db.committed).ready, ?_⟩
  rw [TxStore.view, hwrites, Option.getD_some, List.foldl_append, ← hrows, ← hschema]

theorem filterMap_setup {setup : List Write} (hsetup : ∀ ω ∈ setup, ω = .createTables) :
    setup.filterMap Write.applied? = [] ∧ setup.filterMap Write.undone? = [] := by
  constructor <;>
  · refine List.filterMap_eq_nil_iff.mpr fun ω hω => ?_
    rw [hsetup ω hω]
    rfl

theorem filterMap_applied (now : Timestamp) (done : List Text) :
    (appliedWrites now done).filterMap Write.applied? = done ∧
      (appliedWrites now done).filterMap Write.undone? = [] := by
  rw [appliedWrites, List.filterMap_flatMap, List.filterMap_flatMap]
  show (done.flatMap fun file => [file]) = done ∧ (done.flatMap fun _ => []) = ([] : List Text)
  simp

theorem filterMap_undone (done : List Text) :
    (undoneWrites done).filterMap Write.applied? = [] ∧
      (undoneWrites done).filterMap Write.undone? = done := by
  rw [undoneWrites, List.filterMap_flatMap, List.filterMap_flatMap]
  show (done.flatMap fun _ => []) = ([] : List Text) ∧ (done.flatMap fun file => [file]) = done
  simp

/-- What a run that has applied `done` commits. -/
theorem Applying.commitOf {directory : Directory} (hrun : run = .up directory)
    (h : Applying platform i run done [] (appliedWrites (w.began i) done) w) :
    w.commitOf i = ⟨i, some (.up directory), w.db.committed.schema,
      w.db.committed.schema ++ done, done, []⟩ := by
  obtain ⟨ready, hview⟩ := h.view
  obtain ⟨setup, hsetup, hwrites⟩ := h.writes
  obtain ⟨hnone, hnone'⟩ := filterMap_setup hsetup
  obtain ⟨happlied, hundone⟩ := filterMap_applied (w.began i) done
  rw [World.commitOf, hview, foldl_applied, hwrites, Option.getD_some, List.filterMap_append,
    List.filterMap_append, hnone, hnone', happlied, hundone, h.entered, hrun]
  rfl

theorem Undoing.commitOf
    (h : Undoing platform i run n done [] (undoneWrites done) w) :
    w.commitOf i = ⟨i, some run, w.db.committed.schema,
      w.db.committed.schema.filter fun file => !done.contains file, [], done⟩ := by
  obtain ⟨ready, hview⟩ := h.view
  obtain ⟨setup, hsetup, hwrites⟩ := h.writes
  obtain ⟨hnone, hnone'⟩ := filterMap_setup hsetup
  obtain ⟨happlied, hundone⟩ := filterMap_undone done
  rw [World.commitOf, hview, foldl_undone, hwrites, Option.getD_some, List.filterMap_append,
    List.filterMap_append, hnone, hnone', happlied, hundone, h.entered]
  rfl

theorem pending_nodup (platform : Platform) (directory : Directory) (schema : List Text) :
    (pending platform directory schema).Nodup :=
  (files_nodup platform directory).filter _

theorem Applying.commit {directory : Directory} (hrun : run = .up directory)
    (h : Applying platform i run done [] (appliedWrites (w.began i) done) w) :
    Inv platform (w.commit i) := by
  obtain ⟨ready, hview⟩ := h.view
  rw [foldl_applied] at hview
  have hfiles : pending platform directory w.db.committed.schema = done := by
    rw [h.files directory hrun, List.append_nil]
  have hversions : (done.map fun file => (⟨file, w.began i⟩ : Row)).map Row.version = done := by
    simp [Function.comp_def]
  refine h.inv.commit h.quiet ?_ ?_ ?_ fun hregular => ?_
  · rw [hview, List.map_append, h.inv.listed, hversions]
  · rw [hview, ← hfiles]
    refine List.nodup_append.mpr ⟨h.inv.once, pending_nodup _ _ _, fun a ha b hb heq => ?_⟩
    have hnew := (List.mem_filter.mp hb).2
    rw [← heq] at hnew
    simp [ha] at hnew
  · rw [h.commitOf hrun]
    refine ⟨fun directory' hrun' => ?_, fun _ _ hrun' => by cases hrun'⟩
    obtain rfl := Run.up.inj (Option.some.inj hrun')
    exact ⟨hfiles.symm, rfl, rfl⟩
  · obtain ⟨hordered, hnumbered, -⟩ := h.inv.regular hregular
    have hfits : directory.fits platform = true := by
      have := h.fits hregular
      rwa [hrun] at this
    have hsub : done.Sublist ((listMigrations platform directory).map MigrationFile.file) := by
      rw [← hfiles]
      exact List.filter_sublist
    have hkeys := (files_pairwise hfits).sublist hsub
    refine ⟨?_, ?_, ?_⟩
    · rw [hview]
      refine List.pairwise_append.mpr ⟨hordered, List.pairwise_map.mpr (hkeys.imp fun hab => ?_),
        fun row hrow new hnew => ?_⟩
      · exact Prod.Lex.toLex_lt_toLex.mpr (.inr ⟨rfl, hab⟩)
      · obtain ⟨file, hfile, rfl⟩ := List.mem_map.mp hnew
        exact Prod.Lex.toLex_lt_toLex.mpr
          (.inl (h.later (List.ne_nil_of_mem hfile) hregular row hrow))
    · rw [hview]
      intro row hrow
      rcases List.mem_append.mp hrow with hrow | hrow
      · exact hnumbered row hrow
      · obtain ⟨file, hfile, rfl⟩ := List.mem_map.mp hrow
        exact numbered_of_fits hfits (hsub.subset hfile)
    · rw [h.commitOf hrun]
      exact ⟨fun _ _ => hkeys.imp sequence_le_of_numberKey_lt, fun _ _ hrun' => by cases hrun'⟩

/-- Without its end, a list is its beginning. -/
theorem filter_not_mem_drop {l : List Text} (hl : l.Nodup) (k : Nat) :
    (l.filter fun file => !(l.drop k).reverse.contains file) = l.take k := by
  have hdisjoint := List.disjoint_take_drop hl (Nat.le_refl k)
  conv_lhs => rw [← List.take_append_drop k l]
  rw [List.filter_append, List.take_append_drop,
    List.filter_eq_self.mpr fun file hfile => ?_, List.filter_eq_nil_iff.mpr fun file hfile => ?_,
    List.append_nil]
  · simpa using hfile
  · simpa using hdisjoint hfile

theorem Undoing.commit {directory : Directory} {count : Option Int}
    (hrun : run = .down directory count) (hcount : count = some (n : Int)) (hn : 1 ≤ n)
    (h : Undoing platform i run n done [] (undoneWrites done) w) :
    Inv platform (w.commit i) := by
  obtain ⟨ready, hview⟩ := h.view
  rw [foldl_undone] at hview
  refine h.inv.commit h.quiet ?_ ?_ ?_ fun hregular => ?_
  · rw [hview, ← h.inv.listed, List.filter_map]
    rfl
  · rw [hview]
    exact h.inv.once.filter _
  · rw [h.commitOf]
    refine ⟨fun _ hrun' => ?_, fun _ _ _ => ⟨rfl, rfl⟩⟩
    rw [hrun] at hrun'
    cases hrun'
  · obtain ⟨hordered, hnumbered, -⟩ := h.inv.regular hregular
    have htargets := h.targets _ (newest_of_pairwise hordered hnumbered)
    rw [h.inv.listed, List.take_reverse, List.append_nil] at htargets
    refine ⟨?_, ?_, ?_⟩
    · rw [hview]
      exact hordered.filter _
    · rw [hview]
      exact fun row hrow => hnumbered row (List.mem_of_mem_filter hrow)
    · rw [h.commitOf, ← htargets, filter_not_mem_drop h.inv.once]
      refine ⟨fun _ hrun' => ?_, fun directory' count' hrun' => ?_⟩
      · rw [hrun] at hrun'
        cases hrun'
      · rw [hrun] at hrun'
        obtain ⟨-, rfl⟩ := Run.down.inj (Option.some.inj hrun')
        exact ⟨n, hcount, hn, rfl, rfl⟩

theorem Complete.commit (h : Complete platform i run w) : Inv platform (w.commit i) := by
  obtain ⟨directory, done, hrun, happlying⟩ |
    ⟨directory, count, n, done, hrun, hcount, hn, hundoing⟩ := h
  · exact happlying.commit hrun
  · exact hundoing.commit hrun hcount hn

/-! ### Operations -/

/-- Running `p` as program `i` among others. -/
abbrev Does {α : Type} (platform : Platform) (i : Nat) (p : Call α) (P : α → World → Prop)
    (w : World) : Prop :=
  p.wp (machine platform i).among (Among (Rely platform i) (guard i)) (Inv platform)
    (Prog.Ends P fun _ => Inv platform) w

theorem Inv.fail (h : Inv platform w) (op : MigrateOp) : Inv platform (w.fail i false op) := by
  cases op with
  | client _ | start | commit | rollback => exact h.abort i
  | enter _ | readdir | readFile _ | connect | analyze => exact h

/-- One operation: what is left to show is what happens when it takes effect. -/
theorem does_call {op : MigrateOp} {A : World → Prop} {P : migrateSig.Ans op → World → Prop}
    (hstable : ∀ w w', A w → Rely platform i w w' → A w')
    (hinv : ∀ w, A w → Inv platform w) (hw : A w)
    (hfails : ∀ w, A w → Inv platform (w.fail i true op))
    (h : ∀ w now, A w → w.blocker i op = none →
      Inv platform (w.perform platform i now op).2 ∧
        Prog.Ends P (fun _ => Inv platform) (w.perform platform i now op).1
          (w.perform platform i now op).2) : Does platform i (call op) P w := by
  refine Prog.wp_call_among hstable hw fun w' e _ hw' hguard => ?_
  obtain ⟨err, applied, -, heq⟩ | ⟨now, hfree, heq⟩ := exec_cases platform hguard
  · rw [heq]
    cases applied with
    | false => exact ⟨(hinv w' hw').fail op, (hinv w' hw').fail op⟩
    | true => exact ⟨hfails w' hw', hfails w' hw'⟩
  · rw [heq]
    exact h w' now hw' hfree

/-- An operation on the side: a file is read, a connection made, or the statistics refreshed. -/
def MigrateOp.isAside : MigrateOp → Bool
  | .readdir | .readFile _ | .connect | .analyze => true
  | _ => false

theorem does_aside {op : MigrateOp} (haside : op.isAside = true) {A : World → Prop}
    (hstable : ∀ w w', A w → Rely platform i w w' → A w')
    (hinv : ∀ w, A w → Inv platform w) (hw : A w) :
    Does platform i (call op) (fun _ => A) w := by
  refine does_call hstable hinv hw (fun w hw => ?_) fun w now hw _ => ?_
  · cases op with
    | readdir | readFile _ | connect | analyze => exact hinv w hw
    | _ => cases haside
  · cases op with
    | readdir | readFile _ | connect | analyze => exact ⟨hinv w hw, hw⟩
    | _ => cases haside

/-- A statement of the transaction. -/
theorem does_client {statement : Statement} {A : World → Prop} {P : statement.Ans → World → Prop}
    (hstable : ∀ w w', A w → Rely platform i w w' → A w')
    (hinv : ∀ w, A w → Inv platform w) (hw : A w)
    (h : ∀ w answer ws, A w → w.blocker i (.client statement) = none →
      statement.run platform (w.db.view Tables.apply i) (w.began i) = (.ok answer, ws) →
      Inv platform (w.client platform i statement).2 ∧
        Prog.Ends P (fun _ => Inv platform) (w.client platform i statement).1
          (w.client platform i statement).2) : Does platform i (client statement) P w := by
  refine does_call hstable hinv hw (fun w hw => (hinv w hw).abort i) fun w now hw hfree => ?_
  show Inv platform (w.client platform i statement).2 ∧
    Prog.Ends P _ (w.client platform i statement).1 (w.client platform i statement).2
  rcases hrun : statement.run platform (w.db.view Tables.apply i) (w.began i) with ⟨answer, ws⟩
  cases answer with
  | error err =>
      have hclient : w.client platform i statement = (.error err, w.abort i) := by
        rw [World.client, hrun]
      rw [hclient]
      exact ⟨(hinv w hw).abort i, (hinv w hw).abort i⟩
  | ok answer => exact h w answer ws hw hfree hrun

/-- A statement that writes while the row is locked. -/
theorem Holding.write (h : Holding platform i run ws w) (ω : Write) (inTurn : Bool) :
    Holding platform i run (ws ++ [ω])
      { w with db := w.db.write i [ω], regular := w.regular && inTurn } := by
  obtain ⟨setup, hsetup, hwrites⟩ := h.writes
  have hinv := h.inv.write [ω] hwrites (fun _ _ _ => h.holder) inTurn
  refine ⟨⟨hinv, h.quiet, h.entered, fun hregular => h.fits (Bool.and_eq_true_iff.mp hregular).1⟩,
    h.holder, setup, hsetup, ?_⟩
  show (w.db.write i [ω]).writes i = _
  rw [TxStore.write_writes_self, hwrites, Option.map_some, List.append_assoc]

/-- The transaction has written at most the runner's own tables. -/
def Prepared (platform : Platform) (i : Nat) (run : Run) (w : World) : Prop :=
  ∃ setup, (∀ ω ∈ setup, ω = Write.createTables) ∧ Opened platform i run setup w

theorem Prepared.stable (h : Prepared platform i run w) (hrely : Rely platform i w w') :
    Prepared platform i run w' := by
  obtain ⟨setup, hsetup, hopened⟩ := h
  exact ⟨setup, hsetup, hopened.stable hrely⟩

theorem Prepared.inv (h : Prepared platform i run w) : Inv platform w := by
  obtain ⟨setup, -, hopened⟩ := h
  exact hopened.toRunning.inv

theorem Opened.write (h : Opened platform i run [] w) (setup : List Write)
    (hsetup : ∀ ω ∈ setup, ω = Write.createTables) :
    Prepared platform i run
      { w with db := w.db.write i setup, regular := w.regular && true } := by
  have hinv := h.inv.write setup h.writes (fun ω hω hne => absurd (hsetup ω hω) hne) true
  refine ⟨setup, hsetup, ⟨hinv, h.quiet, h.entered,
    fun hregular => h.fits (Bool.and_eq_true_iff.mp hregular).1⟩, ?_⟩
  show (w.db.write i setup).writes i = _
  rw [TxStore.write_writes_self, h.writes]
  rfl

theorem Prepared.lock (h : Prepared platform i run w) {l : Lock}
    (hfree : (w.db.holder l).filter (· ≠ i) = none) :
    Prepared platform i run { w with db := w.db.lock i l } := by
  obtain ⟨setup, hsetup, hopened⟩ := h
  exact ⟨setup, hsetup, ⟨hopened.inv.lock hfree, hopened.quiet, hopened.entered, hopened.fits⟩,
    hopened.writes⟩

theorem does_ensureTables (hw : Opened platform i run [] w) :
    Does platform i (client .ensureTables) (fun _ => Prepared platform i run) w := by
  refine does_client (fun _ _ h => h.stable) (fun _ h => h.inv) hw
    fun w answer ws hw hfree hrun => ?_
  rw [World.client, hrun]
  cases hrun
  dsimp only
  cases hready : (w.db.view Tables.apply i).ready with
  | true =>
      have hprepared := hw.write [] fun ω hω => absurd hω List.not_mem_nil
      exact ⟨hprepared.inv, hprepared⟩
  | false =>
      have hprepared := (hw.write [.createTables] fun ω hω => List.mem_singleton.mp hω).lock hfree
      exact ⟨hprepared.inv, hprepared⟩

theorem does_lockRow (hw : Prepared platform i run w) :
    Does platform i (client .lockRow) (fun _ => Holding platform i run []) w := by
  refine does_client (fun _ _ h => h.stable) (fun _ h => h.inv) hw
    fun w answer ws hw hfree hrun => ?_
  rw [World.client, hrun]
  cases hrun
  dsimp only [World.inTurn]
  rw [TxStore.write_nil, Bool.and_true]
  obtain ⟨setup, hsetup, hopened⟩ := hw
  have hinv := hopened.inv.lock hfree
  exact ⟨hinv, ⟨hinv, hopened.quiet, hopened.entered, hopened.fits⟩,
    TxStore.lock_holder_self _ _ _, setup, hsetup, by rw [List.append_nil]; exact hopened.writes⟩

/-! ### The loops -/

theorem view_of_holding (h : Holding platform i run [] w) :
    (w.db.view Tables.apply i).rows = w.db.committed.rows := by
  obtain ⟨ready, hview⟩ := h.view
  rw [hview]
  rfl

theorem does_selectApplied {directory : Directory}
    (hw : Holding platform i (.up directory) [] w) :
    Does platform i (client .selectApplied)
      (fun applied => Applying platform i (.up directory) []
        (((listMigrations platform directory).filter fun migration =>
          !applied.contains migration.file).map MigrationFile.file) []) w := by
  refine does_client (fun _ _ h => h.stable) (fun _ h => h.inv) hw
    fun w answer ws hw hfree hrun => ?_
  rw [World.client, hrun]
  cases hrun
  dsimp only [World.inTurn]
  rw [TxStore.write_nil, Bool.and_true, view_of_holding hw]
  refine ⟨hw.inv, hw, fun directory' hrun' => ?_, fun hdone => absurd rfl hdone⟩
  obtain rfl := Run.up.inj hrun'
  rw [pending, List.filter_map, List.nil_append]
  refine congrArg _ (List.filter_congr fun migration _ => ?_)
  have hmem : migration.file ∈ (Sql.orderBy (appliedKey platform) w.db.committed.rows).map
      Row.version ↔ migration.file ∈ w.db.committed.schema := by
    rw [← hw.inv.listed]
    exact ((Sql.orderBy_perm _ _).map _).mem_iff
  rw [Bool.eq_iff_iff, Function.comp_apply, Bool.not_eq_true', Bool.not_eq_true',
    List.contains_eq_mem, List.contains_eq_mem, decide_eq_false_iff_not, decide_eq_false_iff_not,
    hmem]

/-- With what it has written for the files that it is done with, and for half of the next one. -/
def Applied (platform : Platform) (i : Nat) (directory : Directory) (done rest : List Text)
    (half : List Write) (w : World) : Prop :=
  Applying platform i (.up directory) done rest (appliedWrites (w.began i) done ++ half) w

theorem Applied.stable {directory : Directory} {half : List Write}
    (h : Applied platform i directory done rest half w) (hrely : Rely platform i w w') :
    Applied platform i directory done rest half w' := by
  rw [Applied, hrely.began]
  exact Applying.stable h hrely

theorem does_up {directory : Directory} {file : Text}
    (hw : Applied platform i directory done (file :: rest) [] w) :
    Does platform i (client (.up file))
      (fun _ => Applied platform i directory done (file :: rest) [.up file]) w := by
  refine does_client (fun _ _ h => h.stable) (fun _ h => h.toHolding.inv) hw
    fun w answer ws' hw hfree hrun => ?_
  rw [World.client, hrun]
  cases hrun
  rw [Applied, List.append_nil] at hw
  have hholding := hw.toHolding.write (.up file) true
  exact ⟨hholding.inv, hholding, hw.files, fun hdone hregular =>
    hw.later hdone (Bool.and_eq_true_iff.mp hregular).1⟩

theorem does_insertVersion {directory : Directory} {file : Text}
    (hw : Applied platform i directory done (file :: rest) [.up file] w) :
    Does platform i (client (.insertVersion file))
      (fun _ => Applied platform i directory (done ++ [file]) rest []) w := by
  refine does_client (fun _ _ h => h.stable) (fun _ h => h.toHolding.inv) hw
    fun w answer ws' hw hfree hrun => ?_
  have hws : ws' = [.insertVersion ⟨file, w.began i⟩] := by
    rw [Statement.run] at hrun
    split at hrun
    · cases hrun
    · exact (Prod.mk.inj hrun).2.symm
  rw [World.client, hrun, hws]
  have hholding := hw.toHolding.write (.insertVersion ⟨file, w.began i⟩)
    (w.inTurn i (.insertVersion file))
  have hwritten : appliedWrites (w.began i) done ++ [.up file] ++
      [.insertVersion ⟨file, w.began i⟩] = appliedWrites (w.began i) (done ++ [file]) ++ [] := by
    simp [appliedWrites]
  rw [hwritten] at hholding
  refine ⟨hholding.inv, hholding, fun directory' hrun' => ?_, fun _ hregular row hrow => ?_⟩
  · rw [List.append_assoc]
    exact hw.files directory' hrun'
  · have hturn := (Bool.and_eq_true_iff.mp hregular).2
    exact of_decide_eq_true (List.all_eq_true.mp hturn row hrow)

/-- By induction on the files that are left. -/
theorem does_applyAll {directory : Directory} (migrations : List MigrationFile) :
    ∀ {done : List Text} {w : World},
      Applied platform i directory done (migrations.map MigrationFile.file) [] w →
      Does platform i (applyAll migrations) (fun _ => Complete platform i (.up directory)) w := by
  induction migrations with
  | nil =>
      intro done w hw
      rw [Applied, List.append_nil] at hw
      exact .inl ⟨directory, done, rfl, hw⟩
  | cons migration migrations ih =>
      intro done w hw
      refine Prog.wp_bind (does_aside rfl (fun _ _ h => h.stable) (fun _ h => h.toHolding.inv) hw)
        fun _ w hw => ?_
      refine Prog.wp_bind (does_up hw) fun _ w hw => ?_
      exact Prog.wp_bind (does_insertVersion hw) fun _ w hw => ih hw

theorem does_applyPending {directory : Directory}
    (hw : Holding platform i (.up directory) [] w) :
    Does platform i (applyPending (listMigrations platform directory))
      (fun _ => Complete platform i (.up directory)) w := by
  refine Prog.wp_bind (does_selectApplied hw) fun applied w hw => ?_
  have hstart : Applied platform i directory [] _ [] w := hw
  exact does_applyAll _ hstart

theorem does_selectNewest {directory : Directory} {count : Option Int} (n : Nat)
    (hw : Holding platform i (.down directory count) [] w) :
    Does platform i (client .selectNewest)
      (fun newest => Undoing platform i (.down directory count) n [] (newest.take n) []) w := by
  refine does_client (fun _ _ h => h.stable) (fun _ h => h.inv) hw
    fun w answer ws hw hfree hrun => ?_
  rw [World.client, hrun]
  rw [Statement.run, newest_congr (view_of_holding hw)] at hrun
  obtain ⟨hnewest, hws⟩ := Prod.mk.inj hrun
  subst hws
  dsimp only [World.inTurn]
  rw [TxStore.write_nil, Bool.and_true]
  refine ⟨hw.inv, hw, fun newest hnewest' => ?_⟩
  obtain rfl := Except.ok.inj (hnewest.symm.trans hnewest')
  rfl

theorem does_down {file : Text}
    (hw : Undoing platform i run n done (file :: rest) (undoneWrites done) w) :
    Does platform i (client (.down file))
      (fun _ => Undoing platform i run n done (file :: rest)
        (undoneWrites done ++ [.down file])) w := by
  refine does_client (fun _ _ h => h.stable) (fun _ h => h.toHolding.inv) hw
    fun w answer ws' hw hfree hrun => ?_
  rw [World.client, hrun]
  cases hrun
  have hholding := hw.toHolding.write (.down file) true
  exact ⟨hholding.inv, hholding, hw.targets⟩

theorem does_deleteVersion {file : Text}
    (hw : Undoing platform i run n done (file :: rest) (undoneWrites done ++ [.down file]) w) :
    Does platform i (client (.deleteVersion file))
      (fun _ => Undoing platform i run n (done ++ [file]) rest
        (undoneWrites (done ++ [file]))) w := by
  refine does_client (fun _ _ h => h.stable) (fun _ h => h.toHolding.inv) hw
    fun w answer ws' hw hfree hrun => ?_
  rw [World.client, hrun]
  cases hrun
  have hholding := hw.toHolding.write (.deleteVersion file) true
  have hwritten : undoneWrites done ++ [.down file] ++ [.deleteVersion file] =
      undoneWrites (done ++ [file]) := by
    simp [undoneWrites]
  rw [hwritten] at hholding
  refine ⟨hholding.inv, hholding, fun newest hnewest => ?_⟩
  rw [List.append_assoc]
  exact hw.targets newest hnewest

theorem does_rollBackAll {directory : Directory} {count : Option Int}
    (hcount : count = some (n : Int)) (hn : 1 ≤ n) (migrations : List MigrationFile)
    (targets : List Text) : ∀ {done : List Text} {w : World},
      Undoing platform i (.down directory count) n done targets (undoneWrites done) w →
      Does platform i (rollBackAll migrations targets)
        (fun _ => Complete platform i (.down directory count)) w := by
  induction targets with
  | nil => exact fun {done w} hw => .inr ⟨directory, count, n, done, rfl, hcount, hn, hw⟩
  | cons target targets ih =>
      intro done w hw
      rw [rollBackAll]
      split
      · refine Prog.wp_bind (does_aside rfl (fun _ _ h => h.stable) (fun _ h => h.toHolding.inv)
          hw) fun _ w hw => ?_
        refine Prog.wp_bind (does_down hw) fun _ w hw => ?_
        exact Prog.wp_bind (does_deleteVersion hw) fun _ w hw => ih hw
      · exact hw.toHolding.inv

theorem does_rollBack {directory : Directory} {count : Option Int}
    (hcount : count = some (n : Int)) (hn : 1 ≤ n) (migrations : List MigrationFile)
    (hw : Holding platform i (.down directory count) [] w) :
    Does platform i (rollBack migrations n)
      (fun _ => Complete platform i (.down directory count)) w :=
  Prog.wp_bind (does_selectNewest n hw) fun _ _ hw => does_rollBackAll hcount hn migrations _ hw

/-! ### The whole run -/

theorem does_start (hw : Running platform i run w) :
    Does platform i (call .start) (fun _ => Opened platform i run []) w := by
  refine does_call (fun _ _ h => h.stable) (fun _ h => h.inv) hw (fun _ h => h.inv.abort i)
    fun w now hw _ => ?_
  have hinv := hw.inv.start i (Function.update w.began i now)
  exact ⟨hinv, ⟨hinv, hw.quiet, hw.entered, hw.fits⟩, TxStore.start_writes_self _ _⟩

theorem does_commit (hw : Complete platform i run w) :
    Does platform i (call .commit) (fun _ => Committed platform i) w := by
  refine does_call (fun _ _ h => h.stable) (fun _ h => h.running.inv) hw (fun _ h => h.commit)
    fun w now hw _ => ?_
  exact ⟨hw.commit, hw.commit, w.commitOf i, List.mem_append_right _ (List.mem_singleton_self _),
    rfl⟩

theorem does_rollback (hw : Inv platform w) :
    Does platform i (call .rollback) (fun _ => Inv platform) w :=
  does_call (fun _ _ _ hrely => hrely.inv) (fun _ h => h) hw (fun _ h => h.abort i)
    fun _ _ hw _ => ⟨hw.abort i, hw.abort i⟩

/-- A transaction commits when its handler is done, or throws. -/
theorem does_withLockedTransaction {handler : Call Unit} (hw : Running platform i run w)
    (hhandler : ∀ w, Holding platform i run [] w →
      Does platform i handler (fun _ => Complete platform i run) w) :
    Does platform i (withLockedTransaction handler) (fun _ => Committed platform i) w := by
  refine Prog.wp_bind (does_aside rfl (fun _ _ h => h.stable) (fun _ h => h.inv) hw)
    fun _ w hw => ?_
  refine Prog.wp_tryCatch (P := fun _ => Inv platform) ?_ fun err w hw =>
    Prog.wp_bind (does_rollback hw) fun _ _ hw => hw
  refine Prog.wp_bind (does_start hw) fun _ w hw => ?_
  refine Prog.wp_bind (does_ensureTables hw) fun _ w hw => ?_
  refine Prog.wp_bind (does_lockRow hw) fun _ w hw => ?_
  refine Prog.wp_bind (hhandler w hw) fun _ w hw => ?_
  exact does_commit hw

theorem does_enter (hinv : Inv platform w) (hquiet : w.Quiet i) :
    Does platform i (call (.enter run)) (fun _ => Running platform i run) w := by
  refine does_call (A := fun w => Inv platform w ∧ w.Quiet i)
    (fun _ _ h hrely => ⟨hrely.inv, hrely.quiet h.2⟩) (fun _ h => h.1) ⟨hinv, hquiet⟩
    (fun _ h => h.1) fun w now hw _ => ?_
  have hinv := hw.1.enter (Function.update w.runs i (some run)) (run.fits platform)
  exact ⟨hinv, hinv, hw.2, Function.update_self .., fun hregular =>
    (Bool.and_eq_true_iff.mp hregular).2⟩

theorem does_analyze (hw : Committed platform i w) :
    Does platform i (call .analyze) (fun _ => Committed platform i) w :=
  does_aside rfl (fun _ _ h => h.stable) (fun _ h => h.1) hw

theorem does_runUp (directory : Directory) (hinv : Inv platform w) (hquiet : w.Quiet i) :
    Does platform i (runUp platform directory) (fun _ => Committed platform i) w := by
  refine Prog.wp_bind (does_enter hinv hquiet) fun _ w hw => ?_
  refine Prog.wp_bind (does_aside rfl (fun _ _ h => h.stable) (fun _ h => h.inv) hw)
    fun _ w hw => ?_
  refine Prog.wp_bind (does_withLockedTransaction hw fun _ => does_applyPending) fun _ w hw => ?_
  exact does_analyze hw

theorem does_runDown (directory : Directory) (count : Option Int) (hinv : Inv platform w)
    (hquiet : w.Quiet i) :
    Does platform i (runDown platform directory count) (fun _ => Committed platform i) w := by
  refine Prog.wp_bind (does_enter hinv hquiet) fun _ w hw => ?_
  split
  · exact hw.inv
  · rename_i n hfilter
    obtain ⟨hcount, hpositive⟩ := Option.filter_eq_some_iff.mp hfilter
    have hn : 1 ≤ n := of_decide_eq_true hpositive
    have hnat : count = some ((n.toNat : Nat) : Int) := by
      rw [hcount, Int.toNat_of_nonneg (by omega)]
    refine Prog.wp_bind (does_aside rfl (fun _ _ h => h.stable) (fun _ h => h.inv) hw)
      fun _ w hw => ?_
    refine Prog.wp_bind (does_withLockedTransaction hw fun _ =>
      does_rollBack hnat (by omega) _) fun _ w hw => ?_
    exact does_analyze hw

end

/-! ### Any number of runs -/

theorem inv_init (platform : Platform) : Inv platform World.init where
  listed := rfl
  once := List.nodup_nil
  chain := rfl
  programs := List.nodup_nil
  whole _ h := absurd h List.not_mem_nil
  regular _ := ⟨List.Pairwise.nil, fun _ h => absurd h List.not_mem_nil,
    fun _ h => absurd h List.not_mem_nil⟩
  locked i ω hi := by
    obtain ⟨ws, hws, -⟩ := hi
    cases hws

theorem runs_proved (platform : Platform) :
    Crew.Proved (machine platform) guard (IsRun platform) Never (Inv platform) (Rely platform)
      (fun i w => Inv platform w ∧ w.Quiet i)
      (fun i => Prog.Ends (fun _ => Committed platform i) fun _ => Inv platform) where
  refl _ _ h := .refl h
  trans _ _ _ _ h h' := h.trans h'
  stays _ _ _ h hrely := ⟨hrely.inv, hrely.quiet h.2⟩
  lasts _ r _ _ h hrely := by
    cases r with
    | ok _ => exact Committed.stable h hrely
    | error _ => exact hrely.inv
  spawned i w p hp hinv hfresh := by
    obtain ⟨directory, rfl⟩ | ⟨directory, count, rfl⟩ := hp
    · exact does_runUp directory hinv hfresh.2
    · exact does_runDown directory count hinv hfresh.2
  others i j w op e hne hinv hguard hinv' := rely_exec hne hinv hguard hinv'
  drifted _ _ _ _ hdrift := hdrift.elim

/-- What holds of every state, whatever fails and whoever is interleaved. -/
structure Atomic (platform : Platform) (w : World) (ps : List (Call Unit)) : Prop where
  /-- `schema_migrations` lists the files whose effect is there -/
  listed : w.db.committed.rows.map Row.version = w.db.committed.schema
  /-- no file is applied again before it is undone -/
  once : w.db.committed.schema.Nodup
  /-- the schema changes with the commits only -/
  chain : Chain [] w.commits w.db.committed.schema
  /-- a run has at most one commit, and one that succeeds has one -/
  programs : (w.commits.map Commit.program).Nodup
  succeeded : ∀ i, ps[i]? = some (.ret ()) → ∃ c ∈ w.commits, c.program = i
  whole : ∀ c ∈ w.commits, c.Whole platform

/-- **Migrations are atomic and applied once; they are reversible while all is regular.** -/
theorem migrations_atomic_reversible {platform : Platform} {w : World} {ps : List (Call Unit)}
    (h : Crew (machine platform) guard (IsRun platform) Never World.init w ps) :
    Atomic platform w ps ∧ (w.regular = true → ∀ c ∈ w.commits, c.InOrder) := by
  obtain ⟨hinv, hps, -⟩ := (runs_proved platform).sound (inv_init platform)
    (fun _ => ⟨inv_init platform, fun _ h => absurd h List.not_mem_nil⟩) h
  refine ⟨⟨hinv.listed, hinv.once, hinv.chain, hinv.programs, fun i hi => ?_, hinv.whole⟩,
    fun hregular => (hinv.regular hregular).inOrder⟩
  have hcommitted : Committed platform i w := hps i _ hi
  exact hcommitted.2

/-! ### Two releases

The newer one has a third file. -/

/-- By code point, as localeCompare and every collation order digits and small letters. -/
def codePoints : Platform where
  localeKey name := name.map Char.toNat
  collationKey name := name.map Char.toNat

def olderRelease : Directory where
  names := ["00001-a.sql".toList, "00001-a.down.sql".toList, "00002-b.sql".toList,
    "00002-b.down.sql".toList]
  nodup := by decide
  numbered := by decide +kernel

def newerRelease : Directory where
  names := ["00001-a.sql".toList, "00001-a.down.sql".toList, "00002-b.sql".toList,
    "00002-b.down.sql".toList, "00003-c.sql".toList, "00003-c.down.sql".toList]
  nodup := by decide
  numbered := by decide +kernel

def migrateSteps (i n : Nat) (now : Timestamp) : List (Nat × MigrateEnv) :=
  List.replicate n (i, .succeeds now)

instance (i : Nat) (w : World) (op : MigrateOp) (e : MigrateEnv) : Decidable (guard i w op e) :=
  inferInstanceAs (Decidable (_ → _))

/-- Both releases are deployed, and the newer one rolls back two files. -/
def releaseRuns : List (Call Unit) :=
  [runUp codePoints olderRelease, runUp codePoints newerRelease,
    runDown codePoints newerRelease (some 2)]

/-- One after the other. -/
def playInTurn : World × List (Call Unit) :=
  playCrew (machine codePoints)
    (migrateSteps 0 20 10 ++ migrateSteps 1 20 20 ++ migrateSteps 2 20 30) World.init releaseRuns

theorem releaseRuns_spawned :
    Crew (machine codePoints) guard (IsRun codePoints) Never World.init World.init releaseRuns :=
  Crew.spawn (Crew.spawn (Crew.spawn .init (.inl ⟨_, rfl⟩)) (.inl ⟨_, rfl⟩)) (.inr ⟨_, _, rfl⟩)

theorem releases_rolled_back :
    playInTurn.1.commits.map Commit.undone =
        [[], [], ["00003-c.sql".toList, "00002-b.sql".toList]] ∧
      ∀ c ∈ playInTurn.1.commits, c.InOrder :=
  ⟨by decide +kernel, (migrations_atomic_reversible (Crew.play _ releaseRuns_spawned
    (by decide +kernel))).2 (by decide +kernel)⟩

/-- Does a rollback undo the files that were applied last? -/
def Commit.undoesLast (c : Commit) : Bool :=
  match c.run with
  | some (.down _ (some n)) => c.undone == (c.before.drop (c.before.length - n.toNat)).reverse
  | _ => true

theorem Commit.InOrder.undoesLast {c : Commit} (h : c.InOrder) : c.undoesLast = true := by
  unfold Commit.undoesLast
  split
  · rename_i directory n hrun
    obtain ⟨m, hn, -, hundone, -⟩ := h.down directory _ hrun
    obtain rfl := Option.some.inj hn
    rw [hundone, Int.toNat_natCast]
    exact beq_self_eq_true _
  · rfl

/-- Both releases are deployed, and the newer one rolls back one file. -/
def lateRuns : List (Call Unit) :=
  [runUp codePoints olderRelease, runUp codePoints newerRelease,
    runDown codePoints newerRelease (some 1)]

/-- The newer release begins first, and gets the lock last. -/
def lateSchedule : List (Nat × MigrateEnv) :=
  migrateSteps 1 4 10 ++ migrateSteps 0 20 20 ++ migrateSteps 1 20 30 ++ migrateSteps 2 20 40

/-- A hyphen comes after an underscore for `localeCompare`, and before it by its code. -/
def underscoreFirst : Platform where
  localeKey name := name.map fun c => if c = '_' then 0 else if c = '-' then 1 else c.toNat
  collationKey name := name.map Char.toNat

def sameNumber : Directory where
  names := ["0001_b.sql".toList, "0001_b.down.sql".toList, "0001-a.sql".toList,
    "0001-a.down.sql".toList]
  nodup := by decide
  numbered := by decide +kernel

def sameNumberRuns : List (Call Unit) :=
  [runUp underscoreFirst sameNumber, runDown underscoreFirst sameNumber (some 1)]

def sameNumberSchedule : List (Nat × MigrateEnv) := migrateSteps 0 20 10 ++ migrateSteps 1 20 20

theorem lateRuns_spawned :
    Crew (machine codePoints) guard (IsRun codePoints) Never World.init World.init lateRuns :=
  Crew.spawn (Crew.spawn (Crew.spawn .init (.inl ⟨_, rfl⟩)) (.inl ⟨_, rfl⟩)) (.inr ⟨_, _, rfl⟩)

theorem sameNumberRuns_spawned :
    Crew (machine underscoreFirst) guard (IsRun underscoreFirst) Never World.init World.init
      sameNumberRuns :=
  Crew.spawn (Crew.spawn .init (.inl ⟨_, rfl⟩)) (.inr ⟨_, _, rfl⟩)

/-- A schedule after which a rollback has undone another file than the last one. -/
theorem not_inOrder_of_play {platform : Platform} (schedule : List (Nat × MigrateEnv))
    {ps : List (Call Unit)}
    (hps : Crew (machine platform) guard (IsRun platform) Never World.init World.init ps)
    (hguard : playCrewOk (machine platform) guard schedule World.init ps)
    (hwrong : (playCrew (machine platform) schedule World.init ps).1.commits.all
      Commit.undoesLast = false) :
    ¬ ∀ w ps, Crew (machine platform) guard (IsRun platform) Never World.init w ps →
      ∀ c ∈ w.commits, c.InOrder := by
  intro h
  have hrun := h _ _ (Crew.play schedule hps hguard)
  rw [List.all_eq_true.mpr fun c hc => (hrun c hc).undoesLast] at hwrong
  cases hwrong

/-- The file that is rolled back is not the one that was applied last: because the runs did not get
the lock in the order in which they began, or because the names are ordered in two ways. -/
theorem wrong_file_rolled_back :
    (¬ ∀ w ps, Crew (machine codePoints) guard (IsRun codePoints) Never World.init w ps →
      ∀ c ∈ w.commits, c.InOrder) ∧
    ¬ ∀ w ps, Crew (machine underscoreFirst) guard (IsRun underscoreFirst) Never World.init w
      ps → ∀ c ∈ w.commits, c.InOrder :=
  ⟨not_inOrder_of_play lateSchedule lateRuns_spawned (by decide +kernel) (by decide +kernel),
    not_inOrder_of_play sameNumberSchedule sameNumberRuns_spawned (by decide +kernel)
      (by decide +kernel)⟩

end BrandBlitz.Migrations

import BrandBlitz.Templates.Spawn

/-!
# BrandBlitz.Templates.SpawnedOnce

**A template spawns at most one challenge per period**, however many calls are interleaved and
whatever statements fail.

The count and the insert of a call are covered by its lock on the template's row, from before
the count to the commit. So nothing that another call commits can make the count wrong. A call
that finds a challenge never gets past marking the template, because the mark waits for that
lock. What a call has written is committed by its `COMMIT` or not at all, and after that nothing
of the call can throw.
-/

namespace BrandBlitz.Templates

open BrandBlitz.Lib
open BrandBlitz.Paging (Uuid)
open BrandBlitz.Sessions (dbError)

/-! ### What holds of the tables -/

/-- Has every spawned challenge the questions that were generated for it? -/
def Tables.Complete (deps : Deps) (tables : Tables) : Prop :=
  ∀ challenge ∈ tables.challenges, challenge.templateId.isSome →
    ∃ random brand distractors,
      tables.questions.filter (fun q => q.challengeId = challenge.id) =
        deps.generateChallengeQuestions random challenge.id brand distractors

/-- At most one challenge of a template for a period, with all its questions. -/
structure Tables.Sound (deps : Deps) (tables : Tables) : Prop where
  once : ∀ templateId period, (tables.spawned templateId period).length ≤ 1
  complete : tables.Complete deps
  /-- `challenge_id REFERENCES challenges(id)` -/
  known : ∀ q ∈ tables.questions, ∃ challenge ∈ tables.challenges, challenge.id = q.challengeId

/-! ### Transactions in flight -/

/-- Is this among the uncommitted writes of call `i`? -/
def World.Writes (w : World) (i : Nat) (write : Write) : Prop :=
  ∃ ws, w.db.writes i = some ws ∧ write ∈ ws

/-- Is call `i` about to insert the challenge? -/
abbrev World.Inserts (w : World) (i : Nat) (challenge : Challenge) : Prop :=
  w.Writes i (.insertChallenge challenge)

structure Inv (deps : Deps) (tables : Tables) (w : World) : Prop where
  sound : w.db.committed.Sound deps
  /-- Who inserts a challenge of a template has locked the template. -/
  locked : ∀ i challenge, w.Inserts i challenge →
    ∃ templateId, challenge.templateId = some templateId ∧ w.db.holder templateId = some i
  apart : ∀ i challenge, w.Inserts i challenge →
    (∀ other ∈ w.db.committed.challenges, other.id ≠ challenge.id) ∧
      ∀ j other, w.Inserts j other → other.id = challenge.id → j = i
  asks : ∀ i q, w.Writes i (.insertQuestion q) →
    ∃ challenge, w.Inserts i challenge ∧ challenge.id = q.challengeId
  /-- Nothing is committed but what is logged. -/
  replayed : w.db.committed = (w.commits.flatMap Prod.snd).foldl Tables.apply tables

/-- Call `i` has committed nothing. -/
def World.Quiet (w : World) (i : Nat) : Prop := ∀ entry ∈ w.commits, entry.1 ≠ i

/-- What others do while call `i` waits. -/
structure Rely (deps : Deps) (tables : Tables) (i : Nat) (w w' : World) : Prop where
  inv : Inv deps tables w'
  writes : w'.db.writes i = w.db.writes i
  holder : ∀ r, w'.db.holder r = some i ↔ w.db.holder r = some i
  spawned : ∀ r, w.db.holder r = some i → ∀ period,
    w'.db.committed.spawned r period = w.db.committed.spawned r period
  quiet : w.Quiet i → w'.Quiet i

section
variable {deps : Deps} {tables : Tables} {i : Nat}

theorem Rely.refl {w : World} (h : Inv deps tables w) : Rely deps tables i w w :=
  ⟨h, rfl, fun _ => Iff.rfl, fun _ _ _ => rfl, id⟩

theorem Rely.trans {w w' w'' : World} (h : Rely deps tables i w w')
    (h' : Rely deps tables i w' w'') : Rely deps tables i w w'' where
  inv := h'.inv
  writes := h'.writes.trans h.writes
  holder r := (h'.holder r).trans (h.holder r)
  spawned r hr period :=
    (h'.spawned r ((h.holder r).mpr hr) period).trans (h.spawned r hr period)
  quiet hquiet := h'.quiet (h.quiet hquiet)

/-! ### What the moves of others change -/

theorem spawned_apply {t : Tables} {write : Write} {templateId : Uuid} {period : Text}
    (h : ∀ challenge, write = .insertChallenge challenge →
      challenge.templateId ≠ some templateId) :
    (t.apply write).spawned templateId period = t.spawned templateId period := by
  cases write with
  | insertQuestion row => rfl
  | updateTemplate period' id => rfl
  | insertChallenge row =>
      have hne := h row rfl
      rw [Tables.spawned, Tables.apply, List.filter_append]
      simp [Tables.spawned, Challenge.isSpawned, hne]

theorem spawned_foldl {templateId : Uuid} {period : Text} (ws : List Write) :
    ∀ {t : Tables}, (∀ challenge, .insertChallenge challenge ∈ ws →
        challenge.templateId ≠ some templateId) →
      (ws.foldl Tables.apply t).spawned templateId period = t.spawned templateId period := by
  induction ws with
  | nil => intro t _; rfl
  | cons write ws ih =>
      intro t h
      rw [List.foldl_cons, ih fun challenge hmem => h challenge (List.mem_cons_of_mem _ hmem),
        spawned_apply]
      rintro challenge rfl
      exact h challenge List.mem_cons_self

/-- A statement writes a challenge only if it inserts that one. -/
theorem run_inserts {id : Uuid} {t : Tables} {statement : Statement} {challenge : Challenge}
    (h : .insertChallenge challenge ∈ (statement.run id t).2) :
    challenge.templateId = statement.locks id := by
  cases statement with
  | insertChallenge row =>
      have heq := List.mem_singleton.mp h
      rw [Write.insertChallenge.inj heq]
      rfl
  | insertQuestion row =>
      simp only [Statement.run] at h
      split at h <;> simp at h
  | updateTemplate period templateId => simp [Statement.run] at h
  | _ => exact absurd h List.not_mem_nil

/-- A move that leaves alone what call `i` has written and locked. -/
theorem rely_of_alone {w w' : World} (hinv : Inv deps tables w')
    (halone : TxStore.Alone i w.db w'.db)
    (hspawned : ∀ r, w.db.holder r = some i → ∀ period,
      w'.db.committed.spawned r period = w.db.committed.spawned r period)
    (hquiet : w.Quiet i → w'.Quiet i) : Rely deps tables i w w' :=
  ⟨hinv, halone.writes, halone.holder, hspawned, hquiet⟩

/-- The end of another transaction. -/
theorem rely_finish {j : Nat} {w w' : World} (hne : i ≠ j) (hinv : Inv deps tables w')
    {committed : Tables} (hdb : w'.db = w.db.finish j committed)
    (hspawned : ∀ r, w.db.holder r = some i → ∀ period,
      committed.spawned r period = w.db.committed.spawned r period)
    (hquiet : w.Quiet i → w'.Quiet i) : Rely deps tables i w w' := by
  refine rely_of_alone hinv ?_ ?_ hquiet
  · rw [hdb]
    exact TxStore.alone_finish hne
  · rw [hdb]
    exact hspawned

theorem rely_fail {j : Nat} {w : World} {op : SpawnOp} (hne : i ≠ j)
    (hinv : Inv deps tables (w.fail j op)) : Rely deps tables i w (w.fail j op) := by
  cases op with
  | query _ | connect =>
      exact ⟨hinv, rfl, fun _ => Iff.rfl, fun _ _ _ => rfl, id⟩
  | client _ | start | commit | rollback =>
      exact rely_finish hne hinv rfl (fun _ _ _ => rfl) id

theorem quiet_append {j : Nat} {w : World} {ws : List Write} {db : TxStore Tables Write Uuid}
    {waits : List (Nat × Nat)} (hne : i ≠ j) (h : w.Quiet i) :
    (⟨db, w.commits ++ [(j, ws)], waits⟩ : World).Quiet i := by
  intro entry hentry
  rcases List.mem_append.mp hentry with hentry | hentry
  · exact h entry hentry
  · rw [List.mem_singleton.mp hentry]
    exact Ne.symm hne

theorem rely_query {j : Nat} {w : World} {id : Uuid} {statement : Statement} (hne : i ≠ j)
    (hfree : w.blocker j id (.query statement) = none)
    (hinv : Inv deps tables (w.query j id statement).2) :
    Rely deps tables i w (w.query j id statement).2 := by
  unfold World.query at hinv ⊢
  dsimp only at hinv ⊢
  split
  · rename_i hempty
    rw [if_pos hempty] at hinv
    exact Rely.refl hinv
  · rename_i hwrites
    rw [if_neg hwrites] at hinv
    refine ⟨hinv, rfl, fun _ => Iff.rfl, fun r hr period => ?_, quiet_append hne⟩
    refine spawned_foldl _ fun challenge hmem htemplate => ?_
    rw [run_inserts hmem] at htemplate
    rw [World.blocker, htemplate, Option.bind_some, hr] at hfree
    cases hfree

theorem locks_of_locksRow {id row : Uuid} {t : Tables} {statement : Statement}
    (h : statement.locksRow t = some row) : statement.locks id = some row := by
  cases statement with
  | lockTemplate templateId | updateTemplate _ templateId =>
      obtain ⟨_, -, hrow⟩ := Option.map_eq_some_iff.mp h
      exact congrArg some hrow
  | _ => cases h

theorem rely_client {j : Nat} {w : World} {id : Uuid} {statement : Statement} (hne : i ≠ j)
    (hfree : w.blocker j id (.client statement) = none)
    (hinv : Inv deps tables (w.client j id statement).2) :
    Rely deps tables i w (w.client j id statement).2 := by
  unfold World.client at hinv ⊢
  dsimp only at hinv ⊢
  cases hanswer : (statement.run id (w.db.view Tables.apply j)).1 with
  | error err =>
      rw [hanswer] at hinv
      exact rely_finish hne hinv rfl (fun _ _ _ => rfl) fun h => h
  | ok answer =>
      rw [hanswer] at hinv
      dsimp only at hinv ⊢
      cases hrow : statement.locksRow (w.db.view Tables.apply j) with
      | none =>
          rw [hrow] at hinv
          exact rely_of_alone hinv (TxStore.alone_write hne) (fun _ _ _ => rfl) fun h => h
      | some row =>
          rw [hrow] at hinv
          have hfree' : (w.db.holder row).filter (· ≠ j) = none := by
            rw [World.blocker, locks_of_locksRow hrow] at hfree
            exact hfree
          exact rely_of_alone hinv
            ((TxStore.alone_write hne).trans (TxStore.alone_lock hne hfree'))
            (fun _ _ _ => rfl) fun h => h

/-- What another call does leaves a waiting one alone. -/
theorem rely_exec {j : Nat} {w : World} {op : SpawnOp} {e : SpawnEnv} (hne : i ≠ j)
    (h : Inv deps tables w) (hguard : guard j w op e)
    (hinv : Inv deps tables ((machine j).exec e op w).2) :
    Rely deps tables i w ((machine j).exec e op w).2 := by
  cases e with
  | fails err => exact rely_fail hne hinv
  | succeeds newId =>
      cases op with
      | query statement => exact rely_query hne hguard.1 hinv
      | client statement => exact rely_client hne hguard.1 hinv
      | connect => exact Rely.refl hinv
      | start =>
          exact rely_of_alone hinv (TxStore.alone_start hne) (fun _ _ _ => rfl) id
      | rollback => exact rely_finish hne hinv rfl (fun _ _ _ => rfl) id
      | commit =>
          refine rely_finish hne hinv rfl (fun r hr period => ?_) (quiet_append hne)
          refine spawned_foldl _ fun challenge hmem htemplate => ?_
          obtain ⟨templateId, htemplate', hholder⟩ :=
            h.locked j challenge ((TxStore.mem_getD_writes _).mp hmem)
          obtain rfl := Option.some.inj (htemplate'.symm.trans htemplate)
          exact hne (Option.some.inj (hr.symm.trans hholder))

/-! ### The invariant through one call -/

theorem writes_finish {w : World} {d : Tables} {commits : List (Nat × List Write)}
    {waits : List (Nat × Nat)} {j : Nat} {write : Write} :
    (⟨w.db.finish i d, commits, waits⟩ : World).Writes j write ↔ j ≠ i ∧ w.Writes j write :=
  w.db.pending_finish

/-- A transaction that begins has written nothing. -/
theorem writes_start {w : World} {j : Nat} {write : Write} :
    ({ w with db := w.db.start i } : World).Writes j write ↔ j ≠ i ∧ w.Writes j write :=
  w.db.pending_start

theorem writes_write {w : World} {ws news : List Write} {j : Nat} {write : Write}
    (hws : w.db.writes i = some ws) :
    ({ w with db := w.db.write i news } : World).Writes j write ↔
      w.Writes j write ∨ j = i ∧ write ∈ news :=
  w.db.pending_write hws

/-- A step after which some of the transactions are still in flight. -/
theorem Inv.kept {w w' : World} (h : Inv deps tables w) {keep : Nat → Prop}
    (hwrites : ∀ j write, w'.Writes j write ↔ keep j ∧ w.Writes j write)
    (hholder : ∀ j r, keep j → w.db.holder r = some j → w'.db.holder r = some j)
    (hsound : w'.db.committed.Sound deps)
    (hapart : ∀ j challenge, keep j → w.Inserts j challenge →
      ∀ other ∈ w'.db.committed.challenges, other.id ≠ challenge.id)
    (hreplayed : w'.db.committed = (w'.commits.flatMap Prod.snd).foldl Tables.apply tables) :
    Inv deps tables w' where
  sound := hsound
  locked j challenge hj := by
    obtain ⟨hkeep, hinserts⟩ := (hwrites j _).mp hj
    obtain ⟨r, hr, hheld⟩ := h.locked j challenge hinserts
    exact ⟨r, hr, hholder j r hkeep hheld⟩
  apart j challenge hj := by
    obtain ⟨hkeep, hinserts⟩ := (hwrites j _).mp hj
    refine ⟨hapart j challenge hkeep hinserts, fun k other hk => ?_⟩
    exact (h.apart j challenge hinserts).2 k other ((hwrites k _).mp hk).2
  asks j q hj := by
    obtain ⟨hkeep, hasks⟩ := (hwrites j _).mp hj
    obtain ⟨challenge, hinserts, hid⟩ := h.asks j q hasks
    exact ⟨challenge, (hwrites j _).mpr ⟨hkeep, hinserts⟩, hid⟩
  replayed := hreplayed

/-- The end of a transaction, where what it leaves is sound. -/
theorem Inv.finish {w : World} (h : Inv deps tables w) {d : Tables}
    {commits : List (Nat × List Write)} {waits : List (Nat × Nat)} (hsound : d.Sound deps)
    (hapart : ∀ j challenge, j ≠ i → w.Inserts j challenge →
      ∀ other ∈ d.challenges, other.id ≠ challenge.id)
    (hreplayed : d = (commits.flatMap Prod.snd).foldl Tables.apply tables) :
    Inv deps tables ⟨w.db.finish i d, commits, waits⟩ :=
  h.kept (fun _ _ => writes_finish)
    (fun _ _ hne hheld => (TxStore.finish_holder_eq_some_iff _ _ _).mpr ⟨hheld, hne⟩)
    hsound hapart hreplayed

theorem Inv.abort {w : World} (h : Inv deps tables w) (i : Nat) (waits : List (Nat × Nat)) :
    Inv deps tables ⟨w.db.abort i, w.commits, waits⟩ :=
  h.finish h.sound (fun j challenge _ hj => (h.apart j challenge hj).1) h.replayed

theorem Inv.fail {w : World} (h : Inv deps tables w) (i : Nat) (op : SpawnOp) :
    Inv deps tables (w.fail i op) := by
  cases op with
  | query _ | connect =>
      exact ⟨h.sound, h.locked, h.apart, h.asks, h.replayed⟩
  | client _ | start | commit | rollback => exact h.abort i _

theorem Inv.start {w : World} (h : Inv deps tables w) (i : Nat) :
    Inv deps tables { w with db := w.db.start i } :=
  h.kept (fun _ _ => writes_start) (fun _ _ _ hheld => hheld) h.sound
    (fun j challenge _ hj => (h.apart j challenge hj).1) h.replayed

/-- Locking a row that nobody else has locked. -/
theorem Inv.lock {w : World} (h : Inv deps tables w) {r : Uuid}
    (hfree : (w.db.holder r).filter (· ≠ i) = none) :
    Inv deps tables { w with db := w.db.lock i r } := by
  refine h.kept (fun _ _ => (and_iff_right trivial).symm)
    (fun j r' (_ : True) hheld => ?_) h.sound (fun j challenge _ hj => (h.apart j challenge hj).1)
    h.replayed
  exact TxStore.lock_holder_of_holder hfree hheld

/-- More writes of an open transaction. -/
theorem Inv.write {w : World} {ws news : List Write} (h : Inv deps tables w)
    (hws : w.db.writes i = some ws)
    (hlocked : ∀ challenge, .insertChallenge challenge ∈ news →
      ∃ r, challenge.templateId = some r ∧ w.db.holder r = some i)
    (hnew : ∀ challenge, .insertChallenge challenge ∈ news → w.IsNewId challenge.id)
    (hasks : ∀ q, .insertQuestion q ∈ news →
      ∃ challenge, w.Inserts i challenge ∧ challenge.id = q.challengeId) :
    Inv deps tables { w with db := w.db.write i news } where
  sound := h.sound
  locked j challenge hj := by
    rcases (writes_write hws).mp hj with hj | ⟨rfl, hmem⟩
    · exact h.locked j challenge hj
    · exact hlocked challenge hmem
  apart j challenge hj := by
    rcases (writes_write hws).mp hj with hold | ⟨rfl, hmem⟩
    · refine ⟨(h.apart j challenge hold).1, fun k other hk hid => ?_⟩
      rcases (writes_write hws).mp hk with hk | ⟨rfl, hother⟩
      · exact (h.apart j challenge hold).2 k other hk hid
      · obtain ⟨ws', hws', hmem'⟩ := hold
        exact absurd hid.symm ((hnew other hother).2 j ws' challenge hws' hmem')
    · refine ⟨fun other hother hid => (hnew challenge hmem).1 other hother hid,
        fun k other hk hid => ?_⟩
      rcases (writes_write hws).mp hk with ⟨ws', hws', hmem'⟩ | ⟨rfl, -⟩
      · exact absurd hid ((hnew challenge hmem).2 k ws' other hws' hmem')
      · rfl
  asks j q hj := by
    rcases (writes_write hws).mp hj with hj | ⟨rfl, hmem⟩
    · obtain ⟨challenge, hinserts, hid⟩ := h.asks j q hj
      exact ⟨challenge, (writes_write hws).mpr (.inl hinserts), hid⟩
    · obtain ⟨challenge, hinserts, hid⟩ := hasks q hmem
      exact ⟨challenge, (writes_write hws).mpr (.inl hinserts), hid⟩
  replayed := h.replayed

/-! ### What a call commits -/

/-- What a call writes before it updates the template. -/
def inserted (challenge : Challenge) (qs : List ChallengeQuestion) : List Write :=
  .insertChallenge challenge :: qs.map Write.insertQuestion

theorem foldl_insertQuestion (qs : List ChallengeQuestion) :
    ∀ t : Tables, (qs.map Write.insertQuestion).foldl Tables.apply t =
      { t with questions := t.questions ++ qs } := by
  induction qs with
  | nil => intro t; simp
  | cons q qs ih =>
      intro t
      rw [List.map_cons, List.foldl_cons, ih]
      simp [Tables.apply]

theorem foldl_inserted (t : Tables) (challenge : Challenge) (qs : List ChallengeQuestion)
    (period : Text) (id : Uuid) :
    let t' := (inserted challenge qs ++ [Write.updateTemplate period id]).foldl Tables.apply t
    t'.challenges = t.challenges ++ [challenge] ∧ t'.questions = t.questions ++ qs := by
  dsimp only
  rw [List.foldl_append, List.foldl_cons, List.foldl_nil, inserted, List.foldl_cons,
    foldl_insertQuestion]
  exact ⟨rfl, rfl⟩

theorem Tables.Sound.questions_eq_nil {t : Tables} (h : t.Sound deps) {id : Uuid}
    (hnew : ∀ challenge ∈ t.challenges, challenge.id ≠ id) :
    t.questions.filter (fun q => q.challengeId = id) = [] := by
  rw [List.filter_eq_nil_iff]
  intro q hq heq
  obtain ⟨challenge, hchallenge, hid⟩ := h.known q hq
  exact hnew challenge hchallenge (hid.trans (of_decide_eq_true heq))

/-- One more challenge, the first of its template for its period, with its questions. -/
theorem Tables.Sound.insert {t t' : Tables} (h : t.Sound deps) {challenge : Challenge}
    {r : Uuid} {period : Text} {random : Nat} {brand : Brand} {distractors : List Brand}
    (htemplate : challenge.templateId = some r) (hperiod : challenge.spawnedPeriod = some period)
    (hfirst : t.spawned r period = []) (hnew : ∀ other ∈ t.challenges, other.id ≠ challenge.id)
    (hchallenges : t'.challenges = t.challenges ++ [challenge])
    (hquestions : t'.questions = t.questions ++
      deps.generateChallengeQuestions random challenge.id brand distractors) :
    t'.Sound deps where
  once r' period' := by
    rw [Tables.spawned, hchallenges, List.filter_append, List.length_append]
    by_cases hsame : challenge.isSpawned r' period'
    · have hspawned : r = r' ∧ period = period' := by
        simpa [Challenge.isSpawned, htemplate, hperiod] using hsame
      rw [← hspawned.1, ← hspawned.2, show List.filter _ t.challenges = [] from hfirst]
      exact (Nat.zero_add _).trans_le (List.length_filter_le _ [challenge])
    · rw [List.filter_singleton, Bool.eq_false_of_not_eq_true hsame]
      exact h.once r' period'
  complete other hother hspawned := by
    have hqs := deps.questions_challengeId random challenge.id brand distractors
    rw [hchallenges] at hother
    rw [hquestions, List.filter_append]
    rcases List.mem_append.mp hother with hother | hother
    · obtain ⟨random', brand', distractors', hcomplete⟩ := h.complete other hother hspawned
      refine ⟨random', brand', distractors', ?_⟩
      rw [hcomplete, List.filter_eq_nil_iff.mpr, List.append_nil]
      intro q hq heq
      exact hnew other hother ((of_decide_eq_true heq).symm.trans (hqs q hq))
    · rw [List.mem_singleton.mp hother, h.questions_eq_nil hnew, List.nil_append]
      refine ⟨random, brand, distractors, List.filter_eq_self.mpr fun q hq => ?_⟩
      exact decide_eq_true (hqs q hq)
  known q hq := by
    rw [hchallenges]
    rw [hquestions] at hq
    rcases List.mem_append.mp hq with hq | hq
    · obtain ⟨other, hother, hid⟩ := h.known q hq
      exact ⟨other, List.mem_append_left _ hother, hid⟩
    · exact ⟨challenge, List.mem_append_right _ (List.mem_singleton_self _),
        (deps.questions_challengeId _ _ _ _ q hq).symm⟩

/-- Committing what a call has written for a challenge. -/
theorem Inv.commit {w : World} (h : Inv deps tables w) {challenge : Challenge} {r : Uuid}
    {period : Text} {random : Nat} {brand : Brand} {distractors : List Brand}
    (htemplate : challenge.templateId = some r) (hperiod : challenge.spawnedPeriod = some period)
    (hfirst : w.db.committed.spawned r period = []) {ws : List Write}
    (hws : ws = inserted challenge
        (deps.generateChallengeQuestions random challenge.id brand distractors) ++
      [Write.updateTemplate period r])
    (hwrites : w.db.writes i = some ws) :
    Inv deps tables
      { w with
        db := w.db.commit Tables.apply i
        commits := w.commits ++ [(i, (w.db.writes i).getD [])] } := by
  have hinserts : w.Inserts i challenge :=
    ⟨ws, hwrites, by rw [hws]; exact List.mem_append_left _ List.mem_cons_self⟩
  have hview : w.db.view Tables.apply i = ws.foldl Tables.apply w.db.committed := by
    rw [TxStore.view, hwrites, Option.getD_some]
  obtain ⟨hchallenges, hquestions⟩ := foldl_inserted w.db.committed challenge
    (deps.generateChallengeQuestions random challenge.id brand distractors) period r
  rw [← hws, ← hview] at hchallenges hquestions
  refine h.finish ?_ (fun j other hne hj => ?_) ?_
  · exact h.sound.insert htemplate hperiod hfirst (h.apart i challenge hinserts).1 hchallenges
      hquestions
  · intro third hthird
    rw [hchallenges] at hthird
    rcases List.mem_append.mp hthird with hthird | hthird
    · exact (h.apart j other hj).1 third hthird
    · rw [List.mem_singleton.mp hthird]
      exact fun hid => hne.symm ((h.apart j other hj).2 i challenge hinserts hid)
  · rw [List.flatMap_append, List.foldl_append, ← h.replayed, hwrites, hview]
    simp

/-! ### The stages of a call -/

/-- Call `i` has committed nothing. -/
structure Uncommitted (deps : Deps) (tables : Tables) (i : Nat) (w : World) : Prop where
  inv : Inv deps tables w
  quiet : w.Quiet i

/-- It has written `ws` in its transaction. -/
structure Opened (deps : Deps) (tables : Tables) (i : Nat) (ws : List Write) (w : World) : Prop
    extends Uncommitted deps tables i w where
  writes : w.db.writes i = some ws

/-- It has locked the template. -/
structure Holding (deps : Deps) (tables : Tables) (i : Nat) (r : Uuid) (ws : List Write)
    (w : World) : Prop extends Opened deps tables i ws w where
  holder : w.db.holder r = some i

/-- It has found no challenge of the period. -/
structure First (deps : Deps) (tables : Tables) (i : Nat) (r : Uuid) (period : Text)
    (ws : List Write) (w : World) : Prop extends Holding deps tables i r ws w where
  first : w.db.committed.spawned r period = []

variable {w w' : World} {r : Uuid} {period : Text} {ws : List Write}

theorem Uncommitted.stable (h : Uncommitted deps tables i w) (hrely : Rely deps tables i w w') :
    Uncommitted deps tables i w' := ⟨hrely.inv, hrely.quiet h.quiet⟩

theorem Opened.stable (h : Opened deps tables i ws w) (hrely : Rely deps tables i w w') :
    Opened deps tables i ws w' :=
  ⟨h.toUncommitted.stable hrely, hrely.writes.trans h.writes⟩

theorem Holding.stable (h : Holding deps tables i r ws w) (hrely : Rely deps tables i w w') :
    Holding deps tables i r ws w' :=
  ⟨h.toOpened.stable hrely, (hrely.holder r).mpr h.holder⟩

theorem First.stable (h : First deps tables i r period ws w) (hrely : Rely deps tables i w w') :
    First deps tables i r period ws w' :=
  ⟨h.toHolding.stable hrely, (hrely.spawned r h.holder period).trans h.first⟩

/-- Running `p` as call `i` among others. What it throws, it throws uncommitted. -/
abbrev Does {α : Type} (deps : Deps) (tables : Tables) (i : Nat) (p : Call α)
    (P : α → World → Prop) (w : World) : Prop :=
  p.wp (machine i).among (Among (Rely deps tables i) (guard i)) (Inv deps tables)
    (Prog.Ends P fun _ => Uncommitted deps tables i) w

/-- One operation: only the case that it succeeds is left to show. -/
theorem does_call {op : SpawnOp} {A : World → Prop} {P : op.Ans → World → Prop}
    (hstable : ∀ w w', A w → Rely deps tables i w w' → A w')
    (hquiet : ∀ w, A w → Uncommitted deps tables i w) (hw : A w)
    (h : ∀ w id, A w → guard i w op (.succeeds id) →
      Inv deps tables ((machine i).exec (.succeeds id) op w).2 ∧
        Prog.Ends P (fun _ => Uncommitted deps tables i)
          ((machine i).exec (.succeeds id) op w).1 ((machine i).exec (.succeeds id) op w).2) :
    Does deps tables i (Prog.call (S := spawnSig) op) P w := by
  refine Prog.wp_call_among hstable hw fun w' e _ hw' hguard => ?_
  cases e with
  | fails err =>
      have hinv := (hquiet w' hw').inv.fail i op
      exact ⟨hinv, hinv, (hquiet w' hw').quiet⟩
  | succeeds id => exact h w' id hw' hguard

/-- A statement of the pool that only reads. -/
theorem does_query (statement : Statement) {A : World → Prop}
    (hreads : ∀ id t, (statement.run id t).2 = [])
    (hstable : ∀ w w', A w → Rely deps tables i w w' → A w')
    (hquiet : ∀ w, A w → Uncommitted deps tables i w) (hw : A w) :
    Does deps tables i (query statement) (fun _ => A) w := by
  refine does_call hstable hquiet hw fun w id hw _ => ?_
  have hnone : (statement.run id w.db.committed).2.isEmpty = true := by rw [hreads]; rfl
  have hsame : ((machine i).exec (.succeeds id) (.query statement) w).2 = w := if_pos hnone
  rw [hsame]
  refine ⟨(hquiet w hw).inv, ?_⟩
  cases ((machine i).exec (.succeeds id) (.query statement) w).1 with
  | ok answer => exact hw
  | error err => exact hquiet w hw

theorem does_start (hw : Uncommitted deps tables i w) :
    Does deps tables i start (fun _ => Opened deps tables i []) w := by
  refine does_call (fun _ _ h => h.stable) (fun _ h => h) hw fun w _ hw _ => ?_
  have hinv := hw.inv.start i
  exact ⟨hinv, ⟨hinv, hw.quiet⟩, TxStore.start_writes_self _ _⟩

theorem does_rollback (hw : Uncommitted deps tables i w) :
    Does deps tables i rollback (fun _ => Uncommitted deps tables i) w := by
  refine does_call (fun _ _ h => h.stable) (fun _ h => h) hw fun w _ hw _ => ?_
  have hinv := hw.inv.abort i w.waits
  exact ⟨hinv, hinv, hw.quiet⟩

theorem does_connect (hw : Uncommitted deps tables i w) :
    Does deps tables i connect (fun _ => Uncommitted deps tables i) w :=
  does_call (fun _ _ h => h.stable) (fun _ h => h) hw fun _ _ hw _ => ⟨hw.inv, hw⟩

theorem does_lockTemplate (hw : Opened deps tables i ws w) :
    Does deps tables i (client (.lockTemplate r))
      (fun locked w' => Uncommitted deps tables i w' ∧ (locked → Holding deps tables i r ws w'))
      w := by
  refine does_call (fun _ _ h => h.stable) (fun _ h => h.toUncommitted) hw
    fun w id hw hguard => ?_
  have hfree : (w.db.holder r).filter (· ≠ i) = none := hguard.1
  cases hrow : (w.db.view Tables.apply i).templates r with
  | none =>
      have hexec : (machine i).exec (.succeeds id) (.client (.lockTemplate r)) w =
          (.ok false, w) := by
        simp [machine, World.client, Statement.run, Statement.locksRow, hrow, TxStore.write_nil]
      rw [hexec]
      exact ⟨hw.inv, hw.toUncommitted, fun h => absurd h Bool.false_ne_true⟩
  | some template =>
      have hexec : (machine i).exec (.succeeds id) (.client (.lockTemplate r)) w =
          (.ok true, { w with db := w.db.lock i r }) := by
        simp [machine, World.client, Statement.run, Statement.locksRow, hrow, TxStore.write_nil]
      rw [hexec]
      have hinv := hw.inv.lock hfree
      exact ⟨hinv, ⟨hinv, hw.quiet⟩, fun _ =>
        ⟨⟨⟨hinv, hw.quiet⟩, hw.writes⟩, TxStore.lock_holder_self _ _ _⟩⟩

theorem does_countSpawned (hw : Holding deps tables i r [] w) :
    Does deps tables i (client (.countSpawned r period))
      (fun already w' => Holding deps tables i r [] w' ∧
        (already = 0 → First deps tables i r period [] w')) w := by
  refine does_call (fun _ _ h => h.stable) (fun _ h => h.toUncommitted) hw fun w id hw _ => ?_
  have hview : w.db.view Tables.apply i = w.db.committed := by
    rw [TxStore.view, hw.writes]
    rfl
  have hexec : (machine i).exec (.succeeds id) (.client (.countSpawned r period)) w =
      (.ok (w.db.committed.spawned r period).length, w) := by
    simp [machine, World.client, Statement.run, Statement.locksRow, hview, TxStore.write_nil]
  rw [hexec]
  exact ⟨hw.inv, hw, fun hzero => ⟨hw, List.eq_nil_of_length_eq_zero hzero⟩⟩

/-- On a connection of the pool the mark waits for the call's own lock, until it fails. -/
theorem does_markTemplateSpawned (hw : Holding deps tables i r ws w) :
    Does deps tables i (markTemplateSpawned r period) (fun _ _ => False) w := by
  refine does_call (fun _ _ h => h.stable) (fun _ h => h.toUncommitted) hw fun w id hw hguard => ?_
  have hfree : w.db.holder r = none := hguard.1
  rw [hw.holder] at hfree
  cases hfree

theorem First.written {news : List Write} (hw : First deps tables i r period ws w)
    (hinv : Inv deps tables { w with db := w.db.write i news }) :
    First deps tables i r period (ws ++ news) { w with db := w.db.write i news } := by
  refine ⟨⟨⟨⟨hinv, hw.quiet⟩, ?_⟩, hw.holder⟩, hw.first⟩
  show (w.db.write i news).writes i = _
  rw [TxStore.write_writes_self, hw.writes]
  rfl

theorem does_insertChallenge {row : Uuid → Challenge} (hid : ∀ id, (row id).id = id)
    (htemplate : ∀ id, (row id).templateId = some r)
    (hw : First deps tables i r period [] w) :
    Does deps tables i (client (.insertChallenge row))
      (fun challenge w' => (∃ id, challenge = row id) ∧
        First deps tables i r period [.insertChallenge challenge] w') w := by
  refine does_call (fun _ _ h => h.stable) (fun _ h => h.toUncommitted) hw
    fun w id hw hguard => ?_
  have hnew : w.IsNewId (row id).id := by
    rw [hid]
    exact hguard.2
  have hinv : Inv deps tables { w with db := w.db.write i [.insertChallenge (row id)] } := by
    refine hw.inv.write hw.writes (fun challenge hmem => ?_) (fun challenge hmem => ?_)
      fun q hmem => ?_
    · rw [Write.insertChallenge.inj (List.mem_singleton.mp hmem)]
      exact ⟨r, htemplate id, hw.holder⟩
    · rw [Write.insertChallenge.inj (List.mem_singleton.mp hmem)]
      exact hnew
    · cases List.mem_singleton.mp hmem
  exact ⟨hinv, ⟨id, rfl⟩, hw.written hinv⟩

theorem does_insertQuestion {challenge : Challenge} {q : ChallengeQuestion}
    (hmem : .insertChallenge challenge ∈ ws) (hq : q.challengeId = challenge.id)
    (hw : First deps tables i r period ws w) :
    Does deps tables i (client (.insertQuestion q))
      (fun _ => First deps tables i r period (ws ++ [.insertQuestion q])) w := by
  refine does_call (fun _ _ h => h.stable) (fun _ h => h.toUncommitted) hw fun w id hw _ => ?_
  by_cases hdup : ((w.db.view Tables.apply i).questions.any fun other =>
      other.challengeId = q.challengeId && other.round = q.round) = true
  · have hexec : (machine i).exec (.succeeds id) (.client (.insertQuestion q)) w =
        (.error (dbError "duplicate key value violates unique constraint" "23505"),
          { w with db := w.db.abort i }) := by
      simp only [machine, World.client, Statement.run, if_pos hdup]
    rw [hexec]
    have hinv := hw.inv.abort i w.waits
    exact ⟨hinv, hinv, hw.quiet⟩
  · have hexec : (machine i).exec (.succeeds id) (.client (.insertQuestion q)) w =
        (.ok (), { w with db := w.db.write i [.insertQuestion q] }) := by
      simp only [machine, World.client, Statement.run, if_neg hdup, Statement.locksRow]
    rw [hexec]
    have hinv : Inv deps tables { w with db := w.db.write i [.insertQuestion q] } := by
      refine hw.inv.write hw.writes (fun other hother => ?_) (fun other hother => ?_)
        fun q' hq' => ?_
      · cases List.mem_singleton.mp hother
      · cases List.mem_singleton.mp hother
      · rw [Write.insertQuestion.inj (List.mem_singleton.mp hq')]
        exact ⟨challenge, ⟨ws, hw.writes, hmem⟩, hq.symm⟩
    exact ⟨hinv, hw.written hinv⟩

theorem does_updateTemplate (hw : First deps tables i r period ws w) :
    Does deps tables i (client (.updateTemplate period r))
      (fun _ => First deps tables i r period (ws ++ [.updateTemplate period r])) w := by
  refine does_call (fun _ _ h => h.stable) (fun _ h => h.toUncommitted) hw fun w id hw _ => ?_
  have hexec : (machine i).exec (.succeeds id) (.client (.updateTemplate period r)) w =
      (.ok (), { w with db := w.db.write i [.updateTemplate period r] }) := by
    have hlock : (w.db.write i [.updateTemplate period r]).lock i r =
        w.db.write i [.updateTemplate period r] := TxStore.lock_of_holder _ hw.holder
    cases hrow : (w.db.view Tables.apply i).templates r <;>
      simp only [machine, World.client, Statement.run, Statement.locksRow, hrow, Option.map_none,
        Option.map_some, hlock]
  rw [hexec]
  have hinv : Inv deps tables { w with db := w.db.write i [.updateTemplate period r] } := by
    refine hw.inv.write hw.writes (fun other hother => ?_) (fun other hother => ?_)
      fun q hq => ?_
    · cases List.mem_singleton.mp hother
    · cases List.mem_singleton.mp hother
    · cases List.mem_singleton.mp hq
  exact ⟨hinv, hw.written hinv⟩

/-! ### The whole call -/

theorem does_insertQuestions {challenge : Challenge} (qs : List ChallengeQuestion) :
    ∀ {ws : List Write} {w : World}, .insertChallenge challenge ∈ ws →
      (∀ q ∈ qs, q.challengeId = challenge.id) → First deps tables i r period ws w →
      Does deps tables i (Prog.forEach qs fun q => client (.insertQuestion q))
        (fun _ => First deps tables i r period (ws ++ qs.map Write.insertQuestion)) w := by
  induction qs with
  | nil =>
      intro ws w _ _ hw
      show First deps tables i r period (ws ++ []) w
      rwa [List.append_nil]
  | cons q qs ih =>
      intro ws w hmem hqs hw
      refine Prog.wp_bind (does_insertQuestion hmem (hqs q List.mem_cons_self) hw)
        fun _ w' hw' => ?_
      have hrest := ih (List.mem_append_left _ hmem)
        (fun q' hq' => hqs q' (List.mem_cons_of_mem _ hq')) hw'
      rwa [List.append_assoc] at hrest

theorem does_commit {challenge : Challenge} {random : Nat} {brand : Brand}
    {distractors : List Brand} (htemplate : challenge.templateId = some r)
    (hperiod : challenge.spawnedPeriod = some period)
    (hw : First deps tables i r period
      (inserted challenge
        (deps.generateChallengeQuestions random challenge.id brand distractors) ++
        [.updateTemplate period r]) w) :
    Does deps tables i commit (fun _ _ => True) w :=
  does_call (fun _ _ h => h.stable) (fun _ h => h.toUncommitted) hw fun _ _ hw _ =>
    ⟨hw.inv.commit htemplate hperiod hw.first rfl hw.writes, trivial⟩

variable {draw : Draw} {opts : SpawnOpts} {template : ChallengeTemplate} {brand : Brand}

theorem does_insertSpawned
    (hw : First deps tables i r (spawnPeriodKey deps draw template opts) [] w) :
    Does deps tables i (insertSpawned deps draw r opts template brand) (fun _ _ => True) w := by
  refine Prog.wp_bind (does_insertChallenge (fun _ => rfl) (fun _ => rfl) hw)
    fun challenge w ⟨⟨id, hchallenge⟩, hw⟩ => ?_
  refine Prog.wp_bind (does_query (.getActiveDistractorBrands template.brandId) (fun _ _ => rfl)
    (fun _ _ h => h.stable) (fun _ h => h.toUncommitted) hw) fun distractors w hw => ?_
  refine Prog.wp_bind (does_insertQuestions _ (List.mem_singleton_self _)
    (deps.questions_challengeId _ _ _ _) hw) fun _ w hw => ?_
  refine Prog.wp_bind (does_updateTemplate hw) fun _ w hw => ?_
  refine Prog.wp_bind (does_commit ?_ ?_ hw) fun _ w _ => trivial
  · rw [hchallenge]; rfl
  · rw [hchallenge]; rfl

theorem does_spawnInTransaction (hw : Uncommitted deps tables i w) :
    Does deps tables i (spawnInTransaction deps draw r opts template brand) (fun _ _ => True)
      w := by
  refine Prog.wp_bind (does_start hw) fun _ w hw => ?_
  refine Prog.wp_bind (does_lockTemplate hw) fun locked w ⟨hw, hlocked⟩ => ?_
  cases locked with
  | false => exact Prog.wp_bind (does_rollback hw) fun _ w _ => trivial
  | true =>
      refine Prog.wp_bind (does_countSpawned (hlocked rfl)) fun already w ⟨hw, hnone⟩ => ?_
      split
      · exact Prog.wp_bind (does_markTemplateSpawned hw) fun _ _ h => h.elim
      · rename_i halready
        exact does_insertSpawned (hnone (Nat.eq_zero_of_not_pos halready))

theorem does_spawnOnClient (hw : Uncommitted deps tables i w) :
    Does deps tables i (spawnOnClient deps draw r opts template brand) (fun _ _ => True) w :=
  Prog.wp_tryCatch (does_spawnInTransaction hw) fun _ _ hw =>
    Prog.wp_bind (does_rollback hw) fun _ _ hw => hw

/-- **One call**: what it throws, it throws without a trace. -/
theorem does_spawnChallengeFromTemplate (hw : Uncommitted deps tables i w) :
    Does deps tables i (spawnChallengeFromTemplate deps draw r opts) (fun _ _ => True) w := by
  refine Prog.wp_bind (does_query (.getChallengeTemplateById r) (fun _ _ => rfl)
    (fun _ _ h => h.stable) (fun _ h => h) hw) fun template w hw => ?_
  cases template with
  | none => trivial
  | some template =>
      dsimp only
      split
      · trivial
      refine Prog.wp_bind (does_query (.getBrandById template.brandId) (fun _ _ => rfl)
        (fun _ _ h => h.stable) (fun _ h => h) hw) fun brand w hw => ?_
      cases brand with
      | none => trivial
      | some brand =>
          dsimp only
          split
          · trivial
          · exact Prog.wp_bind (does_connect hw) fun _ w hw => does_spawnOnClient hw

end

/-! ### Any number of calls -/

/-- A call of `spawnChallengeFromTemplate`. -/
def IsSpawn (deps : Deps) (p : Call (Option SpawnedChallengeFromTemplate)) : Prop :=
  ∃ draw templateId opts, p = spawnChallengeFromTemplate deps draw templateId opts

theorem inv_init {deps : Deps} {tables : Tables} (h : tables.Sound deps) :
    Inv deps tables (World.init tables) where
  sound := h
  locked i challenge hi := by
    obtain ⟨ws, hws, -⟩ := hi
    cases hws
  apart i challenge hi := by
    obtain ⟨ws, hws, -⟩ := hi
    cases hws
  asks i q hi := by
    obtain ⟨ws, hws, -⟩ := hi
    cases hws
  replayed := rfl

theorem spawn_proved (deps : Deps) (tables : Tables) :
    Crew.Proved machine guard (IsSpawn deps) (fun _ _ => False) (Inv deps tables)
      (Rely deps tables) (fun i => Uncommitted deps tables i)
      (fun i => Prog.Ends (fun _ _ => True) fun _ => Uncommitted deps tables i) where
  refl _ _ h := Rely.refl h
  trans _ _ _ _ h h' := h.trans h'
  stays _ _ _ h hrely := h.stable hrely
  lasts _ r _ _ h hrely := by
    cases r with
    | ok _ => trivial
    | error _ => exact h.stable hrely
  spawned i w p hp _ hw := by
    obtain ⟨draw, templateId, opts, rfl⟩ := hp
    exact does_spawnChallengeFromTemplate hw
  others i j w op e hne hinv hguard hinv' := rely_exec hne hinv hguard hinv'
  drifted _ _ _ _ hdrift := hdrift.elim

/-- **A template spawns at most one challenge per period, with all its questions; a call that
throws has left nothing.** This holds after every step of every interleaving. -/
theorem spawnChallengeFromTemplate_once {deps : Deps} {tables : Tables} {w : World}
    {ps : List (Call (Option SpawnedChallengeFromTemplate))} (hstart : tables.Sound deps)
    (h : Crew machine guard (IsSpawn deps) (fun _ _ => False) (World.init tables) w ps) :
    (∀ templateId period, (w.db.committed.spawned templateId period).length ≤ 1) ∧
      w.db.committed.Complete deps ∧
      w.db.committed = (w.commits.flatMap Prod.snd).foldl Tables.apply tables ∧
      ∀ i err, ps[i]? = some (.raise err) → ∀ entry ∈ w.commits, entry.1 ≠ i := by
  obtain ⟨hinv, hps, -⟩ := (spawn_proved deps tables).sound (inv_init hstart)
    (fun i => ⟨inv_init hstart, fun _ hentry => absurd hentry List.not_mem_nil⟩) h
  refine ⟨hinv.sound.once, hinv.sound.complete, hinv.replayed, fun i err hi => ?_⟩
  have hthrown : Uncommitted deps tables i w := hps i _ hi
  exact hthrown.quiet

/-! ### A week and a forced second call -/

def weeklyDeps : Deps where
  computeNextPeriodForTemplate _ now := ⟨['W', '2', '3'], now, now + 604800000⟩
  generateChallengeQuestions _ challengeId _ _ :=
    [1, 2, 3].map fun round => ⟨challengeId, round, [], [], [], [], [], [], [], ['A']⟩
  questions_challengeId _ challengeId _ _ q hq := by
    obtain ⟨_, -, rfl⟩ := List.mem_map.mp hq
    rfl

def weeklyTemplate : ChallengeTemplate :=
  ⟨1, 5, 10000000, none, 24, .weekly, .active, none, none⟩

def weeklyTables : Tables :=
  ⟨fun id => if id = 1 then some weeklyTemplate else none, [⟨5, [], none, none, [], [], 0, none⟩],
    [], []⟩

def weeklyCall (forcePeriod : Option Text) : Call (Option SpawnedChallengeFromTemplate) :=
  spawnChallengeFromTemplate weeklyDeps ⟨0, [], [], 0⟩ 1 ⟨forcePeriod, none⟩

/-- The first call spawns the challenge of the week. -/
def weeklySpawned : World :=
  ((weeklyCall none).run (machine 0) (fun _ => .succeeds 7) (World.init weeklyTables)).2

/-- The error of a statement that has waited for too long. -/
def timeout : ApiError := dbError "canceling statement due to statement timeout" "57014"

/-- The second one finds it, and its mark times out. -/
def markTimesOut (n : Nat) : SpawnEnv := if n = 6 then .fails timeout else .succeeds 8

theorem weeklySpawned_ok : (weeklyCall none).runOk (machine 0) (guard 0)
    (fun _ => .succeeds 7) (World.init weeklyTables) := by
  refine ⟨⟨rfl, trivial⟩, ⟨rfl, trivial⟩, ⟨rfl, trivial⟩, ⟨rfl, trivial⟩, ⟨rfl, trivial⟩,
    ⟨rfl, trivial⟩, ⟨rfl, ?_⟩, ⟨rfl, trivial⟩, ⟨rfl, trivial⟩, ⟨rfl, trivial⟩, ⟨rfl, trivial⟩,
    ⟨rfl, trivial⟩, ⟨rfl, trivial⟩, trivial⟩
  refine ⟨fun _ h => absurd h List.not_mem_nil, fun j ws challenge hws hmem => ?_⟩
  cases j with
  | zero => cases hws; cases hmem
  | succ j => cases hws

theorem secondCall_ok : (weeklyCall (some ['W', '2', '3'])).runOk (machine 1) (guard 1)
    markTimesOut weeklySpawned :=
  ⟨⟨rfl, trivial⟩, ⟨rfl, trivial⟩, ⟨rfl, trivial⟩, ⟨rfl, trivial⟩, ⟨rfl, trivial⟩,
    ⟨rfl, trivial⟩, trivial, ⟨rfl, trivial⟩, trivial⟩

theorem weekly_spawned_once : ∃ w ps,
    Crew machine guard (IsSpawn weeklyDeps) (fun _ _ => False) (World.init weeklyTables) w ps ∧
      w.db.committed.challenges.length = 1 ∧ w.db.committed.questions.length = 3 ∧
      (w.db.committed.spawned 1 ['W', '2', '3']).length ≤ 1 := by
  have hcall : ∀ forcePeriod, IsSpawn weeklyDeps (weeklyCall forcePeriod) :=
    fun forcePeriod => ⟨_, _, _, rfl⟩
  have h₀ : Crew machine guard (IsSpawn weeklyDeps) (fun _ _ => False) (World.init weeklyTables)
      (World.init weeklyTables) [] := .init
  obtain ⟨ps₁, h₁, hlen⟩ := h₀.spawnRun (hcall none) weeklySpawned_ok
  have hok : (weeklyCall (some ['W', '2', '3'])).runOk (machine ps₁.length) (guard ps₁.length)
      markTimesOut weeklySpawned := by
    rw [hlen]
    exact secondCall_ok
  obtain ⟨ps₂, h₂, -⟩ := h₁.spawnRun (hcall (some ['W', '2', '3'])) hok
  rw [hlen] at h₂
  refine ⟨_, ps₂, h₂, by decide +kernel, by decide +kernel, ?_⟩
  have hstart : weeklyTables.Sound weeklyDeps :=
    ⟨fun _ _ => Nat.zero_le 1, by simp [Tables.Complete, weeklyTables], by simp [weeklyTables]⟩
  exact (spawnChallengeFromTemplate_once hstart h₂).1 1 ['W', '2', '3']

end BrandBlitz.Templates

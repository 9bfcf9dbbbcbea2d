import BrandBlitz.Templates.SpawnedOnce

/-!
# BrandBlitz.Templates.OwnLock

**A call that waits for itself.** The mark for a challenge that exists already goes through the
pool, while the call's own connection has the template's row locked. So the mark waits for a
lock that only the call itself could release.

A call that runs alone can get there exactly when it looks for a challenge at all and there is
one: the period is forced, or it is not the one that the template was marked with last.
-/

namespace BrandBlitz.Templates

open BrandBlitz.Lib
open BrandBlitz.Paging (Uuid)

/-- Alone, the call never has to wait for itself, and it leaves no transaction open. -/
def NeverWaits (deps : Deps) (tables : Tables) (draw : Draw) (templateId : Uuid)
    (opts : SpawnOpts) : Prop :=
  ∀ s : Nat → SpawnEnv,
    (spawnChallengeFromTemplate deps draw templateId opts).runOk (machine 0) (guard 0) s
      (World.init tables) →
    let w := ((spawnChallengeFromTemplate deps draw templateId opts).run (machine 0) s
      (World.init tables)).2
    (0, 0) ∉ w.waits ∧ w.db.writes 0 = none

/-- The template and its brand are there, the template was not marked with the period, or the
period is forced, and there is a challenge of the period. -/
structure FindsSpawned (deps : Deps) (tables : Tables) (draw : Draw) (templateId : Uuid)
    (opts : SpawnOpts) (template : ChallengeTemplate) (brand : Brand) : Prop where
  read : tables.templates templateId = some template
  kept : template.deletedAt = none
  notDeleted : template.status ≠ .deleted
  hasBrand : (tables.brands.find? fun brand =>
    brand.id = template.brandId && brand.deletedAt.isNone) = some brand
  unmarked : (template.lastSpawnedPeriod = some (spawnPeriodKey deps draw template opts) &&
    !opts.isForced) = false
  found : 0 < (tables.spawned templateId (spawnPeriodKey deps draw template opts)).length

section
variable {deps : Deps} {tables : Tables} {draw : Draw} {templateId : Uuid} {opts : SpawnOpts}
  {template : ChallengeTemplate} {brand : Brand} {w : World}

/-! ### A run that waits -/

/-- Nothing on these connections but the lock on the template. -/
def World.locking (tables : Tables) (templateId : Uuid) : World :=
  ⟨((TxStore.idle tables).start 0).lock 0 templateId, [], []⟩

theorem locking_view : (World.locking tables templateId).db.view Tables.apply 0 = tables := by
  simp [World.locking, TxStore.view, TxStore.idle]

/-- The mark waits until it times out. -/
theorem may_markTemplateSpawned {α : Type} {period : Text} {f : Unit → Call α}
    {Q : Except ApiError α → World → Prop}
    (hQ : ∀ w, (0, 0) ∈ w.waits → Q (.error timeout) w) :
    ((markTemplateSpawned templateId period).bind f).may (machine 0) (guard 0) Q
      (World.locking tables templateId) := by
  refine Prog.may_bind_call_error (.fails timeout) trivial rfl (hQ _ ?_)
  have hblocker : (World.locking tables templateId).blocker 0 0
      (.query (.updateTemplate period templateId)) = some 0 :=
    TxStore.lock_holder_self _ _ _
  rw [World.fail, hblocker]
  exact List.mem_singleton_self _

theorem may_spawnInTransaction
    (h : FindsSpawned deps tables draw templateId opts template brand) :
    (spawnInTransaction deps draw templateId opts template brand).may (machine 0) (guard 0)
      (Prog.Ends (fun _ _ => False) fun _ w => (0, 0) ∈ w.waits) (World.init tables) := by
  have hlocks : (machine 0).exec (.succeeds 0) (.client (.lockTemplate templateId))
      { World.init tables with db := (World.init tables).db.start 0 } =
        (.ok true, World.locking tables templateId) := by
    simp [machine, World.client, Statement.run, Statement.locksRow, World.init, World.locking,
      TxStore.view, TxStore.idle, h.read, TxStore.write_nil]
  have hcounts : (machine 0).exec (.succeeds 0)
      (.client (.countSpawned templateId (spawnPeriodKey deps draw template opts)))
      (World.locking tables templateId) =
        (.ok (tables.spawned templateId (spawnPeriodKey deps draw template opts)).length,
          World.locking tables templateId) := by
    simp [machine, World.client, Statement.run, Statement.locksRow, locking_view,
      TxStore.write_nil]
  refine Prog.may_bind_call (.succeeds 0) ⟨rfl, trivial⟩ rfl ?_
  refine Prog.may_bind_call (.succeeds 0) ⟨rfl, trivial⟩ hlocks ?_
  refine Prog.may_bind_call (.succeeds 0) ⟨rfl, trivial⟩ hcounts ?_
  rw [if_pos h.found]
  exact may_markTemplateSpawned fun w hw => hw

theorem may_spawnOnClient
    (h : FindsSpawned deps tables draw templateId opts template brand) :
    (spawnOnClient deps draw templateId opts template brand).may (machine 0) (guard 0)
      (Prog.Ends (fun _ _ => False) fun _ w => (0, 0) ∈ w.waits) (World.init tables) :=
  Prog.may_tryCatch (may_spawnInTransaction h) fun _ _ hw =>
    Prog.may_bind_call (.succeeds 0) ⟨rfl, trivial⟩ rfl hw

theorem may_wait (h : FindsSpawned deps tables draw templateId opts template brand) :
    (spawnChallengeFromTemplate deps draw templateId opts).may (machine 0) (guard 0)
      (Prog.Ends (fun _ _ => False) fun _ w => (0, 0) ∈ w.waits) (World.init tables) := by
  have hread : (machine 0).exec (.succeeds 0) (.query (.getChallengeTemplateById templateId))
      (World.init tables) = (.ok (some template), World.init tables) := by
    simp [machine, World.query, Statement.run, World.init, TxStore.idle, h.read, h.kept]
  have hbrand : (machine 0).exec (.succeeds 0) (.query (.getBrandById template.brandId))
      (World.init tables) = (.ok (some brand), World.init tables) := by
    rw [← h.hasBrand]
    rfl
  have hlive : ¬(template.status = .deleted || template.deletedAt.isSome) = true := by
    simp [h.notDeleted, h.kept]
  refine Prog.may_bind_call (.succeeds 0) ⟨rfl, trivial⟩ hread ?_
  dsimp only
  rw [if_neg hlive]
  refine Prog.may_bind_call (.succeeds 0) ⟨rfl, trivial⟩ hbrand ?_
  dsimp only
  rw [if_neg (ne_true_of_eq_false h.unmarked)]
  exact Prog.may_bind_call (.succeeds 0) ⟨rfl, trivial⟩ rfl (may_spawnOnClient h)

/-! ### Runs that do not -/

/-- Running `p` alone. -/
abbrev Alone {α : Type} (p : Call α) (Q : α → World → Prop) (R : World → Prop) (w : World) :
    Prop :=
  p.wp (machine 0) (guard 0) (fun _ => True) (Prog.Ends Q fun _ => R) w

/-- The call has not waited for itself. -/
def World.Free (w : World) : Prop := (0, 0) ∉ w.waits

/-- Nor has it a transaction open. -/
structure World.Done (w : World) : Prop where
  free : w.Free
  closed : w.db.writes 0 = none

/-- It has not yet begun. -/
structure Outside (tables : Tables) (w : World) : Prop extends w.Done where
  committed : w.db.committed = tables

/-- It has begun, and written nothing. -/
structure Inside (tables : Tables) (w : World) : Prop where
  free : w.Free
  writes : w.db.writes 0 = some []
  committed : w.db.committed = tables

theorem free_fail {op : SpawnOp} (hop : w.blocker 0 0 op ≠ some 0) (hw : w.Free) :
    (w.fail 0 op).Free := by
  intro hmem
  rcases List.mem_append.mp hmem with hmem | hmem
  · exact hw hmem
  · have hblocked : w.blocker 0 0 op = some 0 := by simpa using hmem
    exact hop hblocked

/-- One operation that does not wait for the call. -/
theorem alone_call {op : SpawnOp} {P : op.Ans → World → Prop} {R : World → Prop}
    (hop : w.blocker 0 0 op ≠ some 0) (hw : w.Free)
    (hfail : (w.fail 0 op).Free → R (w.fail 0 op))
    (hok : ∀ id, Prog.Ends P (fun _ => R) ((machine 0).exec (.succeeds id) op w).1
      ((machine 0).exec (.succeeds id) op w).2) :
    Alone (Prog.call (S := spawnSig) op) P R w := by
  refine Prog.wp_call fun e _ => ⟨trivial, ?_⟩
  cases e with
  | fails err => exact hfail (free_fail hop hw)
  | succeeds id => exact hok id

/-- A statement of the pool that only reads. -/
theorem alone_query {statement : Statement} {R : World → Prop}
    (hreads : ∀ id t, (statement.run id t).2 = []) (hlocks : ∀ id, statement.locks id = none)
    (hw : w.Free) (hR : R w) (hfail : (w.fail 0 (.query statement)).Free →
      R (w.fail 0 (.query statement))) :
    Alone (query statement)
      (fun a w' => w' = w ∧ ∃ id, (statement.run id w.db.committed).1 = .ok a) R w := by
  have hop : w.blocker 0 0 (.query statement) ≠ some 0 := by
    rw [World.blocker, hlocks]
    simp
  refine alone_call hop hw hfail fun id => ?_
  have hnone : (statement.run id w.db.committed).2.isEmpty = true := by rw [hreads]; rfl
  have hsame : ((machine 0).exec (.succeeds id) (.query statement) w).2 = w := if_pos hnone
  rw [hsame]
  cases hanswer : ((machine 0).exec (.succeeds id) (.query statement) w).1 with
  | ok a => exact ⟨rfl, id, hanswer⟩
  | error err => exact hR

theorem client_unblocked (w : World) (statement : Statement) :
    w.blocker 0 0 (.client statement) ≠ some 0 := by
  simp [World.blocker, Option.filter_eq_some_iff]

theorem alone_client (statement : Statement) (hw : w.Free) :
    Alone (client statement) (fun _ => World.Free) World.Free w := by
  refine alone_call (client_unblocked w statement) hw (fun h => h) fun id => ?_
  show Prog.Ends _ _ (w.client 0 id statement).1 (w.client 0 id statement).2
  cases (w.client 0 id statement).1 with
  | ok a => exact hw
  | error err => exact hw

theorem alone_rollback (hw : w.Free) :
    Alone rollback (fun _ => World.Done) World.Done w :=
  alone_call (fun h => nomatch h) hw (fun h => ⟨h, TxStore.finish_writes_self _ _ _⟩)
    fun _ => ⟨hw, TxStore.finish_writes_self _ _ _⟩

theorem alone_commit (hw : w.Free) :
    Alone commit (fun _ => World.Done) World.Free w :=
  alone_call (fun h => nomatch h) hw (fun h => h)
    fun _ => ⟨hw, TxStore.finish_writes_self _ _ _⟩

theorem alone_start (hw : Outside tables w) :
    Alone start (fun _ => Inside tables) World.Free w :=
  alone_call (fun h => nomatch h) hw.free (fun h => h)
    fun _ => ⟨hw.free, TxStore.start_writes_self _ _, hw.committed⟩

theorem alone_lockTemplate (hw : Inside tables w) :
    Alone (client (.lockTemplate templateId)) (fun _ => Inside tables) World.Free w := by
  refine alone_call (client_unblocked w _) hw.free (fun h => h) fun id => ?_
  refine ⟨hw.free, ?_, ?_⟩
  · show (World.client w 0 id (.lockTemplate templateId)).2.db.writes 0 = some []
    cases hrow : (w.db.view Tables.apply 0).templates templateId <;>
      simp [World.client, Statement.run, Statement.locksRow, hrow, hw.writes]
  · show (World.client w 0 id (.lockTemplate templateId)).2.db.committed = tables
    cases hrow : (w.db.view Tables.apply 0).templates templateId <;>
      simp [World.client, Statement.run, Statement.locksRow, hrow, hw.committed]

theorem alone_countSpawned {period : Text} (hw : Inside tables w) :
    Alone (client (.countSpawned templateId period))
      (fun already w' => already = (tables.spawned templateId period).length ∧ w'.Free)
      World.Free w := by
  have hview : w.db.view Tables.apply 0 = tables := by
    rw [TxStore.view, hw.writes]
    exact hw.committed
  refine alone_call (client_unblocked w _) hw.free (fun h => h) fun id => ⟨?_, hw.free⟩
  rw [← hview]

theorem alone_insertQuestions (qs : List ChallengeQuestion) :
    ∀ {w : World}, w.Free → Alone (Prog.forEach qs fun q => client (.insertQuestion q))
      (fun _ => World.Free) World.Free w := by
  induction qs with
  | nil => intro w hw; exact hw
  | cons q qs ih =>
      intro w hw
      exact Prog.wp_bind (alone_client (.insertQuestion q) hw) fun _ _ hw' => ih hw'

theorem alone_insertSpawned (hw : w.Free) :
    Alone (insertSpawned deps draw templateId opts template brand) (fun _ => World.Done)
      World.Free w := by
  refine Prog.wp_bind (alone_client _ hw) fun challenge w hw => ?_
  refine Prog.wp_bind (P := fun _ => World.Free) (Prog.wp_weaken
    (alone_query (fun _ _ => rfl) (fun _ => rfl) hw hw fun h => h) ?_ fun _ _ h => h)
    fun distractors w hw => ?_
  · rintro _ _ ⟨rfl, -⟩
    exact hw
  refine Prog.wp_bind (alone_insertQuestions _ hw) fun _ w hw => ?_
  refine Prog.wp_bind (alone_client _ hw) fun _ w hw => ?_
  exact Prog.wp_bind (alone_commit hw) fun _ w hw => hw

theorem alone_spawnInTransaction (hw : Outside tables w)
    (hnone : ¬0 < (tables.spawned templateId (spawnPeriodKey deps draw template opts)).length) :
    Alone (spawnInTransaction deps draw templateId opts template brand) (fun _ => World.Done)
      World.Free w := by
  refine Prog.wp_bind (alone_start hw) fun _ w hw => ?_
  refine Prog.wp_bind (alone_lockTemplate hw) fun locked w hw => ?_
  cases locked with
  | false => exact Prog.wp_bind (Prog.wp_weaken (alone_rollback hw.free) (fun _ _ h => h)
      fun _ _ h => h.free) fun _ w hw => hw
  | true =>
      refine Prog.wp_bind (alone_countSpawned hw) fun already w ⟨halready, hw⟩ => ?_
      rw [if_neg (halready ▸ hnone)]
      exact alone_insertSpawned hw

theorem alone_spawnOnClient (hw : Outside tables w)
    (hnone : ¬0 < (tables.spawned templateId (spawnPeriodKey deps draw template opts)).length) :
    Alone (spawnOnClient deps draw templateId opts template brand) (fun _ => World.Done)
      World.Done w :=
  Prog.wp_tryCatch (alone_spawnInTransaction hw hnone) fun _ _ hw =>
    Prog.wp_bind (alone_rollback hw) fun _ _ hw => hw

theorem alone_spawnChallengeFromTemplate (hw : Outside tables w)
    (hnone : ∀ template brand,
      ¬FindsSpawned deps tables draw templateId opts template brand) :
    Alone (spawnChallengeFromTemplate deps draw templateId opts) (fun _ => World.Done)
      World.Done w := by
  have hidle := hw.toDone
  have hcommitted := hw.committed
  refine Prog.wp_bind (alone_query (fun _ _ => rfl) (fun _ => rfl) hw.free hidle
    fun h => ⟨h, hidle.closed⟩) ?_
  rintro found w ⟨rfl, id, hfound⟩
  cases found with
  | none => exact hidle
  | some template =>
      obtain ⟨hread, hkept⟩ := Option.filter_eq_some_iff.mp (Except.ok.inj hfound)
      dsimp only
      split
      · exact hidle
      rename_i hlive
      refine Prog.wp_bind (alone_query (fun _ _ => rfl) (fun _ => rfl) hw.free hidle
        fun h => ⟨h, hidle.closed⟩) ?_
      rintro found w ⟨rfl, id', hbrand⟩
      cases found with
      | none => exact hidle
      | some brand =>
          dsimp only
          split
          · exact hidle
          rename_i hunmarked
          have hstored : tables.templates templateId = some template := hcommitted ▸ hread
          have hother : template.status ≠ .deleted := fun h => hlive (by simp [h])
          have hconnect : Alone connect (fun _ => Outside tables) World.Done w :=
            alone_call (fun h => nomatch h) hidle.free (fun h => ⟨h, hidle.closed⟩) fun _ => hw
          refine Prog.wp_bind hconnect fun _ w hw => alone_spawnOnClient hw fun hcount => ?_
          exact hnone template brand ⟨hstored, Option.isNone_iff_eq_none.mp hkept, hother,
            hcommitted ▸ Except.ok.inj hbrand, Bool.eq_false_of_not_eq_true hunmarked, hcount⟩

/-! ### When a call waits for itself -/

theorem outside_init : Outside tables (World.init tables) :=
  ⟨⟨List.not_mem_nil, rfl⟩, rfl⟩

theorem FindsSpawned.not_neverWaits
    (h : FindsSpawned deps tables draw templateId opts template brand) :
    ¬NeverWaits deps tables draw templateId opts := by
  intro hnever
  obtain ⟨s, hs, hend⟩ := Prog.run_of_may (may_wait h)
  refine (hnever s hs).1 ?_
  cases hresult : ((spawnChallengeFromTemplate deps draw templateId opts).run (machine 0) s
      (World.init tables)).1 with
  | ok a => rw [hresult] at hend; exact hend.elim
  | error err => rw [hresult] at hend; exact hend

/-- **A call that runs alone never waits for itself exactly if it does not find a challenge of
the period.** -/
theorem spawnChallengeFromTemplate_neverWaits_iff (deps : Deps) (tables : Tables) (draw : Draw)
    (templateId : Uuid) (opts : SpawnOpts) :
    NeverWaits deps tables draw templateId opts ↔
      ¬∃ template brand, FindsSpawned deps tables draw templateId opts template brand := by
  constructor
  · rintro hnever ⟨template, brand, h⟩
    exact h.not_neverWaits hnever
  · intro hnone s hs
    have hdone := Prog.run_of_wp_runOk (Prog.wp_world (alone_spawnChallengeFromTemplate
      outside_init fun template brand h => hnone ⟨template, brand, h⟩)) hs
    exact ⟨hdone.free, hdone.closed⟩

/-- The challenge of the week is there, and the week is forced again. -/
theorem forced_call_waits : ¬NeverWaits weeklyDeps weeklySpawned.db.committed ⟨0, [], [], 0⟩ 1
    ⟨some ['W', '2', '3'], none⟩ := by
  have hfinds : FindsSpawned weeklyDeps weeklySpawned.db.committed ⟨0, [], [], 0⟩ 1
      ⟨some ['W', '2', '3'], none⟩
      { weeklyTemplate with lastSpawnedPeriod := some ['W', '2', '3'] }
      ⟨5, [], none, none, [], [], 0, none⟩ :=
    ⟨by decide +kernel, rfl, by decide, by decide +kernel, rfl, by decide +kernel⟩
  exact hfinds.not_neverWaits

end

end BrandBlitz.Templates

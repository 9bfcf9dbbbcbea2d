import Mathlib.Data.List.Forall2
import Mathlib.Tactic.Common

/-!
# BrandBlitz.Lib.Constrained

**Tables whose rows obey rules.** A rule speaks of one tuple by itself (`NOT NULL`,
`CHECK`) or of two tuples side by side (a primary key, `UNIQUE`). A `Table` is a list of
rows that break none, so a table that breaks its rules cannot be written down.

A statement proposes tuples, and every tuple it proposes is checked: either all of them
are stored, or the statement is rejected and nothing has changed.

* `update` rewrites the rows that a condition selects (`update_accepted_iff`: it is rejected
  exactly when one of the new tuples is).
* `insert` checks the proposed tuple before it looks for the row it may conflict with, as
  `INSERT … ON CONFLICT DO UPDATE` does.
* `Along` says that a property holds at every step of a run.
-/

namespace BrandBlitz.Lib

variable {τ C : Type}

/-- What a tuple may break, alone and beside another one. -/
structure Rules (τ C : Type) where
  breaks : τ → Option C
  clash : τ → τ → Option C

/-- Why a statement did not go through: a rule of the table, or something that came before
the rules were looked at (a malformed parameter, a number out of range). -/
inductive Refusal (C : Type)
  | breaks (rule : C)
  | unsound
deriving DecidableEq, Repr

namespace Rules

variable (R : Rules τ C)

/-- A tuple that breaks no rule by itself. -/
abbrev Row := { t : τ // R.breaks t = none }

/-- No two rows clash. -/
def Apart (rows : List R.Row) : Prop := rows.Pairwise fun r s => R.clash r.1 s.1 = none

/-- The rows of a table. -/
structure Table where
  rows : List R.Row
  apart : R.Apart rows

/-- Check a proposed tuple. -/
def check (t : τ) : Except (Refusal C) R.Row :=
  match h : R.breaks t with
  | none => .ok ⟨t, h⟩
  | some rule => .error (.breaks rule)

/-- The first rule that two of the rows break between them. -/
def firstClash : List R.Row → Option C
  | [] => none
  | r :: rest => (rest.findSome? fun s => R.clash r.1 s.1) <|> firstClash rest

theorem firstClash_eq_none (rows : List R.Row) : R.firstClash rows = none ↔ R.Apart rows := by
  induction rows with
  | nil => simp [firstClash, Apart]
  | cons r rest ih =>
      rw [firstClash, Apart, List.pairwise_cons]
      simp [ih, Apart, List.findSome?_eq_none_iff]

/-- Store the rows, unless two of them clash. -/
def commit (rows : List R.Row) : Except (Refusal C) R.Table :=
  match h : R.firstClash rows with
  | none => .ok ⟨rows, (R.firstClash_eq_none rows).mp h⟩
  | some rule => .error (.breaks rule)

/-- What becomes of one row in an update; `set` may have no value for it. -/
def alter (selects : τ → Bool) (set : τ → Option τ) (r : R.Row) : Except (Refusal C) R.Row :=
  if selects r.1 then
    match set r.1 with
    | none => .error .unsound
    | some t => R.check t
  else .ok r

/-- `UPDATE … SET … WHERE …`. -/
def update (selects : τ → Bool) (set : τ → Option τ) (T : R.Table) :
    Except (Refusal C) R.Table :=
  (T.rows.mapM (R.alter selects set)).bind R.commit

/-- `INSERT … ON CONFLICT … DO UPDATE SET …`. -/
def insert (t : τ) (conflicts : τ → Bool) (set : τ → Option τ) (T : R.Table) :
    Except (Refusal C) R.Table :=
  (R.check t).bind fun r =>
    if T.rows.any (conflicts ·.1) then R.update conflicts set T else R.commit (T.rows ++ [r])

/-! ### Which statements go through -/

variable {R}

theorem check_ok {t : τ} {r : R.Row} (h : R.check t = .ok r) : r.1 = t := by
  unfold check at h
  split at h
  · cases h
    rfl
  · cases h

theorem check_error_iff {t : τ} {e : Refusal C} :
    R.check t = .error e ↔ ∃ rule, e = .breaks rule ∧ R.breaks t = some rule := by
  unfold check
  split
  next h => simp [h]
  next rule h =>
    constructor
    · rintro ⟨⟩
      exact ⟨rule, rfl, h⟩
    · rintro ⟨rule', rfl, h'⟩
      rw [h] at h'
      cases h'
      rfl

theorem commit_ok {rows : List R.Row} (h : R.Apart rows) : R.commit rows = .ok ⟨rows, h⟩ := by
  unfold commit
  split
  · rfl
  next rule hclash => simp [(R.firstClash_eq_none rows).mpr h] at hclash

/-- A tuple that breaks a rule is not inserted, whatever is in the table. -/
theorem insert_of_breaks {t : τ} {rule : C} (h : R.breaks t = some rule) (conflicts : τ → Bool)
    (set : τ → Option τ) (T : R.Table) :
    R.insert t conflicts set T = .error (.breaks rule) := by
  rw [insert, check_error_iff.mpr ⟨rule, rfl, h⟩]
  rfl

/-- An update that leaves alone whatever the clashes depend on. -/
structure KeepsApart (R : Rules τ C) (set : τ → Option τ) : Prop where
  left : ∀ {t t'}, set t = some t' → ∀ s, R.clash t' s = R.clash t s
  right : ∀ {t t'}, set t = some t' → ∀ s, R.clash s t' = R.clash s t

section Update

variable {selects : τ → Bool} {set : τ → Option τ}

theorem alter_ok {r r' : R.Row} (h : R.alter selects set r = .ok r') :
    (selects r.1 = true ∧ set r.1 = some r'.1) ∨ (selects r.1 = false ∧ r' = r) := by
  unfold alter at h
  split at h
  next hselects =>
    cases hset : set r.1 with
    | none => simp [hset] at h
    | some t =>
        simp only [hset] at h
        rw [check_ok h]
        exact Or.inl ⟨hselects, rfl⟩
  next hselects =>
    cases h
    exact Or.inr ⟨by simpa using hselects, rfl⟩

theorem alter_error_iff {r : R.Row} {e : Refusal C} :
    R.alter selects set r = .error e ↔ selects r.1 = true ∧
      ((e = .unsound ∧ set r.1 = none) ∨
        ∃ t rule, e = .breaks rule ∧ set r.1 = some t ∧ R.breaks t = some rule) := by
  unfold alter
  split
  next hselects =>
    cases hset : set r.1 with
    | none => simp [hselects, eq_comm]
    | some t => simp [hselects, check_error_iff]
  next hselects => simp [hselects]

/-- The rows that come out correspond to the rows that went in. -/
theorem mapM_ok {f : R.Row → Except (Refusal C) R.Row} {rows rows' : List R.Row}
    (h : rows.mapM f = .ok rows') : List.Forall₂ (fun r r' => f r = .ok r') rows rows' := by
  induction rows generalizing rows' with
  | nil =>
      cases h
      exact .nil
  | cons r rest ih =>
      rw [List.mapM_cons] at h
      cases hr : f r with
      | error e => simp [hr, bind, Except.bind] at h
      | ok r' =>
          cases hrest : rest.mapM f with
          | error e => simp [hr, hrest, bind, Except.bind] at h
          | ok rest' =>
              simp only [hr, hrest, bind, Except.bind, pure, Except.pure, Except.ok.injEq] at h
              subst h
              exact .cons hr (ih hrest)

theorem mapM_error {f : R.Row → Except (Refusal C) R.Row} {rows : List R.Row} {e : Refusal C}
    (h : rows.mapM f = .error e) : ∃ r ∈ rows, f r = .error e := by
  induction rows with
  | nil => cases h
  | cons r rest ih =>
      rw [List.mapM_cons] at h
      cases hr : f r with
      | error e' =>
          simp only [hr, bind, Except.bind, Except.error.injEq] at h
          exact ⟨r, List.mem_cons_self, h ▸ hr⟩
      | ok r' =>
          cases hrest : rest.mapM f with
          | error e' =>
              simp only [hr, hrest, bind, Except.bind, Except.error.injEq] at h
              obtain ⟨s, hs, hfs⟩ := ih (h ▸ hrest)
              exact ⟨s, List.mem_cons_of_mem _ hs, hfs⟩
          | ok rest' => simp [hr, hrest, bind, Except.bind, pure, Except.pure] at h

theorem exists_of_forall₂ {α β : Type} {P : α → β → Prop} {l : List α} {l' : List β}
    (h : List.Forall₂ P l l') {b : β} (hb : b ∈ l') : ∃ a ∈ l, P a b := by
  induction h with
  | nil => simp at hb
  | @cons a b' _ _ hab _ ih =>
      rcases List.mem_cons.mp hb with rfl | hb
      · exact ⟨a, List.mem_cons_self, hab⟩
      · obtain ⟨a', ha', hP⟩ := ih hb
        exact ⟨a', List.mem_cons_of_mem _ ha', hP⟩

/-- Rows that were apart stay apart. -/
theorem apart_of_alter (hkeeps : R.KeepsApart set) {rows rows' : List R.Row}
    (h : List.Forall₂ (fun r r' => R.alter selects set r = .ok r') rows rows')
    (hapart : R.Apart rows) : R.Apart rows' := by
  have hclash : ∀ {r r' : R.Row}, R.alter selects set r = .ok r' → ∀ t,
      R.clash r'.1 t = R.clash r.1 t ∧ R.clash t r'.1 = R.clash t r.1 := by
    intro r r' hr t
    rcases alter_ok hr with ⟨-, hset⟩ | ⟨-, rfl⟩
    · exact ⟨hkeeps.left hset t, hkeeps.right hset t⟩
    · exact ⟨rfl, rfl⟩
  induction h with
  | nil => exact .nil
  | @cons r r' rest rest' hr hrest ih =>
      rw [Apart, List.pairwise_cons] at hapart ⊢
      refine ⟨fun s' hs' => ?_, ih hapart.2⟩
      obtain ⟨s, hs, halter⟩ := exists_of_forall₂ hrest hs'
      rw [(hclash hr _).1, (hclash halter _).2]
      exact hapart.1 s hs

/-- An update that went through rewrote the rows one by one. -/
theorem update_ok (hkeeps : R.KeepsApart set) {T T' : R.Table}
    (h : R.update selects set T = .ok T') :
    List.Forall₂ (fun r r' => R.alter selects set r = .ok r') T.rows T'.rows := by
  unfold update at h
  cases hrows : T.rows.mapM (R.alter selects set) with
  | error e =>
      rw [hrows] at h
      cases h
  | ok rows' =>
      have hforall := mapM_ok hrows
      rw [hrows] at h
      change R.commit rows' = _ at h
      rw [commit_ok (apart_of_alter hkeeps hforall T.apart)] at h
      cases h
      exact hforall

/-- An update that did not was stopped by one of the rows it selects. -/
theorem update_error (hkeeps : R.KeepsApart set) {T : R.Table} {e : Refusal C}
    (h : R.update selects set T = .error e) :
    ∃ r ∈ T.rows, R.alter selects set r = .error e := by
  unfold update at h
  cases hrows : T.rows.mapM (R.alter selects set) with
  | error e' =>
      rw [hrows] at h
      cases h
      exact mapM_error hrows
  | ok rows' =>
      rw [hrows] at h
      change R.commit rows' = _ at h
      rw [commit_ok (apart_of_alter hkeeps (mapM_ok hrows) T.apart)] at h
      cases h

/-- **The rules let an update through exactly when they do so for every tuple it proposes**,
provided that no selected row is left without a value next to one that has one. -/
theorem update_accepted_iff (hkeeps : R.KeepsApart set) {T : R.Table}
    (hsound : ∀ r ∈ T.rows, ∀ s ∈ T.rows, selects r.1 = true → selects s.1 = true →
      set r.1 = none → set s.1 = none) :
    (∀ rule, R.update selects set T ≠ .error (.breaks rule)) ↔
      ∀ r ∈ T.rows, selects r.1 = true → ∀ t, set r.1 = some t → R.breaks t = none := by
  constructor
  · intro h r hr hselects t hset
    by_contra hbreaks
    obtain ⟨rule, hrule⟩ := Option.ne_none_iff_exists'.mp hbreaks
    have hrefused : R.alter selects set r = .error (.breaks rule) :=
      alter_error_iff.mpr ⟨hselects, Or.inr ⟨t, rule, rfl, hset, hrule⟩⟩
    cases hupdate : R.update selects set T with
    | ok T' =>
        -- the row would have been rewritten
        obtain ⟨r', -, hr'⟩ := exists_of_forall₂ (update_ok hkeeps hupdate).flip hr
        simp [hrefused] at hr'
    | error e =>
        obtain ⟨s, hs, halter⟩ := update_error hkeeps hupdate
        obtain ⟨hselects', ⟨-, hnone⟩ | ⟨-, rule', rfl, -, -⟩⟩ := alter_error_iff.mp halter
        · have hunset := hsound s hs r hr hselects' hselects hnone
          simp [hset] at hunset
        · exact h rule' hupdate
  · intro h rule hupdate
    obtain ⟨r, hr, halter⟩ := update_error hkeeps hupdate
    obtain ⟨hselects, ⟨⟨⟩, -⟩ | ⟨t, rule', -, hset, hbreaks⟩⟩ := alter_error_iff.mp halter
    rw [h r hr hselects t hset] at hbreaks
    cases hbreaks

end Update

end Rules

/-! ### Runs -/

section Along

variable {σ α : Type}

/-- The property holds of every state of the run and the step taken in it. -/
def Along (step : σ → α → σ) (P : σ → α → Prop) : σ → List α → Prop
  | _, [] => True
  | s, a :: run => P s a ∧ Along step P (step s a) run

theorem along_iff {step : σ → α → σ} {P Q : σ → α → Prop} (h : ∀ s a, P s a ↔ Q s a) (s : σ)
    (run : List α) : Along step P s run ↔ Along step Q s run := by
  induction run generalizing s with
  | nil => rfl
  | cons a run ih => rw [Along, Along, h, ih]

/-- Two properties that agree where an invariant holds, which the one keeps. -/
theorem along_iff_of_invariant {step : σ → α → σ} {P Q : σ → α → Prop} {I : σ → Prop}
    (hstep : ∀ s a, I s → Q s a → I (step s a)) (h : ∀ s a, I s → (P s a ↔ Q s a)) {s : σ}
    (hs : I s) (run : List α) : Along step P s run ↔ Along step Q s run := by
  induction run generalizing s with
  | nil => rfl
  | cons a run ih =>
      rw [Along, Along, h s a hs]
      exact and_congr_right fun hQ => ih (hstep s a hs hQ)

/-- The same with an assumption on the steps, which the invariant rests on. -/
theorem along_iff_of_assumed {step : σ → α → σ} {F P Q : σ → α → Prop} {I : σ → Prop}
    (hstep : ∀ s a, I s → F s a → I (step s a)) (h : ∀ s a, I s → F s a → (P s a ↔ Q s a)) {s : σ}
    (hs : I s) {run : List α} (hrun : Along step F s run) :
    Along step P s run ↔ Along step Q s run := by
  induction run generalizing s with
  | nil => rfl
  | cons a run ih =>
      rw [Along, Along, h s a hs hrun.1, ih (hstep s a hs hrun.1) hrun.2]

/-- What every step of that kind keeps holds at the end. -/
theorem Along.invariant {step : σ → α → σ} {P : σ → α → Prop} {I : σ → Prop}
    (hstep : ∀ s a, I s → P s a → I (step s a)) {s : σ} {run : List α} (h : Along step P s run)
    (hs : I s) : I (run.foldl step s) := by
  induction run generalizing s with
  | nil => exact hs
  | cons a run ih => exact ih h.2 (hstep s a hs h.1)

theorem lasting_foldl {step : σ → α → σ} {B : σ → Prop}
    (hlasts : ∀ s a, B s → B (step s a)) {s : σ} (run : List α) (h : B s) :
    B (run.foldl step s) := by
  induction run generalizing s with
  | nil => exact h
  | cons a run ih => exact ih (hlasts s a h)

/-- Where a step of any other kind does damage for good, a run without damage has none. -/
theorem along_of_undamaged {step : σ → α → σ} {P : σ → α → Prop} {I B : σ → Prop}
    (hinv : ∀ s a, I s → I (step s a)) (hbad : ∀ s a, I s → ¬ P s a → B (step s a))
    (hlasts : ∀ s a, B s → B (step s a)) {s : σ} {run : List α} (hs : I s)
    (h : ¬ B (run.foldl step s)) : Along step P s run := by
  induction run generalizing s with
  | nil => trivial
  | cons a run ih =>
      refine ⟨?_, ih (hinv s a hs) h⟩
      by_contra hnot
      exact h (lasting_foldl hlasts run (hbad s a hs hnot))

end Along

end BrandBlitz.Lib

import BrandBlitz.Caching.Coalescing

/-!
# BrandBlitz.Caching.Invalidation

**A request that starts after an invalidation sees the change**, in every interleaving in which no
loader stores a value that is older than a change after which the cache has been cleared.

The lock does not matter for it. A value is stored some time after it was loaded, and nothing is
compared then.
-/

namespace BrandBlitz.Caching

open BrandBlitz.Lib

/-! ### The property -/

/-- The value has seen the changes that were invalidated when program `i` started. -/
def Fresh (i value : Nat) (w : World) : Prop :=
  ∀ s ∈ w.started, s.program = i → ∀ change ∈ s.invalidated, change ≤ value

instance (i value : Nat) (w : World) : Decidable (Fresh i value w) :=
  inferInstanceAs (Decidable (∀ s ∈ w.started, _ → ∀ change ∈ s.invalidated, _))

/-- Every answer is as new as the invalidations before its request. -/
def InvalidationEffective (w : World) (ps : List (Cached (Option Nat))) : Prop :=
  ∀ (i value : Nat), ps[i]? = some (.ret (some value)) → Fresh i value w

/-- What is stored has seen every change after which the cache has been cleared. -/
def StoresFresh (_ : Nat) (w : World) (op : CacheOp) (fate : Fate) : Prop :=
  match op with
  | .set value => fate = .lost ∨ ∀ change ∈ w.cleared, change ≤ value
  | _ => True

instance (i : Nat) (w : World) (op : CacheOp) (fate : Fate) : Decidable (StoresFresh i w op fate) :=
  match op with
  | .set _ => inferInstanceAs (Decidable (_ ∨ _))
  | .start | .get | .setNX | .load | .delLock | .lockExists | .change | .keys _ | .del _
  | .invalidated _ => .isTrue trivial

/-! ### The invariant -/

structure Inv (w : World) : Prop where
  cleared : ∀ change ∈ w.cleared, change ≤ w.version
  /-- what is cached has seen every change after which the cache has been cleared -/
  cached : ∀ value ∈ w.cached, ∀ change ∈ w.cleared, change ≤ value
  invalidated : ∀ change ∈ w.invalidated, change ∈ w.cleared

theorem start_inv (version : Nat) : Inv (.start version) where
  cleared _ h := absurd h List.not_mem_nil
  cached _ h := by cases h
  invalidated _ h := absurd h List.not_mem_nil

/-- What program `i` counts on, whatever the others do. -/
structure Rely (i : Nat) (w w' : World) : Prop where
  inv : Inv w'
  version : w.version ≤ w'.version
  cleared : ∀ change ∈ w.cleared, change ∈ w'.cleared
  started : ∀ s ∈ w'.started, s.program = i → s ∈ w.started

section Steps

variable {i j : Nat} {w w' : World} {op : CacheOp} {fate : Fate}

theorem Rely.refl (h : Inv w) : Rely i w w :=
  ⟨h, Nat.le_refl _, fun _ h => h, fun _ h _ => h⟩

theorem Rely.trans {w'' : World} (h : Rely i w w') (h' : Rely i w' w'') : Rely i w w'' :=
  ⟨h'.inv, Nat.le_trans h.version h'.version, fun change hchange =>
      h'.cleared change (h.cleared change hchange),
    fun s hs hprogram => h.started s (h'.started s hs hprogram) hprogram⟩

/-- What is true of the world where a call is made. -/
def Ready (w : World) : CacheOp → Prop
  | .keys change | .del change => change ≤ w.version
  | .invalidated change => change ∈ w.cleared
  | _ => True

theorem Inv.expire (h : Inv w) : Inv { w with cached := none } :=
  ⟨h.cleared, (fun _ hvalue => by cases hvalue), h.invalidated⟩

/-- Nothing is cached, and one more change has been dealt with. -/
theorem Inv.clear (h : Inv w) {change : Nat} (hle : change ≤ w.version) :
    Inv { w with cached := none, cleared := change :: w.cleared } where
  cleared other hother := by
    rcases List.mem_cons.mp hother with rfl | hother
    · exact hle
    · exact h.cleared other hother
  cached _ hvalue := by cases hvalue
  invalidated other hother := List.mem_cons_of_mem _ (h.invalidated other hother)

theorem perform_inv (h : Inv w) (hready : Ready w op)
    (hset : ∀ value, op = .set value → ∀ change ∈ w.cleared, change ≤ value) :
    Inv (perform i w op).2 := by
  cases op with
  | set value =>
      refine ⟨h.cleared, fun value' hvalue => ?_, h.invalidated⟩
      obtain rfl := Option.some.inj hvalue
      exact hset value rfl
  | change =>
      exact ⟨fun change hchange => Nat.le_succ_of_le (h.cleared change hchange), h.cached,
        h.invalidated⟩
  | keys change =>
      rw [perform]
      dsimp only
      split
      · exact h
      · rename_i hnone
        have heq : w.cached = none := by simpa using hnone
        have hcleared := h.clear hready
        rw [← heq] at hcleared
        exact hcleared
  | del change => exact h.clear hready
  | invalidated change =>
      refine ⟨h.cleared, h.cached, fun other hother => ?_⟩
      rcases List.mem_cons.mp hother with rfl | hother
      · exact hready
      · exact h.invalidated other hother
  | _ => exact ⟨h.cleared, h.cached, h.invalidated⟩

theorem perform_grows : w.version ≤ (perform i w op).2.version ∧
    ∀ change ∈ w.cleared, change ∈ (perform i w op).2.cleared := by
  cases op with
  | change => exact ⟨Nat.le_succ _, fun _ h => h⟩
  | keys change =>
      rw [perform]
      dsimp only
      split
      · exact ⟨Nat.le_refl _, fun _ h => h⟩
      · exact ⟨Nat.le_refl _, fun _ h => List.mem_cons_of_mem _ h⟩
  | del change => exact ⟨Nat.le_refl _, fun _ h => List.mem_cons_of_mem _ h⟩
  | _ => exact ⟨Nat.le_refl _, fun _ h => h⟩

/-- A program starts itself. -/
theorem perform_started {s : Started} (hs : s ∈ (perform j w op).2.started) :
    s.program = j ∨ s ∈ w.started := by
  cases op with
  | start =>
      rcases List.mem_cons.mp hs with rfl | hs
      · exact .inl rfl
      · exact .inr hs
  | keys change =>
      rw [perform] at hs
      dsimp only at hs
      split at hs
      · exact .inr hs
      · exact .inr hs
  | _ => exact .inr hs

theorem exec_cases (i : Nat) (fate : Fate) (op : CacheOp) (w : World) :
    (((machine i).exec fate op w).2 = w ∧ fate = .lost) ∨
      ((machine i).exec fate op w).2 = (perform i w op).2 ∧ fate ≠ .lost := by
  cases fate with
  | lost => exact .inl ⟨rfl, rfl⟩
  | done => exact .inr ⟨rfl, by decide⟩
  | unanswered => exact .inr ⟨rfl, by decide⟩

theorem exec_inv (h : Inv w) (hready : Ready w op) (hguard : StoresFresh i w op fate) :
    Inv ((machine i).exec fate op w).2 := by
  rcases exec_cases i fate op w with ⟨heq, -⟩ | ⟨heq, hfate⟩
  · rwa [heq]
  · rw [heq]
    refine perform_inv h hready fun value hop => ?_
    subst hop
    exact hguard.resolve_left hfate

theorem exec_rely (hne : i ≠ j) (hinv : Inv ((machine j).exec fate op w).2) :
    Rely i w ((machine j).exec fate op w).2 := by
  rcases exec_cases j fate op w with ⟨heq, -⟩ | ⟨heq, -⟩
  · rw [heq] at hinv ⊢
    exact .refl hinv
  · rw [heq] at hinv ⊢
    refine ⟨hinv, perform_grows.1, perform_grows.2, fun s hs hprogram => ?_⟩
    exact (perform_started hs).resolve_left fun hj => hne (hprogram.symm.trans hj)

theorem Expires.rely (h : Inv w) (hexpires : Expires w w') : Rely i w w' := by
  rcases hexpires with rfl | rfl
  · exact ⟨h.expire, Nat.le_refl _, fun _ h => h, fun _ h _ => h⟩
  · exact ⟨⟨h.cleared, h.cached, h.invalidated⟩, Nat.le_refl _, fun _ h => h, fun _ h _ => h⟩

end Steps

/-! ### The programs -/

section Programs

variable {i : Nat} {w : World}

/-- Program `i` has not started. -/
def NotStarted (i : Nat) (w : World) : Prop := ∀ s ∈ w.started, s.program ≠ i

/-- The cache has been cleared after the changes that were invalidated when program `i` started. -/
def Informed (i : Nat) (w : World) : Prop :=
  ∀ s ∈ w.started, s.program = i → ∀ change ∈ s.invalidated, change ∈ w.cleared

/-- An assertion that the others leave alone. -/
def LeftAlone (i : Nat) (A : World → Prop) : Prop := ∀ w w', A w → Rely i w w' → A w'

theorem alone_true : LeftAlone i fun _ => True := fun _ _ _ _ => trivial

theorem alone_notStarted : LeftAlone i (NotStarted i) :=
  fun _ _ h hrely s hs hprogram => h s (hrely.started s hs hprogram) hprogram

theorem alone_informed : LeftAlone i (Informed i) :=
  fun _ _ h hrely s hs hprogram change hchange =>
    hrely.cleared change (h s (hrely.started s hs hprogram) hprogram change hchange)

theorem alone_fresh (value : Nat) : LeftAlone i (Fresh i value) :=
  fun _ _ h hrely s hs hprogram => h s (hrely.started s hs hprogram) hprogram

/-- Program `i` keeps the invariant while the others move, and ends in `Q` or throws. -/
def Keeps (i : Nat) {α : Type} (p : Cached α) (Q : α → World → Prop) (w : World) : Prop :=
  p.wp (machine i).among (Among (Rely i) (StoresFresh i)) Inv (Prog.Ends Q fun _ _ => True) w

theorem keeps_call {op : CacheOp} {A : World → Prop} {Q : cacheSig.Ans op → World → Prop}
    (halone : LeftAlone i A) (hw : A w) (hready : ∀ w', A w' → Ready w' op)
    (h : ∀ w', Inv w' → A w' → Q (perform i w' op).1 (perform i w' op).2) :
    Keeps i (call op) Q w := by
  refine Prog.wp_call_among halone hw fun w' fate hrely hw' hguard => ?_
  refine ⟨exec_inv hrely.inv (hready w' hw') hguard, ?_⟩
  cases fate with
  | done => exact h w' hrely.inv hw'
  | lost | unanswered => trivial

/-- A loader reads the database after every change after which the cache has been cleared. -/
theorem regenerate_keeps (h : Informed i w) : Keeps i regenerate (Fresh i) w := by
  refine Prog.wp_bind (P := Fresh i)
    (keeps_call alone_informed h (fun _ _ => trivial) fun w' hinv h => ?_) fun value w h => ?_
  · exact fun s hs hprogram change hchange => hinv.cleared change (h s hs hprogram change hchange)
  · exact Prog.wp_bind (P := fun _ => Fresh i value)
      (keeps_call (alone_fresh value) h (fun _ _ => trivial) fun _ _ h => h) fun _ _ h => h

theorem regenerateLocked_keeps (h : Informed i w) : Keeps i regenerateLocked (Fresh i) w := by
  refine Prog.wp_tryFinally_ret (regenerate_keeps h) (fun value w h => ?_) fun w => ?_
  · exact keeps_call (alone_fresh value) h (fun _ _ => trivial) fun _ _ h => h
  · refine Prog.wp_mono (Q := Prog.Ends (fun _ _ => True) fun _ _ => True) ?_ fun _ _ _ => trivial
    exact keeps_call alone_true trivial (fun _ _ => trivial) fun _ _ _ => trivial

/-- What a request knows after it has looked for a cached value. -/
def Looked (i : Nat) (cached : Option Nat) (w : World) : Prop :=
  match cached with
  | some value => Fresh i value w
  | none => Informed i w

/-- What is cached is fresh. -/
theorem get_keeps (h : Informed i w) : Keeps i (call .get) (Looked i) w := by
  refine keeps_call alone_informed h (fun _ _ => trivial) fun w' hinv h => ?_
  show Looked i w'.cached w'
  cases hcached : w'.cached with
  | none => exact h
  | some value =>
      exact fun s hs hprogram change hchange =>
        hinv.cached value hcached change (h s hs hprogram change hchange)

theorem keeps_informed {op : CacheOp} (h : Informed i w) (hready : ∀ w', Ready w' op)
    (hsame : ∀ w', Informed i w' → Informed i (perform i w' op).2) :
    Keeps i (call op) (fun _ => Informed i) w :=
  keeps_call alone_informed h (fun w' _ => hready w') fun w' _ h => hsame w' h

/-- The induction is on the rounds that are left. -/
theorem waitForCache_keeps (rounds : Nat) : ∀ {w : World}, Informed i w →
    Keeps i (waitForCache rounds) (Looked i) w := by
  induction rounds with
  | zero => exact fun h => h
  | succ rounds ih =>
      intro w h
      refine Prog.wp_bind (get_keeps h) fun cached w h => ?_
      cases cached with
      | some value => exact h
      | none =>
          refine Prog.wp_bind (keeps_informed h (fun _ => trivial) fun _ h => h)
            fun lockExists w h => ?_
          split
          · exact ih h
          · refine Prog.wp_bind (keeps_informed h (fun _ => trivial) fun _ h => h)
              fun retryAcquired w h => ?_
            split
            · exact Prog.wp_bind (regenerateLocked_keeps h) fun _ _ h => h
            · exact ih h

theorem withCoalescing_keeps (rounds : Nat) (h : Informed i w) :
    Keeps i (withCoalescing rounds) (Fresh i) w := by
  refine Prog.wp_bind (get_keeps h) fun hit w h => ?_
  cases hit with
  | some value => exact h
  | none =>
      refine Prog.wp_bind (keeps_informed h (fun _ => trivial) fun _ h => h) fun acquired w h => ?_
      split
      · exact regenerateLocked_keeps h
      · refine Prog.wp_bind (waitForCache_keeps rounds h) fun waited w h => ?_
        cases waited with
        | some value => exact h
        | none => exact regenerate_keeps h

/-- **An answer is fresh.** -/
theorem answer_keeps (rounds : Nat) (h : NotStarted i w) :
    Keeps i (answer rounds) (fun value w => ∀ v ∈ value, Fresh i v w) w := by
  refine Prog.wp_bind (P := fun _ => Informed i)
    (keeps_call alone_notStarted h (fun _ _ => trivial) fun w' hinv h => ?_) fun _ w h => ?_
  · intro s hs hprogram
    rcases List.mem_cons.mp hs with rfl | hs
    · exact hinv.invalidated
    · exact absurd hprogram (h s hs)
  · refine Prog.wp_bind (withCoalescing_keeps rounds h) fun value w h v hv => ?_
    obtain rfl := Option.some.inj hv
    exact h

/-- There is nothing left to delete after an invalidation. -/
theorem invalidateLeaderboardCache_keeps {change : Nat} (h : change ≤ w.version) :
    Keeps i (invalidateLeaderboardCache change) (fun _ w => change ∈ w.cleared) w := by
  have halone : LeftAlone i fun w => change ≤ w.version :=
    fun _ _ h hrely => Nat.le_trans h hrely.version
  refine Prog.wp_bind (P := fun keys w => change ≤ w.version ∧ (keys = false → change ∈ w.cleared))
    (keeps_call halone h (fun _ h => h) fun w' _ h => ?_) fun keys w h => ?_
  · show change ≤ (perform i w' (.keys change)).2.version ∧
      (w'.cached.isSome = false → change ∈ (perform i w' (.keys change)).2.cleared)
    rw [perform]
    dsimp only
    split
    · rename_i hsome
      exact ⟨h, fun hnone => by rw [hsome] at hnone; cases hnone⟩
    · exact ⟨h, fun _ => List.mem_cons_self⟩
  · split
    · exact keeps_call halone h.1 (fun _ h => h) fun _ _ _ => List.mem_cons_self
    · rename_i hnone
      exact h.2 (by simpa using hnone)

theorem changeAndInvalidate_keeps :
    Keeps i changeAndInvalidate (fun value _ => value = none) w := by
  refine Prog.wp_bind (P := fun change w => change ≤ w.version)
    (keeps_call alone_true trivial (fun _ _ => trivial) fun _ _ _ => Nat.le_refl _)
    fun change w h => ?_
  refine Prog.wp_bind (invalidateLeaderboardCache_keeps h) fun _ w h => ?_
  exact Prog.wp_bind (P := fun _ _ => True)
    (keeps_call (fun _ _ h hrely => hrely.cleared change h) h (fun _ h => h) fun _ _ _ => trivial)
    fun _ _ _ => rfl

end Programs

/-! ### Every interleaving -/

/-- What is known of a program that has ended. -/
def Ended (i : Nat) (r : Except ApiError (Option Nat)) (w : World) : Prop :=
  ∀ value, r = .ok (some value) → Fresh i value w

theorem caching_proved :
    Crew.Proved machine StoresFresh IsProgram Expires Inv Rely NotStarted Ended where
  refl _ _ h := .refl h
  trans _ _ _ _ h h' := h.trans h'
  stays _ _ _ h hrely := alone_notStarted _ _ h hrely
  lasts _ _ _ _ h hrely value hr := alone_fresh value _ _ (h value hr) hrely
  spawned i w p hp _ hfresh := by
    rcases hp with ⟨rounds, rfl⟩ | rfl
    · refine Prog.wp_mono (answer_keeps rounds hfresh) fun r w' h value hr => ?_
      subst hr
      exact h value rfl
    · refine Prog.wp_mono changeAndInvalidate_keeps fun r w' h value hr => ?_
      subst hr
      cases h
  others _ _ _ _ _ hne _ _ hinv := exec_rely hne hinv
  drifted _ _ _ h hexpires := ⟨(hexpires.rely (i := 0) h).inv, hexpires.rely h⟩

/-- **An invalidation is effective**, in every interleaving of which every step meets
`StoresFresh`. -/
theorem invalidation_effective {version : Nat} {w : World} {ps : List (Cached (Option Nat))}
    (h : Crew machine StoresFresh IsProgram Expires (.start version) w ps) :
    InvalidationEffective w ps := by
  intro i value hi
  have hnone : ∀ i, NotStarted i (.start version) := fun i s hs => absurd hs List.not_mem_nil
  exact (caching_proved.sound (start_inv version) hnone h).2.1 i _ hi value rfl

/-! ### A slow loader -/

def steps (i n : Nat) : List (Nat × Fate) := List.replicate n (i, .done)

/-- Two requests, with a change between them. -/
def programs : List (Cached (Option Nat)) := [answer 0, changeAndInvalidate, answer 0]

def playPrograms (schedule : List (Nat × Fate)) : World × List (Cached (Option Nat)) :=
  playCrew machine schedule (.start 0) programs

theorem spawn_programs {G : Nat → World → CacheOp → Fate → Prop} :
    Crew machine G IsProgram Expires (.start 0) (.start 0) programs :=
  Crew.spawn (Crew.spawn (Crew.spawn .init (.inl ⟨0, rfl⟩)) (.inr rfl)) (.inl ⟨0, rfl⟩)

/-- What the requests are answered. -/
def answers (ps : List (Cached (Option Nat))) : List (Option Nat) :=
  ps.map fun p =>
    match p with
    | .ret value => value
    | _ => none

/-- One after the other. -/
def inOrder : List (Nat × Fate) := steps 0 6 ++ steps 1 4 ++ steps 2 6

theorem second_request_sees_change :
    answers (playPrograms inOrder).2 = [some 0, none, some 1] ∧
      InvalidationEffective (playPrograms inOrder).1 (playPrograms inOrder).2 :=
  ⟨by decide +kernel, invalidation_effective (Crew.play inOrder spawn_programs
    (by decide +kernel : playCrewOk machine StoresFresh _ _ _))⟩

/-- The first request has loaded the value before the change, and stores it afterwards. -/
def overlap : List (Nat × Fate) := steps 0 4 ++ steps 1 3 ++ steps 0 2 ++ steps 2 2

theorem second_request_misses_change : ∃ w ps,
    Crew machine (fun _ _ _ fate => fate = .done) IsProgram Expires (.start 0) w ps ∧
      answers ps = [some 0, none, some 0] ∧ w.started = [⟨2, [1]⟩, ⟨0, []⟩] ∧
        ¬ InvalidationEffective w ps := by
  have hdone : ∀ move ∈ overlap, move.2 = .done := by decide +kernel
  have hreached : Crew machine (fun _ _ _ fate => fate = .done) IsProgram Expires (.start 0)
      (playPrograms overlap).1 (playPrograms overlap).2 :=
    Crew.play overlap spawn_programs
      (playCrewOk_of_forall _ fun move hmove _ _ => hdone move hmove)
  refine ⟨_, _, hreached, by decide +kernel, by decide +kernel, fun h => ?_⟩
  have hfresh := h 2 0 rfl
  revert hfresh
  decide +kernel

end BrandBlitz.Caching

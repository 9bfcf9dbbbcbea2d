import Mathlib.Data.List.Chain
import BrandBlitz.Lib.Crew

/-!
# BrandBlitz.Lib.CheckThenAct

**Check, then act.** Programs share values under keys. A program looks at a value, finds that it
may go on, and some awaits later writes a new one, whatever is there by then.

* `Touches` says of an operation which value its answer shows, and which one it writes without
  looking.
* `Prog.Checks` is the discipline of a program by itself: what it writes is allowed after every
  value it has seen.
* A `Chronicle` is the history of the values, and the looks that still count. A look at a key
  counts until the key gets a final value.
* `Crew.chronicle_sound` joins them: where programs with the discipline write only on looks that
  still count, every value changes as is allowed.
-/

namespace BrandBlitz.Lib

variable {S : Sig} {ε α β W E κ V : Type}

/-- How operations touch the values. -/
structure Touches (S : Sig) (ε κ V : Type) where
  seen : (op : S.Op) → Except ε (S.Ans op) → Option (κ × V)
  writes : S.Op → Option (κ × V)

/-! ### The discipline of a program -/

namespace Prog

/-- What is written is allowed after every value seen before, which `φ` describes at first. -/
def Checks (T : Touches S ε κ V) (allowed : V → V → Prop) :
    Prog S ε α → (κ → V → Prop) → Prop
  | ret _, _ | raise _, _ => True
  | await op k, φ =>
    (∀ key v', T.writes op = some (key, v') → ∀ v, φ key v → allowed v v') ∧
      ∀ r, (k r).Checks T allowed fun key v => φ key v ∨ T.seen op r = some (key, v)

variable {T : Touches S ε κ V} {allowed : V → V → Prop} {φ : κ → V → Prop}

theorem Checks.mono {p : Prog S ε α} : ∀ {φ ψ : κ → V → Prop}, p.Checks T allowed ψ →
    (∀ key v, φ key v → ψ key v) → p.Checks T allowed φ := by
  induction p with
  | ret a => intro φ ψ _ _; trivial
  | raise e => intro φ ψ _ _; trivial
  | await op k ih =>
      intro φ ψ h hφ
      refine ⟨fun key v' hw v hv => h.1 key v' hw v (hφ key v hv), fun r => ?_⟩
      exact ih r (h.2 r) fun key v hv => hv.imp_left (hφ key v)

/-- An operation that shows nothing, and writes what may follow on `φ`. -/
def Unseeing (T : Touches S ε κ V) (allowed : V → V → Prop) (φ : κ → V → Prop) (op : S.Op) :
    Prop :=
  (∀ r, T.seen op r = none) ∧
    ∀ key v', T.writes op = some (key, v') → ∀ v, φ key v → allowed v v'

/-- An operation that does neither. -/
def Untouching (T : Touches S ε κ V) (op : S.Op) : Prop :=
  (∀ r, T.seen op r = none) ∧ T.writes op = none

theorem Untouching.unseeing {op : S.Op} (h : Untouching T op) : Unseeing T allowed φ op := by
  refine ⟨h.1, fun key v' hw => ?_⟩
  rw [h.2] at hw
  cases hw

/-- An await after which no more has been seen. -/
theorem checks_await {op : S.Op} {k : Except ε (S.Ans op) → Prog S ε α}
    (hop : Unseeing T allowed φ op) (hk : ∀ r, (k r).Checks T allowed φ) :
    (await op k).Checks T allowed φ := by
  refine ⟨hop.2, fun r => (hk r).mono fun key v hv => ?_⟩
  rcases hv with hv | hv
  · exact hv
  · rw [hop.1] at hv
    cases hv

/-- Nothing new is seen in `p`, and then `f` takes over. -/
theorem checks_bind {p : Prog S ε α} {f : α → Prog S ε β}
    (hp : p.Emits (Unseeing T allowed φ) (fun _ _ => True) fun _ => True)
    (hf : ∀ a, (f a).Checks T allowed φ) : (p.bind f).Checks T allowed φ := by
  induction p with
  | ret a => exact hf a
  | raise e => trivial
  | await op k ih => exact checks_await hp.1 fun r => ih r (hp.2 r trivial)

/-- Nothing new is seen to the end. -/
theorem checks_of_emits {p : Prog S ε α}
    (hp : p.Emits (Unseeing T allowed φ) (fun _ _ => True) fun _ => True) :
    p.Checks T allowed φ := by
  induction p with
  | ret a => trivial
  | raise e => trivial
  | await op k ih => exact checks_await hp.1 fun r => ih r (hp.2 r trivial)

/-- A look, and what the program makes of it. -/
theorem checks_call_bind {op : S.Op} {f : S.Ans op → Prog S ε β} (hop : T.writes op = none)
    (hf : ∀ a, (f a).Checks T allowed
      fun key v => φ key v ∨ T.seen op (.ok a) = some (key, v)) :
    ((call op).bind f).Checks T allowed φ := by
  refine ⟨fun key v' hw => ?_, fun r => ?_⟩
  · rw [hop] at hw
    cases hw
  · cases r with
    | ok a => exact hf a
    | error e => trivial

/-- An operation that does not touch the values, and then `f`. -/
theorem checks_untouching_bind {op : S.Op} {f : S.Ans op → Prog S ε β}
    (hop : Untouching T op) (hf : ∀ a, (f a).Checks T allowed φ) :
    ((call op).bind f).Checks T allowed φ :=
  checks_bind (Emits.call hop.unseeing fun _ _ => trivial) hf

/-- What follows does not touch the values. -/
theorem Checks.bind_untouching {f : α → Prog S ε β}
    (hf : ∀ a, (f a).Emits (Untouching T) (fun _ _ => True) fun _ => True) {p : Prog S ε α} :
    ∀ {φ : κ → V → Prop}, p.Checks T allowed φ → (p.bind f).Checks T allowed φ := by
  induction p with
  | ret a =>
      intro φ _
      exact checks_of_emits ((hf a).imp_ok fun _ hop => hop.unseeing)
  | raise e => intro φ _; trivial
  | await op k ih => intro φ h; exact ⟨h.1, fun r => ih r (h.2 r)⟩

/-- A handler that does not touch the values. -/
theorem Checks.tryCatch_untouching {h : ε → Prog S ε α}
    (hh : ∀ e, (h e).Emits (Untouching T) (fun _ _ => True) fun _ => True) {p : Prog S ε α} :
    ∀ {φ : κ → V → Prop}, p.Checks T allowed φ → (p.tryCatch h).Checks T allowed φ := by
  induction p with
  | ret a => intro φ _; trivial
  | raise e =>
      intro φ _
      exact checks_of_emits ((hh e).imp_ok fun _ hop => hop.unseeing)
  | await op k ih => intro φ hp; exact ⟨hp.1, fun r => ih r (hp.2 r)⟩

/-- The same program over a larger set of operations. -/
theorem Checks.embed {S' : Sig} {T' : Touches S' ε κ V} {h : Hom S S'}
    (hseen : ∀ op r, T'.seen (h.op op) r = T.seen op (r.map (h.ans op)))
    (hwrites : ∀ op, T'.writes (h.op op) = T.writes op) {p : Prog S ε α} :
    ∀ {φ : κ → V → Prop}, p.Checks T allowed φ → (p.embed h).Checks T' allowed φ := by
  induction p with
  | ret a => intro φ _; trivial
  | raise e => intro φ _; trivial
  | await op k ih =>
      intro φ hp
      refine ⟨fun key v' hw => hp.1 key v' (hwrites op ▸ hw), fun r => ?_⟩
      exact (ih _ (hp.2 (r.map (h.ans op)))).mono fun key v hv => by rwa [hseen] at hv

end Prog

/-! ### Chronicles -/

/-- What the values have been, and who has looked. -/
structure Chronicle (κ V : Type) where
  history : κ → List V
  looks : List (Nat × κ × V)

namespace Chronicle

/-- The first page. -/
def starting (vals : κ → Option V) : Chronicle κ V := ⟨fun k => (vals k).toList, []⟩

/-- The values have changed. Looks at a key that got a final value count no more. -/
def record [DecidableEq V] (final : V → Bool) (vals vals' : κ → Option V) (c : Chronicle κ V) :
    Chronicle κ V where
  history k :=
    match vals' k with
    | none => c.history k
    | some v => if vals k = some v then c.history k else c.history k ++ [v]
  looks := c.looks.filter fun l => vals' l.2.1 = vals l.2.1 || !(vals' l.2.1).any final

/-- Program `i` has seen a value. -/
def look (i : Nat) (c : Chronicle κ V) : Option (κ × V) → Chronicle κ V
  | none => c
  | some (k, v) => { c with looks := c.looks ++ [(i, k, v)] }

/-- Every change was allowed, and a look that counts has seen the value, if that is final. -/
structure Sound (allowed : V → V → Prop) (final : V → Bool) (vals : κ → Option V)
    (c : Chronicle κ V) : Prop where
  current : ∀ k, (c.history k).getLast? = vals k
  chain : ∀ k, (c.history k).IsChain allowed
  looks : ∀ l ∈ c.looks, ∀ v, vals l.2.1 = some v → final v = true → v = l.2.2

variable {allowed : V → V → Prop} {final : V → Bool} {vals vals' : κ → Option V}
  {c : Chronicle κ V}

theorem sound_starting : (starting vals).Sound allowed final vals where
  current k := by
    simp only [starting]
    cases vals k <;> rfl
  chain k := by
    simp only [starting]
    cases vals k with
    | none => exact List.isChain_nil
    | some v => exact List.isChain_singleton v
  looks l hl := absurd hl List.not_mem_nil

theorem Sound.record [DecidableEq V] (h : c.Sound allowed final vals)
    (hvals : ∀ k v, vals k = some v → ∃ v', vals' k = some v' ∧ allowed v v') :
    (c.record final vals vals').Sound allowed final vals' where
  current k := by
    simp only [Chronicle.record]
    cases hv' : vals' k with
    | none =>
        refine (h.current k).trans (Option.eq_none_iff_forall_ne_some.mpr fun v hv => ?_)
        obtain ⟨v', hv'', -⟩ := hvals k v hv
        rw [hv'] at hv''
        cases hv''
    | some v' =>
        dsimp only
        split
        · rename_i hsame
          exact (h.current k).trans hsame
        · exact List.getLast?_concat
  chain k := by
    simp only [Chronicle.record]
    split
    · exact h.chain k
    · rename_i v' hv'
      split
      · exact h.chain k
      · refine List.isChain_append.mpr ⟨h.chain k, List.isChain_singleton _, fun v hv w hw => ?_⟩
        rw [h.current k] at hv
        obtain ⟨v'', hv'', hallowed⟩ := hvals k v hv
        rw [hv'] at hv''
        cases hv''
        cases hw
        exact hallowed
  looks l hl v hv hfinal := by
    obtain ⟨hl, hcounts⟩ := List.mem_filter.mp hl
    simp only [Bool.or_eq_true, decide_eq_true_eq] at hcounts
    rcases hcounts with hsame | hopen
    · exact h.looks l hl v (hsame ▸ hv) hfinal
    · rw [hv, Option.any_some, hfinal] at hopen
      cases hopen

theorem Sound.look (h : c.Sound allowed final vals) (i : Nat) {seen : Option (κ × V)}
    (hseen : ∀ k v, seen = some (k, v) → vals k = some v) :
    (c.look i seen).Sound allowed final vals := by
  cases seen with
  | none => exact h
  | some entry =>
      refine ⟨h.current, h.chain, fun l hl v hv hfinal => ?_⟩
      rcases List.mem_append.mp hl with hl | hl
      · exact h.looks l hl v hv hfinal
      · rw [List.mem_singleton.mp hl] at hv ⊢
        rw [hseen entry.1 entry.2 rfl] at hv
        exact (Option.some.inj hv).symm

/-- **A write on a look that counts** is allowed after the value that is there. -/
theorem Sound.act (h : c.Sound allowed final vals)
    (hopen : ∀ v v', final v = false → allowed v v') {i : Nat} {k : κ} {v v' t : V}
    (hlook : (i, k, v) ∈ c.looks) (hallowed : allowed v v') (ht : vals k = some t) :
    allowed t v' := by
  cases hfinal : final t with
  | false => exact hopen t v' hfinal
  | true => exact h.looks _ hlook t ht hfinal ▸ hallowed

theorem mem_looks_record [DecidableEq V] {l : Nat × κ × V}
    (hl : l ∈ (c.record final vals vals').looks) : l ∈ c.looks := (List.mem_filter.mp hl).1

theorem mem_looks_look {i j : Nat} {seen : Option (κ × V)} {k : κ} {v : V}
    (hl : (j, k, v) ∈ (c.look i seen).looks) :
    (j, k, v) ∈ c.looks ∨ (j = i ∧ seen = some (k, v)) := by
  cases seen with
  | none => exact .inl hl
  | some entry =>
      rcases List.mem_append.mp hl with hl | hl
      · exact .inl hl
      · obtain ⟨hj, hentry⟩ := Prod.mk.inj (List.mem_singleton.mp hl)
        exact .inr ⟨hj, congrArg some hentry.symm⟩

end Chronicle

/-! ### Any number of programs -/

/-- A world with its chronicle. -/
structure Chronicled (W κ V : Type) where
  world : W
  chronicle : Chronicle κ V

/-- What is to be known of the operations: a value shown is the value there, and values stay or
change as is allowed, but for what is written. -/
structure Touches.Describes (T : Touches S ε κ V) (M : Machine S ε W E)
    (vals : W → κ → Option V) (allowed : V → V → Prop) : Prop where
  seen : ∀ e op w k v, T.seen op (M.exec e op w).1 = some (k, v) →
    vals (M.exec e op w).2 k = some v
  steps : ∀ e op w k v, vals w k = some v → ∃ v', vals (M.exec e op w).2 k = some v' ∧
    (allowed v v' ∨ T.writes op = some (k, v'))

/-- The world as program `i` meets it, and the chronicle kept. -/
def Machine.chronicled [DecidableEq V] (M : Machine S ε W E) (T : Touches S ε κ V)
    (final : V → Bool) (vals : W → κ → Option V) (i : Nat) :
    Machine S ε (Chronicled W κ V) E where
  exec e op w :=
    ((M.exec e op w.world).1, ⟨(M.exec e op w.world).2,
      (w.chronicle.record final (vals w.world) (vals (M.exec e op w.world).2)).look i
        (T.seen op (M.exec e op w.world).1)⟩)

/-- Program `i` writes on a look that still counts. -/
def OnALook (T : Touches S ε κ V) (i : Nat) (w : Chronicled W κ V) (op : S.Op) (_ : E) : Prop :=
  ∀ k v', T.writes op = some (k, v') → ∃ v, (i, k, v) ∈ w.chronicle.looks

instance OnALook.decidable [DecidableEq κ] (T : Touches S ε κ V) (i : Nat)
    (w : Chronicled W κ V) (op : S.Op) (e : E) : Decidable (OnALook T i w op e) :=
  match hwrites : T.writes op with
  | none => .isTrue fun k v' h => by
      rw [hwrites] at h
      cases h
  | some (k, v') =>
    decidable_of_iff (∃ l ∈ w.chronicle.looks, l.1 = i ∧ l.2.1 = k) (by
      constructor
      · rintro ⟨l, hl, rfl, rfl⟩ k v h
        rw [hwrites] at h
        cases h
        exact ⟨l.2.2, hl⟩
      · intro h
        obtain ⟨v, hl⟩ := h k v' hwrites
        exact ⟨_, hl, rfl, rfl⟩)

/-- The drift of the world, chronicled. -/
inductive Chronicled.Drift [DecidableEq V] (final : V → Bool) (vals : W → κ → Option V)
    (drift : W → W → Prop) (w : Chronicled W κ V) : Chronicled W κ V → Prop
  | drift {w' : W} : drift w.world w' →
      Chronicled.Drift final vals drift w
        ⟨w', w.chronicle.record final (vals w.world) (vals w')⟩

section Crew

variable [DecidableEq V] {M : Machine S ε W E} {T : Touches S ε κ V} {allowed : V → V → Prop}
  {final : V → Bool} {vals : W → κ → Option V} {drift : W → W → Prop}

/-- What program `i` can count on: nobody looks in its name. -/
def ChronicleRely (allowed : V → V → Prop) (final : V → Bool) (vals : W → κ → Option V)
    (i : Nat) (w w' : Chronicled W κ V) : Prop :=
  w'.chronicle.Sound allowed final (vals w'.world) ∧
    ∀ k v, (i, k, v) ∈ w'.chronicle.looks → (i, k, v) ∈ w.chronicle.looks

theorem wp_of_checks (hT : T.Describes M vals allowed)
    (hopen : ∀ v v', final v = false → allowed v v') {i : Nat} {p : Prog S ε α} :
    ∀ {φ : κ → V → Prop} {w : Chronicled W κ V}, p.Checks T allowed φ →
      (∀ k v, (i, k, v) ∈ w.chronicle.looks → φ k v) →
      p.wp (M.chronicled T final vals i).among
        (Among (ChronicleRely allowed final vals i) (OnALook T i))
        (fun w => w.chronicle.Sound allowed final (vals w.world)) (fun _ _ => True) w := by
  induction p with
  | ret a => intro φ w _ _; trivial
  | raise e => intro φ w _ _; trivial
  | await op k ih =>
      intro φ w hchecks hseen move hmove
      obtain ⟨⟨hsound, hlooks⟩, hguard⟩ := hmove
      have hvals : ∀ key v, vals move.1.world key = some v →
          ∃ v', vals (M.exec move.2 op move.1.world).2 key = some v' ∧ allowed v v' := by
        intro key v hv
        obtain ⟨v', hv', hallowed | hwrites⟩ := hT.steps move.2 op move.1.world key v hv
        · exact ⟨v', hv', hallowed⟩
        · obtain ⟨v₀, hlook⟩ := hguard key v' hwrites
          have hv₀ : φ key v₀ := hseen key v₀ (hlooks key v₀ hlook)
          exact ⟨v', hv', hsound.act hopen hlook (hchecks.1 key v' hwrites v₀ hv₀) hv⟩
      refine ⟨(hsound.record hvals).look i (hT.seen move.2 op move.1.world), ?_⟩
      refine ih _ (hchecks.2 _) fun key v hl => ?_
      rcases Chronicle.mem_looks_look hl with hl | ⟨-, hl⟩
      · exact .inl (hseen key v (hlooks key v (Chronicle.mem_looks_record hl)))
      · exact .inr hl

theorem verified_of_checks (hT : T.Describes M vals allowed)
    (hopen : ∀ v v', final v = false → allowed v v')
    (hdrift : ∀ w w', drift w w' → ∀ k v, vals w k = some v →
      ∃ v', vals w' k = some v' ∧ allowed v v') {spawn : Prog S ε α → Prop}
    (hspawn : ∀ p, spawn p → p.Checks T allowed fun _ _ => False) :
    Crew.Verified (M.chronicled T final vals) (OnALook T) spawn
      (Chronicled.Drift final vals drift)
      (fun w => w.chronicle.Sound allowed final (vals w.world))
      (ChronicleRely allowed final vals) fun i w => ∀ k v, (i, k, v) ∉ w.chronicle.looks where
  refl _ _ hw := ⟨hw, fun _ _ hl => hl⟩
  trans _ _ _ _ h h' := ⟨h'.1, fun k v hl => h.2 k v (h'.2 k v hl)⟩
  stays _ _ _ hfresh h k v hl := hfresh k v (h.2 k v hl)
  spawned i w p hp hw hfresh := wp_of_checks hT hopen (hspawn p hp) hfresh
  others i j w op e hij _ _ hw' := by
    refine ⟨hw', fun k v hl => ?_⟩
    rcases Chronicle.mem_looks_look hl with hl | ⟨hi, -⟩
    · exact Chronicle.mem_looks_record hl
    · exact absurd hi hij
  drifted i w w' hw h := by
    cases h with
    | drift hd =>
        have hw' := hw.record (hdrift _ _ hd)
        exact ⟨hw', hw', fun k v hl => Chronicle.mem_looks_record hl⟩

/-- **Check, then act.** Where programs with the discipline write only on looks that still
count, the chronicle stays sound. -/
theorem Crew.chronicle_sound (hT : T.Describes M vals allowed)
    (hopen : ∀ v v', final v = false → allowed v v')
    (hdrift : ∀ w w', drift w w' → ∀ k v, vals w k = some v →
      ∃ v', vals w' k = some v' ∧ allowed v v') {spawn : Prog S ε α → Prop}
    (hspawn : ∀ p, spawn p → p.Checks T allowed fun _ _ => False) {w₀ w : Chronicled W κ V}
    (h₀ : w₀.chronicle = .starting (vals w₀.world)) {ps : List (Prog S ε α)}
    (h : Crew (M.chronicled T final vals) (OnALook T) spawn (Chronicled.Drift final vals drift)
      w₀ w ps) : w.chronicle.Sound allowed final (vals w.world) := by
  have hfirst : w₀.chronicle.Sound allowed final (vals w₀.world) := h₀ ▸ Chronicle.sound_starting
  have hfresh : ∀ i k v, (i, k, v) ∉ w₀.chronicle.looks := by
    intro i k v hl
    rw [h₀] at hl
    cases hl
  exact ((verified_of_checks hT hopen hdrift hspawn).sound hfirst hfresh h).1

end Crew

end BrandBlitz.Lib

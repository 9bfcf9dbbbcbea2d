import Mathlib.Init

/-!
# BrandBlitz.Lib.Async

**Asynchronous programs**: sequential code that awaits operations of the outside
world, may throw, and may catch.

A program (`Prog`) is a tree. It has returned, it has thrown, or it awaits one
operation and goes on according to the answer, which is a value or a thrown
error. Code between two awaits is pure and runs without interruption, so the
awaits are exactly the points where other programs can run and where a failure
can strike.

The world is a `Machine`: it performs one awaited operation, given what the
environment contributes to that one call. There are two ways to run programs over
it, and two rules of proof:

* **one after another** (`Seq`): runs follow each other, each to its end. The rule
  is a weakest precondition over the tree (`Prog.wp`), with an invariant required
  at every await and a condition on the environment's contributions (a *guard*);
  `Seq.sound` lifts it to any number of runs.
* **interleaved** (`BrandBlitz.Lib.Crew`): any number of programs in flight, each
  step advancing any one of them. Where all that is needed of a program is which
  operations it can ever emit, the rule is `Prog.Emits`.
-/

namespace BrandBlitz.Lib

/-- The operations a program can await, and the type of each answer. -/
structure Sig where
  Op : Type
  Ans : Op → Type

/-- A program that awaits operations of `S`, throws values of `ε` and returns
values of `α`. -/
inductive Prog (S : Sig) (ε α : Type) where
  | ret (a : α)
  | raise (e : ε)
  | await (op : S.Op) (k : Except ε (S.Ans op) → Prog S ε α)

/-- The outside world: how one awaited operation is answered, given what the
environment (an element of `E`) contributes to that call. -/
structure Machine (S : Sig) (ε W E : Type) where
  exec : E → (op : S.Op) → W → Except ε (S.Ans op) × W

/-- A machine whose world also says whether every step so far has met a guard. -/
def Machine.watched {S : Sig} {ε W E : Type} (M : Machine S ε W E) (G : W → S.Op → E → Prop) :
    Machine S ε (W × Prop) E where
  exec e op w := ((M.exec e op w.1).1, (M.exec e op w.1).2, w.2 ∧ G w.1 op e)

namespace Prog

variable {S T : Sig} {ε α β W E : Type}

/-! ### Building programs -/

/-- Sequencing. -/
def bind : Prog S ε α → (α → Prog S ε β) → Prog S ε β
  | ret a, f => f a
  | raise e, _ => raise e
  | await op k, f => await op fun r => (k r).bind f

/-- `try p catch h`. -/
def tryCatch : Prog S ε α → (ε → Prog S ε α) → Prog S ε α
  | ret a, _ => ret a
  | raise e, h => h e
  | await op k, h => await op fun r => (k r).tryCatch h

/-- Run a program, and have what it returned or threw. -/
def attempt : Prog S ε α → Prog S ε (Except ε α)
  | ret a => ret (.ok a)
  | raise e => ret (.error e)
  | await op k => await op fun r => (k r).attempt

instance : Monad (Prog S ε) where
  pure := ret
  bind := bind

/-- Continue with an answer, or rethrow it. -/
def ofExcept : Except ε α → Prog S ε α
  | .ok a => ret a
  | .error e => raise e

/-- `try p finally f`: an error of `f` takes the place of what `p` returned or threw. -/
def tryFinally (p : Prog S ε α) (f : Prog S ε Unit) : Prog S ε α :=
  p.attempt.bind fun r => f.bind fun _ => ofExcept r

/-- A transaction on a connection: what is thrown after it was taken is rethrown when the
transaction has been rolled back. The error of the rollback itself takes its place. -/
def transaction (connect start commit rollback : Prog S ε Unit) (work : Prog S ε α) :
    Prog S ε α := do
  connect
  tryCatch
    (do
      start
      let result ← work
      commit
      return result)
    fun err => do
      rollback
      raise err

/-- Await one operation. -/
def call (op : S.Op) : Prog S ε (S.Ans op) := await op ofExcept

/-- `for (const a of list) { … }`. -/
def forEach (list : List α) (body : α → Prog S ε Unit) : Prog S ε Unit :=
  match list with
  | [] => ret ()
  | a :: rest => (body a).bind fun _ => forEach rest body

/-- A renaming of operations that keeps their answers. -/
structure Hom (S T : Sig) where
  op : S.Op → T.Op
  ans : ∀ o, T.Ans (op o) → S.Ans o

/-- A renaming that leaves the answers alone. -/
theorem except_map_self (r : Except ε α) : r.map (fun a => a) = r := by
  cases r <;> rfl

/-- Run a program over a larger set of operations. -/
def embed (h : Hom S T) : Prog S ε α → Prog T ε α
  | ret a => ret a
  | raise e => raise e
  | await o k => await (h.op o) fun r => (k (r.map (h.ans o))).embed h

/-! ### Running a program -/

/-- Run a program to its end: the environment's contributions are consumed in
order, one per await. -/
def run (M : Machine S ε W E) : Prog S ε α → (Nat → E) → W → Except ε α × W
  | ret a, _, w => (.ok a, w)
  | raise e, _, w => (.error e, w)
  | await op k, s, w =>
    (k (M.exec (s 0) op w).1).run M (fun n => s (n + 1)) (M.exec (s 0) op w).2

/-- Every step of the run meets the guard. -/
def runOk (M : Machine S ε W E) (G : W → S.Op → E → Prop) : Prog S ε α → (Nat → E) → W → Prop
  | ret _, _, _ | raise _, _, _ => True
  | await op k, s, w => G w op (s 0) ∧
    (k (M.exec (s 0) op w).1).runOk M G (fun n => s (n + 1)) (M.exec (s 0) op w).2

instance runOk.decidable (M : Machine S ε W E) (G : W → S.Op → E → Prop)
    [hG : ∀ w op e, Decidable (G w op e)] :
    ∀ (p : Prog S ε α) (s : Nat → E) (w : W), Decidable (p.runOk M G s w)
  | ret _, _, _ | raise _, _, _ => .isTrue trivial
  | await op k, s, w =>
    have := runOk.decidable M G (k (M.exec (s 0) op w).1) (fun n => s (n + 1))
      (M.exec (s 0) op w).2
    inferInstanceAs (Decidable (G w op (s 0) ∧ _))

theorem runOk_of_forall {M : Machine S ε W E} {G : W → S.Op → E → Prop} {p : Prog S ε α} :
    ∀ {s : Nat → E} {w : W}, (∀ w op n, G w op (s n)) → p.runOk M G s w := by
  induction p with
  | ret a => intro s w _; trivial
  | raise e => intro s w _; trivial
  | await op k ih => intro s w h; exact ⟨h w op 0, ih _ fun w op n => h w op (n + 1)⟩

theorem runOk_and {M : Machine S ε W E} {G H : W → S.Op → E → Prop} {p : Prog S ε α} :
    ∀ {s : Nat → E} {w : W}, p.runOk M G s w → p.runOk M H s w →
      p.runOk M (fun w op e => G w op e ∧ H w op e) s w := by
  induction p with
  | ret a => intro s w _ _; trivial
  | raise e => intro s w _ _; trivial
  | await op k ih => intro s w hG hH; exact ⟨⟨hG.1, hH.1⟩, ih _ hG.2 hH.2⟩

/-! ### Weakest preconditions

`wp M G I p Q w`: whatever the environment contributes, as long as every step
meets the guard `G`, running `p` from `w` keeps `I` at every await and ends in a
result and world that satisfy `Q`. -/

/-- The weakest precondition of a program. -/
def wp (M : Machine S ε W E) (G : W → S.Op → E → Prop) (I : W → Prop) :
    Prog S ε α → (Except ε α → W → Prop) → W → Prop
  | ret a, Q, w => Q (.ok a) w
  | raise e, Q, w => Q (.error e) w
  | await op k, Q, w => ∀ e, G w op e →
      I (M.exec e op w).2 ∧ (k (M.exec e op w).1).wp M G I Q (M.exec e op w).2

variable {M : Machine S ε W E} {G : W → S.Op → E → Prop} {I : W → Prop}

theorem wp_mono {p : Prog S ε α} {Q R : Except ε α → W → Prop} :
    ∀ {w : W}, p.wp M G I Q w → (∀ r w', Q r w' → R r w') → p.wp M G I R w := by
  induction p with
  | ret a => intro w h hQR; exact hQR _ _ h
  | raise e => intro w h hQR; exact hQR _ _ h
  | await op k ih =>
      intro w h hQR e he
      exact ⟨(h e he).1, ih _ (h e he).2 hQR⟩

/-- A postcondition by cases: `Q` of the value returned, `R` of the error thrown. -/
def Ends (Q : α → W → Prop) (R : ε → W → Prop) : Except ε α → W → Prop
  | .ok a, w => Q a w
  | .error e, w => R e w

variable {Q : β → W → Prop} {R : ε → W → Prop}

/-- Sequencing: an error of the first program is the error of the whole. -/
theorem wp_bind {p : Prog S ε α} {f : α → Prog S ε β} {P : α → W → Prop} {w : W}
    (hp : p.wp M G I (Ends P R) w)
    (hf : ∀ a w', P a w' → (f a).wp M G I (Ends Q R) w') :
    (p.bind f).wp M G I (Ends Q R) w := by
  induction p generalizing w with
  | ret a => exact hf a w hp
  | raise e => exact hp
  | await op k ih => exact fun e he => ⟨(hp e he).1, ih _ (hp e he).2⟩

/-- `try`/`catch`: an error of the body is handed to the handler. -/
theorem wp_tryCatch {p : Prog S ε β} {h : ε → Prog S ε β} {P : ε → W → Prop} {w : W}
    (hp : p.wp M G I (Ends Q P) w)
    (hh : ∀ e w', P e w' → (h e).wp M G I (Ends Q R) w') :
    (p.tryCatch h).wp M G I (Ends Q R) w := by
  induction p generalizing w with
  | ret a => exact hp
  | raise e => exact hh e w hp
  | await op k ih => exact fun e he => ⟨(hp e he).1, ih _ (hp e he).2⟩

theorem wp_attempt {p : Prog S ε β} {w : W} {R' : ε → W → Prop} {Q' : Except ε β → W → Prop}
    (hp : p.wp M G I Q' w) : p.attempt.wp M G I (Ends Q' R') w := by
  induction p generalizing w with
  | ret a => exact hp
  | raise e => exact hp
  | await op k ih => exact fun e he => ⟨(hp e he).1, ih _ (hp e he).2⟩

/-- A transaction: each part starts where the one before it has ended, and the rollback wherever
one of them throws. -/
theorem wp_transaction {connect start commit rollback : Prog S ε Unit} {work : Prog S ε β}
    {A B : W → Prop} {C : β → W → Prop} {P : ε → W → Prop} {w : W}
    (hconnect : connect.wp M G I (Ends (fun _ => A) R) w)
    (hstart : ∀ w, A w → start.wp M G I (Ends (fun _ => B) P) w)
    (hwork : ∀ w, B w → work.wp M G I (Ends C P) w)
    (hcommit : ∀ b w, C b w → commit.wp M G I (Ends (fun _ => Q b) P) w)
    (hrollback : ∀ err w, P err w → rollback.wp M G I (Ends (fun _ => R err) R) w) :
    (transaction connect start commit rollback work).wp M G I (Ends Q R) w := by
  refine wp_bind hconnect fun _ w hw => ?_
  refine wp_tryCatch (P := P) ?_ fun err w hw => wp_bind (hrollback err w hw) fun _ _ hw => hw
  refine wp_bind (hstart w hw) fun _ w hw => ?_
  refine wp_bind (hwork w hw) fun result w hw => ?_
  exact wp_bind (hcommit result w hw) fun _ _ hw => hw

/-- `try`/`finally`, where only the world counts. -/
theorem wp_tryFinally {p : Prog S ε β} {f : Prog S ε Unit} {K K' : W → Prop} {w : W}
    (hp : p.wp M G I (Ends (fun _ => K) fun _ => K) w)
    (hf : ∀ w', K w' → f.wp M G I (Ends (fun _ => K') fun _ => K') w') :
    (tryFinally p f).wp M G I (Ends (fun _ => K') fun _ => K') w := by
  refine wp_bind (P := fun _ => K) ?_ fun r w' hw' => wp_bind (hf w' hw') fun _ w'' hw'' => ?_
  · induction p generalizing w with
    | ret a => exact hp
    | raise e => exact hp
    | await op k ih => exact fun e he => ⟨(hp e he).1, ih _ (hp e he).2⟩
  · cases r <;> exact hw''

/-- `try`/`finally`, where what is returned counts. -/
theorem wp_tryFinally_ret {p : Prog S ε β} {f : Prog S ε Unit} {P : β → W → Prop} {w : W}
    (hp : p.wp M G I (Ends P fun _ _ => True) w)
    (hret : ∀ a w', P a w' → f.wp M G I (Ends (fun _ => P a) fun _ _ => True) w')
    (hthrow : ∀ w', f.wp M G I (fun _ _ => True) w') :
    (tryFinally p f).wp M G I (Ends P fun _ _ => True) w := by
  refine wp_bind (P := fun r w' => Ends P (fun _ _ => True) r w') ?_ fun r w' hr => ?_
  · induction p generalizing w with
    | ret a => exact hp
    | raise e => exact hp
    | await op k ih => exact fun e he => ⟨(hp e he).1, ih _ (hp e he).2⟩
  · cases r with
    | ok a => exact wp_bind (hret a w' hr) fun _ w'' hw'' => hw''
    | error e =>
        exact wp_bind (P := fun _ _ => True)
          (wp_mono (hthrow w') fun r _ _ => by cases r <;> trivial) fun _ _ _ => trivial

/-- One awaited operation. -/
theorem wp_call {op : S.Op} {Q : Except ε (S.Ans op) → W → Prop} {w : W}
    (h : ∀ e, G w op e → I (M.exec e op w).2 ∧ Q (M.exec e op w).1 (M.exec e op w).2) :
    (call op).wp M G I Q w := by
  intro e he
  refine ⟨(h e he).1, ?_⟩
  cases hr : (M.exec e op w).1 with
  | ok a => simpa only [ofExcept, wp, hr] using (h e he).2
  | error x => simpa only [ofExcept, wp, hr] using (h e he).2

/-- One awaited operation of which only the effect counts, not the answer. -/
theorem wp_call_world {op : S.Op} {K : W → Prop} {w : W}
    (h : ∀ e, G w op e → I (M.exec e op w).2 ∧ K (M.exec e op w).2) :
    (call op).wp M G I (Ends (fun _ => K) fun _ => K) w := by
  refine wp_call fun e he => ⟨(h e he).1, ?_⟩
  cases (M.exec e op w).1 with
  | ok a => exact (h e he).2
  | error x => exact (h e he).2

/-- Weakening of a postcondition by cases. -/
theorem wp_weaken {p : Prog S ε β} {Q' : β → W → Prop} {R' : ε → W → Prop} {w : W}
    (h : p.wp M G I (Ends Q R) w) (hQ : ∀ a w', Q a w' → Q' a w')
    (hR : ∀ e w', R e w' → R' e w') : p.wp M G I (Ends Q' R') w := by
  refine wp_mono h fun r w' hr => ?_
  cases r with
  | ok a => exact hQ a w' hr
  | error e => exact hR e w' hr

/-- An assertion about the last world, however the run ends. -/
theorem wp_world {p : Prog S ε β} {K : W → Prop} {w : W}
    (h : p.wp M G I (Ends (fun _ => K) fun _ => K) w) : p.wp M G I (fun _ => K) w := by
  refine wp_mono h fun r w' hr => ?_
  cases r with
  | ok a => exact hr
  | error e => exact hr

/-- The invariant holds at the end, too. -/
theorem wp_invariant {p : Prog S ε α} {Q : Except ε α → W → Prop} :
    ∀ {w : W}, p.wp M G I Q w → I w → p.wp M G I (fun _ => I) w := by
  induction p with
  | ret a => intro w _ hI; exact hI
  | raise e => intro w _ hI; exact hI
  | await op k ih => intro w h _ e he; exact ⟨(h e he).1, ih _ (h e he).2 (h e he).1⟩

/-- The world a program over fewer operations runs in. -/
def Machine.comap (h : Hom S T) (M : Machine T ε W E) : Machine S ε W E where
  exec e o w := ((M.exec e (h.op o) w).1.map (h.ans o), (M.exec e (h.op o) w).2)

/-- An embedded program runs as the program itself does in the smaller world. -/
theorem wp_embed {h : Hom S T} {M : Machine T ε W E} {G : W → T.Op → E → Prop}
    {p : Prog S ε α} {Q : Except ε α → W → Prop} :
    ∀ {w : W}, p.wp (Machine.comap h M) (fun w o e => G w (h.op o) e) I Q w →
      (p.embed h).wp M G I Q w := by
  induction p with
  | ret a => intro w hp; exact hp
  | raise e => intro w hp; exact hp
  | await o k ih =>
      intro w hp e he
      exact ⟨(hp e he).1, ih _ (hp e he).2⟩

/-- What is proved of every run holds of each: the guard only has to hold of the
contributions. -/
theorem run_of_wp {p : Prog S ε α} {Q : Except ε α → W → Prop} :
    ∀ {w : W} {s : Nat → E}, p.wp M G I Q w → (∀ w op n, G w op (s n)) →
      Q (p.run M s w).1 (p.run M s w).2 := by
  induction p with
  | ret a => intro w s h _; exact h
  | raise e => intro w s h _; exact h
  | await op k ih =>
      intro w s h hs
      exact ih _ (h (s 0) (hs w op 0)).2 fun w op n => hs w op (n + 1)

/-- The same for a run of which every step meets the guard. -/
theorem run_of_wp_runOk {p : Prog S ε α} {Q : Except ε α → W → Prop} :
    ∀ {w : W} {s : Nat → E}, p.wp M G I Q w → p.runOk M G s w →
      Q (p.run M s w).1 (p.run M s w).2 := by
  induction p with
  | ret a => intro w s h _; exact h
  | raise e => intro w s h _; exact h
  | await op k ih => intro w s h hs; exact ih _ (h (s 0) hs.1).2 hs.2

/-- The same for an assertion about the last world. -/
theorem run_world_of_wp {p : Prog S ε α} {K : W → Prop} {w : W} {s : Nat → E}
    (h : p.wp M G I (Ends (fun _ => K) fun _ => K) w) (hs : ∀ w op n, G w op (s n)) :
    K (p.run M s w).2 := run_of_wp (wp_world h) hs

/-! ### Watching a guard

What a run comes to may depend on whether its steps met a guard. The watched machine keeps that
in the world, so that a postcondition can speak of it. -/

theorem run_watched {p : Prog S ε α} : ∀ {s : Nat → E} {w : W} {P : Prop},
    p.run (M.watched G) s (w, P) =
      ((p.run M s w).1, (p.run M s w).2, P ∧ p.runOk M G s w) := by
  induction p with
  | ret a =>
      intro s w P
      simp [run, runOk]
  | raise e =>
      intro s w P
      simp [run, runOk]
  | await op k ih =>
      intro s w P
      refine (ih _).trans ?_
      simp only [Machine.watched, runOk, and_assoc, run]

/-- What is proved over the watched machine relates each run to whether it met the guard. -/
theorem run_of_wp_watched {p : Prog S ε α} {Q : Except ε α → W × Prop → Prop} {w : W}
    {s : Nat → E}
    (h : p.wp (M.watched G) (fun _ _ _ => True) (fun _ => True) Q (w, True)) :
    Q (p.run M s w).1 ((p.run M s w).2, p.runOk M G s w) := by
  have hrun := run_of_wp (s := s) h fun _ _ _ => trivial
  rw [run_watched] at hrun
  simpa only [true_and] using hrun

/-! ### The calls of a run

The trace of a run, and a machine that writes it into the world, so that a postcondition can
speak of it. -/

end Prog

/-- An operation and its answer. -/
abbrev Sig.Call (S : Sig) (ε : Type) := (op : S.Op) × Except ε (S.Ans op)

/-- A machine that keeps a log of its calls. -/
def Machine.logged {S : Sig} {ε W E : Type} (M : Machine S ε W E) :
    Machine S ε (W × List (S.Call ε)) E where
  exec e op w := ((M.exec e op w.1).1, (M.exec e op w.1).2, w.2 ++ [⟨op, (M.exec e op w.1).1⟩])

namespace Prog

variable {S T : Sig} {ε α β W E : Type} {M : Machine S ε W E} {G : W → S.Op → E → Prop}
  {I : W → Prop} {Q : β → W → Prop} {R : ε → W → Prop}

/-- The calls that a run makes, in order. -/
def calls (M : Machine S ε W E) : Prog S ε α → (Nat → E) → W → List (S.Call ε)
  | ret _, _, _ | raise _, _, _ => []
  | await op k, s, w => ⟨op, (M.exec (s 0) op w).1⟩ ::
    (k (M.exec (s 0) op w).1).calls M (fun n => s (n + 1)) (M.exec (s 0) op w).2

theorem run_logged {p : Prog S ε α} : ∀ {s : Nat → E} {w : W} {log : List (S.Call ε)},
    p.run M.logged s (w, log) = ((p.run M s w).1, (p.run M s w).2, log ++ p.calls M s w) := by
  induction p with
  | ret a =>
      intro s w log
      simp [run, calls]
  | raise e =>
      intro s w log
      simp [run, calls]
  | await op k ih =>
      intro s w log
      refine (ih _).trans ?_
      simp only [Machine.logged, calls, run, List.append_assoc, List.singleton_append]

/-- What is proved over the logged machine relates each run to its calls. -/
theorem run_of_wp_logged {p : Prog S ε α} {Q : Except ε α → W × List (S.Call ε) → Prop} {w : W}
    {s : Nat → E} (h : p.wp M.logged (fun _ _ _ => True) (fun _ => True) Q (w, [])) :
    Q (p.run M s w).1 ((p.run M s w).2, p.calls M s w) := by
  have hrun := run_of_wp (s := s) h fun _ _ _ => trivial
  rwa [run_logged, List.nil_append] at hrun

/-- One call over the logged machine: it is the last in the log, with its answer. -/
theorem wp_call_logged {op : S.Op} {Q : S.Ans op → W × List (S.Call ε) → Prop}
    {R : ε → W × List (S.Call ε) → Prop} {w : W} {log : List (S.Call ε)}
    (hok : ∀ e a, (M.exec e op w).1 = .ok a →
      Q a ((M.exec e op w).2, log ++ [⟨op, .ok a⟩]))
    (herror : ∀ e err, (M.exec e op w).1 = .error err →
      R err ((M.exec e op w).2, log ++ [⟨op, .error err⟩])) :
    (call op).wp M.logged (fun _ _ _ => True) (fun _ => True) (Ends Q R) (w, log) := by
  refine wp_call fun e _ => ⟨trivial, ?_⟩
  simp only [Machine.logged]
  cases hans : (M.exec e op w).1 with
  | ok a => exact hok e a hans
  | error err => exact herror e err hans

/-! ### Runs that may happen

`may M G p Q w`: the environment can contribute, within the guard, what makes a run of `p` end
in a result and world that satisfy `Q`. It is to one run what `wp` is to all of them. -/

def may (M : Machine S ε W E) (G : W → S.Op → E → Prop) :
    Prog S ε α → (Except ε α → W → Prop) → W → Prop
  | ret a, Q, w => Q (.ok a) w
  | raise e, Q, w => Q (.error e) w
  | await op k, Q, w => ∃ e, G w op e ∧ (k (M.exec e op w).1).may M G Q (M.exec e op w).2

theorem run_of_may [Nonempty E] {p : Prog S ε α} {Q : Except ε α → W → Prop} :
    ∀ {w : W}, p.may M G Q w → ∃ s, p.runOk M G s w ∧ Q (p.run M s w).1 (p.run M s w).2 := by
  induction p with
  | ret a => intro w h; exact ⟨fun _ => Classical.ofNonempty, trivial, h⟩
  | raise e => intro w h; exact ⟨fun _ => Classical.ofNonempty, trivial, h⟩
  | await op k ih =>
      intro w ⟨e, he, hk⟩
      obtain ⟨s, hs, hQ⟩ := ih _ hk
      exact ⟨fun | 0 => e | n + 1 => s n, ⟨he, hs⟩, hQ⟩

/-- An awaited operation that is answered, and what follows. -/
theorem may_bind_call {op : S.Op} {f : S.Ans op → Prog S ε β} {Q : Except ε β → W → Prop}
    {a : S.Ans op} {w w' : W} (e : E) (he : G w op e) (hexec : M.exec e op w = (.ok a, w'))
    (hf : (f a).may M G Q w') : ((call op).bind f).may M G Q w := by
  refine ⟨e, he, ?_⟩
  rw [hexec]
  exact hf

/-- An awaited operation that fails. -/
theorem may_bind_call_error {op : S.Op} {f : S.Ans op → Prog S ε β} {Q : Except ε β → W → Prop}
    {x : ε} {w w' : W} (e : E) (he : G w op e) (hexec : M.exec e op w = (.error x, w'))
    (hQ : Q (.error x) w') : ((call op).bind f).may M G Q w := by
  refine ⟨e, he, ?_⟩
  rw [hexec]
  exact hQ

/-- Sequencing. -/
theorem may_bind {p : Prog S ε α} {f : α → Prog S ε β} {P : α → W → Prop} {w : W}
    (hp : p.may M G (Ends P R) w) (hf : ∀ a w', P a w' → (f a).may M G (Ends Q R) w') :
    (p.bind f).may M G (Ends Q R) w := by
  induction p generalizing w with
  | ret a => exact hf a w hp
  | raise e => exact hp
  | await op k ih =>
      obtain ⟨e, he, hk⟩ := hp
      exact ⟨e, he, ih _ hk⟩

/-- An awaited operation that is answered. -/
theorem may_call {op : S.Op} {P : S.Ans op → W → Prop} {R : ε → W → Prop} {a : S.Ans op} {w w' : W}
    (e : E) (he : G w op e) (hexec : M.exec e op w = (.ok a, w')) (h : P a w') :
    (call op : Prog S ε (S.Ans op)).may M G (Ends P R) w := by
  refine ⟨e, he, ?_⟩
  rw [hexec]
  exact h

theorem may_tryCatch {p : Prog S ε β} {h : ε → Prog S ε β} {P : ε → W → Prop} {w : W}
    (hp : p.may M G (Ends Q P) w) (hh : ∀ e w', P e w' → (h e).may M G (Ends Q R) w') :
    (p.tryCatch h).may M G (Ends Q R) w := by
  induction p generalizing w with
  | ret a => exact hp
  | raise e => exact hh e w hp
  | await op k ih =>
      obtain ⟨e, he, hk⟩ := hp
      exact ⟨e, he, ih _ hk⟩

/-! ### Which operations a program emits -/

/-- Every operation `p` can ever await satisfies `ok`, and what it returns satisfies
`P`, provided every answer it gets satisfies `good`. -/
def Emits (ok : S.Op → Prop) (good : (op : S.Op) → Except ε (S.Ans op) → Prop)
    (P : α → Prop) : Prog S ε α → Prop
  | ret a => P a
  | raise _ => True
  | await op k => ok op ∧ ∀ r, good op r → (k r).Emits ok good P

variable {ok : S.Op → Prop} {good : (op : S.Op) → Except ε (S.Ans op) → Prop}

theorem Emits.mono {P R : α → Prop} (hPR : ∀ a, P a → R a) :
    ∀ {p : Prog S ε α}, p.Emits ok good P → p.Emits ok good R := by
  intro p
  induction p with
  | ret a => intro h; exact hPR a h
  | raise e => intro _; trivial
  | await op k ih => intro h; exact ⟨h.1, fun r hr => ih r (h.2 r hr)⟩

theorem Emits.imp_ok {ok' : S.Op → Prop} {P : α → Prop} (h : ∀ op, ok op → ok' op) :
    ∀ {p : Prog S ε α}, p.Emits ok good P → p.Emits ok' good P := by
  intro p
  induction p with
  | ret a => intro hp; exact hp
  | raise e => intro _; trivial
  | await op k ih => intro hp; exact ⟨h op hp.1, fun r hr => ih r (hp.2 r hr)⟩

theorem Emits.bind {P : α → Prop} {R : β → Prop} {f : α → Prog S ε β} :
    ∀ {p : Prog S ε α}, p.Emits ok good P → (∀ a, P a → (f a).Emits ok good R) →
      (p.bind f).Emits ok good R := by
  intro p
  induction p with
  | ret a => intro h hf; exact hf a h
  | raise e => intro _ _; trivial
  | await op k ih => intro h hf; exact ⟨h.1, fun r hr => ih r (h.2 r hr) hf⟩

theorem Emits.tryCatch {P : α → Prop} {h : ε → Prog S ε α} :
    ∀ {p : Prog S ε α}, p.Emits ok good P → (∀ e, (h e).Emits ok good P) →
      (p.tryCatch h).Emits ok good P := by
  intro p
  induction p with
  | ret a => intro hp _; exact hp
  | raise e => intro _ hh; exact hh e
  | await op k ih => intro hp hh; exact ⟨hp.1, fun r hr => ih r (hp.2 r hr) hh⟩

theorem Emits.of_tryCatch {P : α → Prop} {h : ε → Prog S ε α} :
    ∀ {p : Prog S ε α}, (p.tryCatch h).Emits ok good P → p.Emits ok good P := by
  intro p
  induction p with
  | ret a => intro hp; exact hp
  | raise e => intro _; trivial
  | await op k ih => intro hp; exact ⟨hp.1, fun r hr => ih r (hp.2 r hr)⟩

theorem Emits.call {op : S.Op} {P : S.Ans op → Prop} (hop : ok op)
    (hans : ∀ a, good op (.ok a) → P a) :
    (Prog.call op : Prog S ε (S.Ans op)).Emits ok good P := by
  refine ⟨hop, fun r hr => ?_⟩
  cases r with
  | ok a => exact hans a hr
  | error e => trivial

/-- What every `ok` operation keeps, a program that emits only such operations keeps, and
returns what it returns. -/
theorem Emits.wp_returns {P : α → Prop} {K : W → Prop} (hKI : ∀ w, K w → I w)
    (hexec : ∀ w op e, K w → ok op → G w op e →
      K (M.exec e op w).2 ∧ good op (M.exec e op w).1) :
    ∀ {p : Prog S ε α}, p.Emits ok good P →
      ∀ {w : W}, K w → p.wp M G I (Ends (fun a w' => P a ∧ K w') fun _ => K) w := by
  intro p
  induction p with
  | ret a => intro h w hK; exact ⟨h, hK⟩
  | raise e => intro _ w hK; exact hK
  | await op k ih =>
      intro h w hK e he
      obtain ⟨hK', hgood⟩ := hexec w op e hK h.1 he
      exact ⟨hKI _ hK', ih _ (h.2 _ hgood) hK'⟩

/-- The same, where nothing is asked of the value returned. -/
theorem Emits.wp {P : α → Prop} {K : W → Prop} (hKI : ∀ w, K w → I w)
    (hexec : ∀ w op e, K w → ok op → G w op e →
      K (M.exec e op w).2 ∧ good op (M.exec e op w).1) {p : Prog S ε α}
    (h : p.Emits ok good P) {w : W} (hK : K w) :
    p.wp M G I (Ends (fun _ => K) fun _ => K) w :=
  wp_weaken (h.wp_returns hKI hexec hK) (fun _ _ hw' => hw'.2) fun _ _ hw' => hw'

/-- A program emits whatever operations there are. -/
theorem emits_of_forall (h : ∀ op, ok op) (p : Prog S ε α) : p.Emits ok good fun _ => True := by
  induction p with
  | ret a => trivial
  | raise e => trivial
  | await op k ih => exact ⟨h op, fun r _ => ih r⟩

/-- Nothing at all asked of operations and answers. -/
theorem emits_any (p : Prog S ε α) : p.Emits (fun _ => True) (fun _ _ => True) fun _ => True :=
  emits_of_forall (fun _ => trivial) p

theorem Emits.embed {h : Hom S T} {ok : T.Op → Prop}
    {good : (op : T.Op) → Except ε (T.Ans op) → Prop} {P : α → Prop}
    {good' : (op : S.Op) → Except ε (S.Ans op) → Prop}
    (hgood : ∀ o r, good (h.op o) r → good' o (r.map (h.ans o))) :
    ∀ {p : Prog S ε α}, p.Emits (fun o => ok (h.op o)) good' P →
      (p.embed h).Emits ok good P := by
  intro p
  induction p with
  | ret a => intro hp; exact hp
  | raise e => intro _; trivial
  | await o k ih =>
      intro hp
      exact ⟨hp.1, fun r hr => ih _ (hp.2 _ (hgood o r hr))⟩

/-- Where every operation that is emitted meets the guard, watching adds nothing. -/
theorem wp_watched {ok : S.Op → Prop} (hok : ∀ w op e, ok op → G w op e)
    {Q : Except ε α → W → Prop} {p : Prog S ε α} :
    p.Emits ok (fun _ _ => True) (fun _ => True) → ∀ {w : W},
      p.wp M (fun _ _ _ => True) (fun _ => True) Q w →
        p.wp (M.watched G) (fun _ _ _ => True) (fun _ => True)
          (fun r state => state.2 ∧ Q r state.1) (w, True) := by
  induction p with
  | ret a => exact fun _ _ h => ⟨trivial, h⟩
  | raise e => exact fun _ _ h => ⟨trivial, h⟩
  | await op k ih =>
      intro hp w h e _
      have hflag : (True ∧ G w op e) = True := eq_true ⟨trivial, hok w op e hp.1⟩
      refine ⟨trivial, ?_⟩
      simp only [Machine.watched, hflag]
      exact ih _ (hp.2 _ trivial) (h e trivial).2

/-- **A machine seen through `view`.** Where the operations of `p` act on the view as `M` does,
what is proved over `M` holds of the view. -/
theorem wp_view {W' E' : Type} {M' : Machine S ε W' E'} {G' : W' → S.Op → E' → Prop}
    {I' F : W' → Prop} {Q : Except ε α → W → Prop} (view : W' → W) (part : E' → E)
    (hexec : ∀ w op e, ok op → F w → G' w op e → G (view w) op (part e) ∧
      (M'.exec e op w).1 = (M.exec (part e) op (view w)).1 ∧
      view (M'.exec e op w).2 = (M.exec (part e) op (view w)).2 ∧ F (M'.exec e op w).2)
    (hI : ∀ w, F w → I (view w) → I' w) :
    ∀ {p : Prog S ε α}, p.Emits ok (fun _ _ => True) (fun _ => True) →
      ∀ {w : W'}, F w → p.wp M G I Q (view w) →
        p.wp M' G' I' (fun r w' => F w' ∧ Q r (view w')) w := by
  intro p
  induction p with
  | ret a => intro _ w hF h; exact ⟨hF, h⟩
  | raise e => intro _ w hF h; exact ⟨hF, h⟩
  | await op k ih =>
      intro hp w hF h e he
      obtain ⟨hguard, hanswer, hview, hF'⟩ := hexec w op e hp.1 hF he
      obtain ⟨hinv, hk⟩ := h (part e) hguard
      refine ⟨hI _ hF' (hview ▸ hinv), ih _ (hp.2 _ trivial) hF' ?_⟩
      rw [hanswer, hview]
      exact hk

end Prog

/-! ### One run after another -/

section Sequential

variable {S : Sig} {ε α W E : Type}

/-- The states of a history of runs. `start w w' p` says that, between two runs,
the world may change from `w` to `w'` and `p` may be started. The second component
is the run in progress, `none` between runs. -/
inductive Seq (M : Machine S ε W E) (G : W → S.Op → E → Prop)
    (start : W → W → Prog S ε α → Prop) (w₀ : W) : W → Option (Prog S ε α) → Prop
  | init : Seq M G start w₀ w₀ none
  | start {w w' : W} {p : Prog S ε α} : Seq M G start w₀ w none → start w w' p →
      Seq M G start w₀ w' (some p)
  | step {w : W} {op : S.Op} {k : Except ε (S.Ans op) → Prog S ε α} (e : E) :
      Seq M G start w₀ w (some (.await op k)) → G w op e →
      Seq M G start w₀ (M.exec e op w).2 (some (k (M.exec e op w).1))
  | returned {w : W} {a : α} : Seq M G start w₀ w (some (.ret a)) → Seq M G start w₀ w none
  | threw {w : W} {e : ε} : Seq M G start w₀ w (some (.raise e)) → Seq M G start w₀ w none

variable {M : Machine S ε W E} {G : W → S.Op → E → Prop}
  {start : W → W → Prog S ε α → Prop} {w₀ : W}

/-- **Soundness of `wp` for histories.** If `J` holds at first, and every run started
from `J` keeps `I` throughout and ends in `J`, then `I` holds in every state of
every history. -/
theorem Seq.sound {I J : W → Prop} (h₀ : J w₀) (hJI : ∀ w, J w → I w)
    (hrun : ∀ w w' p, J w → start w w' p → I w' ∧ p.wp M G I (fun _ => J) w') :
    ∀ {w : W} {o : Option (Prog S ε α)}, Seq M G start w₀ w o →
      I w ∧ (match o with
        | none => J w
        | some p => p.wp M G I (fun _ => J) w) := by
  intro w o h
  induction h with
  | init => exact ⟨hJI _ h₀, h₀⟩
  | start _ hs ih => exact hrun _ _ _ ih.2 hs
  | step e _ hG ih => exact ih.2 e hG
  | returned _ ih => exact ⟨ih.1, ih.2⟩
  | threw _ ih => exact ⟨ih.1, ih.2⟩

/-- A whole run of a started program is a history. -/
theorem Seq.runOk {p : Prog S ε α} :
    ∀ {w : W} {s : Nat → E}, Seq M G start w₀ w (some p) → p.runOk M G s w →
      Seq M G start w₀ (p.run M s w).2 none := by
  induction p with
  | ret a => intro w s h _; exact h.returned
  | raise e => intro w s h _; exact h.threw
  | await op k ih =>
      intro w s h hs
      exact ih _ (h.step (s 0) hs.1) hs.2

theorem Seq.run {p : Prog S ε α} {w : W} {s : Nat → E} (h : Seq M G start w₀ w (some p))
    (hs : ∀ w op n, G w op (s n)) : Seq M G start w₀ (p.run M s w).2 none :=
  h.runOk (Prog.runOk_of_forall hs)

end Sequential

end BrandBlitz.Lib

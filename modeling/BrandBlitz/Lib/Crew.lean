import BrandBlitz.Lib.Async

/-!
# BrandBlitz.Lib.Crew

**Interleaved programs.** A `Crew` is any number of programs in flight, each step advancing any
one of them; machine and guard see which program moves, by its position. That is what it takes to
say that a program which has done one thing is the one that must not, or must, do another. In a
`Pool` the programs need not be told apart.

The rule of proof is rely–guarantee. Program `i` is verified by the weakest precondition
of `BrandBlitz.Lib.Async`, in a world where the others may have moved before each of its
steps (`Machine.among`), and may count on whatever they did being in `rely i`. A move of
any other program, and the drift of the environment, has to be in `rely i`.
-/

namespace BrandBlitz.Lib

variable {S : Sig} {ε α β W E : Type}

/-- What another program has recorded is not a record of program `i`. -/
theorem mem_of_recorded {R : Type} {program : R → Nat} {i : Nat} {r new : R} {records : List R}
    (hr : r ∈ new :: records) (hprogram : program r = i) (hne : i ≠ program new) :
    r ∈ records := by
  rcases List.mem_cons.mp hr with rfl | hr
  · exact absurd hprogram.symm hne
  · exact hr

/-! ### One program among others -/

/-- A machine others use as well: before each step of ours the world has become any
world that the environment names. -/
def Machine.among (M : Machine S ε W E) : Machine S ε W (W × E) where
  exec move op _ := M.exec move.2 op move.1

/-- What the others did is in `rely`, and our step meets the guard after it. -/
def Among (rely : W → W → Prop) (G : W → S.Op → E → Prop) (w : W) (op : S.Op)
    (move : W × E) : Prop :=
  rely w move.1 ∧ G move.1 op move.2

namespace Prog

variable {M : Machine S ε W E} {G : W → S.Op → E → Prop} {rely : W → W → Prop} {I : W → Prop}

/-- What is proved of a program stays true while the others move, if its postcondition
does. -/
theorem wp_among_mono {p : Prog S ε α} {Q : Except ε α → W → Prop} {w w' : W}
    (htrans : ∀ w w' w'', rely w w' → rely w' w'' → rely w w'')
    (hQ : ∀ r w w', Q r w → rely w w' → Q r w')
    (h : p.wp M.among (Among rely G) I Q w) (hw : rely w w') :
    p.wp M.among (Among rely G) I Q w' := by
  cases p with
  | ret a => exact hQ _ _ _ h hw
  | raise e => exact hQ _ _ _ h hw
  | await op k => exact fun move hmove => h move ⟨htrans _ _ _ hw hmove.1, hmove.2⟩

/-- One awaited operation, from an assertion the others leave alone. -/
theorem wp_call_among {op : S.Op} {A : W → Prop} {Q : Except ε (S.Ans op) → W → Prop} {w : W}
    (hstable : ∀ w w', A w → rely w w' → A w') (hw : A w)
    (h : ∀ w' e, rely w w' → A w' → G w' op e →
      I (M.exec e op w').2 ∧ Q (M.exec e op w').1 (M.exec e op w').2) :
    (call op).wp M.among (Among rely G) I Q w :=
  wp_call fun move hmove => h move.1 move.2 hmove.1 (hstable _ _ hw hmove.1) hmove.2

/-- A run by itself is a run among others that do nothing. -/
theorem exists_run_among (hrefl : ∀ w, rely w w) {p : Prog S ε α} :
    ∀ {w : W} {s : Nat → E}, p.runOk M G s w → ∃ moves : Nat → W × E,
      p.runOk M.among (Among rely G) moves w ∧ p.run M.among moves w = p.run M s w := by
  induction p with
  | ret a => exact fun {w s} _ => ⟨fun n => (w, s n), trivial, rfl⟩
  | raise e => exact fun {w s} _ => ⟨fun n => (w, s n), trivial, rfl⟩
  | await op k ih =>
      intro w s hok
      obtain ⟨moves, hmoves, hrun⟩ := ih _ hok.2
      refine ⟨fun
        | 0 => (w, s 0)
        | n + 1 => moves n, ⟨⟨hrefl w, hok.1⟩, hmoves⟩, hrun⟩

end Prog

/-! ### Crews -/

/-- The states of a crew: `M i` and `G i` are the machine and the guard as program `i`
meets them. -/
inductive Crew (M : Nat → Machine S ε W E) (G : Nat → W → S.Op → E → Prop)
    (spawn : Prog S ε α → Prop) (drift : W → W → Prop) (w₀ : W) :
    W → List (Prog S ε α) → Prop
  | init : Crew M G spawn drift w₀ w₀ []
  | spawn {w : W} {ps : List (Prog S ε α)} {p : Prog S ε α} :
      Crew M G spawn drift w₀ w ps → spawn p → Crew M G spawn drift w₀ w (ps ++ [p])
  | step {w : W} {ps : List (Prog S ε α)} (i : Nat) {op : S.Op}
      {k : Except ε (S.Ans op) → Prog S ε α} (e : E) :
      Crew M G spawn drift w₀ w ps → ps[i]? = some (.await op k) → G i w op e →
      Crew M G spawn drift w₀ ((M i).exec e op w).2 (ps.set i (k ((M i).exec e op w).1))
  | drift {w w' : W} {ps : List (Prog S ε α)} :
      Crew M G spawn drift w₀ w ps → drift w w' → Crew M G spawn drift w₀ w' ps

/-- The world changes by the programs alone. -/
def Never (_ _ : W) : Prop := False

variable {M : Nat → Machine S ε W E} {G : Nat → W → S.Op → E → Prop}
  {spawn : Prog S ε α → Prop} {drift : W → W → Prop} {w₀ : W}

/-- What others do is in `rely`. `fresh i` is what is known of the world by a program that starts
as number `i`. -/
structure Crew.Relies (M : Nat → Machine S ε W E) (G : Nat → W → S.Op → E → Prop)
    (drift : W → W → Prop) (I : W → Prop) (rely : Nat → W → W → Prop) (fresh : Nat → W → Prop) :
    Prop where
  refl : ∀ i w, I w → rely i w w
  trans : ∀ i w w' w'', rely i w w' → rely i w' w'' → rely i w w''
  stays : ∀ i w w', fresh i w → rely i w w' → fresh i w'
  others : ∀ i j w op e, i ≠ j → I w → G j w op e → I ((M j).exec e op w).2 →
    rely i w ((M j).exec e op w).2
  drifted : ∀ i w w', I w → drift w w' → I w' ∧ rely i w w'

/-- What a rely–guarantee proof about a crew consists of. -/
structure Crew.Verified (M : Nat → Machine S ε W E) (G : Nat → W → S.Op → E → Prop)
    (spawn : Prog S ε α → Prop) (drift : W → W → Prop) (I : W → Prop)
    (rely : Nat → W → W → Prop) (fresh : Nat → W → Prop) : Prop
    extends Crew.Relies M G drift I rely fresh where
  spawned : ∀ i w p, spawn p → I w → fresh i w →
    p.wp (M i).among (Among (rely i) (G i)) I (fun _ _ => True) w

/-- The same with a postcondition for each program, which the others leave alone. -/
structure Crew.Proved (M : Nat → Machine S ε W E) (G : Nat → W → S.Op → E → Prop)
    (spawn : Prog S ε α → Prop) (drift : W → W → Prop) (I : W → Prop)
    (rely : Nat → W → W → Prop) (fresh : Nat → W → Prop) (Q : Nat → Except ε α → W → Prop) :
    Prop extends Crew.Relies M G drift I rely fresh where
  lasts : ∀ i r w w', Q i r w → rely i w w' → Q i r w'
  spawned : ∀ i w p, spawn p → I w → fresh i w →
    p.wp (M i).among (Among (rely i) (G i)) I (Q i) w

/-- **Soundness of rely–guarantee.** The invariant holds in every state, every program in
flight is verified from there, and every unused number is still fresh. -/
theorem Crew.Proved.sound {I : W → Prop} {rely : Nat → W → W → Prop} {fresh : Nat → W → Prop}
    {Q : Nat → Except ε α → W → Prop} (hv : Crew.Proved M G spawn drift I rely fresh Q)
    (h₀ : I w₀) (hfresh : ∀ i, fresh i w₀) :
    ∀ {w : W} {ps : List (Prog S ε α)}, Crew M G spawn drift w₀ w ps →
      I w ∧ (∀ (i : Nat) (p : Prog S ε α), ps[i]? = some p →
        p.wp (M i).among (Among (rely i) (G i)) I (Q i) w) ∧
      ∀ i, ps.length ≤ i → fresh i w := by
  intro w ps h
  induction h with
  | init => exact ⟨h₀, by simp, fun i _ => hfresh i⟩
  | @spawn w ps p _ hs ih =>
      obtain ⟨hI, hps, hnew⟩ := ih
      refine ⟨hI, fun i q hq => ?_, fun i hi => hnew i ?_⟩
      -- an older program, or the one that is new
      · by_cases hi : i < ps.length
        · rw [List.getElem?_append_left hi] at hq
          exact hps i q hq
        · have hlt := (List.getElem?_eq_some_iff.mp hq).1
          rw [List.length_append, List.length_singleton] at hlt
          obtain rfl : i = ps.length := by omega
          rw [List.getElem?_concat_length] at hq
          obtain rfl := Option.some.inj hq
          exact hv.spawned _ w p hs hI (hnew _ (Nat.le_refl _))
      · rw [List.length_append, List.length_singleton] at hi
        omega
  | @step w ps i op k e _ hi hG ih =>
      obtain ⟨hI, hps, hnew⟩ := ih
      have hwp := hps i _ hi
      obtain ⟨hI', hk⟩ := hwp (w, e) ⟨hv.refl i w hI, hG⟩
      have hother : ∀ j, j ≠ i → rely j w ((M i).exec e op w).2 :=
        fun j hj => hv.others j i w op e hj hI hG hI'
      have hlt : i < ps.length := (List.getElem?_eq_some_iff.mp hi).1
      refine ⟨hI', fun j q hq => ?_, fun j hj => ?_⟩
      -- the program goes on, and the others may rely on this step
      · by_cases hj : j = i
        · subst hj
          rw [List.getElem?_set_self hlt] at hq
          obtain rfl := Option.some.inj hq
          exact hk
        · rw [List.getElem?_set_ne (Ne.symm hj)] at hq
          exact Prog.wp_among_mono (hv.trans j) (hv.lasts j) (hps j q hq) (hother j hj)
      · rw [List.length_set] at hj
        exact hv.stays j w _ (hnew j hj) (hother j (by omega))
  | drift _ hd ih =>
      obtain ⟨hI, hps, hnew⟩ := ih
      refine ⟨(hv.drifted 0 _ _ hI hd).1, fun i p hp => ?_, fun i hi => ?_⟩
      · exact Prog.wp_among_mono (hv.trans i) (hv.lasts i) (hps i p hp) (hv.drifted i _ _ hI hd).2
      · exact hv.stays i _ _ (hnew i hi) (hv.drifted i _ _ hI hd).2

/-- The rule without postconditions. -/
theorem Crew.Verified.sound {I : W → Prop} {rely : Nat → W → W → Prop} {fresh : Nat → W → Prop}
    (hv : Crew.Verified M G spawn drift I rely fresh) (h₀ : I w₀) (hfresh : ∀ i, fresh i w₀) :
    ∀ {w : W} {ps : List (Prog S ε α)}, Crew M G spawn drift w₀ w ps →
      I w ∧ (∀ (i : Nat) (p : Prog S ε α), ps[i]? = some p →
        p.wp (M i).among (Among (rely i) (G i)) I (fun _ _ => True) w) ∧
      ∀ i, ps.length ≤ i → fresh i w :=
  Crew.Proved.sound ⟨hv.toRelies, fun _ _ _ _ _ _ => trivial, hv.spawned⟩ h₀ hfresh

/-- The rule where every operation keeps the invariant, whoever awaits it. -/
theorem Crew.invariant {I : W → Prop} (h₀ : I w₀)
    (hexec : ∀ i w op e, I w → G i w op e → I ((M i).exec e op w).2)
    (hdrift : ∀ w w', I w → drift w w' → I w') {w : W} {ps : List (Prog S ε α)}
    (h : Crew M G spawn drift w₀ w ps) : I w := by
  induction h with
  | init => exact h₀
  | spawn _ _ ih => exact ih
  | step i e _ _ hG ih => exact hexec i _ _ e ih hG
  | drift _ hd ih => exact hdrift _ _ ih hd

/-- A weaker guard allows more. -/
theorem Crew.mono {G' : Nat → W → S.Op → E → Prop} (hG : ∀ i w op e, G i w op e → G' i w op e)
    {w : W} {ps : List (Prog S ε α)} (h : Crew M G spawn drift w₀ w ps) :
    Crew M G' spawn drift w₀ w ps := by
  induction h with
  | init => exact .init
  | spawn _ hs ih => exact ih.spawn hs
  | step i e _ hi hg ih => exact ih.step i e hi (hG _ _ _ _ hg)
  | drift _ hd ih => exact ih.drift hd

/-- A program run to its end while the others wait leads to a state of the crew. -/
theorem Crew.run (i : Nat) {p : Prog S ε α} :
    ∀ {w : W} {ps : List (Prog S ε α)} {s : Nat → E}, Crew M G spawn drift w₀ w ps →
      ps[i]? = some p → p.runOk (M i) (G i) s w →
      ∃ ps', Crew M G spawn drift w₀ (p.run (M i) s w).2 ps' ∧ ps'.length = ps.length := by
  induction p with
  | ret a => intro w ps s h _ _; exact ⟨ps, h, rfl⟩
  | raise e => intro w ps s h _ _; exact ⟨ps, h, rfl⟩
  | await op k ih =>
      intro w ps s h hi hok
      have hlt : i < ps.length := (List.getElem?_eq_some_iff.mp hi).1
      obtain ⟨ps', h', hlen⟩ := ih _ (h.step i (s 0) hi hok.1)
        (List.getElem?_set_self hlt) hok.2
      exact ⟨ps', h', by rw [hlen, List.length_set]⟩

/-- A new program, run to its end at once. -/
theorem Crew.spawnRun {w : W} {ps : List (Prog S ε α)} {p : Prog S ε α} {s : Nat → E}
    (h : Crew M G spawn drift w₀ w ps) (hp : spawn p)
    (hok : p.runOk (M ps.length) (G ps.length) s w) :
    ∃ ps', Crew M G spawn drift w₀ (p.run (M ps.length) s w).2 ps' ∧
      ps'.length = ps.length + 1 := by
  obtain ⟨ps', h', hlen⟩ := Crew.run ps.length (h.spawn hp) (List.getElem?_concat_length) hok
  exact ⟨ps', h', by rw [hlen, List.length_append]; rfl⟩

/-- One step of a program that stands between others. -/
theorem Crew.stepAt {w : W} {qs rest : List (Prog S ε α)} {op : S.Op}
    {k : Except ε (S.Ans op) → Prog S ε α} (e : E)
    (h : Crew M G spawn drift w₀ w (qs ++ .await op k :: rest)) (hG : G qs.length w op e) :
    Crew M G spawn drift w₀ ((M qs.length).exec e op w).2
      (qs ++ k ((M qs.length).exec e op w).1 :: rest) := by
  have hstep := h.step qs.length e
    (by rw [List.getElem?_append_right (Nat.le_refl _), Nat.sub_self]; rfl) hG
  rwa [List.set_append_right _ _ (Nat.le_refl _), Nat.sub_self, List.set_cons_zero] at hstep

/-- Advance program `i` by one step, if it awaits one. -/
def advance (M : Machine S ε W E) (i : Nat) (e : E) (w : W) (ps : List (Prog S ε α)) :
    W × List (Prog S ε α) :=
  match ps[i]? with
  | some (.await op k) => ((M.exec e op w).2, ps.set i (k (M.exec e op w).1))
  | _ => (w, ps)

/-- Play a schedule: which program moves, and what the environment contributes. -/
def playCrew (M : Nat → Machine S ε W E) : List (Nat × E) → W → List (Prog S ε α) →
    W × List (Prog S ε α)
  | [], w, ps => (w, ps)
  | (i, e) :: rest, w, ps =>
    playCrew M rest (advance (M i) i e w ps).1 (advance (M i) i e w ps).2

/-- Every move of the schedule meets the guard. -/
def playCrewOk (M : Nat → Machine S ε W E) (G : Nat → W → S.Op → E → Prop) :
    List (Nat × E) → W → List (Prog S ε α) → Prop
  | [], _, _ => True
  | (i, e) :: rest, w, ps =>
    (match ps[i]? with
      | some (.await op _) => G i w op e
      | _ => True) ∧
    playCrewOk M G rest (advance (M i) i e w ps).1 (advance (M i) i e w ps).2

instance playCrewOk.decidable (M : Nat → Machine S ε W E) (G : Nat → W → S.Op → E → Prop)
    [hG : ∀ i w op e, Decidable (G i w op e)] :
    ∀ (schedule : List (Nat × E)) (w : W) (ps : List (Prog S ε α)),
      Decidable (playCrewOk M G schedule w ps)
  | [], _, _ => .isTrue trivial
  | (i, e) :: rest, w, ps =>
    have := playCrewOk.decidable M G rest (advance (M i) i e w ps).1 (advance (M i) i e w ps).2
    have : Decidable (match ps[i]? with
        | some (.await op _) => G i w op e
        | _ => True) :=
      match ps[i]? with
      | some (.await op _) => hG i w op e
      | some (.ret _) => .isTrue trivial
      | some (.raise _) => .isTrue trivial
      | none => .isTrue trivial
    inferInstanceAs (Decidable (_ ∧ _))

/-- A schedule whose moves meet the guard leads to a state of the crew. -/
theorem Crew.play (schedule : List (Nat × E)) :
    ∀ {w : W} {ps : List (Prog S ε α)}, Crew M G spawn drift w₀ w ps →
      playCrewOk M G schedule w ps →
      Crew M G spawn drift w₀ (playCrew M schedule w ps).1 (playCrew M schedule w ps).2 := by
  induction schedule with
  | nil => intro w ps h _; exact h
  | cons move rest ih =>
      intro w ps h hok
      refine ih ?_ hok.2
      have hguard := hok.1
      unfold advance
      split
      · rename_i op k hi
        rw [hi] at hguard
        exact h.step move.1 move.2 hi hguard
      · exact h

/-- A guard that every contribution of the schedule meets. -/
theorem playCrewOk_of_forall (schedule : List (Nat × E)) :
    ∀ {w : W} {ps : List (Prog S ε α)}, (∀ move ∈ schedule, ∀ w op, G move.1 w op move.2) →
      playCrewOk M G schedule w ps := by
  induction schedule with
  | nil => intro w ps _; trivial
  | cons move rest ih =>
      intro w ps h
      refine ⟨?_, ih fun move' hmove' => h move' (List.mem_cons_of_mem _ hmove')⟩
      split
      · exact h move List.mem_cons_self _ _
      · trivial

/-! ### Pools

Where the programs need not be told apart, one machine, one guard and one `rely` serve all of
them. -/

/-- The states of a pool. -/
abbrev Pool (M : Machine S ε W E) (G : W → S.Op → E → Prop) (spawn : Prog S ε α → Prop)
    (drift : W → W → Prop) (w₀ : W) : W → List (Prog S ε α) → Prop :=
  Crew (fun _ => M) (fun _ => G) spawn drift w₀

abbrev play (M : Machine S ε W E) : List (Nat × E) → W → List (Prog S ε α) →
    W × List (Prog S ε α) := playCrew fun _ => M

abbrev playOk (M : Machine S ε W E) (G : W → S.Op → E → Prop) :
    List (Nat × E) → W → List (Prog S ε α) → Prop := playCrewOk (fun _ => M) fun _ => G

section Pools

variable {M : Machine S ε W E} {G : W → S.Op → E → Prop}

/-- **Soundness for pools.** If every program that can be started emits only `ok`
operations, an `ok` operation keeps the invariant and is answered as the programs
expect, and so does drift, then the invariant holds in every state. -/
theorem Pool.sound {I : W → Prop} {ok : S.Op → Prop}
    {good : (op : S.Op) → Except ε (S.Ans op) → Prop} (h₀ : I w₀)
    (hspawn : ∀ p, spawn p → p.Emits ok good fun _ => True)
    (hexec : ∀ w op e, I w → ok op → G w op e →
      I (M.exec e op w).2 ∧ good op (M.exec e op w).1)
    (hdrift : ∀ w w', I w → drift w w' → I w') :
    ∀ {w : W} {ps : List (Prog S ε α)}, Pool M G spawn drift w₀ w ps →
      I w ∧ ∀ p ∈ ps, p.Emits ok good fun _ => True := by
  intro w ps h
  induction h with
  | init => exact ⟨h₀, by simp⟩
  | spawn _ hs ih =>
      refine ⟨ih.1, fun p hp => ?_⟩
      rcases List.mem_append.mp hp with hp | hp
      · exact ih.2 p hp
      · exact hspawn p (by simpa [List.mem_singleton.mp hp] using hs)
  | @step w ps i op k e _ hi hG ih =>
      obtain ⟨hok, hk⟩ := ih.2 _ (List.mem_of_getElem? hi)
      obtain ⟨hI, hgood⟩ := hexec w op e ih.1 hok hG
      refine ⟨hI, fun p hp => ?_⟩
      rcases List.mem_or_eq_of_mem_set hp with hp | hp
      · exact ih.2 p hp
      · exact hp ▸ hk _ hgood
  | drift _ hd ih => exact ⟨hdrift _ _ ih.1 hd, ih.2⟩

/-- What a rely–guarantee proof about a pool consists of. -/
structure Pool.Verified (M : Machine S ε W E) (G : W → S.Op → E → Prop)
    (spawn : Prog S ε α → Prop) (drift : W → W → Prop) (I : W → Prop) (rely : W → W → Prop)
    (Q : Except ε α → W → Prop) : Prop where
  refl : ∀ w, I w → rely w w
  trans : ∀ w w' w'', rely w w' → rely w' w'' → rely w w''
  stays : ∀ r w w', Q r w → rely w w' → Q r w'
  spawned : ∀ w p, spawn p → I w → p.wp M.among (Among rely G) I Q w
  moves : ∀ w op e, I w → G w op e → I (M.exec e op w).2 → rely w (M.exec e op w).2
  drifted : ∀ w w', I w → drift w w' → I w' ∧ rely w w'

/-- **Soundness of rely–guarantee for pools.** The invariant holds in every state, and every
program in flight is verified from there; one that has returned satisfies its
postcondition. -/
theorem Pool.Verified.sound {I : W → Prop} {rely : W → W → Prop} {Q : Except ε α → W → Prop}
    (hv : Pool.Verified M G spawn drift I rely Q) (h₀ : I w₀) {w : W} {ps : List (Prog S ε α)}
    (h : Pool M G spawn drift w₀ w ps) :
    I w ∧ ∀ p ∈ ps, p.wp M.among (Among rely G) I Q w := by
  have hproved : Crew.Proved (fun _ => M) (fun _ => G) spawn drift I (fun _ => rely)
      (fun _ _ => True) fun _ => Q :=
    { refl _ := hv.refl
      trans _ := hv.trans
      stays _ _ _ _ _ := trivial
      others _ _ w op e _ := hv.moves w op e
      drifted _ := hv.drifted
      lasts _ := hv.stays
      spawned _ w p hp hI _ := hv.spawned w p hp hI }
  obtain ⟨hI, hps, -⟩ := hproved.sound h₀ (fun _ => trivial) h
  refine ⟨hI, fun p hp => ?_⟩
  obtain ⟨i, hi⟩ := List.getElem?_of_mem hp
  exact hps i p hi

end Pools

end BrandBlitz.Lib

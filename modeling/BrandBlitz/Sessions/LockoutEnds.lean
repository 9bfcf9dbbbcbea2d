import BrandBlitz.Sessions.FailedStarts

/-!
# BrandBlitz.Sessions.LockoutEnds

**A lockout ends**, in every interleaving, as long as Redis answers the two calls that count a
failure. The counter is created without an end, and gets one from the request that created it.
-/

namespace BrandBlitz.Sessions.Lockout

open BrandBlitz.Lib

variable {windowSeconds i j : Nat} {w w' : World} {op : LockoutOp} {e : LockoutEnv} {userId : Id}

/-- What program `i` has created and given no end. -/
def World.owed (w : World) (i : Nat) : List (Nat × Id) := w.creators.filter fun owed => owed.1 = i

/-- Redis answers `INCR` and `EXPIRE`, and windows are whole seconds, `windowSeconds` at most. -/
def Answers (windowSeconds : Nat) (_ : Nat) (_ : World) (op : LockoutOp) (e : LockoutEnv) : Prop :=
  match op with
  | .incr _ => e.fault = none
  | .expire _ seconds => e.fault = none ∧ seconds.den = 1 ∧ seconds.num ≤ windowSeconds
  | _ => True

instance (windowSeconds i : Nat) (w : World) (op : LockoutOp) (e : LockoutEnv) :
    Decidable (Answers windowSeconds i w op e) := by
  cases op <;> unfold Answers <;> infer_instance

/-- Does the call change the counters? -/
def LockoutOp.counts : LockoutOp → Bool
  | .incr _ | .expire .. => true
  | _ => false

/-- What a call does to the counters. -/
inductive Does (windowSeconds i : Nat) (w : World) : (op : LockoutOp) →
    Except ApiError (lockoutSig.Ans op) × World → Prop
  | incr (userId : Id) :
    Does windowSeconds i w (.incr userId) (.ok (w.value userId + 1), w.incr i userId)
  | expire (userId : Id) (seconds : ℚ) (hle : seconds.num ≤ windowSeconds) :
    Does windowSeconds i w (.expire userId seconds) (.ok (), w.expire i userId seconds.num.toNat)
  | other {op : LockoutOp} {result : Except ApiError (lockoutSig.Ans op) × World}
    (hop : op.counts = false) (counters : result.2.counters = w.counters)
    (now : result.2.now = w.now) (creators : result.2.creators = w.creators) :
    Does windowSeconds i w op result

theorem exec_does (hguard : Answers windowSeconds i w op e) :
    Does windowSeconds i w op ((machine i).exec e op w) := by
  cases op with
  | incr userId =>
      have hexec : (machine i).exec e (.incr userId) w = perform i e w (.incr userId) := by
        simp only [machine]
        rw [show e.fault = none from hguard]
      rw [hexec]
      exact .incr userId
  | expire userId seconds =>
      obtain ⟨hfault, hwhole, hle⟩ := hguard
      have hexec : (machine i).exec e (.expire userId seconds) w =
          (.ok (), w.expire i userId seconds.num.toNat) := by
        simp only [machine]
        rw [hfault]
        simp only [perform, hwhole, if_true]
      rw [hexec]
      exact .expire userId seconds hle
  | _ =>
      refine .other rfl ?_ ?_ ?_
      all_goals
        simp only [machine, perform]
        split
        · repeat' split
          all_goals rfl
        · first
          | rfl
          | split <;> rfl

/-! ### The invariant -/

/-- A counter has an end within the window, or is owed one. -/
def Ending (windowSeconds : Nat) (w : World) : Prop :=
  ∀ userId counter, w.counters.live w.now userId = some counter →
    (∃ last, counter.last = some last ∧ last ≤ w.now + 1000 * windowSeconds) ∨
      ∃ i, (i, userId) ∈ w.creators

theorem ending_start (now : Nat) : Ending windowSeconds (.start now) := by
  intro userId counter hlive
  cases (Counters.live_eq_some_iff.mp hlive).1

theorem Ending.later (h : Ending windowSeconds w) (hlater : Later w w') :
    Ending windowSeconds w' := by
  obtain ⟨t, hle, rfl⟩ := hlater
  intro userId counter hlive
  rcases h userId counter (Counters.live_earlier hlive hle) with ⟨last, hlast, hend⟩ | howed
  · refine .inl ⟨last, hlast, ?_⟩
    dsimp only
    omega
  · exact .inr howed

theorem Ending.incr (h : Ending windowSeconds w) : Ending windowSeconds (w.incr i userId) := by
  intro other counter hlive
  have hmore {owed : Nat × Id} (howed : owed ∈ w.creators) : owed ∈ (w.incr i userId).creators := by
    simp only [World.incr]
    split
    · exact List.mem_cons_of_mem _ howed
    · exact howed
  by_cases heq : other = userId
  · subst heq
    obtain rfl := Option.some.inj (Counters.live_incr_self.symm.trans hlive)
    by_cases hzero : w.value other = 0
    · exact .inr ⟨i, by simp only [World.incr, hzero, if_true, List.mem_cons_self]⟩
    · -- it was there before
      cases hbefore : w.counters.live w.now other with
      | none =>
          rw [World.value, Counters.value, hbefore] at hzero
          exact absurd rfl hzero
      | some counter =>
          rcases h other counter hbefore with hend | ⟨j, howed⟩
          · exact .inl hend
          · exact .inr ⟨j, hmore howed⟩
  · rcases h other counter ((Counters.live_incr_of_ne heq).symm.trans hlive) with hend | ⟨j, howed⟩
    · exact .inl hend
    · exact .inr ⟨j, hmore howed⟩

theorem Ending.expire (h : Ending windowSeconds w) {seconds : Nat} (hle : seconds ≤ windowSeconds) :
    Ending windowSeconds (w.expire i userId seconds) := by
  intro other counter hlive
  by_cases heq : other = userId
  · subst heq
    cases hbefore : w.counters.live w.now other with
    | none =>
        simp only [World.expire, Counters.expire, hbefore] at hlive
        cases hlive
    | some before =>
        obtain rfl := Option.some.inj ((Counters.live_expire_self hbefore).symm.trans hlive)
        refine .inl ⟨_, rfl, ?_⟩
        exact Nat.add_le_add_left (Nat.mul_le_mul_left _ hle) _
  · rcases h other counter ((Counters.live_expire_of_ne heq).symm.trans hlive) with
      hend | ⟨j, howed⟩
    · exact .inl hend
    · exact .inr ⟨j, List.mem_filter.mpr ⟨howed, by simp [heq]⟩⟩

theorem Does.ending {result : Except ApiError (lockoutSig.Ans op) × World}
    (hdoes : Does windowSeconds i w op result) (h : Ending windowSeconds w) :
    Ending windowSeconds result.2 := by
  cases hdoes with
  | incr userId => exact h.incr
  | expire userId seconds hle => exact h.expire (Int.toNat_le.mpr hle)
  | other _ hcounters hnow hcreators =>
      intro userId counter hlive
      rw [hcounters, hnow] at hlive
      rw [hnow, hcreators]
      exact h userId counter hlive

/-! ### One request among others -/

theorem Does.owed {result : Except ApiError (lockoutSig.Ans op) × World}
    (hdoes : Does windowSeconds j w op result) (h : i ≠ j) : result.2.owed i = w.owed i := by
  cases hdoes with
  | incr userId =>
      simp only [World.owed, World.incr]
      split
      · exact List.filter_cons_of_neg (by simp [h.symm])
      · rfl
  | expire userId seconds =>
      simp only [World.owed, World.expire, List.filter_filter]
      refine List.filter_congr fun owed _ => ?_
      by_cases hi : owed.1 = i
      · have hne : owed ≠ (j, userId) := fun heq => h (hi.symm.trans (congrArg Prod.fst heq))
        simp [hi, hne]
      · simp [hi]
  | other _ _ _ hcreators => rw [World.owed, World.owed, hcreators]

/-- What the others leave alone. -/
structure Leaves (windowSeconds i : Nat) (w w' : World) : Prop where
  ending : Ending windowSeconds w'
  owed : w'.owed i = w.owed i

/-- The world of a program that owes `owed`. -/
structure Owes (windowSeconds i : Nat) (owed : List (Nat × Id)) (w : World) : Prop where
  ending : Ending windowSeconds w
  owed : w.owed i = owed

variable {owed : List (Nat × Id)}

theorem Owes.leaves (h : Owes windowSeconds i owed w) (hleaves : Leaves windowSeconds i w w') :
    Owes windowSeconds i owed w' := ⟨hleaves.ending, hleaves.owed.trans h.owed⟩

/-- A request ends in `Q`, or throws and owes nothing. -/
abbrev Repays {α : Type} (windowSeconds i : Nat) (p : Guarded α) (Q : α → World → Prop)
    (w : World) : Prop :=
  p.wp (machine i).among (Among (Leaves windowSeconds i) (Answers windowSeconds i))
    (Ending windowSeconds) (Prog.Ends Q fun _ => Owes windowSeconds i []) w

theorem repays_call {Q : lockoutSig.Ans op → World → Prop} (h : Owes windowSeconds i owed w)
    (hQ : ∀ w result, Owes windowSeconds i owed w → Does windowSeconds i w op result →
      Ending windowSeconds result.2 →
      Prog.Ends Q (fun _ => Owes windowSeconds i []) result.1 result.2) :
    Repays windowSeconds i (call op) Q w := by
  refine Prog.wp_call_among (fun _ _ h => h.leaves) h fun w' e _ h' hguard => ?_
  have hdoes := exec_does hguard
  have hending := hdoes.ending h'.ending
  exact ⟨hending, hQ w' _ h' hdoes hending⟩

/-- Any call but the two that count. -/
theorem repays_other (hop : op.counts = false) (h : Owes windowSeconds i [] w) :
    Repays windowSeconds i (call op) (fun _ => Owes windowSeconds i []) w := by
  refine repays_call h fun w result h hdoes hending => ?_
  have howes : Owes windowSeconds i [] result.2 := by
    cases hdoes with
    | incr | expire => cases hop
    | other _ _ _ hcreators => exact ⟨hending, by rw [World.owed, hcreators]; exact h.owed⟩
  cases result.1 <;> exact howes

theorem Does.repaid {result : Except ApiError (lockoutSig.Ans op) × World} {seconds : ℚ}
    (hdoes : Does windowSeconds i w op result) (hop : op = .expire userId seconds)
    (howed : w.owed i = [(i, userId)]) : result.2.owed i = [] := by
  cases hdoes with
  | incr => cases hop
  | expire userId' =>
      obtain ⟨rfl, -⟩ := LockoutOp.expire.inj hop
      simp only [World.owed, World.expire, List.filter_filter] at howed ⊢
      rw [List.filter_eq_nil_iff]
      intro owed hmem hmine
      rw [Bool.and_eq_true, decide_eq_true_eq, decide_eq_true_eq] at hmine
      have hin : owed ∈ w.creators.filter fun owed => owed.1 = i :=
        List.mem_filter.mpr ⟨hmem, by simpa using hmine.1⟩
      rw [howed] at hin
      exact hmine.2 (List.mem_singleton.mp hin)
  | other hcounts =>
      rw [hop] at hcounts
      cases hcounts

theorem repays_recordFailure (cfg : SessionStartLockoutConfig) (userId : Id)
    (h : Owes windowSeconds i [] w) :
    Repays windowSeconds i (recordFailure cfg userId) (fun _ => Owes windowSeconds i []) w := by
  have hincr : Repays windowSeconds i (call (.incr userId))
      (fun updated => Owes windowSeconds i (if updated = 1 then [(i, userId)] else [])) w := by
    refine repays_call h fun w result h hdoes hending => ?_
    cases hdoes with
    | incr =>
        refine ⟨hending, ?_⟩
        have howed := h.owed
        simp only [World.owed, World.incr, Nat.add_eq_right] at howed ⊢
        split
        · rw [List.filter_cons_of_pos (by simp), howed]
        · exact howed
    | other hcounts => cases hcounts
  have hexpire {w : World} (h : Owes windowSeconds i [(i, userId)] w) :
      Repays windowSeconds i (call (.expire userId cfg.windowSeconds))
        (fun _ => Owes windowSeconds i []) w := by
    refine repays_call h fun w result h hdoes hending => ?_
    have howes : Owes windowSeconds i [] result.2 := ⟨hending, hdoes.repaid rfl h.owed⟩
    cases result.1 <;> exact howes
  have haudit {w : World} {updated : Nat} (h : Owes windowSeconds i [] w) : Repays windowSeconds i
      (if updated = cfg.threshold then
        Prog.tryCatch (call (.insertAudit ⟨userId, cfg⟩)) fun _ => return ()
      else return ()) (fun _ => Owes windowSeconds i []) w := by
    split
    · exact Prog.wp_tryCatch (repays_other rfl h) fun _ _ h => h
    · exact h
  refine Prog.wp_tryCatch (Prog.wp_bind hincr fun updated w h => ?_) fun _ _ h => h
  dsimp only
  split
  · rename_i hone
    rw [if_pos hone] at h
    exact Prog.wp_bind (hexpire h) fun _ _ h => haudit h
  · rename_i hone
    rw [if_neg hone] at h
    exact haudit h

theorem repays_requireSessionStartAllowed (fallback : SessionStartLockoutConfig)
    (user : Option Id) (h : Owes windowSeconds i [] w) :
    Repays windowSeconds i (requireSessionStartAllowed fallback user)
      (fun _ => Owes windowSeconds i []) w := by
  cases user with
  | none => exact Prog.wp_bind (repays_other rfl h) fun _ _ h => h
  | some userId =>
      refine Prog.wp_bind (P := fun _ => Owes windowSeconds i []) (Prog.wp_tryCatch (Prog.wp_bind
        (repays_other rfl h) fun _ _ h => h) fun _ _ h => h)
        fun cfg w h => ?_
      have hread : Repays windowSeconds i (readCounter userId)
          (fun _ => Owes windowSeconds i []) w :=
        Prog.wp_bind (repays_other rfl h) fun raw w h =>
          Prog.wp_bind (repays_other rfl h) fun ttl w h => h
      refine Prog.wp_bind (Prog.wp_attempt hread) fun read w h => ?_
      cases read with
      | error err =>
          exact Prog.wp_bind (repays_other rfl h) fun _ _ h => h
      | ok read =>
          have h : Owes windowSeconds i [] w := h
          dsimp only
          split
          · exact Prog.wp_bind (repays_other rfl h) fun _ _ h => h
          · refine Prog.wp_bind (repays_other rfl h) fun status w h => ?_
            split
            · exact repays_recordFailure cfg userId h
            · exact h

/-! ### Every interleaving -/

theorem lockout_verified (windowSeconds : Nat) (fallback : SessionStartLockoutConfig) :
    Crew.Proved machine (Answers windowSeconds) (IsStart fallback) Later (Ending windowSeconds)
      (Leaves windowSeconds) (fun i w => w.owed i = [])
      fun i _ w => Owes windowSeconds i [] w where
  refl _ _ h := ⟨h, rfl⟩
  trans _ _ _ _ h h' := ⟨h'.ending, h'.owed.trans h.owed⟩
  stays _ _ _ h hleaves := hleaves.owed.trans h
  lasts _ _ _ _ h hleaves := h.leaves hleaves
  spawned i w p hp h howed := by
    obtain ⟨user, rfl⟩ := hp
    exact Prog.wp_mono (repays_requireSessionStartAllowed fallback user ⟨h, howed⟩)
      fun r _ h => by cases r <;> exact h
  others _ _ _ _ _ hne h hguard _ :=
    ⟨(exec_does hguard).ending h, (exec_does hguard).owed hne⟩
  drifted i w w' h hlater := by
    refine ⟨h.later hlater, h.later hlater, ?_⟩
    obtain ⟨t, -, rfl⟩ := hlater
    rfl

/-- **A lockout ends** a window after the last call that counted a failure, unless the request that
created the counter is still in flight: every counter that is there has an end by then, or an
`EXPIRE` is due. -/
theorem lockout_ends {fallback : SessionStartLockoutConfig} {now : Nat} {ps : List (Guarded Unit)}
    (h : Crew machine (Answers windowSeconds) (IsStart fallback) Later (.start now) w ps)
    (userId : Id) (counter : Counter) (hlive : w.counters.live w.now userId = some counter) :
    (∃ last, counter.last = some last ∧ last ≤ w.now + 1000 * windowSeconds) ∨
      ∃ i op k, ps[i]? = some (.await op k) ∧ (i, userId) ∈ w.creators := by
  obtain ⟨hending, hps, hfresh⟩ :=
    (lockout_verified windowSeconds fallback).sound (ending_start now) (fun _ => rfl) h
  rcases hending userId counter hlive with hend | ⟨i, howed⟩
  · exact .inl hend
  · have hmine : (i, userId) ∈ w.owed i := List.mem_filter.mpr ⟨howed, by simp⟩
    cases hi : ps[i]? with
    | none =>
        rw [hfresh i (List.getElem?_eq_none_iff.mp hi)] at hmine
        cases hmine
    | some p =>
        cases p with
        | await op k => exact .inr ⟨i, op, k, hi, howed⟩
        | ret a =>
            rw [((hps i _ hi).owed : w.owed i = [])] at hmine
            cases hmine
        | raise err =>
            rw [((hps i _ hi).owed : w.owed i = [])] at hmine
            cases hmine

/-- The request is over. -/
def Over : Guarded Unit → Prop
  | .await .. => False
  | .ret _ | .raise _ => True

instance : DecidablePred Over
  | .await .. => .isFalse id
  | .ret _ | .raise _ => .isTrue trivial

/-- When all requests are over, a window later nobody is locked out. -/
theorem lockout_over {fallback : SessionStartLockoutConfig} {now t : Nat}
    {ps : List (Guarded Unit)}
    (h : Crew machine (Answers windowSeconds) (IsStart fallback) Later (.start now) w ps)
    (hover : ∀ p ∈ ps, Over p) (ht : w.now + 1000 * windowSeconds < t)
    (userId : Id) : w.counters.value t userId = 0 := by
  cases hlive : w.counters.live t userId with
  | none => rw [Counters.value, hlive]; rfl
  | some counter =>
      have hbefore := Counters.live_earlier hlive (by omega : w.now ≤ t)
      rcases lockout_ends h userId counter hbefore with ⟨last, hlast, hle⟩ | ⟨i, op, k, hi, -⟩
      · have hafter := (Counters.live_eq_some_iff.mp hlive).2 last hlast
        omega
      · exact absurd (hover _ (List.mem_of_getElem? hi)) id

/-! ### One failed start -/

def oneStart : List (Guarded Unit) := [requireSessionStartAllowed ⟨1, 60⟩ (some ['u'])]

theorem spawn_oneStart {G : Nat → World → LockoutOp → LockoutEnv → Prop} :
    Crew machine G (IsStart ⟨1, 60⟩) Later (.start 0) (.start 0) oneStart :=
  Crew.spawn .init ⟨some ['u'], rfl⟩

/-- It is counted, and the counter gets its end. -/
def counted : List (Nat × LockoutEnv) := List.replicate 7 (0, failing)

def playStart (schedule : List (Nat × LockoutEnv)) : World × List (Guarded Unit) :=
  playCrew machine schedule (.start 0) oneStart

theorem locked_for_a_minute : (playStart counted).1.value ['u'] = 1 ∧
    (playStart counted).1.counters.value 60001 ['u'] = 0 :=
  ⟨by decide +kernel, lockout_over
    (Crew.play counted spawn_oneStart
      (by decide +kernel : playCrewOk machine (Answers 60) _ _ _))
    (by decide +kernel : ∀ p ∈ (playStart counted).2, Over p) (by decide +kernel) _⟩

def redisDown : LockoutEnv := { failing with fault := some (⟨"".toList, none, none⟩, false) }

/-- `EXPIRE` fails, which is logged. -/
def noEnd : List (Nat × LockoutEnv) := List.replicate 5 (0, failing) ++ [(0, redisDown)]

/-- Without an end, one failed start locks a user out for good. -/
theorem locked_for_good : (∀ p ∈ (playStart noEnd).2, Over p) ∧
    ∀ t, (playStart noEnd).1.counters.value t ['u'] = 1 := by
  refine ⟨by decide +kernel, fun t => ?_⟩
  have hcounter : (playStart noEnd).1.counters ['u'] = some ⟨1, none⟩ := by decide +kernel
  exact Counters.value_of_live
    (Counters.live_eq_some_iff.mpr ⟨hcounter, fun _ hlast => by cases hlast⟩)

end BrandBlitz.Sessions.Lockout

import BrandBlitz.Sessions.Lockout

/-!
# BrandBlitz.Sessions.FailedStarts

**How many failed starts are counted before a user is locked out**, in every interleaving.

A request reads the counter before the start and increments it after. What can be said is about
both together: the failures that have been counted and those that are still to be counted exceed
what is below the threshold by as many as were under way at once.
-/

namespace BrandBlitz.Sessions.Lockout

open BrandBlitz.Lib

variable {T K i j : Nat} {w w' : World} {op : LockoutOp} {e : LockoutEnv} {userId : Id}

/-! ### Requests under way -/

namespace World

/-- What program `i` has read, if it is not over. -/
def mine (w : World) (i : Nat) : List Reader := w.readers.filter fun reader => reader.program = i

/-- Requests that have read less than the threshold. -/
def underWay (w : World) (T : Nat) (userId : Id) : Nat :=
  w.readers.countP fun reader => reader.userId = userId && reader.count < T

@[simp] theorem mine_release_self : (w.release i).mine i = [] := by
  simp only [mine, release, List.filter_filter, List.filter_eq_nil_iff]
  intro reader _
  simp

theorem mine_release_of_ne (h : i ≠ j) : (w.release j).mine i = w.mine i := by
  simp only [mine, release, List.filter_filter]
  refine List.filter_congr fun reader _ => ?_
  by_cases hi : reader.program = i
  · simp [hi, h]
  · simp [hi]

/-- What `GET` answers, where nothing is zero. -/
theorem getD_live :
    ((w.counters.live w.now userId).map (·.value)).getD 0 = w.value userId := by
  rw [value, Counters.value]
  cases w.counters.live w.now userId <;> rfl

/-- Requests of one program and of the others. -/
theorem underWay_eq : w.underWay T userId = (w.release i).underWay T userId +
    (w.mine i).countP fun reader => reader.userId = userId && reader.count < T := by
  rw [Nat.add_comm]
  unfold underWay mine release
  rw [List.countP_eq_countP_filter_add _ _ fun reader => decide (reader.program = i)]
  simp only [ne_eq, decide_not]

theorem underWay_read {other : Id} : (w.read i userId).underWay T other =
    w.underWay T other + if other = userId ∧ w.value userId < T then 1 else 0 := by
  simp only [underWay, read, List.countP_cons, Bool.and_eq_true, decide_eq_true_eq,
    eq_comm (a := userId)]

theorem underWay_le : w.underWay T userId ≤ (w.readersOf userId).length := by
  rw [underWay, readersOf, ← List.countP_eq_length_filter]
  exact List.countP_mono_left fun reader _ h => (Bool.and_eq_true_iff.mp h).1

end World

/-! ### The invariant -/

/-- What has been counted, and what may yet be. -/
def Within (T K : Nat) (w : World) : Prop :=
  ∀ userId, w.value userId + w.underWay T userId ≤ T - 1 + K

theorem within_start (now : Nat) : Within T K (.start now) := fun _ => Nat.zero_le _

theorem Within.release (h : Within T K w) : Within T K (w.release i) := by
  intro userId
  have hle := h userId
  rw [World.underWay_eq (i := i)] at hle
  exact Nat.le_trans (Nat.add_le_add_left (Nat.le_add_right _ _) _) hle

theorem Within.later (h : Within T K w) (hlater : Later w w') : Within T K w' := by
  obtain ⟨t, hle, rfl⟩ := hlater
  intro userId
  exact Nat.le_trans (Nat.add_le_add_right (Counters.value_later_le hle) _) (h userId)

/-- No threshold is above `T`, and when a request reads the counter, fewer than `K` others of this
user have read it and are not over. -/
def AtOnce (T K : Nat) (_ : Nat) (w : World) (op : LockoutOp) (e : LockoutEnv) : Prop :=
  match op with
  | .getConfig => ∀ threshold ∈ e.row.threshold, threshold ≤ T
  | .get userId => (w.readersOf userId).length < K
  | _ => True

/-- What starts lead to. -/
abbrev Reached (T K : Nat) (fallback : SessionStartLockoutConfig) (now : Nat) :
    World → List (Guarded Unit) → Prop :=
  Crew machine (AtOnce T K) (IsStart fallback) Later (.start now)

/-- Only a request that has read less than the threshold counts its failure. -/
def Ready (T i : Nat) (w : World) : LockoutOp → Prop
  | .incr userId => ∃ count < T, w.mine i = [⟨i, userId, count⟩]
  | _ => True

theorem Within.read (h : Within T K w) (hroom : (w.readersOf userId).length < K) :
    Within T K (w.read i userId) := by
  intro other
  have hle := h other
  have hvalue : (w.read i userId).value other = w.value other := rfl
  by_cases hreads : other = userId ∧ w.value userId < T
  · obtain ⟨rfl, hlt⟩ := hreads
    have hfew := Nat.lt_of_le_of_lt (World.underWay_le (T := T)) hroom
    rw [World.underWay_read, if_pos ⟨rfl, hlt⟩, hvalue]
    omega
  · rwa [World.underWay_read, if_neg hreads, hvalue]

/-- A failure that was to be counted is. -/
theorem Within.incr (h : Within T K w) (hready : Ready T i w (.incr userId)) :
    Within T K (w.incr i userId) := by
  intro other
  obtain ⟨count, hlt, hmine⟩ := hready
  have hle := h other
  rw [World.underWay_eq (i := i), hmine, List.countP_singleton] at hle
  have hunder : (w.incr i userId).underWay T other = (w.release i).underWay T other := rfl
  by_cases heq : other = userId
  · subst heq
    have hvalue : (w.incr i other).value other = w.value other + 1 := Counters.value_incr_self
    rw [if_pos (by simp [hlt])] at hle
    omega
  · have hvalue : (w.incr i userId).value other = w.value other := Counters.value_incr_of_ne heq
    omega

theorem perform_within (h : Within T K w) (hready : Ready T i w op) (hguard : AtOnce T K i w op e) :
    Within T K (perform i e w op).2 := by
  cases op with
  | getConfig | ttl | insertAudit => exact h
  | get userId => exact h.read hguard
  | locked => exact h.release
  | next =>
      simp only [perform]
      split
      · exact h
      · exact h.release
  | incr userId => exact h.incr hready
  | expire userId seconds =>
      simp only [perform]
      split
      · intro other
        have hvalue : (w.expire i userId seconds.num.toNat).value other = w.value other :=
          Counters.value_expire
        rw [hvalue]
        exact h other
      · exact h

theorem exec_within (h : Within T K w) (hready : Ready T i w op) (hguard : AtOnce T K i w op e) :
    Within T K ((machine i).exec e op w).2 := by
  unfold machine
  dsimp only
  split
  · split
    · exact (perform_within h hready hguard).release
    · exact h.release
  · exact perform_within h hready hguard

/-! ### One request among others -/

theorem perform_mine (h : i ≠ j) : (perform j e w op).2.mine i = w.mine i := by
  cases op with
  | getConfig | ttl | insertAudit => rfl
  | get userId => exact List.filter_cons_of_neg (by simp [h.symm])
  | locked | incr => exact World.mine_release_of_ne h
  | next =>
      simp only [perform]
      split
      · rfl
      · exact World.mine_release_of_ne h
  | expire userId seconds =>
      simp only [perform]
      split <;> rfl

theorem exec_mine (h : i ≠ j) : ((machine j).exec e op w).2.mine i = w.mine i := by
  unfold machine
  dsimp only
  split
  · rw [World.mine_release_of_ne h]
    split
    · exact perform_mine h
    · rfl
  · exact perform_mine h

/-- What the others leave alone. -/
structure Rely (T K i : Nat) (w w' : World) : Prop where
  within : Within T K w'
  mine : w'.mine i = w.mine i

/-- A request leaves the failures within bounds, and ends in `Q` or throws in `R`. -/
abbrev Safe {α : Type} (T K i : Nat) (p : Guarded α) (Q : α → World → Prop)
    (R : ApiError → World → Prop) (w : World) : Prop :=
  p.wp (machine i).among (Among (Rely T K i) (AtOnce T K i)) (Within T K) (Prog.Ends Q R) w

/-- The world of a program that has read `readers`. -/
structure Has (T K i : Nat) (readers : List Reader) (w : World) : Prop where
  within : Within T K w
  mine : w.mine i = readers

variable {readers : List Reader}

theorem Has.rely (h : Has T K i readers w) (hrely : Rely T K i w w') : Has T K i readers w' :=
  ⟨hrely.within, hrely.mine.trans h.mine⟩

/-- A call that fails ends the request. -/
theorem safe_call {Q : lockoutSig.Ans op → World → Prop} (h : Has T K i readers w)
    (hready : ∀ w, w.mine i = readers → Ready T i w op)
    (hok : ∀ w e a, Has T K i readers w → AtOnce T K i w op e → Within T K (perform i e w op).2 →
      (perform i e w op).1 = .ok a → Q a (perform i e w op).2)
    (herror : ∀ w e err, (perform i e w op).1 ≠ .error err) :
    Safe T K i (call op) Q (fun _ => Has T K i []) w := by
  refine Prog.wp_call_among (fun _ _ h => h.rely) h fun w' e _ h' hguard => ?_
  have hwithin := exec_within h'.within (hready w' h'.mine) hguard
  refine ⟨hwithin, ?_⟩
  unfold machine at hwithin ⊢
  dsimp only at hwithin ⊢
  split at hwithin
  · exact ⟨hwithin, World.mine_release_self⟩
  · cases hans : (perform i e w' op).1 with
    | ok a => exact hok w' e a h' hguard hwithin hans
    | error err => exact absurd hans (herror w' e err)

theorem perform_mine_nil (hop : ∀ userId, op ≠ .get userId) (h : w.mine i = []) :
    (perform i e w op).2.mine i = [] := by
  cases op with
  | getConfig | ttl | insertAudit => exact h
  | get userId => exact absurd rfl (hop userId)
  | locked | incr => exact World.mine_release_self
  | next =>
      simp only [perform]
      split
      · exact h
      · exact World.mine_release_self
  | expire userId seconds =>
      simp only [perform]
      split <;> exact h

/-- Once the request is over. -/
theorem safe_over (hop : ∀ userId, op ≠ .incr userId ∧ op ≠ .get userId) (h : Has T K i [] w) :
    Safe T K i (call op) (fun _ => Has T K i []) (fun _ => Has T K i []) w := by
  have hready (w : World) : Ready T i w op := by
    cases op with
    | incr userId => exact absurd rfl (hop userId).1
    | _ => trivial
  refine Prog.wp_call_among (fun _ _ h => h.rely) h fun w' e _ h' hguard => ?_
  have hwithin := exec_within h'.within (hready w') hguard
  have hmine : ((machine i).exec e op w').2.mine i = [] := by
    unfold machine
    dsimp only
    split
    · exact World.mine_release_self
    · exact perform_mine_nil (fun userId => (hop userId).2) h'.mine
  refine ⟨hwithin, ?_⟩
  cases ((machine i).exec e op w').1 <;> exact ⟨hwithin, hmine⟩

theorem positiveOr_le {value : Option ℚ} {fallback bound : ℚ} (hfallback : fallback ≤ bound)
    (h : ∀ q ∈ value, q ≤ bound) : positiveOr value fallback ≤ bound := by
  unfold positiveOr
  cases hvalue : value.filter (0 < ·) with
  | none => exact hfallback
  | some q => exact h q (Option.eq_some_of_filter_eq_some hvalue)

theorem safe_getConfig {fallback : SessionStartLockoutConfig} (hfallback : fallback.threshold ≤ T)
    (h : Has T K i [] w) :
    Safe T K i (getSessionStartLockoutConfig fallback)
      (fun cfg w => cfg.threshold ≤ T ∧ Has T K i [] w) (fun _ _ => True) w := by
  have hcall : Safe T K i (call .getConfig)
      (fun row w => (∀ threshold ∈ row.threshold, threshold ≤ (T : ℚ)) ∧ Has T K i [] w)
      (fun _ => Has T K i []) w := by
    refine safe_call h (fun _ _ => trivial) (fun w e row h hguard _ hans => ?_) fun _ _ _ => nofun
    obtain rfl := Except.ok.inj hans
    exact ⟨hguard, h⟩
  exact Prog.wp_tryCatch (Prog.wp_bind hcall fun row w h => ⟨positiveOr_le hfallback h.1, h.2⟩)
    fun _ w h => ⟨hfallback, h⟩

theorem safe_readCounter (h : Has T K i [] w) :
    Safe T K i (readCounter userId) (fun read => Has T K i [⟨i, userId, read.1.getD 0⟩])
      (fun _ => Has T K i []) w := by
  have hget : Safe T K i (call (.get userId)) (fun raw => Has T K i [⟨i, userId, raw.getD 0⟩])
      (fun _ => Has T K i []) w := by
    refine safe_call h (fun _ _ => trivial) (fun w e raw h _ hwithin hans => ⟨hwithin, ?_⟩)
      fun _ _ _ => nofun
    obtain rfl := Except.ok.inj hans
    rw [World.getD_live]
    exact (List.filter_cons_of_pos (by simp)).trans (congrArg _ h.mine)
  refine Prog.wp_bind hget fun raw w h => Prog.wp_bind (P := fun _ =>
    Has T K i [⟨i, userId, raw.getD 0⟩]) ?_ fun currentTtl w h => h
  exact safe_call h (fun _ _ => trivial) (fun w e _ h _ _ _ => h) fun _ _ _ => nofun

theorem safe_recordFailure {cfg : SessionStartLockoutConfig} {count : Nat} (hlt : count < T)
    (h : Has T K i [⟨i, userId, count⟩] w) :
    Safe T K i (recordFailure cfg userId) (fun _ _ => True) (fun _ _ => True) w := by
  have hincr : Safe T K i (call (.incr userId)) (fun _ => Has T K i []) (fun _ => Has T K i []) w :=
    safe_call h (fun w hmine => ⟨count, hlt, hmine⟩)
      (fun w e _ h _ hwithin _ => ⟨hwithin, World.mine_release_self⟩) fun _ _ _ => nofun
  refine Prog.wp_tryCatch (P := fun _ _ => True) (Prog.wp_bind (Prog.wp_weaken hincr
    (fun _ _ h => h) fun _ _ _ => trivial) fun updated w h => ?_) fun _ _ _ => trivial
  have haudit {w : World} (h : Has T K i [] w) : Safe T K i
      (if updated = cfg.threshold then
        Prog.tryCatch (call (.insertAudit ⟨userId, cfg⟩)) fun _ => return ()
      else return ()) (fun _ _ => True) (fun _ _ => True) w := by
    split
    · exact Prog.wp_tryCatch (Prog.wp_weaken (safe_over (fun _ => ⟨nofun, nofun⟩) h)
        (fun _ _ _ => trivial) fun _ _ h => h) fun _ _ _ => trivial
    · trivial
  dsimp only
  split
  · exact Prog.wp_bind (Prog.wp_weaken (safe_over (fun _ => ⟨nofun, nofun⟩) h) (fun _ _ h => h)
      fun _ _ _ => trivial) fun _ _ h => haudit h
  · exact haudit h

/-- A request counts a failure only below the threshold. -/
theorem safe_requireSessionStartAllowed {fallback : SessionStartLockoutConfig}
    (hfallback : fallback.threshold ≤ T) (user : Option Id) (h : Has T K i [] w) :
    Safe T K i (requireSessionStartAllowed fallback user) (fun _ _ => True) (fun _ _ => True) w := by
  have hnext {w : World} (h : Has T K i [] w) : Safe T K i (do
      let _ ← call .next
      return ()) (fun _ _ => True) (fun _ _ => True) w :=
    Prog.wp_bind (Prog.wp_weaken (safe_over (fun _ => ⟨nofun, nofun⟩) h) (fun _ _ h => h)
      fun _ _ _ => trivial) fun _ _ _ => trivial
  cases user with
  | none => exact hnext h
  | some userId =>
      refine Prog.wp_bind (safe_getConfig hfallback h) fun cfg w h => ?_
      refine Prog.wp_bind (Prog.wp_attempt (safe_readCounter h.2)) fun read w h' => ?_
      cases read with
      | error err => exact hnext h'
      | ok read =>
          obtain ⟨raw, currentTtl⟩ := read
          dsimp only
          split
          · refine Prog.wp_bind (P := fun _ _ => True) (Prog.wp_weaken (safe_call h'
              (fun _ _ => trivial) (fun _ _ _ _ _ _ _ => trivial) fun _ _ _ => nofun)
              (fun _ _ h => h) fun _ _ _ => trivial) fun _ _ _ => trivial
          · rename_i hbelow
            have hlt : raw.getD 0 < T := by
              have hbelow : ((raw.getD 0 : Nat) : ℚ) < T := lt_of_lt_of_le (not_le.mp hbelow) h.1
              exact_mod_cast hbelow
            refine Prog.wp_bind (P := fun status w => failed status = true →
              Has T K i [⟨i, userId, raw.getD 0⟩] w) (Prog.wp_weaken (safe_call h'
              (fun _ _ => trivial) (fun w e status h _ hwithin hans hfailed => ?_)
              fun _ _ _ => nofun) (fun _ _ h => h) fun _ _ _ => trivial) fun status w h => ?_
            · obtain rfl := Except.ok.inj hans
              simp only [perform, hfailed, if_true]
              exact h
            · split
              · rename_i hfailed
                exact safe_recordFailure hlt (h hfailed)
              · trivial

/-! ### Every interleaving -/

theorem failed_starts_verified {fallback : SessionStartLockoutConfig}
    (hfallback : fallback.threshold ≤ T) :
    Crew.Verified machine (AtOnce T K) (IsStart fallback) Later (Within T K) (Rely T K)
      fun i w => w.mine i = [] where
  refl _ _ h := ⟨h, rfl⟩
  trans _ _ _ _ h h' := ⟨h'.within, h'.mine.trans h.mine⟩
  stays _ _ _ h hrely := hrely.mine.trans h
  spawned i w p hp h hmine := by
    obtain ⟨user, rfl⟩ := hp
    refine Prog.wp_mono (safe_requireSessionStartAllowed hfallback user ⟨h, hmine⟩)
      fun _ _ _ => trivial
  others _ _ _ _ _ hne _ _ h := ⟨h, exec_mine hne⟩
  drifted i w w' h hlater := by
    refine ⟨h.later hlater, h.later hlater, ?_⟩
    obtain ⟨t, -, rfl⟩ := hlater
    rfl

/-- **No more failures are counted than the threshold and the requests at once allow**, whatever
else happens: if no threshold is above `T` and no more than `K` requests of a user are under way at
once, then his counter never exceeds `T - 1 + K`, and with one request at a time never `T`. -/
theorem failed_starts_bounded {fallback : SessionStartLockoutConfig}
    (hfallback : fallback.threshold ≤ T) {now : Nat} {ps : List (Guarded Unit)}
    (h : Reached T K fallback now w ps) (userId : Id) :
    w.value userId + w.underWay T userId ≤ T - 1 + K :=
  ((failed_starts_verified hfallback).sound (within_start now) (fun _ => rfl) h).1 userId

/-! ### The bound is reached -/

section

variable {fallback : SessionStartLockoutConfig} {now : Nat} {ps qs rest : List (Guarded Unit)}

/-- No row in `app_config`, and every start fails. -/
def failing : LockoutEnv := ⟨none, ⟨none, none⟩, some 400⟩

/-- A start below the threshold is let through and fails. -/
theorem crew_failed (hthreshold : fallback.threshold = T)
    (h : Reached T K fallback now w ps)
    (hlow : w.value userId < T) (hroom : (w.readersOf userId).length < K) :
    Reached T K fallback now (w.read ps.length userId) (ps ++ [recordFailure fallback userId]) := by
  have hconfig := (h.spawn ⟨some userId, rfl⟩).stepAt failing fun _ hrow => by cases hrow
  have httl := (hconfig.stepAt failing hroom).stepAt failing trivial
  have hbelow : ¬ fallback.threshold ≤
      (((w.counters.live w.now userId).map (·.value)).getD 0 : Nat) := by
    rw [World.getD_live, hthreshold, not_le]
    exact_mod_cast hlow
  have hnext : Reached T K fallback now (w.read ps.length userId) (ps ++ [if fallback.threshold ≤
          (((w.counters.live w.now userId).map (·.value)).getD 0 : Nat) then _
        else do
          let status ← call .next
          if failed status then recordFailure fallback userId else return ()]) := httl
  rw [if_neg hbelow] at hnext
  exact hnext.stepAt failing trivial

/-- Its failure is counted. -/
theorem crew_counted
    (h : Reached T K fallback now w (qs ++ recordFailure fallback userId :: rest)) :
    ∃ p, Reached T K fallback now (w.incr qs.length userId) (qs ++ p :: rest) :=
  ⟨_, h.stepAt failing trivial⟩

theorem value_incr : (w.incr i userId).value userId = w.value userId + 1 := Counters.value_incr_self

/-- One after the other. -/
theorem crew_in_turn (now : Nat) (hthreshold : fallback.threshold = T) (hK : 0 < K) (userId : Id) :
    ∀ n ≤ T, ∃ w ps, Reached T K fallback now w ps ∧
      w.value userId = n ∧ w.readersOf userId = []
  | 0, _ => ⟨_, _, .init, rfl, rfl⟩
  | n + 1, hn => by
      obtain ⟨w, ps, h, hvalue, hreaders⟩ :=
        crew_in_turn now hthreshold hK userId n (Nat.le_of_lt hn)
      have hread := crew_failed hthreshold h (hvalue ▸ hn) (hreaders ▸ hK)
      obtain ⟨p, hcounted⟩ := crew_counted hread
      refine ⟨_, _, hcounted, value_incr.trans (congrArg (· + 1) hvalue), ?_⟩
      simp only [World.readersOf, List.filter_eq_nil_iff] at hreaders ⊢
      intro reader hreader
      obtain ⟨hmem, hother⟩ := List.mem_filter.mp hreader
      rcases List.mem_cons.mp hmem with rfl | hmem
      · simp at hother
      · exact hreaders reader hmem

/-- Many at once, all of them let through. -/
theorem crew_at_once (hthreshold : fallback.threshold = T)
    (h : Reached T K fallback now w ps)
    (hlow : w.value userId < T) (hreaders : w.readersOf userId = []) :
    ∀ n ≤ K, ∃ w', Reached T K fallback now w'
        (ps ++ List.replicate n (recordFailure fallback userId)) ∧
      w'.value userId = w.value userId ∧ (w'.readersOf userId).length = n
  | 0, _ => ⟨w, by simpa using h, rfl, by rw [hreaders]; rfl⟩
  | n + 1, hn => by
      obtain ⟨w', h', hvalue, hlen⟩ := crew_at_once hthreshold h hlow hreaders n (Nat.le_of_lt hn)
      have hread := crew_failed hthreshold h' (hvalue ▸ hlow) (hlen ▸ hn)
      rw [List.append_assoc, ← List.replicate_succ'] at hread
      refine ⟨_, hread, hvalue, ?_⟩
      rw [World.readersOf, World.read, List.filter_cons_of_pos (by simp), List.length_cons]
      exact congrArg (· + 1) hlen

theorem crew_all_counted : ∀ {n : Nat} {w : World} {qs : List (Guarded Unit)},
    Reached T K fallback now w (qs ++ List.replicate n (recordFailure fallback userId)) →
    ∃ w' ps', Reached T K fallback now w' ps' ∧
      w'.value userId = w.value userId + n
  | 0, w, qs, h => ⟨_, _, h, rfl⟩
  | n + 1, w, qs, h => by
      rw [List.replicate_succ] at h
      obtain ⟨p, h⟩ := crew_counted h
      rw [← List.singleton_append, ← List.append_assoc] at h
      obtain ⟨w', ps', h', hvalue⟩ := crew_all_counted h
      exact ⟨w', ps', h', by rw [hvalue, value_incr]; omega⟩

/-- **How far the counter goes**: with the threshold `T` and up to `K` requests of a user at once,
the values it can take are those up to `T - 1 + K`, all of them. Only with one request at a time
is the threshold never exceeded. -/
theorem counter_values_iff (hthreshold : fallback.threshold = T) (hT : 0 < T) (hK : 0 < K)
    (userId : Id) (n : Nat) :
    (∃ w ps, Reached T K fallback now w ps ∧
      w.value userId = n) ↔ n ≤ T - 1 + K := by
  constructor
  · rintro ⟨w, ps, h, rfl⟩
    have hle := failed_starts_bounded (le_of_eq hthreshold) h userId
    omega
  · intro hn
    obtain ⟨w, ps, h, hvalue, hreaders⟩ :=
      crew_in_turn now hthreshold hK userId (min n (T - 1)) (by omega)
    obtain ⟨w', h', hvalue', -⟩ :=
      crew_at_once hthreshold h (by omega) hreaders (n - min n (T - 1)) (by omega)
    obtain ⟨w'', ps'', h'', hvalue''⟩ := crew_all_counted h'
    exact ⟨w'', ps'', h'', by omega⟩

/-- Three requests at once bring a counter with the threshold two to four. -/
theorem counter_value_four : ∃ w ps,
    Reached 2 3 ⟨2, 3600⟩ 0 w ps ∧
      w.value ['u'] = 4 :=
  (counter_values_iff (by norm_num) (by decide) (by decide) ['u'] 4).mpr (by decide)

end

end BrandBlitz.Sessions.Lockout

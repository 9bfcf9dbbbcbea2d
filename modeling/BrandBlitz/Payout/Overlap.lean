import BrandBlitz.Payout.Batch
import BrandBlitz.Payout.Emission
import BrandBlitz.Payout.PaidOnce

/-!
# BrandBlitz.Payout.Overlap

**Payout jobs at the same time.** A run of `processPayout` looks at the challenge's status when
it starts, and whoever else pays the challenge by then has changed nothing in it yet: two runs
that overlap pay the same rows. The lock of the batch keeps two batches apart for half an hour
at most; it does not keep a batch from a job of the queue, and a batch that outlives its key
deletes the next one's.

`InTurn` says that the runs for one challenge do not overlap, and that no batch takes the lock
while an earlier one goes on. Under it, and `NoLateThrow`, no interleaving of jobs pays a row
twice, and every deletion of the lock is its holder's.
-/

namespace BrandBlitz.Payout

open BrandBlitz.Lib BrandBlitz.Stellar

/-! ### What is asked, and of which interleavings -/

/-- Any number of jobs of either kind, under any configuration. -/
def PayoutProgram (p : BatchService Unit) : Prop :=
  ∃ config job, p = processPayoutJob config job

/-- Does the call store the key? -/
def BatchWorld.stores (w : BatchWorld) (i : Nat) (key : Text) (seconds : Nat) (e : Env) : Bool :=
  ((w.locks key).acquire w.now seconds i).1 && e.dbFault.all fun fault => fault.applied

/-- A job reads a challenge as `ended` only when no other job is inside it, and makes its
further calls for it only while it is inside. It stores a key only when every job that stored
it before has deleted it. -/
def InTurn (i : Nat) (w : BatchWorld) (op : BatchOp) (e : Env) : Prop :=
  match op with
  | .payout id op =>
    (opensPayout op (payoutMachine.exec e op (w.books id)).1 = true → w.inside id = none) ∧
      (op.opensRun = false → w.inside id = some i)
  | .redisSet key seconds => w.stores i key seconds e = true → (w.locks key).running = []
  | _ => True

/-- `NoLateThrow` of the challenge that the call is for. -/
def NoLateThrowOf (w : BatchWorld) (op : BatchOp) (e : Env) : Prop :=
  match op with
  | .payout id op => NoLateThrow (w.books id) op e
  | _ => True

def OneByOne (i : Nat) (w : BatchWorld) (op : BatchOp) (e : Env) : Prop :=
  InTurn i w op e ∧ NoLateThrowOf w op e

/-- What happens besides. A job may be taken to be over with a challenge, also when it has died
or hangs, but not while the challenge is still `ended` and a payment does not show in its row. -/
inductive BatchDrift : BatchWorld → BatchWorld → Prop
  | time {w : BatchWorld} (now : Nat) : w.now ≤ now → BatchDrift w { w with now := now }
  | leaves {w : BatchWorld} (id : Text) :
      ((w.books id).challenge.status = .ended → (w.books id).Recorded) →
      BatchDrift w (w.setInside id none)
  /-- between two runs for a challenge -/
  | changes {w : BatchWorld} (id : Text) (b : World) : w.inside id = none →
      SameBooks (w.books id) b → BatchDrift w (w.setBooks id b)

/-- What holds in every state. -/
structure BatchInv (w : BatchWorld) : Prop where
  once : ∀ id, PaidOnce (w.books id)
  recorded : ∀ id, w.inside id = none →
    (w.books id).challenge.status = .ended → (w.books id).Recorded
  locks : ∀ key, (w.locks key).Sound w.now

/-- What job `i` can count on: nobody else changes the books of a challenge it is inside, and
nobody else gives back the locks it took. -/
structure OthersKeep (i : Nat) (w w' : BatchWorld) : Prop where
  inv : BatchInv w'
  inside : ∀ id, w'.inside id = some i → w.inside id = some i ∧ w'.books id = w.books id
  running : ∀ key, i ∈ (w.locks key).running → i ∈ (w'.locks key).running

section Frame
variable {w : BatchWorld} {i j : Nat} {id : Text} {e : Env}

@[simp] theorem setBooks_self (b : World) : (w.setBooks id b).books id = b := by
  simp [BatchWorld.setBooks]

theorem setBooks_of_ne (b : World) {id' : Text} (h : id' ≠ id) :
    (w.setBooks id b).books id' = w.books id' := by
  simp [BatchWorld.setBooks, Function.update_of_ne h]

theorem setInside_self (job : Option Nat) : (w.setInside id job).inside id = job := by
  simp [BatchWorld.setInside]

theorem setInside_of_ne (job : Option Nat) {id' : Text} (h : id' ≠ id) :
    (w.setInside id job).inside id' = w.inside id' := by
  simp [BatchWorld.setInside, Function.update_of_ne h]

theorem setLock_of_ne (lock : ExpiringLock) {key key' : Text} (h : key' ≠ key) :
    (w.setLock key lock).locks key' = w.locks key' := by
  simp [BatchWorld.setLock, Function.update_of_ne h]

@[simp] theorem setLock_self (lock : ExpiringLock) {key : Text} :
    (w.setLock key lock).locks key = lock := by
  simp [BatchWorld.setLock]

end Frame

def BatchOp.isPayout : BatchOp → Bool
  | .payout .. => true
  | _ => false

/-! ### What the others do -/

section Others
variable {w : BatchWorld} {i j : Nat}

theorem othersKeep_refl (h : BatchInv w) : OthersKeep i w w :=
  ⟨h, fun _ hin => ⟨hin, rfl⟩, fun _ hrun => hrun⟩

theorem OthersKeep.trans {w' w'' : BatchWorld} (h : OthersKeep i w w')
    (h' : OthersKeep i w' w'') : OthersKeep i w w'' where
  inv := h'.inv
  inside id hin := by
    obtain ⟨hin', hbooks'⟩ := h'.inside id hin
    obtain ⟨hin, hbooks⟩ := h.inside id hin'
    exact ⟨hin, hbooks'.trans hbooks⟩
  running key hrun := h'.running key (h.running key hrun)

/-- Storing and deleting, by another job. -/
theorem running_setLock {key : Text} {lock : ExpiringLock}
    (h : i ∈ (w.locks key).running → i ∈ lock.running) (key' : Text)
    (hrun : i ∈ (w.locks key').running) : i ∈ ((w.setLock key lock).locks key').running := by
  by_cases hkey : key' = key
  · subst hkey
    rw [setLock_self]
    exact h hrun
  · rwa [setLock_of_ne lock hkey]

/-- A job inside no challenge of ours leaves the challenges we are inside alone. -/
theorem inside_exec (hij : i ≠ j) {id : Text} {op : Op} {e : Env}
    (hG : OneByOne j w (.payout id op) e) (id' : Text)
    (hin : ((batchMachine j).exec e (.payout id op) w).2.inside id' = some i) :
    w.inside id' = some i ∧
      ((batchMachine j).exec e (.payout id op) w).2.books id' = w.books id' := by
  simp only [batchMachine] at hin ⊢
  by_cases hid : id' = id
  · subst hid
    split at hin
    · rw [setInside_self, Option.some.injEq] at hin
      exact absurd hin.symm hij
    · rename_i hopens
      rw [if_neg hopens]
      refine ⟨hin, ?_⟩
      cases hop : op.opensRun with
      | false =>
          have hours : w.inside id' = some j := hG.1.2 hop
          exact absurd (Option.some.inj (hin.symm.trans hours)) hij
      | true =>
          -- the read that a run starts with
          have hread : op.isRead = true := by
            cases op with
            | getChallengeById => rfl
            | _ => cases hop
          rw [setBooks_self, exec_read hread]
  · split at hin <;> split <;>
      simp_all [BatchWorld.setInside, BatchWorld.setBooks]

/-- The calls that are not for a challenge leave the challenges alone. -/
theorem exec_aside {op : BatchOp} {e : Env} (h : op.isPayout = false) :
    ((batchMachine i).exec e op w).2.books = w.books ∧
      ((batchMachine i).exec e op w).2.inside = w.inside := by
  cases op with
  | payout id op => cases h
  | redisSet key seconds =>
      simp only [batchMachine]
      cases e.dbFault with
      | none => exact ⟨rfl, rfl⟩
      | some fault =>
          dsimp only
          split <;> exact ⟨rfl, rfl⟩
  | redisDel key =>
      simp only [batchMachine]
      cases e.dbFault <;> exact ⟨rfl, rfl⟩
  | getEndedBatchedChallenges =>
      simp only [batchMachine]
      cases e.dbFault <;> exact ⟨rfl, rfl⟩

theorem othersKeep_exec (hij : i ≠ j) {op : BatchOp} {e : Env} (hG : OneByOne j w op e)
    (hinv : BatchInv ((batchMachine j).exec e op w).2) :
    OthersKeep i w ((batchMachine j).exec e op w).2 := by
  refine ⟨hinv, ?_, ?_⟩
  · intro id hin
    cases hop : op.isPayout with
    | true =>
        cases op with
        | payout id' op => exact inside_exec hij hG id hin
        | _ => cases hop
    | false =>
        obtain ⟨hbooks, hinside⟩ := exec_aside (i := j) (w := w) (e := e) hop
        rw [hinside] at hin
        exact ⟨hin, by rw [hbooks]⟩
  · intro key hrun
    cases op with
    | payout id op =>
        simp only [batchMachine]
        split <;> exact hrun
    | redisSet key' seconds =>
        simp only [batchMachine]
        cases e.dbFault with
        | none => exact running_setLock ExpiringLock.mem_running_acquire key hrun
        | some fault =>
            dsimp only
            split
            · exact running_setLock (fun h => ExpiringLock.mem_running_forget
                (ExpiringLock.mem_running_acquire h) hij) key hrun
            · exact hrun
    | redisDel key' =>
        simp only [batchMachine]
        cases e.dbFault with
        | none => exact running_setLock (ExpiringLock.mem_running_release · hij) key hrun
        | some fault =>
            refine running_setLock (fun h => ?_) key hrun
            split
            · exact ExpiringLock.mem_running_release h hij
            · exact ExpiringLock.mem_running_forget h hij
    | getEndedBatchedChallenges =>
        simp only [batchMachine]
        cases e.dbFault <;> exact hrun

/-- What happens besides keeps the invariant, and disturbs nobody. -/
theorem othersKeep_drift {w' : BatchWorld} (hw : BatchInv w) (h : BatchDrift w w') :
    OthersKeep i w w' := by
  cases h with
  | time now hle =>
      exact ⟨⟨hw.once, hw.recorded, fun key => (hw.locks key).later hle⟩,
        fun _ hin => ⟨hin, rfl⟩, fun _ hrun => hrun⟩
  | leaves id hrecorded =>
      refine ⟨⟨hw.once, fun id' hin hended => ?_, hw.locks⟩, fun id' hin => ?_,
        fun _ hrun => hrun⟩
      · by_cases hid : id' = id
        · subst hid
          exact hrecorded hended
        · rw [setInside_of_ne none hid] at hin
          exact hw.recorded id' hin hended
      · by_cases hid : id' = id
        · subst hid
          rw [setInside_self] at hin
          cases hin
        · rw [setInside_of_ne none hid] at hin
          exact ⟨hin, rfl⟩
  | changes id b hnobody hsame =>
      have hrested : Rested b := hsame.rested ⟨hw.once id, hw.recorded id hnobody⟩
      refine ⟨⟨fun id' => ?_, fun id' hin hended => ?_, hw.locks⟩, fun id' hin => ?_,
        fun _ hrun => hrun⟩
      · by_cases hid : id' = id
        · subst hid
          rw [setBooks_self]
          exact hrested.1
        · rw [setBooks_of_ne b hid]
          exact hw.once id'
      · by_cases hid : id' = id
        · subst hid
          rw [setBooks_self] at hended ⊢
          exact hrested.2 hended
        · rw [setBooks_of_ne b hid] at hended ⊢
          exact hw.recorded id' hin hended
      · have hid : id' ≠ id := fun hid => by
          rw [hid] at hin
          exact absurd (hnobody.symm.trans hin) (by simp)
        exact ⟨hin, setBooks_of_ne b hid⟩

end Others

/-! ### One run of `processPayout` among the others -/

/-- The job has yet to give back these locks. -/
def Holds (i : Nat) (keys : List Text) (w : BatchWorld) : Prop :=
  ∀ key ∈ keys, i ∈ (w.locks key).running

section Run
variable {i : Nat} {keys : List Text} {id : Text} {w : BatchWorld}

theorem Holds.stays {w' : BatchWorld} (h : Holds i keys w) (hw : OthersKeep i w w') :
    Holds i keys w' := fun key hkey => hw.running key (h key hkey)

/-- While a job is inside a challenge: the invariant, but for what the run itself has to show. -/
structure Amid (i : Nat) (keys : List Text) (id : Text) (w : BatchWorld) : Prop where
  once : ∀ id', id' ≠ id → PaidOnce (w.books id')
  recorded : ∀ id', w.inside id' = none →
    (w.books id').challenge.status = .ended → (w.books id').Recorded
  locks : ∀ key, (w.locks key).Sound w.now
  inside : w.inside id ≠ none
  holds : Holds i keys w

theorem Amid.inv (h : Amid i keys id w) (honce : PaidOnce (w.books id)) : BatchInv w where
  once id' := by
    by_cases hid : id' = id
    · rwa [hid]
    · exact h.once id' hid
  recorded := h.recorded
  locks := h.locks

/-- Writing the books of the challenge. -/
theorem amid_setBooks (h : BatchInv w) (hin : w.inside id = some i) (hholds : Holds i keys w)
    (b : World) : Amid i keys id (w.setBooks id b) where
  once id' hid := by
    rw [setBooks_of_ne b hid]
    exact h.once id'
  recorded id' hnobody := by
    have hid : id' ≠ id := fun hid => by
      rw [hid] at hnobody
      exact absurd (hnobody.symm.trans hin) (by simp)
    rw [setBooks_of_ne b hid]
    exact h.recorded id' hnobody
  locks := h.locks
  inside hnobody := absurd (hnobody.symm.trans hin) (by simp)
  holds := hholds

theorem opensPayout_of_later {op : Op} (h : op.opensRun = false)
    (answer : Except Err (payoutSig.Ans op)) : opensPayout op answer = false := by
  cases op with
  | getChallengeById => cases h
  | _ => rfl

/-- **A run that nobody overlaps** is what it is alone. -/
theorem wp_inside {p : Service Unit} {Q : Except Err Unit → World → Prop}
    (hp : p.Emits (fun op : Op => op.opensRun = false) (fun _ _ => True) fun _ => True)
    (hw : Amid i keys id w) (h : p.wp payoutMachine NoLateThrow PaidOnce Q (w.books id)) :
    p.wp (Prog.Machine.comap (challengeHom id) (batchMachine i).among)
      (fun w op => Among (S := batchSig) (OthersKeep i) (OneByOne i) w (.payout id op)) BatchInv
      (fun _ w' => Holds i keys w') w := by
  refine Prog.wp_mono (Prog.wp_view (fun w : BatchWorld => w.books id)
    (fun move : BatchWorld × Env => move.2) ?_ (fun w hF hI => hF.inv hI) hp hw h)
    fun _ _ hend => hend.1.holds
  intro w op move hop hF hmove
  obtain ⟨hothers, hturn, hlate⟩ := hmove
  have hin : move.1.inside id = some i := hturn.2 hop
  have hbooks : move.1.books id = w.books id := (hothers.inside id hin).2
  have hnot : opensPayout op (payoutMachine.exec move.2 op (w.books id)).1 = false :=
    opensPayout_of_later hop _
  simp only [NoLateThrowOf, hbooks] at hlate
  simp only [Prog.Machine.comap, challengeHom, Machine.among, batchMachine, hbooks, hnot,
    Bool.false_eq_true, if_false, setBooks_self, Prog.except_map_self]
  exact ⟨hlate, trivial, trivial, amid_setBooks hothers.inv hin (hF.holds.stays hothers) _⟩

/-- The read that a run starts with. -/
theorem exec_opening (move : BatchWorld × Env) (w : BatchWorld) :
    (Prog.Machine.comap (challengeHom id) (batchMachine i).among).exec move .getChallengeById w =
      ((payoutMachine.exec move.2 .getChallengeById (move.1.books id)).1,
        if opensPayout .getChallengeById
            (payoutMachine.exec move.2 .getChallengeById (move.1.books id)).1 = true
          then move.1.setInside id (some i) else move.1) := by
  have hsame : move.1.setBooks id (move.1.books id) = move.1 := by
    simp [BatchWorld.setBooks]
  have hread : (payoutMachine.exec move.2 .getChallengeById (move.1.books id)).2 =
      move.1.books id := exec_read rfl
  simp only [Prog.Machine.comap, challengeHom, Machine.among, batchMachine, Prog.except_map_self,
    hread, hsame]

/-- Going inside. -/
theorem amid_setInside (h : BatchInv w) (hholds : Holds i keys w) :
    Amid i keys id (w.setInside id (some i)) where
  once id' _ := h.once id'
  recorded id' hnobody := by
    have hid : id' ≠ id := fun hid => by
      rw [hid, setInside_self] at hnobody
      cases hnobody
    rw [setInside_of_ne (some i) hid] at hnobody
    exact h.recorded id' hnobody
  locks := h.locks
  inside := by simp [setInside_self]
  holds := hholds

theorem wp_payoutOf (config : PayoutConfig) (id : Text) (hw : Holds i keys w) :
    (payoutOf config id).wp (batchMachine i).among (Among (OthersKeep i) (OneByOne i)) BatchInv
      (Prog.Ends (fun _ => Holds i keys) fun _ => Holds i keys) w := by
  refine Prog.wp_mono (Q := fun _ => Holds i keys) (Prog.wp_embed ?_) ?_
  · intro move hmove
    obtain ⟨hothers, hturn, hlate⟩ := hmove
    have hinv := hothers.inv
    have hholds := hw.stays hothers
    rw [exec_opening move w]
    cases hanswer : (payoutMachine.exec move.2 .getChallengeById (move.1.books id)).1 with
    | error err => exact ⟨hinv, hholds⟩
    | ok found =>
        cases found with
        | none => exact ⟨hinv, hholds⟩
        | some challenge =>
            by_cases hended : challenge.status = .ended
            · have hopens : opensPayout .getChallengeById (.ok (some challenge)) = true := by
                simp [opensPayout, hended]
              have hnobody : move.1.inside id = none := hturn.1 (hanswer ▸ hopens)
              have hrested : Rested (move.1.books id) :=
                ⟨hinv.once id, hinv.recorded id hnobody⟩
              -- alone, the run would keep the invariant from here on
              have halone := (wp_processPayout_rested config id hrested) move.2 hlate
              have hread : (payoutMachine.exec move.2 .getChallengeById (move.1.books id)).2 =
                  move.1.books id := exec_read rfl
              rw [hanswer, hread] at halone
              rw [if_pos hopens]
              have hamid : Amid i keys id (move.1.setInside id (some i)) :=
                amid_setInside hinv hholds
              refine ⟨hamid.inv (hinv.once id), wp_inside ?_ hamid halone.2⟩
              show Prog.Emits _ _ _ (if challenge.status ≠ .ended then _ else _)
              rw [if_neg (not_not_intro hended)]
              exact emits_opened config id challenge
            · have hcloses : opensPayout .getChallengeById (.ok (some challenge)) = false := by
                simp [opensPayout, hended]
              rw [if_neg (by simp [hcloses])]
              refine ⟨hinv, ?_⟩
              show Prog.wp _ _ _ (if challenge.status ≠ .ended then _ else _) _ _
              rw [if_pos hended]
              exact hholds
  · intro r w' h
    cases r <;> exact h

/-! ### The batch -/

/-- Only a lock is written. -/
theorem BatchInv.setLock (h : BatchInv w) {key : Text} {lock : ExpiringLock}
    (hlock : lock.Sound w.now) : BatchInv (w.setLock key lock) where
  once := h.once
  recorded := h.recorded
  locks key' := by
    by_cases hkey : key' = key
    · subst hkey
      rwa [setLock_self]
    · rw [setLock_of_ne lock hkey]
      exact h.locks key'

theorem wp_redisSet (key : Text) (seconds : Nat) (w : BatchWorld) :
    (redisSet key seconds).wp (batchMachine i).among (Among (OthersKeep i) (OneByOne i)) BatchInv
      (Prog.Ends (fun acquired w' => acquired = true → Holds i [key] w') fun _ _ => True) w := by
  refine Prog.wp_call fun move hmove => ?_
  obtain ⟨hothers, hturn, -⟩ := hmove
  have hinv := hothers.inv
  simp only [Machine.among, batchMachine]
  simp only [InTurn, BatchWorld.stores] at hturn
  cases hfault : move.2.dbFault with
  | none =>
      rw [hfault, Option.all_none, Bool.and_true] at hturn
      refine ⟨hinv.setLock ((hinv.locks key).acquire hturn), fun hacquired key' hkey' => ?_⟩
      rw [List.mem_singleton.mp hkey', setLock_self]
      exact ExpiringLock.mem_running_of_acquire hacquired
  | some fault =>
      refine ⟨?_, trivial⟩
      dsimp only
      cases happlied : fault.applied with
      | false => exact hinv
      | true =>
          rw [hfault, Option.all_some, happlied, Bool.and_true] at hturn
          exact hinv.setLock (((hinv.locks key).acquire hturn).forget i)

/-- Deleting the key, by a job that has it to give back. -/
theorem wp_redisDel {key : Text} (hw : Holds i [key] w) :
    (redisDel key).wp (batchMachine i).among (Among (OthersKeep i) (OneByOne i)) BatchInv
      (Prog.Ends (fun _ => Holds i []) fun _ => Holds i []) w := by
  refine Prog.wp_call_world fun move hmove => ⟨?_, fun _ h => by cases h⟩
  have hothers := hmove.1
  have hinv := hothers.inv
  have hheld : i ∈ (move.1.locks key).running :=
    hw.stays hothers key (List.mem_singleton_self key)
  have hrelease := (hinv.locks key).release hheld
  simp only [Machine.among, batchMachine]
  cases move.2.dbFault with
  | none => exact hinv.setLock hrelease
  | some fault =>
      refine hinv.setLock ?_
      split
      · exact hrelease
      · exact (hinv.locks key).forget i

theorem wp_getEndedBatchedChallenges (hw : Holds i keys w) :
    getEndedBatchedChallenges.wp (batchMachine i).among (Among (OthersKeep i) (OneByOne i))
      BatchInv (Prog.Ends (fun _ => Holds i keys) fun _ => Holds i keys) w := by
  refine Prog.wp_call_world fun move hmove => ?_
  have hstays := hw.stays hmove.1
  simp only [Machine.among, batchMachine]
  cases move.2.dbFault <;> exact ⟨hmove.1.inv, hstays⟩

theorem wp_payAllBatched (config : PayoutConfig) (ids : List Text) :
    ∀ {w : BatchWorld}, Holds i keys w →
      (payAllBatched config ids).wp (batchMachine i).among (Among (OthersKeep i) (OneByOne i))
        BatchInv (Prog.Ends (fun _ => Holds i keys) fun _ => Holds i keys) w := by
  induction ids with
  | nil => intro w hw; exact hw
  | cons id rest ih =>
      intro w hw
      refine Prog.wp_bind (P := fun _ => Holds i keys) (Prog.wp_tryCatch
        (Prog.wp_bind (wp_payoutOf config id hw) fun _ _ h => h) fun _ _ h => h)
        fun processed w' hw' => ?_
      exact Prog.wp_bind (ih hw') fun result w'' hw'' => hw''

theorem wp_processBatchPayout (config : PayoutConfig) (w : BatchWorld) :
    (processBatchPayout config).wp (batchMachine i).among (Among (OthersKeep i) (OneByOne i))
      BatchInv (Prog.Ends (fun _ _ => True) fun _ _ => True) w := by
  refine Prog.wp_bind (wp_redisSet lockKey 1800 w) fun acquired w' hacquired => ?_
  split
  · trivial
  · rename_i htaken
    have hholds : Holds i [lockKey] w' := hacquired (by simpa using htaken)
    exact Prog.wp_weaken (Prog.wp_tryFinally (Prog.wp_bind (wp_getEndedBatchedChallenges hholds)
      fun ids _ hids => wp_payAllBatched config ids hids) fun _ h => wp_redisDel h)
      (fun _ _ _ => trivial) fun _ _ _ => trivial

theorem wp_processPayoutJob (config : PayoutConfig) (job : PayoutJob) (w : BatchWorld) :
    (processPayoutJob config job).wp (batchMachine i).among (Among (OthersKeep i) (OneByOne i))
      BatchInv (Prog.Ends (fun _ _ => True) fun _ _ => True) w := by
  cases job with
  | processBatchPayout =>
      exact Prog.wp_bind (wp_processBatchPayout config w) fun _ _ _ => trivial
  | processPayout challengeId =>
      refine Prog.wp_tryCatch (P := fun _ _ => True) ?_ fun err _ _ => ?_
      · split
        · trivial
        · have hnone : Holds i [] w := fun _ h => by cases h
          exact Prog.wp_weaken (wp_payoutOf config _ hnone) (fun _ _ _ => trivial)
            fun _ _ _ => trivial
      · split <;> trivial

end Run

/-! ### All jobs -/

theorem verified_payoutPrograms : Crew.Verified batchMachine OneByOne PayoutProgram BatchDrift
    BatchInv OthersKeep fun _ _ => True where
  refl _ _ h := othersKeep_refl h
  trans _ _ _ _ h h' := h.trans h'
  stays _ _ _ _ _ := trivial
  spawned i w p hp _ _ := by
    obtain ⟨config, job, rfl⟩ := hp
    exact Prog.wp_mono (wp_processPayoutJob config job w) fun _ _ _ => trivial
  others _ _ _ _ _ hij _ hG hinv := othersKeep_exec hij hG hinv
  drifted _ _ _ hw h := ⟨(othersKeep_drift (i := 0) hw h).inv, othersKeep_drift hw h⟩

/-- No user is paid twice for a challenge, and the key of a lock is deleted by its holder. -/
structure KeptApart (w : BatchWorld) : Prop where
  once : ∀ id u, (paidUsers (w.books id).chain).count u ≤ 1
  deletions : ∀ key, ∀ d ∈ (w.locks key).deletions, d.2 = some d.1

/-- Where histories start: nothing is paid, no lock is to be given back or was. -/
structure BatchStart (w : BatchWorld) : Prop where
  chain : ∀ id, (w.books id).chain = []
  running : ∀ key, (w.locks key).running = []
  deletions : ∀ key, (w.locks key).deletions = []

theorem BatchStart.inv {w : BatchWorld} (h : BatchStart w) : BatchInv w where
  once id := by simp [PaidOnce, paidUsers, h.chain id]
  recorded id _ _ u hu := by simp [paidUsers, h.chain id] at hu
  locks key := ExpiringLock.sound_of_unused (h.running key) (h.deletions key)

/-- **Jobs that take turns are kept apart.** Any number of payout jobs, of the queue, the daily
schedule and the admin's batch run, may be in flight, under any configuration, with any call
failing: if no two runs for a challenge overlap, no batch takes the lock from one that goes on,
and no run's bookkeeping fails while a payment does not show in the books, then nobody is paid
twice for a challenge, and nobody deletes the lock of another. -/
theorem payout_jobs_kept_apart {w₀ w : BatchWorld} {ps : List (BatchService Unit)}
    (hstart : BatchStart w₀)
    (history : Crew batchMachine OneByOne PayoutProgram BatchDrift w₀ w ps) : KeptApart w := by
  have hinv := (verified_payoutPrograms.sound hstart.inv (fun _ => trivial) history).1
  exact ⟨fun id => List.nodup_iff_count_le_one.mp (hinv.once id),
    fun key => (hinv.locks key).deletions⟩

/-! ### Two batches

One player is to be paid, from the hot wallet, and no call fails. -/

def hotWalletConfig : PayoutConfig := ⟨false, fun _ => true⟩

def batchJob : BatchService Unit := processPayoutJob hotWalletConfig .processBatchPayout

def beforeBatch : BatchWorld where
  books _ := World.ended 1000000000 [player 1 300]
  batched := ["c1".toList]
  locks _ := .free
  now := 0
  inside _ := none

/-- The first batch has paid, and has not recorded it yet. -/
def slowBatch : BatchWorld × List (BatchService Unit) :=
  playCrew batchMachine (List.replicate 10 (0, calm)) beforeBatch [batchJob]

/-- Half an hour later a second batch pays, and then the first one goes on to its end. -/
def overlappingBatches : BatchWorld × List (BatchService Unit) :=
  playCrew batchMachine (List.replicate 10 (1, calm) ++ List.replicate 8 (0, calm))
    { slowBatch.1 with now := 1801 } (slowBatch.2 ++ [batchJob])

theorem overlappingBatches_reached : Crew batchMachine (fun _ _ _ e => Calm e) PayoutProgram
    BatchDrift beforeBatch overlappingBatches.1 overlappingBatches.2 := by
  have hcalm : ∀ {n i : Nat}, ∀ move ∈ List.replicate n (i, calm), Calm move.2 := by
    intro n i move hmove
    rw [List.eq_of_mem_replicate hmove]
    exact ⟨rfl, rfl⟩
  have hjob : PayoutProgram batchJob := ⟨hotWalletConfig, .processBatchPayout, rfl⟩
  have hslow : Crew batchMachine (fun _ _ _ e => Calm e) PayoutProgram BatchDrift beforeBatch
      slowBatch.1 slowBatch.2 :=
    Crew.play _ (Crew.spawn .init hjob)
      (playCrewOk_of_forall _ fun move hmove _ _ => hcalm move hmove)
  have hlater : slowBatch.1.now ≤ 1801 := by decide +kernel
  refine Crew.play _ (Crew.spawn (Crew.drift hslow (.time 1801 hlater)) hjob)
    (playCrewOk_of_forall _ fun move hmove _ _ => ?_)
  exact (List.mem_append.mp hmove).elim (hcalm move) (hcalm move)

/-- The player is paid twice, and the first batch deletes the key of the second. -/
theorem slow_batch_overlaps :
    (¬ ∀ (w : BatchWorld) (ps : List (BatchService Unit)),
      Crew batchMachine (fun _ _ _ e => Calm e) PayoutProgram BatchDrift beforeBatch w ps →
        ∀ id u, (paidUsers (w.books id).chain).count u ≤ 1) ∧
    ¬ ∀ (w : BatchWorld) (ps : List (BatchService Unit)),
      Crew batchMachine (fun _ _ _ e => Calm e) PayoutProgram BatchDrift beforeBatch w ps →
        ∀ key, ∀ d ∈ (w.locks key).deletions, d.2 = some d.1 := by
  constructor
  · intro hall
    have hpaid := hall _ _ overlappingBatches_reached "c1".toList 1
    revert hpaid
    decide +kernel
  · intro hall
    have hdeletions := hall _ _ overlappingBatches_reached lockKey
    revert hdeletions
    decide +kernel

instance InTurn.decidable (i : Nat) (w : BatchWorld) :
    ∀ (op : BatchOp) (e : Env), Decidable (InTurn i w op e)
  | .payout _ _, _ => inferInstanceAs (Decidable (_ ∧ _))
  | .redisSet _ _, _ => inferInstanceAs (Decidable (_ → _))
  | .redisDel _, _ | .getEndedBatchedChallenges, _ => .isTrue trivial

theorem noLateThrowOf_calm (w : BatchWorld) (op : BatchOp) : NoLateThrowOf w op calm := by
  cases op with
  | payout id op => exact noLateThrow_calm (w.books id) op
  | _ => trivial

/-- A batch, run to its end. -/
def afterBatch (i : Nat) (w : BatchWorld) : BatchWorld :=
  (batchJob.run (batchMachine i) (fun _ => calm) w).2

theorem batchJob_runOk {i : Nat} {w : BatchWorld}
    (hturn : batchJob.runOk (batchMachine i) (InTurn i) (fun _ => calm) w) :
    batchJob.runOk (batchMachine i) (OneByOne i) (fun _ => calm) w :=
  Prog.runOk_and hturn (Prog.runOk_of_forall fun w op _ => noLateThrowOf_calm w op)

/-- Two batches, one after the other. -/
theorem next_batch_kept_apart :
    (paidUsers ((afterBatch 1 (afterBatch 0 beforeBatch)).books "c1".toList).chain).length = 1 ∧
      ((afterBatch 1 (afterBatch 0 beforeBatch)).locks lockKey).deletions =
        [(0, some 0), (1, some 1)] ∧
      KeptApart (afterBatch 1 (afterBatch 0 beforeBatch)) := by
  refine ⟨by decide +kernel, by decide +kernel, ?_⟩
  have hjob : PayoutProgram batchJob := ⟨hotWalletConfig, .processBatchPayout, rfl⟩
  have hinit : Crew batchMachine OneByOne PayoutProgram BatchDrift beforeBatch beforeBatch [] :=
    .init
  obtain ⟨ps, hfirst, hlength⟩ := Crew.spawnRun hinit hjob (batchJob_runOk (by decide +kernel))
  obtain ⟨ps', hsecond, -⟩ := Crew.spawnRun hfirst hjob
    (s := fun _ => calm) (batchJob_runOk (by rw [hlength]; decide +kernel))
  rw [hlength] at hsecond
  exact payout_jobs_kept_apart ⟨fun _ => rfl, fun _ => rfl, fun _ => rfl⟩ hsecond

end BrandBlitz.Payout

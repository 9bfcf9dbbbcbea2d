import BrandBlitz.Referrals.Runs

/-!
# BrandBlitz.Referrals.PaidOnce

**One bonus per referral.** Any number of calls and runs are in flight at once, any call may
fail with or without its effect, and a run may be taken to be over while it still goes on.

Three things guard the bonus, and each is a separate write. The row is read as pending, then
the transaction is submitted, then the row is marked: a second run that reads in between pays
again. The referral is marked as rewarded, then the job is enqueued: a failure in between
leaves a bonus that no later call will touch. `Orderly` and `World.mayEnd` say that none of
this happens; under them at most one transaction is ever applied, and a row without a job can
always be given one.
-/

namespace BrandBlitz.Referrals

open BrandBlitz.Lib BrandBlitz.Stellar

/-! ### Histories -/

/-- What happens around the two programs: users, sessions and fraud flags change, and a
program is taken to be over. -/
inductive Outside (mayEnd : World → Nat → Prop) : World → World → Prop
  | surroundings {w : World} (users : Id → Option User) (sessions : Id → Id → Option Id)
      (fraudFlags : Id → Bool) : Outside mayEnd w
        { w with users := users, sessions := sessions, fraudFlags := fraudFlags }
  | ends {w : World} {i : Nat} : mayEnd w i → Outside mayEnd w
        { w with ended := i :: w.ended, marking := w.marking.filter (· ≠ i) }

/-- The programs of a referral. -/
def BonusProgram (p : Service Unit) : Prop :=
  (∃ params, p = queueReferralBonusForPayout params) ∨ ∃ id, p = processReferralBonusJob id

/-- Nothing was paid, recorded or queued yet. -/
structure World.Untouched (w : World) : Prop where
  payout : w.payout = none
  jobs : w.jobs = []
  chain : w.chain = []
  readers : w.readers = []
  recorded : w.recorded = []
  unrewarded : ∀ referral, w.referral = some referral → referral.rewarded = false

/-! ### The property -/

/-- A pending row for which no job was enqueued, and no call is about to enqueue one, is
paid by the next call for a win that earns a bonus, and the job which that call enqueues. -/
def World.PayableLater (w : World) : Prop :=
  ∀ (i j : Nat) (params : BonusParams) (referral : Referral) (row : ReferralPayout) (a b : Text)
    (s t : Nat → Env), w.payout = some row → row.status = .pending → w.jobs = [] →
    w.marking = [] → Eligible w params referral a b →
    w.flaggedSession row.referredId row.challengeId = none →
    (∀ n, (s n).fault = none) → (∀ n, (t n).fault = none) →
    ((queueReferralBonusForPayout params).run (bonusMachine i) s w).2.jobs = [row.id] ∧
    ∃ payments, ((processReferralBonusJob row.id).run (bonusMachine j) t
      ((queueReferralBonusForPayout params).run (bonusMachine i) s w).2).2.chain =
        w.chain ++ [⟨j, payments⟩]

/-- At most one bonus transaction, and none forgotten. -/
def World.PaidOnce (w : World) : Prop := w.chain.length ≤ 1 ∧ w.PayableLater

/-! ### The condition -/

/-- Did the run's transaction reach the chain, and not yet the row? -/
def World.unrecorded (w : World) (i : Nat) : Prop :=
  (∃ tx ∈ w.chain, tx.run = i) ∧ i ∉ w.recorded

/-- A program is over only after the status write for its payment took effect, and after
it tried to enqueue the job of the referral it marked. -/
def World.mayEnd (w : World) (i : Nat) : Prop := ¬ w.unrecorded i ∧ i ∉ w.marking

/-- No run reads the row as pending before the earlier ones that did are over; a run that
is over submits nothing, and no answer about an applied transaction is lost; the two last
writes of a call take effect both or not at all. -/
def Orderly (i : Nat) (w : World) (op : Op) (e : Env) : Prop :=
  match op with
  | .findReferralPayoutById id => w.pendingById id = true → ∀ r ∈ w.readers, r ∈ w.ended
  | .stellar (.submitTransaction _) =>
      i ∉ w.ended ∧ ∀ fault, e.fault = some fault → fault.applied = false
  | .markReferralRewarded _ => ∀ fault, e.fault = some fault → fault.applied = false
  | .enqueueReferralBonus _ => ∀ fault, e.fault = some fault → fault.applied = true
  | _ => True

/-! ### The invariant -/

/-- What holds in every state of an orderly history. -/
structure Inv (w : World) : Prop where
  once : w.chain.length ≤ 1
  /-- only a run that read the row as pending pays -/
  paidByReader : ∀ tx ∈ w.chain, tx.run ∈ w.readers
  rowRead : w.readers ≠ [] → w.payout ≠ none
  /-- a paid row is pending only until its run has written the status -/
  recording : w.isPending = true → w.chain ≠ [] →
    ∃ r ∈ w.readers, w.unrecorded r ∧ r ∉ w.ended
  owes : ∀ row, w.payout = some row → ∃ a b m n, row.Owes a b m n
  /-- a rewarded referral has a job, or is about to -/
  rewarded : ∀ referral, w.referral = some referral → referral.rewarded = true →
    w.jobs ≠ [] ∨ w.marking ≠ []

/-- Run `i` has not read the row. -/
def Fresh (i : Nat) (w : World) : Prop := i ∉ w.readers ∧ i ∉ w.recorded

/-- Run `i` read the row as pending; unless it is over, nobody has paid, and nobody else
will. -/
structure Reading (i : Nat) (w : World) : Prop where
  reader : i ∈ w.readers
  unwritten : i ∉ w.recorded
  alone : i ∉ w.ended → w.chain = [] ∧ ∀ r ∈ w.readers, r = i ∨ r ∈ w.ended

/-- The referral's row has this id. -/
def HasRow (id : Id) (w : World) : Prop := ∃ row, w.payout = some row ∧ row.id = id

/-- What program `i` counts on, whatever the others do. -/
structure Rely (i : Nat) (w w' : World) : Prop where
  inv : Inv w'
  fresh : Fresh i w → Fresh i w'
  reading : Reading i w → Reading i w'
  row : ∀ id, HasRow id w → HasRow id w'

/-! ### What one step can do -/

section Steps

variable {i : Nat} {op : Op} {e : Env} {w : World}

/-- Everything an operation can do to the world. -/
theorem perform_cases (i : Nat) (e : Env) (op : Op) (w : World) :
    (perform i e op w).2 = w ∨
    (∃ entry, (perform i e op w).2 = { w with auditLog := w.auditLog ++ [entry] }) ∨
    (∃ data, op = .createReferralPayout data ∧ w.payout = none ∧
      (perform i e op w).2 = { w with payout := some (data.row e.number) }) ∨
    (∃ id, op = .markReferralRewarded id ∧ (perform i e op w).2 = w.markRewarded id) ∨
    (∃ id, op = .enqueueReferralBonus id ∧
      (perform i e op w).2 = { w with jobs := w.jobs ++ [id] }) ∨
    (∃ id status txHash errorMessage,
      op = .updateReferralPayoutStatus id status txHash errorMessage ∧
      (perform i e op w).2 =
        { w.updatePayout id status txHash errorMessage with recorded := i :: w.recorded }) ∨
    (∃ tx, op = .stellar (.submitTransaction tx) ∧
      (perform i e op w).2 =
        { w with chain := w.chain ++ [⟨i, ledgerPayments tx.payments⟩] }) := by
  cases op with
  | auditReferralBonusSkipped entry => exact .inr (.inl ⟨entry, rfl⟩)
  | createReferralPayout data =>
      simp only [perform]
      split
      · split
        · exact .inl rfl
        · rename_i hnone
          exact .inr (.inr (.inl ⟨data, rfl, hnone, rfl⟩))
      · exact .inl rfl
  | markReferralRewarded id => exact .inr (.inr (.inr (.inl ⟨id, rfl, rfl⟩)))
  | enqueueReferralBonus id => exact .inr (.inr (.inr (.inr (.inl ⟨id, rfl, rfl⟩))))
  | updateReferralPayoutStatus id status txHash errorMessage =>
      simp only [perform]
      split
      · exact .inr (.inr (.inr (.inr (.inr (.inl ⟨id, status, txHash, errorMessage, rfl, rfl⟩)))))
      · exact .inl rfl
  | stellar op =>
      cases op with
      | submitTransaction tx => exact .inr (.inr (.inr (.inr (.inr (.inr ⟨tx, rfl, rfl⟩)))))
      | reserveSequence | loadAccount | buildTransaction _ _ _ | resetSequence => exact .inl rfl
  | findReferralByReferredId _ | getSession _ _ | isFraudSession _ | findUserById _
  | findReferralPayoutById _ => exact .inl rfl

/-- The books are kept outside of the operations, but for the status writes. -/
theorem perform_books : (perform i e op w).2.readers = w.readers ∧
    (perform i e op w).2.ended = w.ended ∧ (perform i e op w).2.marking = w.marking := by
  obtain h | ⟨_, h⟩ | ⟨_, -, -, h⟩ | ⟨_, -, h⟩ | ⟨_, -, h⟩ | ⟨_, _, _, _, -, h⟩ | ⟨_, -, h⟩ :=
    perform_cases i e op w
  all_goals rw [h]; exact ⟨rfl, rfl, rfl⟩

@[simp] theorem note_ended {answered : Bool} : (w.note i op answered).ended = w.ended := by
  obtain ⟨_, _, h⟩ := note_books w i op answered
  rw [h]

@[simp] theorem note_recorded {answered : Bool} :
    (w.note i op answered).recorded = w.recorded := by
  obtain ⟨_, _, h⟩ := note_books w i op answered
  rw [h]

theorem exec_ended : ((bonusMachine i).exec e op w).2.ended = w.ended := by
  refine exec_world (P := fun w' => w'.ended = w.ended) note_ended fun answered => ?_
  rw [note_ended, perform_books.2.1]

/-- Only a read of a pending row adds to the readers. -/
theorem exec_readers (i : Nat) (e : Env) (op : Op) (w : World) :
    ((bonusMachine i).exec e op w).2.readers = w.readers ∨
    ∃ id, op = .findReferralPayoutById id ∧ w.pendingById id = true ∧
      ((bonusMachine i).exec e op w).2.readers = i :: w.readers := by
  by_cases hop : ∃ id, op = .findReferralPayoutById id
  · obtain ⟨id, rfl⟩ := hop
    simp only [bonusMachine]
    split
    · exact .inl (by split <;> rfl)
    · simp only [perform, World.note, Bool.true_and]
      split
      · rename_i hpending
        exact .inr ⟨id, rfl, hpending, rfl⟩
      · exact .inl rfl
  · left
    have hnote : ∀ (w : World) answered, (w.note i op answered).readers = w.readers := by
      intro w answered
      cases op with
      | findReferralPayoutById id => exact absurd ⟨id, rfl⟩ hop
      | markReferralRewarded _ => simp only [World.note]; split <;> rfl
      | _ => rfl
    refine exec_world (P := fun w' => w'.readers = w.readers) (hnote _ _) fun answered => ?_
    rw [hnote, perform_books.1]

/-- A step adds at most its own run to the recorded ones. -/
theorem exec_recorded {r : Nat} (hr : r ∈ ((bonusMachine i).exec e op w).2.recorded) :
    r = i ∨ r ∈ w.recorded := by
  revert hr
  refine exec_world (P := fun w' => r ∈ w'.recorded → r = i ∨ r ∈ w.recorded) ?_
    fun answered => ?_
  · rw [note_recorded]
    exact Or.inr
  rw [note_recorded]
  obtain h | ⟨_, h⟩ | ⟨_, -, -, h⟩ | ⟨_, -, h⟩ | ⟨_, -, h⟩ | ⟨_, _, _, _, -, h⟩ | ⟨_, -, h⟩ :=
    perform_cases i e op w
  all_goals rw [h]
  case inr.inr.inr.inr.inr.inl => exact List.mem_cons.mp
  all_goals exact Or.inr

/-- Only a submission adds to the chain, and it adds a transaction of its own run. -/
theorem exec_chain (i : Nat) (e : Env) (op : Op) (w : World) :
    ((bonusMachine i).exec e op w).2.chain = w.chain ∨
    ∃ tx, op = .stellar (.submitTransaction tx) ∧
      ((bonusMachine i).exec e op w).2.chain =
        w.chain ++ [⟨i, ledgerPayments tx.payments⟩] := by
  refine exec_world (P := fun w' => w'.chain = w.chain ∨ ∃ tx,
    op = .stellar (.submitTransaction tx) ∧ w'.chain = w.chain ++ [⟨i, ledgerPayments tx.payments⟩])
    (.inl note_chain) fun answered => ?_
  rw [note_chain]
  obtain h | ⟨_, h⟩ | ⟨_, -, -, h⟩ | ⟨_, -, h⟩ | ⟨_, -, h⟩ | ⟨_, _, _, _, -, h⟩ | ⟨tx, hop, h⟩ :=
    perform_cases i e op w
  all_goals rw [h]
  case inr.inr.inr.inr.inr.inr => exact .inr ⟨tx, hop, rfl⟩
  all_goals exact .inl rfl

/-- The row keeps its id. -/
theorem exec_hasRow {id : Id} (hrow : HasRow id w) :
    HasRow id ((bonusMachine i).exec e op w).2 := by
  refine exec_world (P := HasRow id) (by simpa only [HasRow, note_payout] using hrow)
    fun answered => ?_
  simp only [HasRow, note_payout]
  obtain h | ⟨_, h⟩ | ⟨_, -, hnone, h⟩ | ⟨_, -, h⟩ | ⟨_, -, h⟩ | ⟨_, _, _, _, -, h⟩ | ⟨_, -, h⟩ :=
    perform_cases i e op w
  all_goals rw [h]
  case inr.inr.inl =>
    obtain ⟨row, hpayout, -⟩ := hrow
    rw [hnone] at hpayout
    cases hpayout
  case inr.inr.inr.inr.inr.inl =>
    obtain ⟨row, hpayout, hid⟩ := hrow
    simp only [World.updatePayout, hpayout, Option.map_some]
    split <;> exact ⟨_, rfl, hid⟩
  all_goals exact hrow

/-! ### The steps of the others -/

/-- An orderly step of another program is one that program `i` can count on. -/
theorem rely_of_exec {j : Nat} (hij : i ≠ j) (hG : Orderly j w op e)
    (hinv : Inv ((bonusMachine j).exec e op w).2) :
    Rely i w ((bonusMachine j).exec e op w).2 := by
  have hunwritten : i ∉ w.recorded → i ∉ ((bonusMachine j).exec e op w).2.recorded := by
    intro hi hmem
    rcases exec_recorded hmem with rfl | hmem
    · exact hij rfl
    · exact hi hmem
  refine ⟨hinv, fun hfresh => ⟨?_, hunwritten hfresh.2⟩, fun hreading => ?_,
    fun id => exec_hasRow⟩
  · obtain hreaders | ⟨_, -, -, hreaders⟩ := exec_readers j e op w
    · rw [hreaders]
      exact hfresh.1
    · rw [hreaders]
      exact List.not_mem_cons_of_ne_of_not_mem hij hfresh.1
  · obtain ⟨hreader, hrecorded, halone⟩ := hreading
    refine ⟨?_, hunwritten hrecorded, fun hended => ?_⟩
    · obtain hreaders | ⟨_, -, -, hreaders⟩ := exec_readers j e op w
      · rwa [hreaders]
      · rw [hreaders]
        exact List.mem_cons_of_mem _ hreader
    rw [exec_ended] at hended ⊢
    obtain ⟨hchain, hothers⟩ := halone hended
    -- run `i` goes on, so nobody reads the row as pending now
    have hreaders : ((bonusMachine j).exec e op w).2.readers = w.readers := by
      obtain hreaders | ⟨id, rfl, hpending, -⟩ := exec_readers j e op w
      · exact hreaders
      · exact absurd (hG hpending i hreader) hended
    refine ⟨?_, by rwa [hreaders]⟩
    obtain hsame | ⟨tx, rfl, hgrown⟩ := exec_chain j e op w
    · rw [hsame, hchain]
    · -- and a run that submits has read it
      have hj : j ∈ w.readers := by
        rw [← hreaders]
        refine hinv.paidByReader ⟨j, ledgerPayments tx.payments⟩ ?_
        rw [hgrown]
        exact List.mem_append_right _ List.mem_cons_self
      rcases hothers j hj with rfl | hjended
      · exact absurd rfl hij
      · exact absurd hjended hG.1

end Steps

/-- What the surroundings do is something program `i` can count on. -/
theorem rely_of_outside {w w' : World} (i : Nat) (hinv : Inv w)
    (h : Outside World.mayEnd w w') : Inv w' ∧ Rely i w w' := by
  cases h with
  | surroundings users sessions fraudFlags =>
      have hinv' : Inv { w with users := users, sessions := sessions, fraudFlags := fraudFlags } :=
        ⟨hinv.once, hinv.paidByReader, hinv.rowRead, hinv.recording, hinv.owes, hinv.rewarded⟩
      exact ⟨hinv', hinv', id, fun h => ⟨h.reader, h.unwritten, h.alone⟩, fun _ h => h⟩
  | @ends j hend =>
      have hmarking : w.marking.filter (· ≠ j) = w.marking := by
        rw [List.filter_eq_self]
        intro r hr
        simp only [decide_eq_true_eq]
        rintro rfl
        exact hend.2 hr
      have hinv' : Inv { w with ended := j :: w.ended, marking := w.marking.filter (· ≠ j) } := by
        refine ⟨hinv.once, hinv.paidByReader, hinv.rowRead, fun hpending hchain => ?_,
          hinv.owes, ?_⟩
        · obtain ⟨r, hr, hunrecorded, hended⟩ := hinv.recording hpending hchain
          refine ⟨r, hr, hunrecorded, List.not_mem_cons_of_ne_of_not_mem ?_ hended⟩
          rintro rfl
          exact hend.1 hunrecorded
        · rw [hmarking]
          exact hinv.rewarded
      refine ⟨hinv', hinv', id, fun h => ⟨h.reader, h.unwritten, fun hended => ?_⟩, fun _ h => h⟩
      obtain ⟨hchain, hothers⟩ := h.alone fun hi => hended (List.mem_cons_of_mem _ hi)
      refine ⟨hchain, fun r hr => ?_⟩
      rcases hothers r hr with rfl | hr
      · exact .inl rfl
      · exact .inr (List.mem_cons_of_mem _ hr)

/-! ### The steps of one program -/

section Own

variable {i : Nat} {op : Op} {e : Env} {w : World}

/-- A quiet operation changes nothing but the audit log. -/
theorem exec_quiet (hop : op.isQuiet = true) :
    ∃ auditLog, ((bonusMachine i).exec e op w).2 = { w with auditLog := auditLog } := by
  have hnote : ∀ (w : World) answered, w.note i op answered = w := by
    intro w answered
    cases op with
    | findReferralPayoutById _ | markReferralRewarded _ | enqueueReferralBonus _ => cases hop
    | _ => rfl
  refine exec_world (P := fun w' => ∃ auditLog, w' = { w with auditLog := auditLog })
    ⟨w.auditLog, hnote _ _⟩ fun answered => ?_
  rw [hnote]
  cases op with
  | auditReferralBonusSkipped entry => exact ⟨_, rfl⟩
  | findReferralByReferredId _ | getSession _ _ | isFraudSession _ | findUserById _ =>
      exact ⟨w.auditLog, rfl⟩
  | _ => cases hop

theorem Inv.exec_quiet (h : Inv w) (hop : op.isQuiet = true) :
    Inv ((bonusMachine i).exec e op w).2 := by
  obtain ⟨auditLog, hexec⟩ := Referrals.exec_quiet (i := i) (e := e) (w := w) hop
  rw [hexec]
  exact ⟨h.once, h.paidByReader, h.rowRead, h.recording, h.owes, h.rewarded⟩

theorem Reading.exec_quiet (h : Reading i w) (hop : op.isQuiet = true) :
    Reading i ((bonusMachine i).exec e op w).2 := by
  obtain ⟨auditLog, hexec⟩ := Referrals.exec_quiet (i := i) (e := e) (w := w) hop
  rw [hexec]
  exact ⟨h.reader, h.unwritten, h.alone⟩

/-- A new row is not paid. -/
theorem Inv.newRow (h : Inv w) (hnone : w.payout = none) {row : ReferralPayout}
    (howes : ∃ a b m n, row.Owes a b m n) : Inv { w with payout := some row } := by
  have hreaders : w.readers = [] := by
    by_contra hreaders
    exact h.rowRead hreaders hnone
  have hchain : w.chain = [] := by
    refine List.eq_nil_iff_forall_not_mem.mpr fun tx htx => ?_
    have hmem := h.paidByReader tx htx
    rw [hreaders] at hmem
    cases hmem
  refine ⟨h.once, h.paidByReader, fun _ => by simp, fun _ hne => absurd hchain hne,
    fun row' hrow' => ?_, h.rewarded⟩
  obtain rfl := Option.some.inj hrow'
  exact howes

/-- After a status write the row is not pending. -/
theorem Inv.updatePayout (h : Inv w) {id : Id} (hrow : HasRow id w)
    {status : ReferralPayoutStatus} (hstatus : status ≠ .pending) (txHash : Option Hash)
    (errorMessage : Text) (recorded : List Nat) :
    Inv { w.updatePayout id status txHash errorMessage with recorded := recorded } := by
  obtain ⟨row, hpayout, rfl⟩ := hrow
  have hupdated : (w.updatePayout row.id status txHash errorMessage).payout =
      some { row with status := status, txHash := txHash, errorMessage := errorMessage } := by
    simp [World.updatePayout, hpayout]
  refine ⟨h.once, h.paidByReader, fun _ => ?_, fun hpending => ?_, fun row' hrow' => ?_,
    h.rewarded⟩
  · simp [hupdated]
  · simp [World.isPending, hupdated, hstatus] at hpending
  · obtain ⟨a, b, m, n, howes⟩ := h.owes row hpayout
    rw [hupdated] at hrow'
    obtain rfl := Option.some.inj hrow'
    exact ⟨a, b, m, n, howes.referrerAddress, howes.referredAddress, howes.referrerAmount,
      howes.referredAmount, howes.referrerAddress_ne, howes.referredAddress_ne,
      howes.referrerAmount_pos, howes.referredAmount_pos⟩

theorem Inv.exec_update (h : Inv w) {id : Id} (hrow : HasRow id w)
    {status : ReferralPayoutStatus} (hstatus : status ≠ .pending) {txHash : Option Hash}
    {errorMessage : Text} :
    Inv ((bonusMachine i).exec e (.updateReferralPayoutStatus id status txHash errorMessage)
      w).2 := by
  refine exec_world (P := Inv) h fun answered => ?_
  show Inv (perform i e (.updateReferralPayoutStatus id status txHash errorMessage) w).2
  simp only [perform]
  split
  · exact h.updatePayout hrow hstatus txHash errorMessage _
  · exact h

/-- The operations of a call. -/
def CallOp : Op → Prop
  | .createReferralPayout data => ∀ id, ∃ a b m n, (data.row id).Owes a b m n
  | .findReferralPayoutById _ | .updateReferralPayoutStatus .. | .stellar _ => False
  | _ => True

/-- An orderly step of a call keeps the invariant. -/
theorem Inv.exec_call (h : Inv w) (hop : CallOp op) (hG : Orderly i w op e) :
    Inv ((bonusMachine i).exec e op w).2 := by
  cases op with
  | findReferralByReferredId _ | getSession _ _ | isFraudSession _ | findUserById _
  | auditReferralBonusSkipped _ => exact h.exec_quiet rfl
  | createReferralPayout data =>
      refine exec_world (P := Inv) h fun answered => ?_
      show Inv (perform i e (.createReferralPayout data) w).2
      simp only [perform]
      split
      · split
        · exact h
        · rename_i hnone
          exact h.newRow hnone (hop _)
      · exact h
  | markReferralRewarded id =>
      simp only [bonusMachine]
      split
      · rename_i fault hfault
        rw [hG fault hfault]
        exact h
      · exact ⟨h.once, h.paidByReader, h.rowRead, h.recording, h.owes,
          fun _ _ _ => .inr (by simp [World.note])⟩
  | enqueueReferralBonus id =>
      have hjobs : Inv { w with
          jobs := w.jobs ++ [id], marking := w.marking.filter (· ≠ i) } :=
        ⟨h.once, h.paidByReader, h.rowRead, h.recording, h.owes, fun _ _ _ => .inl (by simp)⟩
      simp only [bonusMachine]
      split
      · rename_i fault hfault
        rw [hG fault hfault]
        exact hjobs
      · exact hjobs
  | findReferralPayoutById _ | updateReferralPayoutStatus _ _ _ _ | stellar _ => exact hop.elim

theorem pendingById_iff {id : Id} : w.pendingById id = true ↔
    ∃ row, w.payout = some row ∧ row.id = id ∧ row.status = .pending := by
  simp only [World.pendingById, World.payoutById, Option.any_eq_true, Option.filter_eq_some_iff,
    decide_eq_true_eq]
  constructor
  · rintro ⟨row, ⟨hrow, hid⟩, hpending⟩
    exact ⟨row, hrow, hid, hpending⟩
  · rintro ⟨row, hrow, hid, hpending⟩
    exact ⟨row, ⟨hrow, hid⟩, hpending⟩

/-- A run that reads the row as pending is the only one at work. -/
theorem Inv.startReading (h : Inv w) (hfresh : Fresh i w) {row : ReferralPayout}
    (hrow : w.payout = some row) (hpending : row.status = .pending)
    (hended : ∀ r ∈ w.readers, r ∈ w.ended) :
    Inv { w with readers := i :: w.readers } ∧
      Reading i { w with readers := i :: w.readers } := by
  have hchain : w.chain = [] := by
    by_contra hchain
    obtain ⟨r, hr, -, hgoesOn⟩ := h.recording (by simp [World.isPending, hrow, hpending]) hchain
    exact hgoesOn (hended r hr)
  refine ⟨⟨h.once, fun tx htx => List.mem_cons_of_mem _ (h.paidByReader tx htx),
    fun _ => by simp [hrow], fun _ hne => absurd hchain hne, h.owes, h.rewarded⟩,
    List.mem_cons_self, hfresh.2, fun _ => ⟨hchain, fun r hr => ?_⟩⟩
  rcases List.mem_cons.mp hr with rfl | hr
  · exact .inl rfl
  · exact .inr (hended r hr)

/-- What a run knows after it read the row. -/
def AfterRead (i : Nat) (found : Option ReferralPayout) (w : World) : Prop :=
  ∀ row, found = some row → row.status = .pending →
    Reading i w ∧ HasRow row.id w ∧ ∃ a b m n, row.Owes a b m n

theorem Inv.exec_find (h : Inv w) (hfresh : Fresh i w) {id : Id}
    (hG : Orderly i w (.findReferralPayoutById id) e) :
    Inv ((bonusMachine i).exec e (.findReferralPayoutById id) w).2 ∧
      Prog.Ends (AfterRead i) (fun _ _ => True)
        ((bonusMachine i).exec e (.findReferralPayoutById id) w).1
        ((bonusMachine i).exec e (.findReferralPayoutById id) w).2 := by
  simp only [bonusMachine]
  split
  · refine ⟨?_, trivial⟩
    split <;> exact h
  simp only [perform, World.note, Bool.true_and]
  split
  · rename_i hpending
    obtain ⟨row, hrow, hid, hstatus⟩ := pendingById_iff.mp hpending
    obtain ⟨hinv, hreading⟩ := h.startReading hfresh hrow hstatus (hG hpending)
    refine ⟨hinv, fun row' hrow' _ => ⟨hreading, ?_⟩⟩
    obtain rfl : row = row' := by
      have hfound := (Option.filter_eq_some_iff.mp hrow').1
      rw [hrow] at hfound
      exact Option.some.inj hfound
    exact ⟨⟨row, hrow, rfl⟩, h.owes row hrow⟩
  · rename_i hpending
    refine ⟨h, fun row hrow hstatus => ?_⟩
    obtain ⟨hrow, hid⟩ := Option.filter_eq_some_iff.mp hrow
    exact absurd (pendingById_iff.mpr ⟨row, hrow, by simpa using hid, hstatus⟩) hpending

/-- The one submission: a run that is not over pays into an empty chain. -/
theorem Inv.exec_submit (h : Inv w) (hreading : Reading i w) {tx : Envelope Unit}
    (hG : Orderly i w (.stellar (.submitTransaction tx)) e) :
    Inv ((bonusMachine i).exec e (.stellar (.submitTransaction tx)) w).2 ∧
      Prog.Ends (fun _ _ => True) (fun _ => Reading i)
        ((bonusMachine i).exec e (.stellar (.submitTransaction tx)) w).1
        ((bonusMachine i).exec e (.stellar (.submitTransaction tx)) w).2 := by
  simp only [bonusMachine]
  split
  · rename_i fault hfault
    rw [hG.2 fault hfault]
    exact ⟨h, hreading⟩
  · refine ⟨?_, trivial⟩
    have hchain := (hreading.alone hG.1).1
    have hmem : ∀ tx' ∈ w.chain ++ [⟨i, ledgerPayments tx.payments⟩], tx'.run = i := by
      rw [hchain]
      intro tx' htx'
      rw [List.mem_singleton.mp htx']
    refine ⟨?_, fun tx' htx' => ?_, h.rowRead, fun _ _ => ?_, h.owes, h.rewarded⟩
    · simp [World.note, perform, hchain]
    · rw [hmem tx' htx']
      exact hreading.reader
    · exact ⟨i, hreading.reader, ⟨⟨_, List.mem_append_right _ List.mem_cons_self, rfl⟩,
        hreading.unwritten⟩, hG.1⟩

/-- Preparing a transaction changes nothing. -/
theorem exec_prepare {op : StellarOp Unit} (hop : ∀ tx, op ≠ .submitTransaction tx) :
    ((bonusMachine i).exec e (.stellar op) w).2 = w := by
  refine exec_world (P := fun w' => w' = w) rfl fun answered => ?_
  cases op with
  | submitTransaction tx => exact absurd rfl (hop tx)
  | _ => rfl

end Own

/-! ### The programs -/

section Programs

variable {α : Type} {i : Nat} {w : World} {id : Id}

/-- Program `i` keeps the invariant while the others move, and ends in `Q` or throws. -/
abbrev Keeps (i : Nat) (p : Service α) (Q : α → World → Prop) (w : World) : Prop :=
  p.wp (bonusMachine i).among (Among (Rely i) (Orderly i)) Inv
    (Prog.Ends Q fun _ _ => True) w

/-- What run `i` holds on to until it submits. -/
def AtWork (i : Nat) (id : Id) (w : World) : Prop := Reading i w ∧ HasRow id w

theorem AtWork.rely {w' : World} (h : AtWork i id w) (hrely : Rely i w w') : AtWork i id w' :=
  ⟨hrely.reading h.1, hrely.row id h.2⟩

theorem keeps_quiet {op : Op} (hop : op.isQuiet = true) (hw : AtWork i id w) :
    Keeps i (Prog.call (S := referralSig) op) (fun _ => AtWork i id) w := by
  refine Prog.wp_call_among (A := AtWork i id) (fun _ _ => AtWork.rely) hw
    fun w' e hrely hw' _ => ⟨hrely.inv.exec_quiet hop, ?_⟩
  cases ((bonusMachine i).exec e op w').1 with
  | error err => trivial
  | ok a => exact ⟨hw'.1.exec_quiet hop, exec_hasRow hw'.2⟩

theorem keeps_findFlagged {Q : α → World → Prop} {userId : Id} {challengeId : Option Id}
    {f : Option Id → Service α} (hw : AtWork i id w)
    (hf : ∀ flagged w, AtWork i id w → Keeps i (f flagged) Q w) :
    Keeps i ((findReferralSessionId userId challengeId).bind fun sessionId =>
      (findFlagged sessionId).bind f) Q w := by
  have hsession : Keeps i (findReferralSessionId userId challengeId) (fun _ => AtWork i id) w := by
    cases challengeId with
    | none => exact hw
    | some c => exact keeps_quiet rfl hw
  refine Prog.wp_bind hsession fun sessionId w' hw' => ?_
  cases sessionId with
  | none => exact hf none w' hw'
  | some s =>
      refine Prog.wp_bind (P := fun _ => AtWork i id) ?_ hf
      exact Prog.wp_bind (keeps_quiet rfl hw') fun _ _ hw'' => hw''

theorem keeps_update {status : ReferralPayoutStatus} (hstatus : status ≠ .pending)
    {txHash : Option Hash} {errorMessage : Text} (hrow : HasRow id w) :
    Keeps i (updateReferralPayoutStatus id status txHash errorMessage) (fun _ _ => True) w := by
  refine Prog.wp_call_among (A := HasRow id) (fun _ _ h hrely => hrely.row id h) hrow
    fun w' e hrely hrow' _ => ⟨hrely.inv.exec_update hrow' hstatus, ?_⟩
  cases ((bonusMachine i).exec e (.updateReferralPayoutStatus id status txHash errorMessage)
    w').1 <;> trivial

/-- How the attempts at the one batch go while the others move. -/
theorem batchStep (i : Nat) (id : Id) (batch : List (PayoutRecipient Unit)) :
    BatchStep (Prog.Machine.comap stellarHom (bonusMachine i).among)
      (fun w op move => Among (Rely i) (Orderly i) w (stellarHom.op op) move) Inv batch
      (AtWork i id) (fun _ => HasRow id) fun _ => True where
  prepare op hop w move hw hG := by
    have hsame : ((bonusMachine i).exec move.2 (.stellar op) move.1).2 = move.1 := by
      refine exec_prepare fun tx htx => ?_
      subst htx
      rcases hop with hop | hop | ⟨_, _, hop⟩ <;> cases hop
    show Inv ((bonusMachine i).exec move.2 (.stellar op) move.1).2 ∧
      AtWork i id ((bonusMachine i).exec move.2 (.stellar op) move.1).2
    rw [hsame]
    exact ⟨hG.1.inv, hw.rely hG.1⟩
  submit tx _ w move hw hG := by
    obtain ⟨hreading, hrow⟩ := hw.rely hG.1
    obtain ⟨hinv, hend⟩ := hG.1.inv.exec_submit hreading hG.2
    have hrow' : HasRow id ((bonusMachine i).exec move.2 (.stellar (.submitTransaction tx))
      move.1).2 := exec_hasRow hrow
    refine ⟨hinv, ?_⟩
    simp only [Prog.Machine.comap, stellarHom, Machine.among]
    cases hr : ((bonusMachine i).exec move.2 (.stellar (.submitTransaction tx)) move.1).1 with
    | ok hash => exact hrow'
    | error err =>
        rw [hr] at hend
        exact ⟨hend, hrow'⟩
  reset w move hw hG := by
    have hsame : ((bonusMachine i).exec move.2 (.stellar .resetSequence) move.1).2 = move.1 :=
      exec_prepare fun tx htx => by cases htx
    refine ⟨?_, ?_⟩
    · show Inv ((bonusMachine i).exec move.2 (.stellar .resetSequence) move.1).2
      rw [hsame]
      exact hG.1.inv
    · simp only [Prog.Machine.comap, stellarHom, Machine.among, hsame]
      cases ((bonusMachine i).exec move.2 (.stellar .resetSequence) move.1).1 with
      | ok a => exact hw.rely hG.1
      | error err => trivial

theorem keeps_submitBonus {payout : ReferralPayout} {a b : Text} {m n : Nat}
    (howes : payout.Owes a b m n) (hw : AtWork i payout.id w) :
    Keeps i (submitBonus payout a b) (fun _ _ => True) w := by
  have hbatch : Keeps i ((submitBatchPayout batchOptions
      ("referral-".toList ++ Nat.toDigits 10 payout.id)
      (bonusRecipients payout a b)).embed stellarHom) (fun _ => HasRow payout.id) w := by
    refine Prog.wp_embed ?_
    rw [submitBatchPayout, howes.payoutBatches]
    refine Prog.wp_bind (P := fun _ => HasRow payout.id) ?_ fun result w' hrow => hrow
    refine Prog.wp_weaken (wp_submitBatch (batchStep i payout.id _) _ _ _ hw) ?_
      fun _ _ _ => trivial
    rintro result w' ⟨-, ⟨-, -, -, hrow⟩ | ⟨-, -, hatWork⟩⟩
    · exact hrow
    · exact hatWork.2
  refine Prog.wp_bind hbatch fun results w' hrow => ?_
  split
  · exact keeps_update (by decide) hrow
  · split
    · exact keeps_update (by decide) hrow
    · exact keeps_update (by decide) hrow

/-- A run of the job. -/
theorem keeps_processReferralBonusJob (referralPayoutId : Id) (hfresh : Fresh i w) :
    Keeps i (processReferralBonusJob referralPayoutId) (fun _ _ => True) w := by
  refine Prog.wp_bind (P := AfterRead i) (Prog.wp_call_among (A := Fresh i)
    (fun _ _ h hrely => hrely.fresh h) hfresh fun w' e hrely hfresh' hG =>
      hrely.inv.exec_find hfresh' hG) fun found w' hfound => ?_
  cases found with
  | none => trivial
  | some payout =>
      dsimp only
      split
      · trivial
      rename_i hpending
      obtain ⟨hreading, hrow, a, b, m, n, howes⟩ := hfound payout rfl (not_not.mp hpending)
      refine keeps_findFlagged ⟨hreading, hrow⟩ fun flagged w'' hw'' => ?_
      cases flagged with
      | some sessionId =>
          -- once the status is written, the run only writes the audit log
          refine Prog.wp_bind (keeps_update (by decide) hw''.2) fun _ w _ => ?_
          refine Prog.wp_call_among (A := fun _ => True) (fun _ _ _ _ => trivial) trivial
            fun w' e hrely _ _ => ⟨hrely.inv.exec_quiet rfl, ?_⟩
          cases ((bonusMachine i).exec e _ w').1 <;> trivial
      | none =>
          dsimp only
          rw [howes.payBonus]
          exact keeps_submitBonus howes hw''

/-- A call. -/
theorem keeps_queueReferralBonusForPayout (params : BonusParams) (hinv : Inv w) :
    Keeps i (queueReferralBonusForPayout params) (fun _ _ => True) w := by
  have hemits : (queueReferralBonusForPayout params).Emits CallOp (fun _ _ => True)
      fun _ => True := by
    refine queueReferralBonusForPayout_emits (R := fun _ => True) (U := fun _ _ => True) params ?_
      (fun _ _ _ => trivial) (fun _ _ _ => trivial) ?_ (fun _ => trivial) fun _ => trivial
    · intro op hop
      cases op with
      | createReferralPayout _ | findReferralPayoutById _ | updateReferralPayoutStatus _ _ _ _
      | stellar _ => cases hop
      | _ => trivial
    · intro referral u v a b _ _ _ ha hb hamount rowId
      exact ⟨a, b, _, _, newBonus_owes ha hb hamount rowId⟩
  have hkeeps := hemits.wp (M := (bonusMachine i).among) (G := Among (Rely i) (Orderly i))
    (I := Inv) (K := Inv) (fun _ h => h)
    (fun w op move _ hop hG => ⟨hG.1.inv.exec_call hop hG.2, trivial⟩) hinv
  exact Prog.wp_weaken hkeeps (fun _ _ _ => trivial) fun _ _ _ => trivial

end Programs

/-! ### Histories -/

theorem verified_bonus : Crew.Verified bonusMachine Orderly BonusProgram
    (Outside World.mayEnd) Inv Rely Fresh where
  refl i w h := ⟨h, id, id, fun _ => id⟩
  trans i w w' w'' h h' := ⟨h'.inv, fun hf => h'.fresh (h.fresh hf),
    fun hr => h'.reading (h.reading hr), fun id hrow => h'.row id (h.row id hrow)⟩
  stays i w w' hfresh h := h.fresh hfresh
  spawned i w p hp hinv hfresh := by
    rcases hp with ⟨params, rfl⟩ | ⟨id, rfl⟩
    · exact Prog.wp_mono (keeps_queueReferralBonusForPayout params hinv) fun _ _ _ => trivial
    · exact Prog.wp_mono (keeps_processReferralBonusJob id hfresh) fun _ _ _ => trivial
  others i j w op e hij _ hG hinv := rely_of_exec hij hG hinv
  drifted i w w' hinv h := rely_of_outside i hinv h

theorem World.Untouched.inv {w : World} (h : w.Untouched) : Inv w := by
  refine ⟨by simp [h.chain], fun tx htx => ?_, fun hne => absurd h.readers hne,
    fun _ hne => absurd h.chain hne, fun row hrow => ?_, fun referral hreferral hrewarded => ?_⟩
  · rw [h.chain] at htx
    cases htx
  · rw [h.payout] at hrow
    cases hrow
  · rw [h.unrewarded referral hreferral] at hrewarded
    cases hrewarded

/-- A referral without a job is not marked as rewarded, so the next call queues one. -/
theorem Inv.payableLater {w : World} (h : Inv w) : w.PayableLater := by
  intro i j params referral row a b s t hrow hpending hjobs hmarking heligible hunflagged hs ht
  have hunrewarded : referral.rewarded = false := by
    cases hrewarded : referral.rewarded with
    | false => rfl
    | true =>
        rcases h.rewarded referral heligible.stored hrewarded with hne | hne
        · exact absurd hjobs hne
        · exact absurd hmarking hne
  have hstatus : ∀ row', w.payout = some row' → row'.status = .pending := by
    intro row' hrow'
    rw [hrow] at hrow'
    obtain rfl := Option.some.inj hrow'
    exact hpending
  have hcall : CalmRun i (queueReferralBonusForPayout params) _ w :=
    calmRun_queueReferralBonusForPayout ⟨heligible, hunrewarded⟩ hstatus
  obtain ⟨-, row', horigin, hqueued⟩ := hcall.run hs
  obtain rfl : row = row' := by
    rcases horigin with hthere | ⟨hnone, -⟩
    · rw [hrow] at hthere
      exact Option.some.inj hthere
    · rw [hrow] at hnone
      cases hnone
  refine ⟨by rw [hqueued.jobs, hjobs, List.nil_append], ?_⟩
  obtain ⟨c, d, m, n, howes⟩ := h.owes row hrow
  have hjob : CalmRun j (processReferralBonusJob row.id) _
      ((queueReferralBonusForPayout params).run (bonusMachine i) s w).2 :=
    calmRun_processReferralBonusJob hqueued.payout hpending howes
      (hqueued.flaggedSession.trans hunflagged)
  obtain ⟨-, hpaid⟩ := hjob.run ht
  exact ⟨_, by rw [hpaid, hqueued.chain]⟩

/-- **In an orderly history a referral is paid once.** Any number of calls and runs may be in
flight, in any order, and fail wherever the condition allows it: in every state at most one
bonus transaction was applied, and a pending row without a job can still be paid. -/
theorem bonus_paid_once_of_orderly {w₀ w : World} {ps : List (Service Unit)}
    (h₀ : w₀.Untouched)
    (h : Crew bonusMachine Orderly BonusProgram (Outside World.mayEnd) w₀ w ps) :
    w.PaidOnce := by
  have hinv := (verified_bonus.sound h₀.inv (fun i => ?_) h).1
  · exact ⟨hinv.once, hinv.payableLater⟩
  · simp [Fresh, h₀.readers, h₀.recorded]

/-! ### Three histories -/

theorem untouched_referred : World.referred.Untouched where
  payout := rfl
  jobs := rfl
  chain := rfl
  readers := rfl
  recorded := rfl
  unrewarded referral h := by
    obtain rfl := Option.some.inj h
    rfl

/-- The awaited calls with a number in `lost` do not get through. -/
def losing (lost : List Nat) (n : Nat) : Env := if n ∈ lost then refused else calm

/-- The world after a call for a win of a hundred USDC. -/
def World.called (w : World) (i : Nat) (lost : List Nat) : World :=
  ((queueReferralBonusForPayout (winOf 1000000000)).run (bonusMachine i) (losing lost) w).2

/-- The world after a run of the job for row 7. -/
def World.ran (w : World) (i : Nat) (lost : List Nat) : World :=
  ((processReferralBonusJob 7).run (bonusMachine i) (losing lost) w).2

section Histories

variable {G : Nat → World → Op → Env → Prop} {drift : World → World → Prop} {w₀ w : World}
  {n : Nat}

/-- A state with `n` programs so far. -/
def Reaches (G : Nat → World → Op → Env → Prop) (drift : World → World → Prop) (w₀ w : World)
    (n : Nat) : Prop :=
  ∃ ps, Crew bonusMachine G BonusProgram drift w₀ w ps ∧ ps.length = n

theorem Reaches.called (h : Reaches G drift w₀ w n) {lost : List Nat}
    (hok : (queueReferralBonusForPayout (winOf 1000000000)).runOk (bonusMachine n) (G n)
      (losing lost) w) : Reaches G drift w₀ (w.called n lost) (n + 1) := by
  obtain ⟨ps, hps, rfl⟩ := h
  exact hps.spawnRun (.inl ⟨_, rfl⟩) hok

theorem Reaches.ran (h : Reaches G drift w₀ w n) {lost : List Nat}
    (hok : (processReferralBonusJob 7).runOk (bonusMachine n) (G n) (losing lost) w) :
    Reaches G drift w₀ (w.ran n lost) (n + 1) := by
  obtain ⟨ps, hps, rfl⟩ := h
  exact hps.spawnRun (.inr ⟨_, rfl⟩) hok

end Histories

instance {w : World} {i : Nat} : Decidable (w.unrecorded i) :=
  inferInstanceAs (Decidable ((∃ tx ∈ w.chain, tx.run = i) ∧ i ∉ w.recorded))

instance {fault : Option Fault} {b : Bool} :
    Decidable (∀ f, fault = some f → f.applied = b) :=
  match fault with
  | none => .isTrue fun _ h => by cases h
  | some f => decidable_of_iff (f.applied = b) (by simp)

instance Orderly.decidable : ∀ (i : Nat) (w : World) (op : Op) (e : Env),
    Decidable (Orderly i w op e)
  | _, w, .findReferralPayoutById id, _ =>
      inferInstanceAs (Decidable (w.pendingById id = true → ∀ r ∈ w.readers, r ∈ w.ended))
  | i, w, .stellar (.submitTransaction _), e => inferInstanceAs (Decidable
      (i ∉ w.ended ∧ ∀ fault, e.fault = some fault → fault.applied = false))
  | _, _, .markReferralRewarded _, e => inferInstanceAs (Decidable
      (∀ fault, e.fault = some fault → fault.applied = false))
  | _, _, .enqueueReferralBonus _, e => inferInstanceAs (Decidable
      (∀ fault, e.fault = some fault → fault.applied = true))
  | _, _, .stellar .reserveSequence, _ | _, _, .stellar .loadAccount, _
  | _, _, .stellar (.buildTransaction ..), _ | _, _, .stellar .resetSequence, _
  | _, _, .findReferralByReferredId _, _ | _, _, .getSession .., _ | _, _, .isFraudSession _, _
  | _, _, .auditReferralBonusSkipped _, _ | _, _, .findUserById _, _
  | _, _, .createReferralPayout _, _ | _, _, .updateReferralPayoutStatus .., _ => .isTrue trivial

/-- A job that is delivered again after it was done finds the row sent. -/
theorem redelivered_paid_once :
    (((World.referred.called 0 []).ran 1 []).ran 2 []).chain.length = 1 ∧
      (((World.referred.called 0 []).ran 1 []).ran 2 []).PaidOnce := by
  refine ⟨by decide +kernel, ?_⟩
  have hcalled : Reaches Orderly (Outside World.mayEnd) World.referred
      (World.referred.called 0 []) 1 := Reaches.called ⟨[], .init, rfl⟩ (by decide +kernel)
  have hran : Reaches Orderly (Outside World.mayEnd) World.referred
      ((World.referred.called 0 []).ran 1 []) 2 := hcalled.ran (by decide +kernel)
  have hagain : Reaches Orderly (Outside World.mayEnd) World.referred
      (((World.referred.called 0 []).ran 1 []).ran 2 []) 3 := hran.ran (by decide +kernel)
  obtain ⟨ps, hps, -⟩ := hagain
  exact bonus_paid_once_of_orderly untouched_referred hps

/-- If only the status write fails after the payment, the next delivery pays again; if only
the queue fails after the referral was marked, no later call enqueues the job. -/
theorem bonus_paid_twice_or_never :
    (¬ ∀ (w₀ w : World) (ps : List (Service Unit)), w₀.Untouched →
      Crew bonusMachine (fun _ _ _ _ => True) BonusProgram (Outside fun _ _ => True) w₀ w ps →
        w.chain.length ≤ 1) ∧
    ¬ ∀ (w₀ w : World) (ps : List (Service Unit)), w₀.Untouched →
      Crew bonusMachine (fun _ _ _ _ => True) BonusProgram (Outside fun _ _ => True) w₀ w ps →
        w.PayableLater := by
  have hany : ∀ {p : Service Unit} {i : Nat} {s : Nat → Env} {w : World},
      p.runOk (bonusMachine i) (fun _ _ _ => True) s w :=
    Prog.runOk_of_forall fun _ _ _ => trivial
  constructor
  · intro hall
    have hcalled : Reaches (fun _ _ _ _ => True) (Outside fun _ _ => True) World.referred
        (World.referred.called 0 []) 1 := Reaches.called ⟨[], .init, rfl⟩ hany
    -- the fifth await of the run is the status write
    have hran : Reaches (fun _ _ _ _ => True) (Outside fun _ _ => True) World.referred
        ((World.referred.called 0 []).ran 1 [4]) 2 := hcalled.ran hany
    have hagain : Reaches (fun _ _ _ _ => True) (Outside fun _ _ => True) World.referred
        (((World.referred.called 0 []).ran 1 [4]).ran 2 []) 3 := hran.ran hany
    obtain ⟨ps, hps, -⟩ := hagain
    have honce := hall _ _ ps untouched_referred hps
    revert honce
    decide +kernel
  · intro hall
    -- the sixth await of the call is the queue
    have hcalled : Reaches (fun _ _ _ _ => True) (Outside fun _ _ => True) World.referred
        (World.referred.called 0 [5]) 1 := Reaches.called ⟨[], .init, rfl⟩ hany
    obtain ⟨ps, hps, -⟩ := hcalled
    have heligible : Eligible (World.referred.called 0 [5]) (winOf 1000000000) ⟨1, 10, 20, true⟩
        "GREFERRER".toList "GREFERRED".toList :=
      ⟨by decide +kernel, rfl, by decide +kernel, by decide +kernel, by decide, rfl⟩
    have hpayable := hall _ _ ps untouched_referred hps 1 2 (winOf 1000000000)
      ⟨1, 10, 20, true⟩ ((newBonus (winOf 1000000000) ⟨1, 10, 20, false⟩ "GREFERRER".toList
        "GREFERRED".toList).row 7) _ _ (fun _ => calm) (fun _ => calm) (by decide +kernel) rfl
      (by decide +kernel) (by decide +kernel) heligible (by decide +kernel) (fun _ => rfl)
      fun _ => rfl
    have hjobs := hpayable.1
    revert hjobs
    decide +kernel

end BrandBlitz.Referrals

import BrandBlitz.Payout.Records

/-!
# BrandBlitz.Payout.PaidOnce

**At most one transfer per user, over all runs of `processPayout`.**

The only guard against paying twice is the status of a payout row, and it is written
after the payment. So what counts is whether the books are still behind the chain when
a call throws:

* on the direct path, a throw between the broadcast and the last `updatePayoutStatus`
  leaves the challenge `ended` with rows that do not show the payment, and the next run
  pays them again;
* on the escrow path, any throw after `settle` ends in the catch-all, and the fallback
  pays everybody a second time within the same run.

`NoLateThrow` excludes exactly these throws. Under it every history of runs, with any
other database or network call failing anywhere, pays nobody twice.
-/

namespace BrandBlitz.Payout

open BrandBlitz.Lib BrandBlitz.Stellar

/-! ### What is asked, and of which histories -/

/-- Whom the transactions pay, once per transfer. -/
def paidUsers (chain : List Tx) : List UserId :=
  (chain.flatMap Tx.payments).map (·.entry.user)

/-- Does the user's row say that the payout was made? -/
def World.RowPaid (w : World) (u : UserId) : Prop :=
  ∃ row, w.payouts u = some row ∧ row.isPaid = true

/-- The books show every payment. -/
def World.Recorded (w : World) : Prop := ∀ u ∈ paidUsers w.chain, w.RowPaid u

/-- The calls that come after a payment and whose errors leave `submitBatchPayout` or the
recording loops. -/
def Op.isBookkeeping : Op → Bool
  | .updatePayoutStatus .. | .incrementUserEarnings .. | .queueReferralBonusForPayout ..
  | .updateChallengeStatus .. | .stellar .resetSequence => true
  | _ => false

/-- The books are behind the chain in a way that a later step trusts: the escrow has
settled, or the challenge still counts as unpaid although somebody's payment is not in
the books. -/
def World.Exposed (w : World) : Prop :=
  (∃ tx ∈ w.chain, tx.isSettlement = true) ∨ (w.challenge.status = .ended ∧ ¬ w.Recorded)

/-- No bookkeeping call throws while the books are behind. -/
def NoLateThrow (w : World) (op : Op) (e : Env) : Prop :=
  op.isBookkeeping = true → ∀ err, (payoutMachine.exec e op w).1 = .error err →
    ¬ (payoutMachine.exec e op w).2.Exposed

/-- Between two runs the leaderboard, the flags, the licence and unpaid rows may change
in any way. -/
structure SameBooks (w w' : World) : Prop where
  chain : w'.chain = w.chain
  status : w'.challenge.status = w.challenge.status
  paid : ∀ u, w.RowPaid u → w'.RowPaid u

/-- Each run is one of `processPayout`, under either configuration. -/
def startsPayout (challengeId : Text) (w w' : World) (p : Service Unit) : Prop :=
  SameBooks w w' ∧ ∃ config, p = processPayout config challengeId

/-- The invariant at every await. -/
def PaidOnce (w : World) : Prop := (paidUsers w.chain).Nodup

/-- The invariant between runs. -/
def Rested (w : World) : Prop := PaidOnce w ∧ (w.challenge.status = .ended → w.Recorded)

theorem paidUsers_broadcast (chain : List Tx) (tx : Tx) :
    paidUsers (chain ++ [tx]) = paidUsers chain ++ tx.payments.map (·.entry.user) := by
  simp [paidUsers]

theorem Rested.of_safe {w : World} (honce : PaidOnce w) (hsafe : ¬ w.Exposed) : Rested w :=
  ⟨honce, fun hended => by_contra fun hnot => hsafe (.inr ⟨hended, hnot⟩)⟩

/-! ### Bookkeeping does not pay -/

section Books

variable {α β : Type} {c : List Tx}

/-- The program leaves the chain at `c`, and where it throws the books are not behind. -/
def Books (c : List Tx) (p : Service α) : Prop :=
  ∀ w, w.chain = c → p.wp payoutMachine NoLateThrow PaidOnce
    (Prog.Ends (fun _ w' => w'.chain = c) fun _ w' => w'.chain = c ∧ ¬ w'.Exposed) w

/-- The program leaves the chain at `c`. -/
def Quiet (c : List Tx) (p : Service α) : Prop :=
  ∀ w, w.chain = c → p.wp payoutMachine NoLateThrow PaidOnce
    (Prog.Ends (fun _ w' => w'.chain = c) fun _ w' => w'.chain = c) w

theorem quiet_call (hc : (paidUsers c).Nodup) {op : Op} (hop : op.broadcasts = false) :
    Quiet c (Prog.call (S := payoutSig) op : Service (payoutSig.Ans op)) := by
  intro w hw
  refine Prog.wp_call_world fun e _ => ?_
  have hchain : (payoutMachine.exec e op w).2.chain = c := (exec_chain hop).trans hw
  exact ⟨by rw [PaidOnce, hchain]; exact hc, hchain⟩

theorem books_call (hc : (paidUsers c).Nodup) {op : Op} (hop : op.broadcasts = false)
    (hbook : op.isBookkeeping = true) :
    Books c (Prog.call (S := payoutSig) op : Service (payoutSig.Ans op)) := by
  intro w hw
  refine Prog.wp_call fun e he => ?_
  have hchain : (payoutMachine.exec e op w).2.chain = c := (exec_chain hop).trans hw
  refine ⟨by rw [PaidOnce, hchain]; exact hc, ?_⟩
  cases hans : (payoutMachine.exec e op w).1 with
  | ok a => exact hchain
  | error err => exact ⟨hchain, he hbook err hans⟩

theorem Quiet.bind {p : Service α} {f : α → Service β} (hp : Quiet c p)
    (hf : ∀ a, Quiet c (f a)) : Quiet c (p.bind f) :=
  fun w hw => Prog.wp_bind (hp w hw) fun a w' hw' => hf a w' hw'

theorem Books.bind {p : Service α} {f : α → Service β} (hp : Books c p)
    (hf : ∀ a, Books c (f a)) : Books c (p.bind f) :=
  fun w hw => Prog.wp_bind (hp w hw) fun a w' hw' => hf a w' hw'

theorem books_ret {a : α} : Books c (.ret a : Service α) := fun _ hw => hw

/-- An error that is caught and dropped harms nothing. -/
theorem Quiet.swallow {p : Service Unit} (hp : Quiet c p) :
    Books c (p.tryCatch fun _ => .ret ()) :=
  fun w hw => Prog.wp_tryCatch (hp w hw) fun _ _ hw' => hw'

variable (hc : (paidUsers c).Nodup)

include hc

theorem books_insertPayoutNotification (u : UserId) : Books c (insertPayoutNotification u) := by
  refine Books.bind (quiet_call hc rfl).swallow fun _ => Quiet.swallow ?_
  refine Quiet.bind (quiet_call hc rfl) fun enabled => ?_
  split
  · exact quiet_call hc rfl
  · exact fun _ hw => hw

theorem books_bookkeeping : Bookkeeping fun p : Service Unit => Books c p where
  ret := books_ret
  bind hp hf := hp.bind hf
  earnings _ _ := books_call hc rfl rfl
  bonus _ _ := books_call hc rfl rfl
  notification := books_insertPayoutNotification hc

/-- Closing the challenge: once its status is written, no later run pays. -/
theorem wp_updateChallengeStatus {status : ChallengeStatus} (hne : status ≠ .ended)
    (hashes : Option (List Hash)) {w : World} (hw : w.chain = c) :
    (updateChallengeStatus status hashes).wp payoutMachine NoLateThrow PaidOnce
      (Prog.Ends (fun _ => Rested) fun _ w' => w'.chain = c ∧ ¬ w'.Exposed) w := by
  refine Prog.wp_call fun e he => ?_
  have hchain : (payoutMachine.exec e (.updateChallengeStatus status hashes) w).2.chain = c :=
    (exec_chain rfl).trans hw
  refine ⟨by rw [PaidOnce, hchain]; exact hc, ?_⟩
  cases hans : (payoutMachine.exec e (.updateChallengeStatus status hashes) w).1 with
  | ok a =>
      refine ⟨by rw [PaidOnce, hchain]; exact hc, fun hended => absurd ?_ hne⟩
      rw [exec_ok hans] at hended
      exact hended
  | error err => exact ⟨hchain, he rfl err hans⟩

end Books

/-! ### The two settlement paths -/

/-- The users already paid, followed by those still to be paid, are distinct. -/
def Owed (users : List UserId) (w : World) : Prop := (paidUsers w.chain ++ users).Nodup

theorem Owed.paidOnce {users : List UserId} {w : World} (h : Owed users w) : PaidOnce w :=
  h.sublist (List.sublist_append_left _ _)

theorem Owed.sublist {users users' : List UserId} {w : World} (h : Owed users w)
    (hsub : users'.Sublist users) : Owed users' w :=
  List.Nodup.sublist ((List.Sublist.refl _).append hsub) h

theorem Owed.congr {users : List UserId} {w w' : World} (h : Owed users w)
    (hchain : w'.chain = w.chain) : Owed users w' := by
  rwa [Owed, hchain]

/-- Paying the first of those still to be paid. -/
theorem Owed.pay {users rest : List UserId} {w w' : World} (h : Owed (users ++ rest) w) (tx : Tx)
    (htx : tx.payments.map (·.entry.user) = users) (hchain : w'.chain = w.chain ++ [tx]) :
    Owed rest w' := by
  rwa [Owed, hchain, paidUsers_broadcast, htx, List.append_assoc]

theorem transferPayments_users (recipients : List (PayoutRecipient Entry)) :
    (transferPayments recipients).map (·.entry.user) = recipients.map (·.entry.user) := by
  simp [transferPayments, Function.comp_def]

theorem settlementPayments_users (recipients : List (EscrowRecipient Entry)) :
    (settlementPayments recipients).map (·.entry.user) = recipients.map (·.entry.user) := by
  simp [settlementPayments, Function.comp_def]

/-- One batch: its users are paid by the submission that succeeds. -/
theorem batchStep_owed (batch : List (PayoutRecipient Entry)) (rest : List UserId) :
    BatchStep (Prog.Machine.comap stellarHom payoutMachine)
      (fun w op e => NoLateThrow w (.stellar op) e) PaidOnce batch
      (Owed (batch.map (·.entry.user) ++ rest)) (fun _ => Owed rest)
      (fun w => PaidOnce w ∧ ¬ w.Exposed) where
  prepare op hop w e hw _ := by
    have hchain : ((Prog.Machine.comap stellarHom payoutMachine).exec e op w).2.chain =
        w.chain := by
      rcases hop with rfl | rfl | ⟨seq, memo, rfl⟩ <;> exact exec_chain rfl
    exact ⟨(hw.congr hchain).paidOnce, hw.congr hchain⟩
  submit tx htx w e hw _ := by
    simp only [Prog.Machine.comap, stellarHom]
    rcases exec_submitTransaction e tx w with ⟨err, hexec⟩ | hexec
    · rw [hexec]
      exact ⟨(hw.congr record_chain).paidOnce, hw.congr record_chain⟩
    · rw [hexec]
      have hpaid : Owed rest ((w.record (.stellar (.submitTransaction tx))).broadcast
          (.transfer (transferPayments tx.payments))) :=
        hw.pay (.transfer (transferPayments tx.payments))
          (by rw [← htx]; exact transferPayments_users _) (by simp [World.broadcast])
      exact ⟨hpaid.paidOnce, hpaid⟩
  reset w e hw hG := by
    have hchain : (payoutMachine.exec e (.stellar .resetSequence) w).2.chain = w.chain :=
      exec_chain rfl
    simp only [Prog.Machine.comap, stellarHom]
    refine ⟨(hw.congr hchain).paidOnce, ?_⟩
    cases hans : (payoutMachine.exec e (.stellar .resetSequence) w).1 with
    | ok a => exact hw.congr hchain
    | error err => exact ⟨(hw.congr hchain).paidOnce, hG rfl err hans⟩

/-- All batches: nobody is paid twice, and the call throws only with the books up to
date. -/
theorem wp_submitBatchPayout_owed (challengeId : Text)
    (recipients : List (PayoutRecipient Entry)) {w : World}
    (hw : Owed (recipients.map (·.entry.user)) w) :
    ((submitBatchPayout batchOptions challengeId recipients).embed stellarHom).wp payoutMachine
      NoLateThrow PaidOnce
      (Prog.Ends (fun _ => PaidOnce) fun _ w' => PaidOnce w' ∧ ¬ w'.Exposed) w := by
  refine Prog.wp_embed (Prog.wp_weaken (wp_submitBatches
    (K := fun _ rest => Owed (rest.flatten.map (·.entry.user))) batchOptions challengeId ?_ _ 0
    [] ?_) (fun _ _ h => h.paidOnce) fun _ _ h => h)
  · intro done batch rest memo w hK
    rw [List.flatten_cons, List.map_append] at hK
    refine Prog.wp_weaken (wp_submitBatch (batchStep_owed batch _) batchOptions memo _ hK)
      (fun result w' hend => ?_) fun _ _ h => h
    rcases hend.2 with ⟨hash, -, -, hpaid⟩ | ⟨-, -, hopen⟩
    · exact hpaid
    · exact hopen.sublist (List.sublist_append_right _ _)
  · rw [payoutBatches_flatten]
    exact hw.sublist (List.filter_sublist.map _)

/-- The direct path ends at rest, whatever throws. -/
theorem wp_payDirectly_owed (challengeId : Text) (basis : Basis) (records : List PayoutRecord)
    {w : World} (hw : Owed (records.map (·.userId)) w) :
    (payDirectly challengeId basis records).wp payoutMachine NoLateThrow PaidOnce
      (Prog.Ends (fun _ => Rested) fun _ => Rested) w := by
  have husers : (records.map (payoutRecipient basis)).map (·.entry.user) =
      records.map (·.userId) := by
    simp [payoutRecipient, Function.comp_def]
  have hsafe : ∀ w' : World, PaidOnce w' ∧ ¬ w'.Exposed → Rested w' :=
    fun w' h => Rested.of_safe h.1 h.2
  refine Prog.wp_bind (Prog.wp_weaken (wp_submitBatchPayout_owed challengeId _
    (husers.symm ▸ hw)) (fun _ _ h => h) fun _ w' h => hsafe w' h) fun results w' honce => ?_
  -- nobody is paid from here on: the rest is bookkeeping over a chain that stands still
  have hbooks : Books w'.chain (Prog.forEach results (recordResult records)) :=
    (books_bookkeeping honce).forEach fun result _ =>
      (books_bookkeeping honce).recordResult fun _ _ _ _ => books_call honce rfl rfl
  refine Prog.wp_bind (Prog.wp_weaken (hbooks w' rfl) (fun _ _ h => h)
    fun _ w'' h => hsafe w'' ⟨by rw [PaidOnce, h.1]; exact honce, h.2⟩) fun _ w'' hchain => ?_
  have hne : (if hasFailure results then ChallengeStatus.payoutFailed else .settled) ≠ .ended := by
    split <;> simp
  exact Prog.wp_weaken (wp_updateChallengeStatus honce hne _ hchain) (fun _ _ h => h)
    fun _ w'' h => hsafe w'' ⟨by rw [PaidOnce, h.1]; exact honce, h.2⟩

/-- The escrow path: it throws only when the settlement itself was refused, for once the
escrow has settled no bookkeeping call may throw. -/
theorem wp_settleThroughEscrow_owed (basis : Basis) (records : List PayoutRecord) {w : World}
    (hw : Owed (records.map (·.userId)) w) :
    (settleThroughEscrow basis records).wp payoutMachine NoLateThrow PaidOnce
      (Prog.Ends (fun _ => Rested) fun _ => Owed (records.map (·.userId))) w := by
  have husers : (settlementPayments (records.map (escrowRecipient basis))).map (·.entry.user) =
      records.map (·.userId) := by
    simp [settlementPayments_users, escrowRecipient, Function.comp_def]
  refine Prog.wp_bind (P := fun _ w' => PaidOnce w' ∧ ∃ tx ∈ w'.chain, tx.isSettlement = true)
    (Prog.wp_call fun e _ => ?_) fun hash w' hsettled => ?_
  · rcases exec_settle e (records.map (escrowRecipient basis)) w with ⟨err, hexec⟩ | hexec
    · rw [hexec]
      exact ⟨(hw.congr record_chain).paidOnce, hw.congr record_chain⟩
    · rw [hexec]
      have hpaid : Owed [] ((w.record (.settle (records.map (escrowRecipient basis)))).broadcast
          (.settlement (settlementPayments (records.map (escrowRecipient basis))))) :=
        Owed.pay (w := w) (by rwa [List.append_nil])
          (.settlement (settlementPayments (records.map (escrowRecipient basis)))) husers
          (by simp [World.broadcast])
      exact ⟨hpaid.paidOnce, hpaid.paidOnce, _, List.mem_append_right _ List.mem_cons_self, rfl⟩
  · obtain ⟨honce, hsettlement⟩ := hsettled
    -- with a settlement on the chain the world is exposed, so a throw is excluded
    have habsurd : ∀ w'' : World, w''.chain = w'.chain ∧ ¬ w''.Exposed →
        Owed (records.map (·.userId)) w'' :=
      fun w'' h => absurd (.inl (h.1 ▸ hsettlement)) h.2
    have hbooks : Books w'.chain (Prog.forEach records (recordSettled hash)) :=
      (books_bookkeeping honce).forEach fun r _ =>
        (books_bookkeeping honce).recordSettled (books_call honce rfl rfl)
    refine Prog.wp_bind (Prog.wp_weaken (hbooks w' rfl) (fun _ _ h => h)
      fun _ w'' h => habsurd w'' h) fun _ w'' hchain => ?_
    exact Prog.wp_weaken (wp_updateChallengeStatus honce (by simp) _ hchain) (fun _ _ h => h)
      fun _ w'' h => habsurd w'' h

theorem wp_payRecords_owed (config : PayoutConfig) (challengeId : Text) (basis : Basis)
    (records : List PayoutRecord) {w : World} (hw : Owed (records.map (·.userId)) w) :
    (payRecords config challengeId basis records).wp payoutMachine NoLateThrow PaidOnce
      (Prog.Ends (fun _ => Rested) fun _ => Rested) w := by
  unfold payRecords
  split
  · exact Prog.wp_tryCatch (wp_settleThroughEscrow_owed basis records hw)
      fun _ w' hw' => wp_payDirectly_owed challengeId basis records hw'
  · exact wp_payDirectly_owed challengeId basis records hw

/-! ### Creating the rows -/

/-- Nobody was paid twice and the books are up to date. -/
def Booked (w : World) : Prop := PaidOnce w ∧ w.Recorded

theorem Booked.rested {w : World} (h : Booked w) : Rested w := ⟨h.1, fun _ => h.2⟩

/-- The chain stands still and paid rows stay paid. -/
def Keeps (w w' : World) : Prop := w'.chain = w.chain ∧ ∀ u, w.RowPaid u → w'.RowPaid u

theorem Booked.keeps {w w' : World} (h : Booked w) (hk : Keeps w w') : Booked w' := by
  obtain ⟨hchain, hrows⟩ := hk
  refine ⟨by rw [PaidOnce, hchain]; exact h.1, fun u hu => hrows u (h.2 u ?_)⟩
  rwa [hchain] at hu

/-- The upsert returns an unpaid row only for a user who was not paid. -/
theorem upsertPayout_isPaid {w : World} {u : UserId} {address : Text} {amount : Nat}
    (h : (w.upsertPayout u address amount).isPaid = false) : ¬ w.RowPaid u := by
  intro h
  obtain ⟨row, hrow, hpaid⟩ := h
  rw [isPaid_upsertPayout, hrow] at h
  simp [hpaid] at h

theorem keeps_upsert (w : World) (u : UserId) (address : Text) (amount : Nat) :
    Keeps w (w.setPayout u (w.upsertPayout u address amount)) := by
  refine ⟨rfl, fun u' hpaid => ?_⟩
  by_cases hu : u' = u
  · subst hu
    refine ⟨_, Function.update_self .., ?_⟩
    by_contra hnot
    exact upsertPayout_isPaid (by simpa using hnot) hpaid
  · obtain ⟨row, hrow, hrowPaid⟩ := hpaid
    exact ⟨row, by rw [World.setPayout]; simp only [Function.update_of_ne hu, hrow], hrowPaid⟩

theorem exec_createPayout_keeps (e : Env) (w : World) (u : UserId) (address : Text)
    (amount : Nat) : Keeps w (payoutMachine.exec e (.createPayout u address amount) w).2 := by
  rcases exec_createPayout e w u address amount with ⟨hsame, -⟩ | ⟨-, hupsert, -⟩
  · rw [hsame]
    exact ⟨rfl, fun _ h => h⟩
  · rw [hupsert]
    exact keeps_upsert w u address amount

/-- What the next loop may rely on: the records are of distinct users that were not paid. -/
def Unpaid (c : List Tx) (users : List UserId) (w : World) : Prop :=
  Booked w ∧ w.chain = c ∧ ∀ u ∈ users, u ∉ paidUsers c

theorem wp_createPayoutRecord_unpaid {c : List Tx} (a : PayoutAllocation) {w : World}
    (hw : Booked w) (hc : w.chain = c) :
    (createPayoutRecord a).wp payoutMachine NoLateThrow PaidOnce
      (Prog.Ends (fun record w' => Unpaid c (record.toList.map (·.userId)) w' ∧
        (record.toList.map (·.userId)).Sublist [a.userId]) fun _ => Booked) w := by
  refine wp_createPayoutRecord (F := fun w' => Booked w' ∧ w'.chain = c) (fun e _ => ?_)
    fun w' h => ?_
  · have hkeeps := exec_createPayout_keeps e w a.userId a.address a.amountStroops
    have hbooked := hw.keeps hkeeps
    have hchain := hkeeps.1.trans hc
    refine ⟨hbooked.1, ?_⟩
    cases hans : (payoutMachine.exec e
        (.createPayout a.userId a.address a.amountStroops) w).1 with
    | error err =>
        show if isFraudBlockError err then _ else _
        split
        · exact ⟨hbooked, hchain⟩
        · exact hbooked
    | ok row =>
        -- the row that `createPayout` returns is unpaid only for a user who was not paid
        dsimp only [Prog.Ends]
        split
        · exact ⟨⟨hbooked, hchain, by simp⟩, List.nil_sublist _⟩
        · rename_i hunpaid
          refine ⟨⟨hbooked, hchain, fun u hu => ?_⟩, List.Sublist.refl _⟩
          rw [List.mem_singleton.mp hu]
          show a.userId ∉ paidUsers c
          rcases exec_createPayout e w a.userId a.address a.amountStroops with
            ⟨-, err, herror⟩ | ⟨-, -, hrow⟩
          · cases hans.symm.trans herror
          · rw [hrow row hans] at hunpaid
            exact fun hmem => upsertPayout_isPaid (by simpa using hunpaid) (hw.2 _ (hc ▸ hmem))
  · refine Prog.wp_weaken (Prog.wp_call_world (K := fun w'' => Booked w'' ∧ w''.chain = c)
      fun e _ => ?_) (fun _ w'' h => ⟨⟨h.1, h.2, by simp⟩, List.nil_sublist _⟩)
      fun _ w'' h => h.1
    have hkeeps : Keeps w' (payoutMachine.exec e
        (.insertAuditLog (.payoutBlockedFraud a.userId)) w').2 :=
      ⟨exec_chain rfl, fun u h => by rwa [World.RowPaid, exec_payouts rfl]⟩
    exact ⟨(h.1.keeps hkeeps).1, h.1.keeps hkeeps, hkeeps.1.trans h.2⟩

theorem wp_createPayoutRecords_unpaid {c : List Tx} :
    ∀ (allocations : List PayoutAllocation) {w : World}, Booked w → w.chain = c →
      (createPayoutRecords allocations).wp payoutMachine NoLateThrow PaidOnce
        (Prog.Ends (fun records w' => Unpaid c (records.map (·.userId)) w' ∧
          (records.map (·.userId)).Sublist (allocations.map (·.userId))) fun _ => Booked) w := by
  intro allocations
  induction allocations with
  | nil => intro w hw hc; exact ⟨⟨hw, hc, by simp⟩, List.nil_sublist _⟩
  | cons a rest ih =>
      intro w hw hc
      refine Prog.wp_bind (wp_createPayoutRecord_unpaid a hw hc) fun record w' h => ?_
      obtain ⟨⟨hbooked, hchain, hunpaid⟩, hsub⟩ := h
      refine Prog.wp_bind (ih hbooked hchain) fun records w'' h => ?_
      obtain ⟨⟨hbooked', hchain', hunpaid'⟩, hsub'⟩ := h
      refine ⟨⟨hbooked', hchain', fun u hu => ?_⟩, ?_⟩
      · rw [List.map_append, List.mem_append] at hu
        exact hu.elim (hunpaid u) (hunpaid' u)
      · rw [List.map_append]
        exact hsub.append hsub'

theorem Unpaid.owed {c : List Tx} {users : List UserId} {w : World} (h : Unpaid c users w)
    (hnodup : users.Nodup) : Owed users w := by
  obtain ⟨⟨honce, -⟩, hchain, hunpaid⟩ := h
  refine List.nodup_append.mpr ⟨honce, hnodup, fun u hu u' hu' heq => ?_⟩
  exact hunpaid u' hu' (heq ▸ hchain ▸ hu)

/-! ### Whole runs -/

/-- Closing the challenge when there is nothing to pay. -/
theorem wp_settled_booked {w : World} (hw : Booked w) :
    (updateChallengeStatus .settled none).wp payoutMachine NoLateThrow PaidOnce
      (Prog.Ends (fun _ => Rested) fun _ => Rested) w := by
  refine Prog.wp_weaken (wp_updateChallengeStatus hw.1 (by simp) none rfl) (fun _ _ h => h)
    fun _ w' h => ?_
  exact Rested.of_safe (by rw [PaidOnce, h.1]; exact hw.1) h.2

/-- **One run keeps the invariant**: it starts at rest and ends at rest, however it ends. -/
theorem wp_processPayout_rested (config : PayoutConfig) (challengeId : Text) {w : World}
    (hw : Rested w) :
    (processPayout config challengeId).wp payoutMachine NoLateThrow PaidOnce
      (Prog.Ends (fun _ => Rested) fun _ => Rested) w := by
  have hbooked : w.challenge.status = .ended → Booked w := fun hended => ⟨hw.1, hw.2 hended⟩
  refine wp_processPayout hw.1 (fun _ _ _ _ _ _ => hw) (fun _ _ => hw) (fun _ => hw)
    (fun hended _ => wp_settled_booked (hbooked hended)) fun hallocates => ?_
  refine Prog.wp_bind (Prog.wp_weaken (wp_createPayoutRecords_unpaid _
    (hbooked hallocates.1) rfl) (fun _ _ h => h) fun _ _ h => h.rested) fun records w' h => ?_
  obtain ⟨hunpaid, hsub⟩ := h
  split
  · exact wp_settled_booked hunpaid.1
  · exact wp_payRecords_owed config challengeId _ records
      (hunpaid.owed ((payoutAllocations_users_nodup _).sublist hsub))

theorem SameBooks.rested {w w' : World} (h : SameBooks w w') (hw : Rested w) : Rested w' := by
  refine ⟨by rw [PaidOnce, h.chain]; exact hw.1, fun hended u hu => h.paid u ?_⟩
  rw [h.chain] at hu
  exact hw.2 (h.status ▸ hended) u hu

/-- **Nobody is paid twice.** In every history of runs of `processPayout` for a
challenge, with the leaderboard changing between runs, either configuration in each
run, and any call throwing anywhere except a bookkeeping call while the books are
behind, every user has received at most one transfer at every moment. -/
theorem processPayout_pays_at_most_once (challengeId : Text) (w₀ : World)
    (h₀ : w₀.chain = []) {w : World} {inProgress : Option (Service Unit)}
    (history : Seq payoutMachine NoLateThrow (startsPayout challengeId) w₀ w inProgress)
    (u : UserId) : (paidUsers w.chain).count u ≤ 1 := by
  have hrest : Rested w₀ := by
    refine ⟨by simp [PaidOnce, paidUsers, h₀], fun _ u hu => ?_⟩
    simp [paidUsers, h₀] at hu
  -- `Rested` holds between runs, `PaidOnce` at every moment
  have honce : PaidOnce w := by
    refine (Seq.sound (I := PaidOnce) (J := Rested) hrest (fun _ h => h.1) ?_ history).1
    intro w w' p hw h
    obtain ⟨hsame, config, rfl⟩ := h
    have hw' := hsame.rested hw
    exact ⟨hw'.1, Prog.wp_world (wp_processPayout_rested config challengeId hw')⟩
  exact List.nodup_iff_count_le_one.mp honce u

/-! ### Two histories

Two players share a pool of a hundred USDC and the escrow is configured. -/

def escrowConfig : PayoutConfig := ⟨true, fun _ => true⟩

def twoPlayers : World := World.ended 1000000000 [player 1 300, player 2 100]

theorem SameBooks.refl (w : World) : SameBooks w w := ⟨rfl, rfl, fun _ h => h⟩

/-- A run of `processPayout` from the start. -/
def firstRun (contributions : Nat → Env) : World :=
  ((processPayout escrowConfig "c1".toList).run payoutMachine contributions twoPlayers).2

/-- The escrow settles, but the first `updatePayoutStatus` throws: the catch-all takes it
for a failed settlement and pays both players again from the hot wallet. -/
theorem late_throw_pays_twice :
    ¬ ∀ (w : World) (inProgress : Option (Service Unit)),
      Seq payoutMachine (fun _ _ _ => True) (startsPayout "c1".toList) twoPlayers w inProgress →
        ∀ u, (paidUsers w.chain).count u ≤ 1 := by
  intro hall
  have history : Seq payoutMachine (fun _ _ _ => True) (startsPayout "c1".toList) twoPlayers
      (firstRun fun n => if n = 7 then dbDown else calm) none :=
    Seq.run (Seq.start Seq.init ⟨SameBooks.refl twoPlayers, escrowConfig, rfl⟩)
      fun _ _ _ => trivial
  have hcount := hall _ _ history 1
  revert hcount
  decide

/-- Where nothing fails, no bookkeeping call throws. -/
theorem noLateThrow_calm (w : World) (op : Op) : NoLateThrow w op calm := by
  intro hbook err hans
  cases op with
  | stellar o => cases o with
    | resetSequence => cases hans
    | _ => cases hbook
  | updatePayoutStatus u s h m => cases hans
  | incrementUserEarnings u a => cases hans
  | queueReferralBonusForPayout u a => cases hans
  | updateChallengeStatus s h => cases hans
  | _ => cases hbook

/-- Where nothing fails, both players are paid, once. -/
theorem calm_run_pays_once :
    paidUsers (firstRun fun _ => calm).chain = [1, 2] ∧
      (paidUsers (firstRun fun _ => calm).chain).count 1 ≤ 1 := by
  refine ⟨by decide, ?_⟩
  exact processPayout_pays_at_most_once "c1".toList twoPlayers rfl
    (Seq.run (Seq.start Seq.init ⟨SameBooks.refl twoPlayers, escrowConfig, rfl⟩)
      fun w op _ => noLateThrow_calm w op) 1

end BrandBlitz.Payout

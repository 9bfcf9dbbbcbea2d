import Mathlib.Data.Int.ConditionallyCompleteOrder
import Mathlib.Data.Rat.Floor
import BrandBlitz.Lib.Crew
import BrandBlitz.Payout.Outflow

/-!
# BrandBlitz.Payout.Refunds

**Refunds**, any number of calls of `refundChallenge` for a challenge at the same time. A call
looks for a row in `refunds`, pays, and only then inserts the row that the next call would find.
So two calls may both pay, and what throws after the payment leaves it unrecorded. A refund of
nothing is a row that the table does not take.

* The world is that of `BrandBlitz.Payout.World`, where a submission that throws may here have
  been applied all the same.
* `Atomic` says when a call goes well: it looks when every refund paid so far is recorded,
  something is due, nobody pays between its look and its payment, the answer to the payment
  gets through, and nothing after it throws.
-/

namespace BrandBlitz.Payout

open BrandBlitz.Lib BrandBlitz.Stellar

/-! ### The world -/

/-- All but `books` is there to state properties. -/
structure RefundWorld where
  books : World
  /-- whose payment was applied, and what time it was when the call looked at the clock -/
  paid : List (Nat × Time)
  /-- who has written to the books, and by which call -/
  writes : List (Nat × Op)
  /-- who has found no refund, when nobody has paid since -/
  unopposed : List Nat
  clock : Nat → Time

structure RefundEnv where
  books : Env
  /-- is a payment that throws applied all the same? -/
  applied : Bool

/-- The payment of call `i` is applied. -/
def RefundWorld.pays (w : RefundWorld) (i : Nat) (b : World) : RefundWorld :=
  { w with books := b, paid := w.paid ++ [(i, w.clock i)], unopposed := [] }

/-- The world after call `i` made the books `b`. -/
def RefundWorld.after (w : RefundWorld) (i : Nat) (e : RefundEnv) (b : World) : Op → RefundWorld
  | .findRefundByChallengeId =>
    if e.books.dbFault.isNone && b.refund.isNone then
      { w with books := b, unopposed := i :: w.unopposed }
    else { w with books := b }
  | .getChallengeById | .getDepositSender _ => { w with books := b }
  | .dateNow => { w with books := b, clock := Function.update w.clock i e.books.now }
  | .submitRefundPayment destination amount =>
    if e.books.netFault.isNone then w.pays i b
    else if e.applied then
      w.pays i (perform e.books (.submitRefundPayment destination amount) b).2
    else { w with books := b }
  | op => { w with books := b, writes := w.writes ++ [(i, op)] }

/-- The world as call `i` meets it. -/
def refundMachine (i : Nat) : Machine payoutSig Err RefundWorld RefundEnv where
  exec e op w :=
    ((payoutMachine.exec e.books op w.books).1,
      w.after i e (payoutMachine.exec e.books op w.books).2 op)

/-- A call's step, less its marks, is that of `payoutMachine`. -/
theorem exec_refund (i : Nat) (e : RefundEnv) (op : Op) (w : RefundWorld) :
    (refundMachine i).exec e op w = ((payoutMachine.exec e.books op w.books).1,
      w.after i e (payoutMachine.exec e.books op w.books).2 op) := rfl

/-- A read finds the books as they are. -/
theorem exec_refund_read {i : Nat} {e : RefundEnv} {op : Op} {w : RefundWorld}
    (h : op.isRead = true) : (refundMachine i).exec e op w =
      ((payoutMachine.exec e.books op w.books).1, w.after i e w.books op) := by
  rw [exec_refund, exec_read h]

/-- Any number of admins' calls. -/
def RefundCall (p : Service Refund) : Prop :=
  ∃ adminId reason, p = refundChallenge adminId reason

/-! ### What is to hold, and when -/

/-- What the policy gives back at time `t`. -/
def RefundDue (c : Challenge) (t : Time) (amountStroops : Nat) : Prop :=
  if c.refundPolicy = .noneAfterStart ∧ c.startsAt ≤ t then amountStroops = 0
  else (amountStroops : ℤ) =
    ⌊(c.poolAmountStroops : ℚ) * ((c.refundPercentage.val : ℚ) / 100) / 100⌋

/-- The refund is recorded, with what was due when it was paid, and the challenge is closed. -/
structure RefundRecorded (w : RefundWorld) (refund : Refund) : Prop where
  recorded : w.books.refund = some refund
  closed : w.books.challenge.status = .refunded
  due : ∃ p ∈ w.paid, RefundDue w.books.challenge p.2 refund.amountStroops

/-- Call `i` has neither paid nor written anything. -/
structure LeavesNoTrace (i : Nat) (w : RefundWorld) : Prop where
  paid : ∀ t, (i, t) ∉ w.paid
  writes : ∀ op, (i, op) ∉ w.writes

structure RefundsAtomic (w : RefundWorld) (calls : List (Service Refund)) : Prop where
  once : (w.books.chain.filter Tx.isRefund).length ≤ 1
  threw : ∀ (i : Nat) (err : Err), calls[i]? = some (.raise err) → LeavesNoTrace i w
  returned : ∀ (i : Nat) (refund : Refund), calls[i]? = some (.ret refund) →
    RefundRecorded w refund

/-- Every refund paid is recorded, and has closed the challenge. -/
def RefundWorld.Settled (w : RefundWorld) : Prop :=
  w.paid = [] ∨ (w.books.refund.isSome = true ∧ w.books.challenge.status = .refunded)

/-- Has call `i` paid? -/
def RefundWorld.HasPaid (w : RefundWorld) (i : Nat) : Prop := ∃ t, (i, t) ∈ w.paid

/-- When a step of call `i` goes well. -/
def Atomic (i : Nat) (w : RefundWorld) (op : Op) (e : RefundEnv) : Prop :=
  match op with
  | .findRefundByChallengeId => e.books.dbFault = none → w.Settled
  | .dateNow => 0 < refundAmountStroops w.books.challenge e.books.now
  | .submitRefundPayment .. =>
    if e.books.netFault.isNone then i ∈ w.unopposed else e.applied = false
  | .createRefund _ | .updateChallengeStatus .. | .insertAuditLog _ =>
    w.HasPaid i → e.books.dbFault = none
  | _ => True

/-! ### The amount -/

/-- What the amount of a refund depends on. -/
structure SameTerms (c c' : Challenge) : Prop where
  pool : c'.poolAmountStroops = c.poolAmountStroops
  policy : c'.refundPolicy = c.refundPolicy
  percentage : c'.refundPercentage = c.refundPercentage
  startsAt : c'.startsAt = c.startsAt

section Amount
variable {c c' : Challenge} {t : Time} {n : Nat}

theorem SameTerms.refl (c : Challenge) : SameTerms c c := ⟨rfl, rfl, rfl, rfl⟩

theorem SameTerms.trans {c'' : Challenge} (h : SameTerms c c') (h' : SameTerms c' c'') :
    SameTerms c c'' :=
  ⟨h'.pool.trans h.pool, h'.policy.trans h.policy, h'.percentage.trans h.percentage,
    h'.startsAt.trans h.startsAt⟩

theorem SameTerms.amount (h : SameTerms c c') :
    refundAmountStroops c' t = refundAmountStroops c t := by
  simp only [refundAmountStroops, h.pool, h.policy, h.percentage, h.startsAt]

theorem SameTerms.due (h : SameTerms c c') (hdue : RefundDue c t n) : RefundDue c' t n := by
  simpa only [RefundDue, h.pool, h.policy, h.percentage, h.startsAt] using hdue

/-- The amount is the floor of the percentage of the pool, or nothing. -/
theorem refundDue_refundAmountStroops (c : Challenge) (t : Time) :
    RefundDue c t (refundAmountStroops c t) := by
  unfold RefundDue refundAmountStroops
  by_cases h : c.refundPolicy = .noneAfterStart ∧ c.startsAt ≤ t
  · simp [h]
  · rw [if_neg h, if_neg (by simpa using h)]
    have hquotient : (c.poolAmountStroops : ℚ) * ((c.refundPercentage.val : ℚ) / 100) / 100 =
        ((c.poolAmountStroops * c.refundPercentage.val : ℕ) : ℚ) / ((10000 : ℕ) : ℚ) := by
      push_cast
      ring
    rw [hquotient, Rat.floor_natCast_div_natCast, Int.natCast_ediv]

end Amount

/-! ### What one call does -/

/-- A write that a refund consists of. -/
def Op.writesRefund : Op → Bool
  | .createRefund _ | .updateChallengeStatus .refunded _ | .insertAuditLog _ => true
  | _ => false

/-- What such a write leaves alone. -/
structure RefundFrame (b b' : World) : Prop where
  chain : b'.chain = b.chain
  terms : SameTerms b.challenge b'.challenge
  refund : ∀ refund, b.refund = some refund → b'.refund = some refund
  closed : b.challenge.status = .refunded → b'.challenge.status = .refunded

theorem refundFrame_exec {op : Op} {e : Env} {b : World} (h : op.writesRefund = true) :
    RefundFrame b (payoutMachine.exec e op b).2 := by
  have hsame : RefundFrame b b := ⟨rfl, .refl _, fun _ h => h, fun h => h⟩
  have hdb : op.isNetwork = false := by
    cases op with
    | createRefund refund => rfl
    | updateChallengeStatus status hashes => rfl
    | insertAuditLog entry => rfl
    | _ => cases h
  refine exec_world (P := RefundFrame b) ?_ ?_ <;> rw [record_of_db hdb]
  · exact hsame
  · cases op with
    | createRefund refund =>
        simp only [perform]
        split
        · exact hsame
        · rename_i hfree
          refine ⟨rfl, .refl _, fun other hother => ?_, fun h => h⟩
          simp [hother] at hfree
    | insertAuditLog entry => exact ⟨rfl, .refl _, fun _ h => h, fun h => h⟩
    | updateChallengeStatus status hashes =>
        cases status with
        | refunded => exact ⟨rfl, ⟨rfl, rfl, rfl, rfl⟩, fun _ h => h, fun _ => rfl⟩
        | _ => cases h
    | _ => cases h

/-- What holds in every state. -/
structure RefundInv (w : RefundWorld) : Prop where
  once : w.paid.length ≤ 1
  chain : (w.books.chain.filter Tx.isRefund).length = w.paid.length
  unopposed : ∀ i ∈ w.unopposed, w.paid = []
  writes : ∀ entry ∈ w.writes, w.HasPaid entry.1 ∧ entry.2.writesRefund = true
  due : ∀ refund, w.books.refund = some refund →
    ∃ p ∈ w.paid, RefundDue w.books.challenge p.2 refund.amountStroops

/-- The three kinds of steps: one reads, one pays, and one writes. -/
inductive RefundStep (i : Nat) (op : Op) (e : Env) (w : RefundWorld) : RefundWorld → Prop
  | reads {w' : RefundWorld} : w'.books = w.books → w'.paid = w.paid → w'.writes = w.writes →
      (∀ j, j ≠ i → w'.clock j = w.clock j) → RefundStep i op e w w'
  | pays (destination : Text) (amountStroops : Nat) : i ∈ w.unopposed →
      RefundStep i op e w (w.pays i (w.books.broadcast (.refund destination amountStroops)))
  | writes : RefundStep i op e w { w with
      books := (payoutMachine.exec e op w.books).2
      writes := w.writes ++ [(i, op)] }

theorem refundStep_exec {i : Nat} {op : Op} {e : RefundEnv} {w : RefundWorld}
    (hG : Atomic i w op e) : RefundStep i op e.books w ((refundMachine i).exec e op w).2 := by
  cases op with
  | findRefundByChallengeId =>
      rw [exec_refund_read rfl]
      simp only [RefundWorld.after]
      split <;> exact .reads rfl rfl rfl fun _ _ => rfl
  | getChallengeById =>
      rw [exec_refund_read rfl]
      exact .reads rfl rfl rfl fun _ _ => rfl
  | getDepositSender txHash =>
      rw [exec_refund_read rfl]
      exact .reads rfl rfl rfl fun _ _ => rfl
  | dateNow =>
      rw [exec_refund_read rfl]
      exact .reads rfl rfl rfl fun j hj => Function.update_of_ne hj ..
  | submitRefundPayment destination amount =>
      simp only [Atomic] at hG
      rcases exec_submitRefundPayment e.books destination amount w.books with
        ⟨err, hexec⟩ | hexec
      · have hfault : e.books.netFault.isNone = false := by
          cases hnet : e.books.netFault with
          | some _ => rfl
          | none =>
              rw [exec_network rfl hnet] at hexec
              cases congrArg Prod.fst hexec
        rw [hfault, if_neg (by decide)] at hG
        rw [exec_refund, hexec]
        simp only [RefundWorld.after, hfault, hG, Bool.false_eq_true, if_false]
        exact .reads rfl rfl rfl fun _ _ => rfl
      · have hfault : e.books.netFault.isNone = true := by
          rw [netFault_of_ok rfl (congrArg Prod.fst hexec)]
          rfl
        rw [hfault, if_pos rfl] at hG
        rw [exec_refund, hexec]
        simp only [RefundWorld.after, hfault, if_true]
        exact .pays _ _ hG
  | _ => exact .writes

/-! ### What the others do -/

/-- What call `i` can count on: nobody pays or writes in its name, a recorded refund stays, and
once it has paid nobody else records one. -/
structure RefundRely (i : Nat) (w w' : RefundWorld) : Prop where
  inv : RefundInv w'
  paid : ∀ t, (i, t) ∈ w'.paid → (i, t) ∈ w.paid
  grows : ∀ p ∈ w.paid, p ∈ w'.paid
  writes : ∀ op, (i, op) ∈ w'.writes → (i, op) ∈ w.writes
  clock : w'.clock i = w.clock i
  terms : SameTerms w.books.challenge w'.books.challenge
  refund : ∀ refund, w.books.refund = some refund → w'.books.refund = some refund
  closed : w.books.challenge.status = .refunded → w'.books.challenge.status = .refunded
  alone : w.HasPaid i → w'.books.refund = w.books.refund

section Rely
variable {i j : Nat} {w w' : RefundWorld}

theorem refundRely_refl (h : RefundInv w) : RefundRely i w w :=
  ⟨h, fun _ h => h, fun _ h => h, fun _ h => h, rfl, .refl _, fun _ h => h, fun h => h,
    fun _ => rfl⟩

theorem RefundRely.trans {w'' : RefundWorld} (h : RefundRely i w w') (h' : RefundRely i w' w'') :
    RefundRely i w w'' where
  inv := h'.inv
  paid t ht := h.paid t (h'.paid t ht)
  grows p hp := h'.grows p (h.grows p hp)
  writes op hop := h.writes op (h'.writes op hop)
  clock := h'.clock.trans h.clock
  terms := h.terms.trans h'.terms
  refund r hr := h'.refund r (h.refund r hr)
  closed hs := h'.closed (h.closed hs)
  alone hpaid := by
    obtain ⟨t, ht⟩ := hpaid
    exact (h'.alone ⟨t, h.grows _ ht⟩).trans (h.alone ⟨t, ht⟩)

/-- At most one call pays. -/
theorem RefundInv.payer (h : RefundInv w) (hi : w.HasPaid i) (hj : w.HasPaid j) : i = j := by
  obtain ⟨t, ht⟩ := hi
  obtain ⟨t', ht'⟩ := hj
  have hone := h.once
  match hpaid : w.paid with
  | [] =>
      rw [hpaid] at ht
      cases ht
  | [p] =>
      rw [hpaid, List.mem_singleton] at ht ht'
      exact congrArg Prod.fst (ht.trans ht'.symm)
  | p :: q :: rest =>
      rw [hpaid, List.length_cons, List.length_cons] at hone
      omega

/-- A step of another call. -/
theorem refundRely_step {op : Op} {e : Env} (hij : i ≠ j) (hw : RefundInv w)
    (hstep : RefundStep j op e w w') (hw' : RefundInv w') : RefundRely i w w' := by
  cases hstep with
  | reads hbooks hpaid hwrites hclock =>
      refine ⟨hw', fun t ht => hpaid ▸ ht, fun p hp => hpaid.symm ▸ hp, fun op hop => hwrites ▸ hop,
        hclock i hij, ?_, ?_, ?_, fun _ => congrArg World.refund hbooks⟩ <;> rw [hbooks]
      · exact .refl _
      · exact fun _ h => h
      · exact fun h => h
  | pays destination amountStroops hunopposed =>
      refine ⟨hw', fun t ht => ?_, fun p hp => List.mem_append_left _ hp, fun _ h => h, rfl,
        .refl _, fun _ h => h, fun h => h, fun _ => rfl⟩
      rcases List.mem_append.mp ht with ht | ht
      · exact ht
      · exact absurd (congrArg Prod.fst (List.mem_singleton.mp ht)) hij
  | writes =>
      -- who writes has paid, so nobody else has
      obtain ⟨hpayer, hallowed⟩ := hw'.writes (j, op) (List.mem_append_right _
        (List.mem_singleton_self _))
      have hframe : RefundFrame w.books (payoutMachine.exec e op w.books).2 :=
        refundFrame_exec hallowed
      refine ⟨hw', fun _ h => h, fun _ h => h, fun op' hop => ?_, rfl, hframe.terms,
        hframe.refund, hframe.closed, fun hpaid => absurd (hw.payer hpaid hpayer) hij⟩
      rcases List.mem_append.mp hop with hop | hop
      · exact hop
      · exact absurd (congrArg Prod.fst (List.mem_singleton.mp hop)) hij

theorem LeavesNoTrace.stays (h : LeavesNoTrace i w) (hw : RefundRely i w w') :
    LeavesNoTrace i w' :=
  ⟨fun t ht => h.paid t (hw.paid t ht), fun op hop => h.writes op (hw.writes op hop)⟩

theorem RefundRecorded.stays {refund : Refund} (h : RefundRecorded w refund)
    (hw : RefundRely i w w') : RefundRecorded w' refund where
  recorded := hw.refund refund h.recorded
  closed := hw.closed h.closed
  due := by
    obtain ⟨p, hp, hdue⟩ := h.due
    exact ⟨p, hw.grows p hp, hw.terms.due hdue⟩

end Rely

/-! ### One call among the others -/

/-- Call `i` runs `p` while the others move. -/
def Refunding {α : Type} (i : Nat) (p : Service α) (Q : α → RefundWorld → Prop)
    (R : Err → RefundWorld → Prop) (w : RefundWorld) : Prop :=
  p.wp (refundMachine i).among (Among (RefundRely i) (Atomic i)) RefundInv (Prog.Ends Q R) w

section Call
variable {i : Nat} {w : RefundWorld} {c : Challenge} {now : Time}

/-- One call: the others have moved, but `A` still holds. -/
theorem refunding_call {op : Op} {A : RefundWorld → Prop}
    {Q : payoutSig.Ans op → RefundWorld → Prop} {R : Err → RefundWorld → Prop}
    (hA : ∀ w', RefundRely i w w' → A w')
    (h : ∀ w' e, RefundInv w' → A w' → Atomic i w' op e →
      RefundInv ((refundMachine i).exec e op w').2 ∧
        Prog.Ends Q R ((refundMachine i).exec e op w').1 ((refundMachine i).exec e op w').2) :
    Refunding i (Prog.call (S := payoutSig) op) Q R w :=
  Prog.wp_call fun move hmove => h move.1 move.2 hmove.1.inv (hA move.1 hmove.1) hmove.2

theorem Refunding.bind {α β : Type} {p : Service α} {f : α → Service β}
    {P : α → RefundWorld → Prop} {Q : β → RefundWorld → Prop} {R : Err → RefundWorld → Prop}
    (hp : Refunding i p P R w) (hf : ∀ a w', P a w' → Refunding i (f a) Q R w') :
    Refunding i (p.bind f) Q R w := Prog.wp_bind hp hf

/-- A read that leaves no mark. -/
theorem RefundInv.congr {w' : RefundWorld} (h : RefundInv w) (hbooks : w'.books = w.books)
    (hpaid : w'.paid = w.paid) (hwrites : w'.writes = w.writes)
    (hunopposed : ∀ j ∈ w'.unopposed, w.paid = []) : RefundInv w' where
  once := hpaid ▸ h.once
  chain := by rw [hbooks, hpaid, h.chain]
  unopposed j hj := hpaid ▸ hunopposed j hj
  writes entry hentry := by
    rw [hwrites] at hentry
    simp only [RefundWorld.HasPaid, hpaid]
    exact h.writes entry hentry
  due r hr := by
    rw [hbooks] at hr
    rw [hbooks, hpaid]
    exact h.due r hr

/-- Looking for a refund. What there is closes the challenge; if there is none, nobody has
paid. -/
theorem refunding_find (hw : LeavesNoTrace i w) :
    Refunding i (Prog.call (S := payoutSig) .findRefundByChallengeId)
      (fun found w' => match found with
        | some refund => RefundRecorded w' refund
        | none => LeavesNoTrace i w') (fun _ => LeavesNoTrace i) w := by
  refine refunding_call (fun w' h => hw.stays h) fun w' e hinv htrace hG => ?_
  rw [exec_refund_read rfl]
  cases hfault : e.books.dbFault with
  | some fault =>
      rw [exec_fault rfl hfault]
      simp only [RefundWorld.after, hfault, Option.isNone_some, Bool.false_and,
        Bool.false_eq_true, if_false]
      exact ⟨hinv, htrace⟩
  | none =>
      rw [exec_db rfl hfault]
      have hsettled : w'.Settled := hG hfault
      cases hrefund : w'.books.refund with
      | none =>
          have hnobody : w'.paid = [] := by
            rcases hsettled with hnobody | ⟨hsome, -⟩
            · exact hnobody
            · rw [hrefund] at hsome
              cases hsome
          simp only [perform, RefundWorld.after, hfault, hrefund, Option.isNone_none,
            Bool.and_self, if_true]
          exact ⟨hinv.congr rfl rfl rfl fun _ _ => hnobody, htrace.paid, htrace.writes⟩
      | some refund =>
          obtain ⟨p, hp, hdue⟩ := hinv.due refund hrefund
          have hclosed : w'.books.challenge.status = .refunded := by
            rcases hsettled with hnobody | ⟨-, hclosed⟩
            · rw [hnobody] at hp
              cases hp
            · exact hclosed
          simp only [perform, RefundWorld.after, hrefund, Option.isNone_some, Bool.and_false,
            Bool.false_eq_true, if_false]
          exact ⟨hinv, hrefund, hclosed, p, hp, hdue⟩

/-- Before the payment, with the challenge as it was read. -/
structure BeforePayment (i : Nat) (c : Challenge) (w : RefundWorld) : Prop where
  trace : LeavesNoTrace i w
  terms : SameTerms c w.books.challenge

theorem BeforePayment.stays {w' : RefundWorld} (h : BeforePayment i c w) (hw : RefundRely i w w') :
    BeforePayment i c w' := ⟨h.trace.stays hw, h.terms.trans hw.terms⟩

theorem refunding_getChallengeById (hw : LeavesNoTrace i w) :
    Refunding i getChallengeById
      (fun found w' => LeavesNoTrace i w' ∧ ∀ c, found = some c → BeforePayment i c w')
      (fun _ => LeavesNoTrace i) w := by
  refine refunding_call (fun w' h => hw.stays h) fun w' e hinv htrace _ => ?_
  rw [exec_refund_read rfl]
  refine ⟨hinv, ?_⟩
  cases hanswer : (payoutMachine.exec e.books .getChallengeById w'.books).1 with
  | error err => exact htrace
  | ok found =>
      refine ⟨htrace, fun c hc => ⟨htrace, ?_⟩⟩
      subst hc
      rw [exec_ok hanswer] at hanswer
      rw [eq_of_getChallengeById hanswer]
      exact .refl _

theorem refunding_getDepositSender (txHash : Text) (hw : BeforePayment i c w) :
    Refunding i (Prog.call (S := payoutSig) (.getDepositSender txHash))
      (fun _ => BeforePayment i c) (fun _ => LeavesNoTrace i) w := by
  refine refunding_call (fun w' h => hw.stays h) fun w' e hinv hbefore _ => ?_
  rw [exec_refund_read rfl]
  refine ⟨hinv, ?_⟩
  cases (payoutMachine.exec e.books (.getDepositSender txHash) w'.books).1 with
  | error err => exact hbefore.trace
  | ok sender => exact hbefore

/-- The clock, when something is due. -/
theorem refunding_dateNow (hw : BeforePayment i c w) :
    Refunding i (Prog.call (S := payoutSig) .dateNow)
      (fun now w' => BeforePayment i c w' ∧ w'.clock i = now ∧ 0 < refundAmountStroops c now)
      (fun _ => LeavesNoTrace i) w := by
  refine refunding_call (fun w' h => hw.stays h) fun w' e hinv hbefore hG => ?_
  rw [exec_refund_read rfl]
  refine ⟨hinv.congr rfl rfl rfl hinv.unopposed, ?_⟩
  cases hfault : e.books.dbFault with
  | some fault =>
      rw [exec_fault rfl hfault]
      exact ⟨hbefore.trace.paid, hbefore.trace.writes⟩
  | none =>
      rw [exec_db rfl hfault]
      refine ⟨⟨⟨hbefore.trace.paid, hbefore.trace.writes⟩, hbefore.terms⟩, ?_, ?_⟩
      · exact Function.update_self ..
      · exact hbefore.terms.amount ▸ hG

/-- After the payment, while nothing records it. -/
structure Paid (i : Nat) (c : Challenge) (now : Time) (w : RefundWorld) : Prop where
  paid : (i, now) ∈ w.paid
  terms : SameTerms c w.books.challenge
  unrecorded : w.books.refund = none

theorem Paid.hasPaid (h : Paid i c now w) : w.HasPaid i := ⟨now, h.paid⟩

theorem Paid.stays {w' : RefundWorld} (h : Paid i c now w) (hw : RefundRely i w w') :
    Paid i c now w' where
  paid := hw.grows _ h.paid
  terms := h.terms.trans hw.terms
  unrecorded := (hw.alone h.hasPaid).trans h.unrecorded

/-- The payment, by a call that is unopposed: it is the first one. -/
theorem RefundInv.pays (hinv : RefundInv w) (hunopposed : i ∈ w.unopposed)
    (hterms : SameTerms c w.books.challenge) (tx : Tx) (htx : tx.isRefund = true) :
    RefundInv (w.pays i (w.books.broadcast tx)) ∧
      Paid i c (w.clock i) (w.pays i (w.books.broadcast tx)) := by
  have hnobody : w.paid = [] := hinv.unopposed i hunopposed
  have hunrecorded : w.books.refund = none := by
    refine Option.eq_none_iff_forall_ne_some.mpr fun refund hrefund => ?_
    obtain ⟨p, hp, -⟩ := hinv.due refund hrefund
    rw [hnobody] at hp
    cases hp
  have hpaid : (w.pays i (w.books.broadcast tx)).paid = [(i, w.clock i)] := by
    simp only [RefundWorld.pays, hnobody, List.nil_append]
  refine ⟨⟨by rw [hpaid]; rfl, ?_, fun _ h => absurd h List.not_mem_nil, fun entry hentry => ?_,
    fun refund hrefund => ?_⟩, ?_, hterms, hunrecorded⟩
  · have hchain : (w.pays i (w.books.broadcast tx)).books.chain = w.books.chain ++ [tx] := rfl
    rw [hchain, hpaid, List.filter_append, List.length_append, hinv.chain, hnobody]
    simp [htx]
  · obtain ⟨⟨t, ht⟩, -⟩ := hinv.writes entry hentry
    rw [hnobody] at ht
    cases ht
  · cases hunrecorded.symm.trans hrefund
  · rw [hpaid]
    exact List.mem_singleton_self _

/-- Something is due: it is paid, or the call ends here. -/
theorem refunding_submitRefund (destination : Text) (hw : BeforePayment i c w)
    (hclock : w.clock i = now) (hdue : 0 < refundAmountStroops c now) :
    Refunding i (submitRefund destination (refundAmountStroops c now))
      (fun _ => Paid i c now) (fun _ => LeavesNoTrace i) w := by
  rw [submitRefund, if_pos hdue]
  refine Refunding.bind (P := fun _ => Paid i c now) ?_ fun _ _ h => h
  refine refunding_call (A := fun w' => BeforePayment i c w' ∧ w'.clock i = now)
    (fun w' h => ⟨hw.stays h, h.clock.trans hclock⟩) fun w' e hinv ⟨hbefore, hnow⟩ hG => ?_
  have hstep : RefundInv w' ∧ LeavesNoTrace i w' := ⟨hinv, hbefore.trace⟩
  simp only [Atomic] at hG
  cases hfault : e.books.netFault with
  | some err =>
      rw [hfault, if_neg (by simp)] at hG
      rcases exec_submitRefundPayment e.books destination _ w'.books with ⟨err', hexec⟩ | hexec
      · rw [exec_refund, hexec]
        simp only [RefundWorld.after, hfault, hG, Option.isNone_some, Bool.false_eq_true, if_false]
        exact hstep
      · rw [netFault_of_ok rfl (congrArg Prod.fst hexec)] at hfault
        cases hfault
  | none =>
      rw [hfault, if_pos (by simp)] at hG
      rw [exec_refund, exec_network rfl hfault]
      simp only [RefundWorld.after, hfault, Option.isNone_none, if_true]
      obtain ⟨hinv', hpaid⟩ := hinv.pays hG hbefore.terms (.refund destination _) rfl
      exact ⟨hinv', hnow ▸ hpaid⟩

/-! ### After the payment -/

/-- A write of the call that has paid. -/
theorem RefundInv.write (op : Op) {e : Env} (hinv : RefundInv w) (hpaid : w.HasPaid i)
    (hop : op.writesRefund = true)
    (hdue : ∀ refund, (payoutMachine.exec e op w.books).2.refund = some refund →
      w.books.refund = some refund ∨
        ∃ p ∈ w.paid, RefundDue w.books.challenge p.2 refund.amountStroops) :
    RefundInv { w with
      books := (payoutMachine.exec e op w.books).2
      writes := w.writes ++ [(i, op)] } := by
  have hframe : RefundFrame w.books (payoutMachine.exec e op w.books).2 := refundFrame_exec hop
  refine ⟨hinv.once, ?_, hinv.unopposed, fun entry hentry => ?_, fun refund hrefund => ?_⟩
  · show ((payoutMachine.exec e op w.books).2.chain.filter Tx.isRefund).length = _
    rw [hframe.chain, hinv.chain]
  · rcases List.mem_append.mp hentry with hentry | hentry
    · exact hinv.writes entry hentry
    · rw [List.mem_singleton.mp hentry]
      exact ⟨hpaid, hop⟩
  · have hbefore : ∃ p ∈ w.paid, RefundDue w.books.challenge p.2 refund.amountStroops := by
      rcases hdue refund hrefund with hold | hnew
      · exact hinv.due refund hold
      · exact hnew
    obtain ⟨p, hp, hamount⟩ := hbefore
    exact ⟨p, hp, hframe.terms.due hamount⟩

/-- The payment is recorded. -/
structure Recorded (i : Nat) (refund : Refund) (w : RefundWorld) : Prop where
  hasPaid : w.HasPaid i
  recorded : w.books.refund = some refund

theorem Recorded.stays {w' : RefundWorld} {refund : Refund} (h : Recorded i refund w)
    (hw : RefundRely i w w') : Recorded i refund w' := by
  obtain ⟨t, ht⟩ := h.hasPaid
  exact ⟨⟨t, hw.grows _ ht⟩, hw.refund refund h.recorded⟩

/-- The row of the payment is inserted: the amount is what was due. -/
theorem refunding_createRefund (refund : Refund) (hw : Paid i c now w)
    (hamount : refund.amountStroops = refundAmountStroops c now)
    (hdue : 0 < refundAmountStroops c now) :
    Refunding i (Prog.call (S := payoutSig) (.createRefund refund))
      (fun row => Recorded i row) (fun _ => LeavesNoTrace i) w := by
  refine refunding_call (fun w' h => hw.stays h) fun w' e hinv hpaid hG => ?_
  have hexec : payoutMachine.exec e.books (.createRefund refund) w'.books =
      (.ok refund, { w'.books with refund := some refund }) := by
    rw [exec_db rfl (hG hpaid.hasPaid)]
    have hnonzero : refund.amountStroops ≠ 0 := by omega
    simp [perform, hpaid.unrecorded, hnonzero]
  have hinv' : RefundInv ((refundMachine i).exec e (.createRefund refund) w').2 := by
    refine hinv.write (.createRefund refund) hpaid.hasPaid rfl fun row hrow => .inr ?_
    rw [hexec] at hrow
    obtain rfl := Option.some.inj hrow
    refine ⟨_, hpaid.paid, hpaid.terms.due ?_⟩
    rw [hamount]
    exact refundDue_refundAmountStroops c now
  refine ⟨hinv', ?_⟩
  rw [exec_refund, hexec]
  exact ⟨hpaid.hasPaid, rfl⟩

/-- The challenge is closed. -/
theorem refunding_close {refund : Refund} (hw : Recorded i refund w) :
    Refunding i (updateChallengeStatus .refunded none)
      (fun _ w' => Recorded i refund w' ∧ w'.books.challenge.status = .refunded)
      (fun _ => LeavesNoTrace i) w := by
  refine refunding_call (fun w' h => hw.stays h) fun w' e hinv hrecorded hG => ?_
  have hexec : payoutMachine.exec e.books (.updateChallengeStatus .refunded none) w'.books =
      perform e.books (.updateChallengeStatus .refunded none) w'.books :=
    exec_db rfl (hG hrecorded.hasPaid)
  refine ⟨hinv.write (.updateChallengeStatus .refunded none) hrecorded.hasPaid rfl
    fun row hrow => .inl ?_, ?_⟩
  · rw [hexec] at hrow
    exact hrow
  · rw [exec_refund, hexec]
    exact ⟨⟨hrecorded.hasPaid, hrecorded.recorded⟩, rfl⟩

/-- The entry in the audit log, and all is done. -/
theorem refunding_insertAuditLog {refund : Refund} (entry : AuditEntry)
    (hw : Recorded i refund w) (hclosed : w.books.challenge.status = .refunded) :
    Refunding i (insertAuditLog entry) (fun _ w' => RefundRecorded w' refund)
      (fun _ => LeavesNoTrace i) w := by
  refine refunding_call
    (A := fun w' => Recorded i refund w' ∧ w'.books.challenge.status = .refunded)
    (fun w' h => ⟨hw.stays h, h.closed hclosed⟩) fun w' e hinv ⟨hrecorded, hclosed⟩ hG => ?_
  have hexec : payoutMachine.exec e.books (.insertAuditLog entry) w'.books =
      perform e.books (.insertAuditLog entry) w'.books := exec_db rfl (hG hrecorded.hasPaid)
  refine ⟨hinv.write (.insertAuditLog entry) hrecorded.hasPaid rfl fun row hrow => .inl ?_,
    ?_⟩
  · rw [hexec] at hrow
    exact hrow
  · rw [exec_refund, hexec]
    exact ⟨hrecorded.recorded, hclosed, hinv.due refund hrecorded.recorded⟩

/-! ### The whole call -/

theorem refunding_payRefund (adminId : UserId) (reason destination : Text)
    (hw : BeforePayment i c w) :
    Refunding i (payRefund adminId reason c destination) (fun refund w' => RefundRecorded w' refund)
      (fun _ => LeavesNoTrace i) w := by
  refine (refunding_dateNow hw).bind fun now w₁ ⟨hbefore, hclock, hdue⟩ => ?_
  refine (refunding_submitRefund destination hbefore hclock hdue).bind fun txHash w₂ hpaid => ?_
  refine (refunding_createRefund _ hpaid rfl hdue).bind fun refund w₃ hrecorded => ?_
  refine (refunding_close hrecorded).bind fun _ w₄ ⟨hrecorded, hclosed⟩ => ?_
  exact (refunding_insertAuditLog _ hrecorded hclosed).bind fun _ _ h => h

theorem refunding_refundDeposit (adminId : UserId) (reason : Text) (hw : BeforePayment i c w) :
    Refunding i (refundDeposit adminId reason c) (fun refund w' => RefundRecorded w' refund)
      (fun _ => LeavesNoTrace i) w := by
  unfold refundDeposit
  split
  · exact hw.trace
  · refine (refunding_getDepositSender _ hw).bind fun sender w' hbefore => ?_
    split
    · exact hbefore.trace
    · exact refunding_payRefund _ _ _ hbefore

/-- **One call.** It returns a recorded refund, or it throws and leaves no trace. -/
theorem refunding_refundChallenge (adminId : UserId) (reason : Text) (hw : LeavesNoTrace i w) :
    Refunding i (refundChallenge adminId reason) (fun refund w' => RefundRecorded w' refund)
      (fun _ => LeavesNoTrace i) w := by
  refine (refunding_find hw).bind fun found w₁ hfound => ?_
  cases found with
  | some refund => exact hfound
  | none =>
      refine (refunding_getChallengeById hfound).bind fun found w₂ ⟨htrace, hbefore⟩ => ?_
      cases found with
      | none => exact htrace
      | some c =>
          dsimp only
          split
          · exact htrace
          · exact refunding_refundDeposit adminId reason (hbefore c rfl)

end Call

/-! ### Any number of calls -/

/-- How a call ends. -/
def RefundEnds (i : Nat) : Except Err Refund → RefundWorld → Prop :=
  Prog.Ends (fun refund w => RefundRecorded w refund) fun _ => LeavesNoTrace i

theorem refunds_proved : Crew.Proved refundMachine Atomic RefundCall (fun _ _ => False) RefundInv
    RefundRely LeavesNoTrace RefundEnds where
  refl _ _ hw := refundRely_refl hw
  trans _ _ _ _ h h' := h.trans h'
  stays _ _ _ h hw := h.stays hw
  lasts i r w w' h hw := by
    cases r with
    | ok refund => exact RefundRecorded.stays h hw
    | error err => exact LeavesNoTrace.stays h hw
  spawned i w p hp _ hw := by
    obtain ⟨adminId, reason, rfl⟩ := hp
    exact refunding_refundChallenge adminId reason hw
  others i j w op e hij hw hG hw' := refundRely_step hij hw (refundStep_exec hG) hw'
  drifted _ _ _ _ h := h.elim

/-- **Refunds are atomic.** In every interleaving of calls that go well, at most one refund is
paid, a call that throws leaves no trace, and one that returns has its refund recorded. -/
theorem refunds_atomic (w₀ : RefundWorld) (hpaid : w₀.paid = []) (hwrites : w₀.writes = [])
    (hunopposed : w₀.unopposed = []) (hchain : ∀ tx ∈ w₀.books.chain, tx.isRefund = false)
    (hrefund : w₀.books.refund = none) {w : RefundWorld} {calls : List (Service Refund)}
    (h : Crew refundMachine Atomic RefundCall (fun _ _ => False) w₀ w calls) :
    RefundsAtomic w calls := by
  have h₀ : RefundInv w₀ := by
    refine ⟨by simp [hpaid], ?_, by simp [hunopposed], by simp [hwrites], by simp [hrefund]⟩
    rw [List.filter_eq_nil_iff.mpr fun tx htx => by simp [hchain tx htx], hpaid]
    rfl
  obtain ⟨hinv, hcalls, -⟩ := refunds_proved.sound h₀
    (fun _ => ⟨by simp [hpaid], by simp [hwrites]⟩) h
  exact ⟨hinv.chain ▸ hinv.once, fun i err hi => hcalls i _ hi, fun i refund hi => hcalls i _ hi⟩

/-! ### Two admins

A pool of a thousand stroops, and two calls for it. -/

instance (w : RefundWorld) : Decidable w.Settled := inferInstanceAs (Decidable (_ ∨ _))

instance (w : RefundWorld) (i : Nat) : Decidable (w.HasPaid i) :=
  decidable_of_iff (∃ p ∈ w.paid, p.1 = i)
    ⟨fun ⟨p, hp, hi⟩ => ⟨p.2, hi ▸ hp⟩, fun ⟨t, ht⟩ => ⟨(i, t), ht, rfl⟩⟩

instance (i : Nat) (w : RefundWorld) : ∀ (op : Op) (e : RefundEnv), Decidable (Atomic i w op e)
  | .findRefundByChallengeId, _ | .createRefund _, _ | .updateChallengeStatus .., _
  | .insertAuditLog _, _ => inferInstanceAs (Decidable (_ → _))
  | .dateNow, _ => inferInstanceAs (Decidable (_ < _))
  | .submitRefundPayment .., e => inferInstanceAs (Decidable (if e.books.netFault.isNone
      then i ∈ w.unopposed else e.applied = false))
  | .getChallengeById, _ | .getLeaderboard, _ | .getChallengeTiers, _
  | .getLicensePayoutTerms, _ | .createPayout .., _ | .updatePayoutStatus .., _
  | .incrementUserEarnings .., _ | .queueReferralBonusForPayout .., _ | .insertNotification _, _
  | .isNotificationCategoryEnabled _, _ | .findPayout _, _ | .resetPayout .., _
  | .enqueuePayoutJob, _ | .settle _, _ | .stellar _, _ | .getDepositSender _, _ => .isTrue trivial

/-- A history that starts with these books. -/
def RefundWorld.starting (b : World) : RefundWorld := ⟨b, [], [], [], fun _ => 0⟩

/-- A call with nothing to disturb it. -/
def calmRefund : RefundEnv := ⟨calm, false⟩

def adminCall (adminId : UserId) : Service Refund :=
  refundChallenge adminId "brand request".toList

theorem adminCalls_reached {G : Nat → RefundWorld → Op → RefundEnv → Prop} (w₀ : RefundWorld) :
    Crew refundMachine G RefundCall (fun _ _ => False) w₀ w₀ [adminCall 8, adminCall 9] :=
  Crew.spawn (Crew.spawn .init ⟨8, _, rfl⟩) ⟨9, _, rfl⟩

/-- One after the other: the second call returns the refund of the first. -/
def inTurn : RefundWorld × List (Service Refund) :=
  playCrew refundMachine (List.replicate 8 (0, calmRefund) ++ [(1, calmRefund)])
    (.starting (.ended 1000000000 [])) [adminCall 8, adminCall 9]

theorem second_refund_returns_first :
    inTurn.1.books.chain = [.refund "GBRAND".toList 1000000000] ∧
      inTurn.1.books.refund =
        some ⟨8, "brand request".toList, 1000000000, "GBRAND".toList, some 0⟩ ∧
      RefundsAtomic inTurn.1 inTurn.2 := by
  refine ⟨by decide +kernel, by decide +kernel, ?_⟩
  exact refunds_atomic (.starting (.ended 1000000000 [])) rfl rfl rfl (by decide) rfl
    (Crew.play _ (adminCalls_reached _) (by decide +kernel))

/-- Both look for a refund before either has paid. -/
def bothLook : List (Nat × RefundEnv) :=
  (List.replicate 4 (0, calmRefund) ++ List.replicate 4 (1, calmRefund)) ++
    [(0, calmRefund), (1, calmRefund)]

/-- The connection is lost right after the payment. -/
def lostAfterPayment : List (Nat × RefundEnv) :=
  List.replicate 5 (0, calmRefund) ++ [(0, ⟨dbDown, false⟩)]

/-- A challenge that has started, of which nothing is given back any more. -/
def nothingDue : World :=
  { World.ended 1000000000 [] with
    challenge := { (World.ended 1000000000 []).challenge with refundPolicy := .noneAfterStart } }

instance (e : Env) : Decidable (Calm e) := inferInstanceAs (Decidable (_ ∧ _))

/-- Two calls that nothing disturbs both pay; a call that loses the connection after its payment
throws; and so does, with nothing to disturb it, a call where nothing is due. -/
theorem refunds_not_atomic :
    (¬ ∀ (w : RefundWorld) (calls : List (Service Refund)),
      Crew refundMachine (fun _ _ _ e => Calm e.books) RefundCall (fun _ _ => False)
        (.starting (.ended 1000000000 [])) w calls →
        (w.books.chain.filter Tx.isRefund).length ≤ 1) ∧
    (¬ ∀ (w : RefundWorld) (calls : List (Service Refund)),
      Crew refundMachine (fun _ _ _ _ => True) RefundCall (fun _ _ => False)
        (.starting (.ended 1000000000 [])) w calls →
        ∀ (i : Nat) (err : Err), calls[i]? = some (.raise err) → ∀ t, (i, t) ∉ w.paid) ∧
    ¬ ∀ (w : RefundWorld) (calls : List (Service Refund)),
      Crew refundMachine (fun _ _ _ e => Calm e.books) RefundCall (fun _ _ => False)
        (.starting nothingDue) w calls →
        ∀ (i : Nat) (err : Err), calls[i]? ≠ some (.raise err) := by
  have hcalm : ∀ (schedule : List (Nat × RefundEnv)) (w : RefundWorld)
      (calls : List (Service Refund)), (∀ move ∈ schedule, Calm move.2.books) →
      playCrewOk refundMachine (fun _ _ _ e => Calm e.books) schedule w calls :=
    fun schedule _ _ h => playCrewOk_of_forall schedule fun move hmove _ _ => h move hmove
  refine ⟨fun hall => ?_, fun hall => ?_, fun hall => ?_⟩
  · have honce := hall _ _ (Crew.play bothLook (adminCalls_reached _)
      (hcalm _ _ _ (by decide +kernel)))
    revert honce
    decide +kernel
  · have hthrew := hall _ _ (Crew.play lostAfterPayment (adminCalls_reached _)
      (playCrewOk_of_forall _ fun _ _ _ _ => trivial)) 0
      (Err.new "Connection terminated".toList) rfl 0
    revert hthrew
    decide +kernel
  · exact hall _ _ (Crew.play (List.replicate 5 (0, calmRefund)) (adminCalls_reached _)
      (hcalm _ _ _ (by decide +kernel))) 0 constraintViolation rfl

end BrandBlitz.Payout

import BrandBlitz.Referrals.Bonus

/-!
# BrandBlitz.Referrals.Runs

**What one call and one run do**, for any world: which operations
`queueReferralBonusForPayout` and `processReferralBonusJob` can emit, whatever fails, and
what they end in when nothing fails.
-/

namespace BrandBlitz.Referrals

open BrandBlitz.Lib BrandBlitz.Stellar

/-! ### One operation -/

section Exec

variable {i : Nat} {op : Op} {e : Env} {w : World} {answered : Bool}

/-- Booking changes the books of the readers and the calls only. -/
theorem note_books (w : World) (i : Nat) (op : Op) (answered : Bool) : ∃ readers marking,
    w.note i op answered = { w with readers := readers, marking := marking } := by
  unfold World.note
  split
  · split
    · exact ⟨_, w.marking, rfl⟩
    · exact ⟨w.readers, w.marking, rfl⟩
  · split
    · exact ⟨w.readers, _, rfl⟩
    · exact ⟨w.readers, w.marking, rfl⟩
  · exact ⟨w.readers, _, rfl⟩
  · exact ⟨w.readers, w.marking, rfl⟩

@[simp] theorem note_referral : (w.note i op answered).referral = w.referral := by
  obtain ⟨_, _, h⟩ := note_books w i op answered
  rw [h]

@[simp] theorem note_users : (w.note i op answered).users = w.users := by
  obtain ⟨_, _, h⟩ := note_books w i op answered
  rw [h]

@[simp] theorem note_payout : (w.note i op answered).payout = w.payout := by
  obtain ⟨_, _, h⟩ := note_books w i op answered
  rw [h]

@[simp] theorem note_chain : (w.note i op answered).chain = w.chain := by
  obtain ⟨_, _, h⟩ := note_books w i op answered
  rw [h]

/-- A call has its effect or none, and is booked. -/
theorem exec_world {P : World → Prop} (hkeep : P (w.note i op false))
    (heffect : ∀ answered, P ((perform i e op w).2.note i op answered)) :
    P ((bonusMachine i).exec e op w).2 := by
  simp only [bonusMachine]
  split
  · split
    · exact heffect false
    · exact hkeep
  · exact heffect true

/-- A call that is answered had its effect. -/
theorem perform_of_exec {a : referralSig.Ans op}
    (h : ((bonusMachine i).exec e op w).1 = .ok a) : (perform i e op w).1 = .ok a := by
  simp only [bonusMachine] at h
  split at h
  · cases h
  · exact h

end Exec

/-! ### Addresses and amounts -/

theorem ne_nil_of_resolvePayoutAddress {user : Option User} {address : Text}
    (h : resolvePayoutAddress user = some address) : address ≠ [] := by
  unfold resolvePayoutAddress at h
  split at h
  · cases h
  · rename_i user
    dsimp only at h
    cases hembedded : (user.embeddedWalletAddress.map trim).filter (!·.isEmpty) with
    | some embedded =>
        rw [hembedded] at h
        obtain rfl : embedded = address := by simpa using h
        simpa using (Option.filter_eq_some_iff.mp hembedded).2
    | none =>
        rw [hembedded] at h
        have hstellar : (user.stellarAddress.map trim).filter (!·.isEmpty) = some address := h
        simpa using (Option.filter_eq_some_iff.mp hstellar).2

/-- The referrer's bonus for a win that is large enough to have one. -/
theorem cappedReferrerAmount_eq {amount : Int} (h : 10 ≤ amount) :
    cappedReferrerAmount amount = min (amount / 10) 50000000 := by
  have htdiv : amount.tdiv 10 = amount / 10 := Int.tdiv_eq_ediv_of_nonneg (by omega)
  rw [cappedReferrerAmount, htdiv]
  split
  · rw [Int.min_eq_right (by omega)]
  · rw [Int.min_eq_left (by omega)]

/-- What a row stands for: `m` stroops are owed to the referrer at `a`, and `n` to the referred user
at `b`. -/
structure ReferralPayout.Owes (row : ReferralPayout) (a b : Text) (m n : Nat) : Prop where
  referrerAddress : row.referrerStellarAddress = some a
  referredAddress : row.referredStellarAddress = some b
  referrerAmount : row.referrerAmountStroops = Nat.toDigits 10 m
  referredAmount : row.referredAmountStroops = Nat.toDigits 10 n
  referrerAddress_ne : a ≠ []
  referredAddress_ne : b ≠ []
  referrerAmount_pos : 0 < m
  referredAmount_pos : 0 < n

/-- The payments a job submits for such a row: the digits are read as whole USDC. -/
def bonusPayments (a b : Text) (m n : Nat) : List Payment :=
  [⟨a, m * Payout.STROOPS_PER_USDC⟩, ⟨b, n * Payout.STROOPS_PER_USDC⟩]

section Rows

variable {row : ReferralPayout} {a b : Text} {m n : Nat}

/-- Both payments are valid and go into one transaction. -/
theorem ReferralPayout.Owes.payoutBatches (h : row.Owes a b m n) :
    payoutBatches (bonusRecipients row a b) = [bonusRecipients row a b] := by
  have hvalid : ∀ address amount, address ≠ [] → 0 < amount →
      getInvalidRecipientReason (⟨address, Nat.toDigits 10 amount, ()⟩ : PayoutRecipient Unit) =
        none := by
    intro address amount haddress hamount
    simp [getInvalidRecipientReason, haddress, Payout.isValidStellarAmount_toDigits hamount]
  have hreferrer := hvalid a m h.referrerAddress_ne h.referrerAmount_pos
  have hreferred := hvalid b n h.referredAddress_ne h.referredAmount_pos
  simp [Stellar.payoutBatches, bonusRecipients, h.referrerAmount, h.referredAmount, hreferrer,
    hreferred, chunkArray, chunksOf, MAX_OPS_PER_TX]

theorem ReferralPayout.Owes.ledgerPayments (h : row.Owes a b m n) :
    ledgerPayments (bonusRecipients row a b) = bonusPayments a b m n := by
  simp [Referrals.ledgerPayments, bonusRecipients, bonusPayments, h.referrerAmount,
    h.referredAmount, Payout.usdcToStroops_toDigits, Except.toOption]

/-- The addresses are there. -/
theorem ReferralPayout.Owes.payBonus (h : row.Owes a b m n) :
    payBonus row = submitBonus row a b := by
  have hfilter : ∀ address : Text, address ≠ [] →
      (some address).filter (!·.isEmpty) = some address := by
    intro address haddress
    simp [Option.filter, haddress]
  rw [Referrals.payBonus, h.referrerAddress, h.referredAddress, hfilter a h.referrerAddress_ne,
    hfilter b h.referredAddress_ne]

end Rows

/-- The row a call asks for. -/
def newBonus (params : BonusParams) (referral : Referral) (referrerAddress referredAddress : Text) :
    NewReferralPayout :=
  ⟨referral.id, params.challengeId, referral.referrerId, referral.referredId,
    some referrerAddress, some referredAddress,
    cappedReferrerAmount params.referralWinAmountStroops, refereeAmount⟩

/-- Such a row owes what it asks for. -/
theorem newBonus_owes {params : BonusParams} {referral : Referral} {u v : Option User}
    {a b : Text} (ha : resolvePayoutAddress u = some a) (hb : resolvePayoutAddress v = some b)
    (hamount : 1 ≤ cappedReferrerAmount params.referralWinAmountStroops) (id : Id) :
    ((newBonus params referral a b).row id).Owes a b
      (cappedReferrerAmount params.referralWinAmountStroops).toNat 10000000 where
  referrerAddress := rfl
  referredAddress := rfl
  referrerAmount := rfl
  referredAmount := congrArg (Nat.toDigits 10) (by decide : refereeAmount.toNat = 10000000)
  referrerAddress_ne := ne_nil_of_resolvePayoutAddress ha
  referredAddress_ne := ne_nil_of_resolvePayoutAddress hb
  referrerAmount_pos := by omega
  referredAmount_pos := by decide

/-! ### What is emitted -/

/-- Does the operation read nothing but the surroundings of the row, or write the audit log? -/
def Op.isQuiet : Op → Bool
  | .findReferralByReferredId _ | .getSession .. | .isFraudSession _
  | .auditReferralBonusSkipped _ | .findUserById _ => true
  | _ => false

section Emission

variable {ok : Op → Prop} {good : (op : Op) → Except Err (referralSig.Ans op) → Prop}

theorem emits_call {op : Op} (h : ok op) :
    (Prog.call (S := referralSig) op : Service (referralSig.Ans op)).Emits ok good
      fun _ => True := Prog.Emits.call h fun _ _ => trivial

/-- Looking for a flagged session is quiet. -/
theorem findFlagged_emits {α : Type} {P : α → Prop} (hquiet : ∀ op, op.isQuiet = true → ok op)
    (userId : Id) (challengeId : Option Id) {f : Option Id → Service α}
    (hf : ∀ flagged, (f flagged).Emits ok good P) :
    ((findReferralSessionId userId challengeId).bind fun sessionId =>
      (findFlagged sessionId).bind f).Emits ok good P := by
  have hsession : (findReferralSessionId userId challengeId).Emits ok good fun _ => True := by
    cases challengeId with
    | none => trivial
    | some c => exact emits_call (hquiet _ rfl)
  refine hsession.bind fun sessionId _ => ?_
  cases sessionId with
  | none => exact hf none
  | some s =>
      refine Prog.Emits.bind (P := fun _ => True) ?_ fun flagged _ => hf flagged
      exact Prog.Emits.bind (emits_call (hquiet _ rfl)) fun _ _ => trivial

/-- **What a call can emit**: quiet operations, the creation of the row it describes, and
the two last writes. `R` is what is known of the referral it reads, `U` of the users. -/
theorem queueReferralBonusForPayout_emits {R : Referral → Prop} {U : Id → Option User → Prop}
    (params : BonusParams) (hquiet : ∀ op, op.isQuiet = true → ok op)
    (hreferral : ∀ u r, good (.findReferralByReferredId u) (.ok (some r)) → R r)
    (husers : ∀ id u, good (.findUserById id) (.ok u) → U id u)
    (hcreate : ∀ referral u v a b, R referral → U referral.referrerId u →
      U referral.referredId v → resolvePayoutAddress u = some a → resolvePayoutAddress v = some b →
      1 ≤ cappedReferrerAmount params.referralWinAmountStroops →
      ok (.createReferralPayout (newBonus params referral a b)))
    (hmark : ∀ id, ok (.markReferralRewarded id))
    (henqueue : ∀ id, ok (.enqueueReferralBonus id)) :
    (queueReferralBonusForPayout params).Emits ok good fun _ => True := by
  have hread : (findReferralByReferredId params.referredUserId).Emits ok good
      fun found => ∀ r, found = some r → R r := by
    refine Prog.Emits.call (S := referralSig) (hquiet _ rfl) fun found hgood r hr => ?_
    exact hreferral _ r (hr ▸ hgood)
  refine Prog.Emits.bind hread fun found hfound => ?_
  cases found with
  | none => trivial
  | some referral =>
      dsimp only
      split
      · trivial
      refine findFlagged_emits hquiet _ _ fun flagged => ?_
      cases flagged with
      | some sessionId => exact emits_call (hquiet _ rfl)
      | none =>
          refine Prog.Emits.bind (P := U referral.referrerId)
            (Prog.Emits.call (hquiet _ rfl) fun u hu => husers _ u hu) fun u hu => ?_
          refine Prog.Emits.bind (P := U referral.referredId)
            (Prog.Emits.call (hquiet _ rfl) fun v hv => husers _ v hv) fun v hv => ?_
          split
          · rename_i a b ha hb
            split
            · trivial
            rename_i hamount
            refine Prog.Emits.bind (P := fun _ => True) (emits_call (hcreate referral u v a b
              (hfound referral rfl) hu hv ha hb ?_)) fun payout _ => ?_
            · simp only [Bool.or_eq_true, decide_eq_true_eq, not_or] at hamount
              omega
            · split
              · trivial
              · exact Prog.Emits.tryCatch (Prog.Emits.bind (emits_call (hmark _)) fun _ _ =>
                  emits_call (henqueue _)) fun _ => trivial
          · trivial

/-- **What a run can emit** for a row that tells what is owed: quiet operations, status
writes, and transactions with just the two payments. -/
theorem processReferralBonusJob_emits {a b : Text} {m n : Nat} (id : Id)
    (hquiet : ∀ op, op.isQuiet = true → ok op) (hfind : ok (.findReferralPayoutById id))
    (hrow : ∀ row, good (.findReferralPayoutById id) (.ok (some row)) → row.Owes a b m n)
    (hupdate : ∀ id status txHash errorMessage,
      ok (.updateReferralPayoutStatus id status txHash errorMessage))
    (hprepare : ∀ op, (∀ tx, op ≠ .submitTransaction tx) → ok (.stellar op))
    (hsubmit : ∀ tx : Envelope Unit, ledgerPayments tx.payments = bonusPayments a b m n →
      ok (.stellar (.submitTransaction tx))) :
    (processReferralBonusJob id).Emits ok good fun _ => True := by
  have hread : (findReferralPayoutById id).Emits ok good
      fun found => ∀ row, found = some row → row.Owes a b m n :=
    Prog.Emits.call (S := referralSig) hfind fun found hgood row hr => hrow row (hr ▸ hgood)
  refine Prog.Emits.bind hread fun found hfound => ?_
  cases found with
  | none => trivial
  | some payout =>
      have howes := hfound payout rfl
      dsimp only
      split
      · trivial
      refine findFlagged_emits hquiet _ _ fun flagged => ?_
      cases flagged with
      | some sessionId =>
          exact Prog.Emits.bind (emits_call (hupdate ..)) fun _ _ => emits_call (hquiet _ rfl)
      | none =>
          dsimp only
          rw [howes.payBonus]
          have hbatch : (submitBatchPayout batchOptions
              ("referral-".toList ++ Nat.toDigits 10 payout.id)
              (bonusRecipients payout a b)).Emits (fun op => ok (.stellar op))
                (fun _ _ => True) fun _ => True := by
            refine (submitBatchPayout_emits hprepare (fun tx htx => hsubmit tx ?_) _ _).mono
              fun _ _ => trivial
            rw [howes.payoutBatches, List.mem_singleton] at htx
            rw [htx, howes.ledgerPayments]
          refine Prog.Emits.bind (P := fun _ => True) ?_ fun results _ => ?_
          · exact Prog.Emits.embed (h := stellarHom) (fun _ _ _ => trivial) hbatch
          · split
            · exact emits_call (hupdate ..)
            · split <;> exact emits_call (hupdate ..)

end Emission

/-! ### When nothing fails -/

/-- No call throws by the environment's doing. -/
def Calm (_ : World) (_ : Op) (e : Env) : Prop := e.fault = none

/-- The session of a user in a challenge, if it is flagged. -/
def World.flaggedSession (w : World) (userId : Id) (challengeId : Option Id) : Option Id :=
  (challengeId.bind (w.sessions userId)).filter fun sessionId => w.fraudFlags sessionId

/-- The win earns a bonus: it is that of the referred user, both users have an address,
the win is large enough and its session is not flagged. -/
structure Eligible (w : World) (params : BonusParams) (referral : Referral) (a b : Text) :
    Prop where
  stored : w.referral = some referral
  referred : referral.referredId = params.referredUserId
  referrerAddress : resolvePayoutAddress (w.users referral.referrerId) = some a
  referredAddress : resolvePayoutAddress (w.users referral.referredId) = some b
  amount : 10 ≤ params.referralWinAmountStroops
  unflagged : w.flaggedSession params.referredUserId params.challengeId = none

/-- The bonus is due: the referral is not rewarded yet. -/
structure Due (w : World) (params : BonusParams) (referral : Referral) (a b : Text) : Prop
    extends Eligible w params referral a b where
  unrewarded : referral.rewarded = false

/-- The worlds before and after a call that queued a job for the row. -/
structure Queued (w w' : World) (row : ReferralPayout) : Prop where
  payout : w'.payout = some row
  pending : row.status = .pending
  jobs : w'.jobs = w.jobs ++ [row.id]
  chain : w'.chain = w.chain
  sessions : w'.sessions = w.sessions
  fraudFlags : w'.fraudFlags = w.fraudFlags

theorem Queued.flaggedSession {w w' : World} {row : ReferralPayout} (h : Queued w w' row)
    {userId : Id} {challengeId : Option Id} :
    w'.flaggedSession userId challengeId = w.flaggedSession userId challengeId := by
  rw [World.flaggedSession, World.flaggedSession, h.sessions, h.fraudFlags]

section Calm

variable {i : Nat} {w : World}

/-- A program that ends without a throw, in `Q`. -/
abbrev CalmRun {α : Type} (i : Nat) (p : Service α) (Q : α → World → Prop) (w : World) : Prop :=
  p.wp (bonusMachine i) Calm (fun _ => True) (Prog.Ends Q fun _ _ => False) w

/-- Such a program ends in `Q` however the environment numbers rows and sequences. -/
theorem CalmRun.run {α : Type} {p : Service α} {Q : α → World → Prop} (h : CalmRun i p Q w)
    {s : Nat → Env} (hs : ∀ n, (s n).fault = none) :
    ∃ a, Q a (p.run (bonusMachine i) s w).2 := by
  have hend := Prog.run_of_wp h fun _ _ n => hs n
  cases hresult : (p.run (bonusMachine i) s w).1 with
  | ok a =>
      rw [hresult] at hend
      exact ⟨a, hend⟩
  | error err =>
      rw [hresult] at hend
      exact hend.elim

theorem exec_calm {e : Env} (he : e.fault = none) (op : Op) :
    (bonusMachine i).exec e op w =
      ((perform i e op w).1, (perform i e op w).2.note i op true) := by
  simp only [bonusMachine, he]

/-- A call that is answered. -/
theorem calmRun_call {op : Op} {Q : referralSig.Ans op → World → Prop}
    (h : ∀ e : Env, ∃ a, (perform i e op w).1 = .ok a ∧
      Q a ((perform i e op w).2.note i op true)) :
    CalmRun i (Prog.call (S := referralSig) op) Q w := by
  refine Prog.wp_call fun e he => ⟨trivial, ?_⟩
  obtain ⟨a, ha, hQ⟩ := h e
  rw [exec_calm he]
  dsimp only
  rw [ha]
  exact hQ

/-- Looking for a flagged session finds it and changes nothing. -/
theorem calmRun_findFlagged {α : Type} {Q : α → World → Prop} {userId : Id}
    {challengeId : Option Id} {f : Option Id → Service α}
    (hf : CalmRun i (f (w.flaggedSession userId challengeId)) Q w) :
    CalmRun i ((findReferralSessionId userId challengeId).bind fun sessionId =>
      (findFlagged sessionId).bind f) Q w := by
  have hsession : CalmRun i (findReferralSessionId userId challengeId)
      (fun found w' => found = challengeId.bind (w.sessions userId) ∧ w' = w) w := by
    cases challengeId with
    | none => exact ⟨rfl, rfl⟩
    | some c => exact calmRun_call fun e => ⟨_, rfl, rfl, rfl⟩
  refine Prog.wp_bind hsession fun found w' hfound => ?_
  obtain ⟨rfl, rfl⟩ := hfound
  unfold World.flaggedSession at hf
  cases hs : challengeId.bind (w'.sessions userId) with
  | none => rwa [hs] at hf
  | some s =>
      rw [hs] at hf
      refine Prog.wp_bind
        (P := fun found w'' => found = (some s).filter w'.fraudFlags ∧ w'' = w') ?_
        fun found w'' hfound => ?_
      · refine Prog.wp_bind (P := fun flagged w'' => flagged = w'.fraudFlags s ∧ w'' = w')
          (calmRun_call fun e => ⟨_, rfl, rfl, rfl⟩) fun flagged w'' hflagged => ?_
        obtain ⟨rfl, rfl⟩ := hflagged
        exact ⟨rfl, rfl⟩
      · obtain ⟨rfl, rfl⟩ := hfound
        exact hf

/-- The last two writes. -/
theorem calmRun_enqueueBonus {referral : Referral} {row : ReferralPayout} {w₁ : World}
    (hrow : w.payout = some row) (hpending : row.status = .pending) (hjobs : w.jobs = w₁.jobs)
    (hchain : w.chain = w₁.chain) (hsessions : w.sessions = w₁.sessions)
    (hflags : w.fraudFlags = w₁.fraudFlags) :
    CalmRun i (enqueueBonus referral row) (fun _ w' => Queued w₁ w' row) w := by
  refine Prog.wp_tryCatch (P := fun _ _ => False) ?_ fun _ _ hfalse => hfalse.elim
  refine Prog.wp_bind (P := fun _ w' => Queued w₁ { w' with jobs := w₁.jobs ++ [row.id] } row ∧
    w'.jobs = w₁.jobs) (calmRun_call fun e => ⟨(), rfl, ?_, hjobs⟩) fun _ w' hmarked => ?_
  · exact ⟨hrow, hpending, rfl, hchain, hsessions, hflags⟩
  · obtain ⟨hqueued, hjobs'⟩ := hmarked
    refine calmRun_call fun e => ⟨(), rfl, hqueued.payout, hpending, ?_, hqueued.chain,
      hqueued.sessions, hqueued.fraudFlags⟩
    exact congrArg (· ++ [row.id]) hjobs'

/-- **A call that nothing disturbs** queues a job for the referral's row, which it creates
unless it is there. -/
theorem calmRun_queueReferralBonusForPayout {params : BonusParams} {referral : Referral}
    {a b : Text} (hdue : Due w params referral a b)
    (hpending : ∀ row, w.payout = some row → row.status = .pending) :
    CalmRun i (queueReferralBonusForPayout params) (fun _ w' => ∃ row,
      (w.payout = some row ∨
        (w.payout = none ∧ ∃ id, row = (newBonus params referral a b).row id)) ∧
      Queued w w' row) w := by
  have hcapped := cappedReferrerAmount_eq hdue.amount
  have hamount := hdue.amount
  have hsmall : ¬ (decide (cappedReferrerAmount params.referralWinAmountStroops < 1) ||
      decide (refereeAmount < 1)) = true := by
    simp only [Bool.or_eq_true, decide_eq_true_eq, not_or, hcapped]
    exact ⟨by omega, by decide⟩
  refine Prog.wp_bind (P := fun found w' => found = some referral ∧ w' = w)
    (calmRun_call fun e => ⟨_, rfl, ?_, rfl⟩) fun found w' hfound => ?_
  · simp [hdue.stored, hdue.referred]
  obtain ⟨rfl, rfl⟩ := hfound
  simp only [hdue.unrewarded, Bool.false_eq_true, if_false]
  refine calmRun_findFlagged ?_
  rw [hdue.unflagged]
  refine Prog.wp_bind (P := fun u w'' => u = w'.users referral.referrerId ∧ w'' = w')
    (calmRun_call fun e => ⟨_, rfl, rfl, rfl⟩) fun u w'' hu => ?_
  obtain ⟨rfl, rfl⟩ := hu
  refine Prog.wp_bind (P := fun v w' => v = w''.users referral.referredId ∧ w' = w'')
    (calmRun_call fun e => ⟨_, rfl, rfl, rfl⟩) fun v w' hv => ?_
  obtain ⟨rfl, rfl⟩ := hv
  simp only [hdue.referrerAddress, hdue.referredAddress]
  rw [if_neg hsmall]
  -- the row that is there, or a new one
  refine Prog.wp_bind (P := fun row w'' => (w'.payout = some row ∨ (w'.payout = none ∧
      ∃ id, row = (newBonus params referral a b).row id)) ∧ w'' = { w' with payout := some row })
    (calmRun_call fun e => ?_) fun row w'' hrow => ?_
  · have hpositive : 0 < cappedReferrerAmount params.referralWinAmountStroops ∧
        0 < refereeAmount := by rw [hcapped]; exact ⟨by omega, by decide⟩
    simp only [perform, hpositive, and_self, if_true]
    cases hpayout : w'.payout with
    | some row => exact ⟨row, rfl, .inl rfl, by cases w'; simp_all [World.note]⟩
    | none => exact ⟨_, rfl, .inr ⟨rfl, e.number, rfl⟩, rfl⟩
  · obtain ⟨horigin, rfl⟩ := hrow
    have hstatus : row.status = .pending := by
      rcases horigin with hthere | ⟨-, id, rfl⟩
      · exact hpending row hthere
      · rfl
    rw [if_neg (by simp [hstatus])]
    have hlast : CalmRun i (enqueueBonus referral row) (fun _ w'' => Queued w' w'' row)
        { w' with payout := some row } := calmRun_enqueueBonus rfl hstatus rfl rfl rfl rfl
    exact Prog.wp_weaken hlast (fun _ w'' hqueued => ⟨row, horigin, hqueued⟩)
      fun _ _ hfalse => hfalse

/-- The same for a program over the operations of `submitBatchPayout`. -/
abbrev CalmSubmission {α : Type} (i : Nat) (p : Prog (stellarSig Unit) Err α)
    (Q : α → World → Prop) (w : World) : Prop :=
  p.wp (Prog.Machine.comap stellarHom (bonusMachine i))
    (fun w op e => Calm w (stellarHom.op op) e) (fun _ => True) (Prog.Ends Q fun _ _ => False) w

theorem calmSubmission_call {op : StellarOp Unit} {Q : (stellarSig Unit).Ans op → World → Prop}
    (h : ∀ e : Env, ∃ a, (perform i e (.stellar op) w).1 = .ok a ∧
      Q a (perform i e (.stellar op) w).2) :
    CalmSubmission i (Prog.call (S := stellarSig Unit) op) Q w := by
  refine Prog.wp_call fun e he => ⟨trivial, ?_⟩
  obtain ⟨a, ha, hQ⟩ := h e
  have hexec : (bonusMachine i).exec e (.stellar op) w = _ := exec_calm he _
  simp only [Prog.Machine.comap, stellarHom, hexec, ha]
  exact hQ

/-- A batch that nothing disturbs is paid by the first attempt. -/
theorem calmSubmission_submitBatch (options : SubmitBatchPayoutOptions) (memo : Text)
    (batch : List (PayoutRecipient Unit)) (retries : Nat) :
    CalmSubmission i (submitBatch options memo batch retries) (fun result w' =>
      result.success = true ∧
        w' = { w with chain := w.chain ++ [⟨i, ledgerPayments batch⟩] }) w := by
  have hattempt : CalmSubmission i (submitAttempt options memo batch) (fun result w' =>
      result.success = true ∧
        w' = { w with chain := w.chain ++ [⟨i, ledgerPayments batch⟩] }) w := by
    refine Prog.wp_bind (P := fun _ w' => w' = w) ?_ fun sourceSequence w' hw' => ?_
    · unfold sourceAccount
      split <;> exact calmSubmission_call fun e => ⟨_, rfl, rfl⟩
    subst hw'
    refine Prog.wp_bind (P := fun _ w'' => w'' = w') (calmSubmission_call fun e => ⟨_, rfl, rfl⟩)
      fun maxTime w'' hw'' => ?_
    subst hw''
    refine Prog.wp_bind (P := fun _ w' => w' = _) ?_ fun hash w' hw' => ⟨rfl, hw'⟩
    exact Prog.wp_tryCatch (calmSubmission_call fun e => ⟨_, rfl, rfl⟩)
      fun _ _ hfalse => hfalse.elim
  cases retries with
  | zero => exact Prog.wp_tryCatch hattempt fun _ _ hfalse => hfalse.elim
  | succ left => exact Prog.wp_tryCatch hattempt fun _ _ hfalse => hfalse.elim

/-- **A run that nothing disturbs** puts one transaction with the row's payments on the
chain. -/
theorem calmRun_processReferralBonusJob {row : ReferralPayout} {a b : Text} {m n : Nat}
    (hrow : w.payout = some row) (hpending : row.status = .pending) (howes : row.Owes a b m n)
    (hunflagged : w.flaggedSession row.referredId row.challengeId = none) :
    CalmRun i (processReferralBonusJob row.id) (fun _ w' =>
      w'.chain = w.chain ++ [⟨i, bonusPayments a b m n⟩]) w := by
  refine Prog.wp_bind (P := fun found w' => found = some row ∧
      w' = { w with readers := i :: w.readers }) (calmRun_call fun e => ⟨_, rfl, ?_, ?_⟩)
    fun found w' hfound => ?_
  · simp [World.payoutById, hrow]
  · simp [perform, World.note, World.pendingById, World.payoutById, hrow, hpending]
  obtain ⟨rfl, rfl⟩ := hfound
  dsimp only
  rw [if_neg (by simp [hpending])]
  refine calmRun_findFlagged ?_
  have hunflagged' : World.flaggedSession { w with readers := i :: w.readers } row.referredId
      row.challengeId = none := hunflagged
  rw [hunflagged']
  dsimp only
  rw [howes.payBonus]
  have hbatch : CalmRun i ((submitBatchPayout batchOptions
      ("referral-".toList ++ Nat.toDigits 10 row.id) (bonusRecipients row a b)).embed stellarHom)
      (fun results w' => (∃ result, results = [result] ∧ result.success = true) ∧
        w'.chain = w.chain ++ [⟨i, bonusPayments a b m n⟩])
      { w with readers := i :: w.readers } := by
    refine Prog.wp_embed ?_
    rw [submitBatchPayout, howes.payoutBatches]
    refine Prog.wp_bind (calmSubmission_submitBatch _ _ _ _) fun result w' hresult => ?_
    obtain ⟨hsuccess, rfl⟩ := hresult
    refine ⟨⟨result, rfl, hsuccess⟩, ?_⟩
    rw [howes.ledgerPayments]
  refine Prog.wp_bind hbatch fun results w' hresults => ?_
  obtain ⟨⟨result, rfl, hsuccess⟩, hchain⟩ := hresults
  simp only [List.head?_cons, hsuccess, if_true]
  exact calmRun_call fun e => ⟨(), rfl, hchain⟩

end Calm

end BrandBlitz.Referrals

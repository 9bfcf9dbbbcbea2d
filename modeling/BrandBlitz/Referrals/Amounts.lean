import BrandBlitz.Referrals.Runs

/-!
# BrandBlitz.Referrals.Amounts

**The amounts of a bonus on the chain.** The row records stroops as digits, and
`processReferralBonusJob` hands these digits to `submitBatchPayout`, which takes decimal
USDC. The digits pass every format check on the way, so both users receive ten million
times what the row says: a whole USDC for every stroop.
-/

namespace BrandBlitz.Referrals

open BrandBlitz.Lib BrandBlitz.Stellar

/-- The referrer's bonus in stroops. -/
def referrerBonus (params : BonusParams) : Nat :=
  (min (params.referralWinAmountStroops / 10) 50000000).toNat

/-- The payments as the row records them. -/
def recordedPayments (params : BonusParams) (a b : Text) : List Payment :=
  [⟨a, referrerBonus params⟩, ⟨b, 10000000⟩]

/-- The world after a call for a win. -/
def World.afterCall (w : World) (params : BonusParams) (s : Nat → Env) : World :=
  ((queueReferralBonusForPayout params).run (bonusMachine 0) s w).2

/-- The world after a call for a win and a run of the job for a row. -/
def World.afterBonus (w : World) (params : BonusParams) (id : Id) (s t : Nat → Env) : World :=
  ((processReferralBonusJob id).run (bonusMachine 1) t (w.afterCall params s)).2

/-! ### Whatever fails -/

/-- The operations on the way keep to one bonus. -/
def KeepsTo (a b : Text) (m n : Nat) : Op → Prop
  | .createReferralPayout data => ∀ id, (data.row id).Owes a b m n
  | .stellar (.submitTransaction tx) => ledgerPayments tx.payments = bonusPayments a b m n
  | _ => True

/-- The answers are those of one referral, its users and its row. -/
def Tells (referral : Referral) (users : Id → Option User) (a b : Text) (m n : Nat) :
    (op : Op) → Except Err (referralSig.Ans op) → Prop
  | .findReferralByReferredId _, r => ∀ found, r = .ok (some found) →
      found.referrerId = referral.referrerId ∧ found.referredId = referral.referredId
  | .findUserById id, r => ∀ user, r = .ok user → user = users id
  | .findReferralPayoutById _, r => ∀ row, r = .ok (some row) → row.Owes a b m n
  | _, _ => True

/-- A world with one bonus: in its row, if there is one, and in every transaction. -/
structure OneBonus (referral : Referral) (users : Id → Option User) (a b : Text) (m n : Nat)
    (w : World) : Prop where
  referral : ∀ found, w.referral = some found →
    found.referrerId = referral.referrerId ∧ found.referredId = referral.referredId
  users : w.users = users
  payout : ∀ row, w.payout = some row → row.Owes a b m n
  chain : ∀ tx ∈ w.chain, tx.payments = bonusPayments a b m n

section OneBonus

variable {referral : Referral} {users : Id → Option User} {a b : Text} {m n : Nat} {w : World}

/-- A status write changes nothing a row owes. -/
theorem OneBonus.updatePayout (h : OneBonus referral users a b m n w) (id : Id)
    (status : ReferralPayoutStatus) (txHash : Option Hash) (errorMessage : Text) :
    ∀ row, (w.updatePayout id status txHash errorMessage).payout = some row →
      row.Owes a b m n := by
  intro row hrow
  obtain ⟨old, hold, rfl⟩ := Option.map_eq_some_iff.mp hrow
  have howes := h.payout old hold
  split
  · exact ⟨howes.referrerAddress, howes.referredAddress, howes.referrerAmount,
      howes.referredAmount, howes.referrerAddress_ne, howes.referredAddress_ne,
      howes.referrerAmount_pos, howes.referredAmount_pos⟩
  · exact howes

theorem OneBonus.markRewarded (h : OneBonus referral users a b m n w) (id : Id) :
    ∀ found, (w.markRewarded id).referral = some found →
      found.referrerId = referral.referrerId ∧ found.referredId = referral.referredId := by
  intro found hfound
  obtain ⟨old, hold, rfl⟩ := Option.map_eq_some_iff.mp hfound
  split <;> exact h.referral old hold

/-- The effect of an operation that keeps to the bonus. -/
theorem OneBonus.perform (h : OneBonus referral users a b m n w) {i : Nat} {e : Env} {op : Op}
    (hop : KeepsTo a b m n op) : OneBonus referral users a b m n (perform i e op w).2 := by
  cases op with
  | findReferralByReferredId _ => exact h
  | getSession _ _ => exact h
  | isFraudSession _ => exact h
  | auditReferralBonusSkipped _ => exact ⟨h.referral, h.users, h.payout, h.chain⟩
  | findUserById _ => exact h
  | createReferralPayout data =>
      simp only [Referrals.perform]
      split
      · split
        · exact h
        · refine ⟨h.referral, h.users, fun row hrow => ?_, h.chain⟩
          obtain rfl := Option.some.inj hrow
          exact hop _
      · exact h
  | markReferralRewarded id => exact ⟨h.markRewarded id, h.users, h.payout, h.chain⟩
  | enqueueReferralBonus _ => exact ⟨h.referral, h.users, h.payout, h.chain⟩
  | findReferralPayoutById _ => exact h
  | updateReferralPayoutStatus id status txHash errorMessage =>
      simp only [Referrals.perform]
      split
      · exact ⟨h.referral, h.users, h.updatePayout id status txHash errorMessage, h.chain⟩
      · exact h
  | stellar op =>
      cases op with
      | submitTransaction tx =>
          refine ⟨h.referral, h.users, h.payout, fun tx' htx' => ?_⟩
          rcases List.mem_append.mp htx' with hmem | hmem
          · exact h.chain tx' hmem
          · rw [List.mem_singleton.mp hmem]
            exact hop
      | reserveSequence | loadAccount | buildTransaction _ _ _ | resetSequence => exact h

/-- One operation: the bonus stays the one bonus, and is what the programs are told. -/
theorem OneBonus.exec (h : OneBonus referral users a b m n w) {i : Nat} {e : Env} {op : Op}
    (hop : KeepsTo a b m n op) :
    OneBonus referral users a b m n ((bonusMachine i).exec e op w).2 ∧
      Tells referral users a b m n op ((bonusMachine i).exec e op w).1 := by
  have hnote : ∀ (w : World) answered, OneBonus referral users a b m n w →
      OneBonus referral users a b m n (w.note i op answered) := by
    intro w answered h
    exact ⟨by simpa using h.referral, by simpa using h.users, by simpa using h.payout,
      by simpa using h.chain⟩
  refine ⟨exec_world (hnote _ _ h) fun _ => hnote _ _ (h.perform hop), ?_⟩
  cases op with
  | findReferralByReferredId id =>
      intro found hfound
      have hanswer := Except.ok.inj (perform_of_exec hfound)
      exact h.referral found (Option.filter_eq_some_iff.mp hanswer).1
  | findUserById id =>
      intro user huser
      have hanswer := Except.ok.inj (perform_of_exec huser)
      rw [← hanswer, h.users]
  | findReferralPayoutById id =>
      intro row hrow
      have hanswer := Except.ok.inj (perform_of_exec hrow)
      exact h.payout row (Option.filter_eq_some_iff.mp hanswer).1
  | _ => trivial

end OneBonus

section Due

variable {w : World} {params : BonusParams} {referral : Referral} {a b : Text}

theorem Due.referrerBonus_eq (hdue : Due w params referral a b) :
    (cappedReferrerAmount params.referralWinAmountStroops).toNat = referrerBonus params := by
  rw [cappedReferrerAmount_eq hdue.amount, referrerBonus]

theorem Due.referrerBonus_pos (hdue : Due w params referral a b) : 0 < referrerBonus params := by
  have hamount := hdue.amount
  unfold referrerBonus
  omega

/-- Every operation of a call for the win keeps to its bonus. -/
theorem Due.call_emits (hdue : Due w params referral a b) :
    (queueReferralBonusForPayout params).Emits
      (KeepsTo a b (referrerBonus params) 10000000)
      (Tells referral w.users a b (referrerBonus params) 10000000) fun _ => True := by
  refine queueReferralBonusForPayout_emits (R := fun found =>
      found.referrerId = referral.referrerId ∧ found.referredId = referral.referredId)
    (U := fun id user => user = w.users id) params ?_ (fun _ r h => h r rfl)
    (fun _ u h => h u rfl) ?_ (fun _ => trivial) fun _ => trivial
  · intro op hop
    cases op with
    | createReferralPayout _ => cases hop
    | stellar _ => cases hop
    | _ => trivial
  · rintro found u v a' b' ⟨hreferrer, hreferred⟩ rfl rfl ha' hb' hamount id
    rw [hreferrer, hdue.referrerAddress] at ha'
    rw [hreferred, hdue.referredAddress] at hb'
    obtain rfl := Option.some.inj ha'
    obtain rfl := Option.some.inj hb'
    rw [← hdue.referrerBonus_eq]
    exact newBonus_owes hdue.referrerAddress hdue.referredAddress hamount id

/-- Whatever fails, every transaction pays the bonus in whole USDC. -/
theorem Due.afterBonus_chain (hdue : Due w params referral a b) (hrow : w.payout = none)
    (hchain : w.chain = []) (id : Id) (s t : Nat → Env) :
    ∀ tx ∈ (w.afterBonus params id s t).chain,
      tx.payments = bonusPayments a b (referrerBonus params) 10000000 := by
  let K := OneBonus referral w.users a b (referrerBonus params) 10000000
  have hexec : ∀ i (w : World) op e, K w → KeepsTo a b (referrerBonus params) 10000000 op → True →
      K ((bonusMachine i).exec e op w).2 ∧ Tells referral _ a b (referrerBonus params) 10000000
        op ((bonusMachine i).exec e op w).1 :=
    fun i w op e hK hop _ => OneBonus.exec hK hop
  have hstart : K w := by
    refine ⟨fun found hfound => ?_, rfl, fun row h => ?_, fun tx htx => ?_⟩
    · rw [hdue.stored] at hfound
      obtain rfl := Option.some.inj hfound
      exact ⟨rfl, rfl⟩
    · rw [hrow] at h
      cases h
    · rw [hchain] at htx
      cases htx
  have hcall : K (w.afterCall params s) :=
    Prog.run_world_of_wp (G := fun _ _ _ => True) (hdue.call_emits.wp (fun _ _ => trivial)
      (hexec 0) hstart) fun _ _ _ => trivial
  have hjob : (processReferralBonusJob id).Emits (KeepsTo a b (referrerBonus params) 10000000)
      (Tells referral w.users a b (referrerBonus params) 10000000) fun _ => True := by
    refine processReferralBonusJob_emits id ?_ trivial (fun row h => h row rfl)
      (fun _ _ _ _ => trivial) (fun op hop => ?_) fun tx htx => htx
    · intro op hop
      cases op with
      | createReferralPayout _ => cases hop
      | stellar _ => cases hop
      | _ => trivial
    · cases op with
      | submitTransaction tx => exact absurd rfl (hop tx)
      | _ => trivial
  have hpaid : K (w.afterBonus params id s t) :=
    Prog.run_world_of_wp (G := fun _ _ _ => True) (hjob.wp (fun _ _ => trivial)
      (hexec 1) hcall) fun _ _ _ => trivial
  exact hpaid.chain

/-! ### A bonus on the chain -/

/-- The inflated payments are never the recorded ones. -/
theorem bonusPayments_ne (hdue : Due w params referral a b) :
    bonusPayments a b (referrerBonus params) 10000000 ≠ recordedPayments params a b := by
  intro h
  have hpos := hdue.referrerBonus_pos
  simp only [bonusPayments, recordedPayments, List.cons.injEq, Payment.mk.injEq, true_and] at h
  have hreferrer := h.1
  rw [Payout.STROOPS_PER_USDC] at hreferrer
  omega

/-- **No bonus moves the recorded amounts.** For every win of at least ten stroops for
which a bonus is due, and whatever the environment contributes to the call and to the run
of its job, the chain does not end up with the recorded payments. When nothing fails, the
call queues a job, and the job pays ten million times the recorded amounts. -/
theorem bonus_never_moves_recorded_amounts (hdue : Due w params referral a b)
    (hrow : w.payout = none) (hchain : w.chain = []) :
    (∀ id s t, (w.afterBonus params id s t).chain.map (·.payments) ≠
      [recordedPayments params a b]) ∧
    ∀ s, (∀ n, (s n).fault = none) → ∃ id, (w.afterCall params s).jobs = w.jobs ++ [id] ∧
      ∀ t, (∀ n, (t n).fault = none) → (w.afterBonus params id s t).chain.map (·.payments) =
        [[⟨a, referrerBonus params * 10000000⟩, ⟨b, 10000000 * 10000000⟩]] := by
  constructor
  · intro id s t hpaid
    obtain ⟨tx, htx, hpayments⟩ : ∃ tx ∈ (w.afterBonus params id s t).chain,
        tx.payments = recordedPayments params a b :=
      List.mem_map.mp (by rw [hpaid]; exact List.mem_cons_self)
    exact bonusPayments_ne hdue ((hdue.afterBonus_chain hrow hchain id s t tx htx).symm.trans
      hpayments)
  · intro s hs
    have hcalm : CalmRun 0 (queueReferralBonusForPayout params) _ w :=
      calmRun_queueReferralBonusForPayout hdue (by rw [hrow]; exact fun row h => by cases h)
    obtain ⟨-, row, horigin, hqueued⟩ := hcalm.run hs
    obtain ⟨id, rfl⟩ : ∃ id, row = (newBonus params referral a b).row id := by
      rcases horigin with hthere | ⟨-, hnew⟩
      · rw [hrow] at hthere
        cases hthere
      · exact hnew
    have hcapped : 1 ≤ cappedReferrerAmount params.referralWinAmountStroops := by
      have hpos := hdue.referrerBonus_pos
      have heq := hdue.referrerBonus_eq
      omega
    have howes : ((newBonus params referral a b).row id).Owes a b _ _ :=
      newBonus_owes hdue.referrerAddress hdue.referredAddress hcapped id
    rw [hdue.referrerBonus_eq] at howes
    refine ⟨_, hqueued.jobs, fun t ht => ?_⟩
    have hunflagged : (w.afterCall params s).flaggedSession referral.referredId
        params.challengeId = none := by
      rw [hdue.referred]
      exact hqueued.flaggedSession.trans hdue.unflagged
    have hjob : CalmRun 1 (processReferralBonusJob _) _ (w.afterCall params s) :=
      calmRun_processReferralBonusJob hqueued.payout rfl howes hunflagged
    obtain ⟨-, hpaid⟩ := hjob.run ht
    have hbefore : (w.afterCall params s).chain = [] := hqueued.chain.trans hchain
    rw [hbefore, List.nil_append] at hpaid
    exact congrArg (List.map (·.payments)) hpaid

end Due

/-! ### A win of a hundred USDC

Ten USDC would be a tenth, so the referrer's bonus is capped at five. -/

theorem due_referred : Due World.referred (winOf 1000000000) ⟨1, 10, 20, false⟩
    "GREFERRER".toList "GREFERRED".toList where
  stored := rfl
  referred := rfl
  unrewarded := rfl
  referrerAddress := by decide
  referredAddress := by decide
  amount := by decide
  unflagged := rfl

/-- The undisturbed run pays fifty million USDC to the referrer, and ten million to the
referred user. -/
theorem hundred_usdc_inflated :
    (World.referred.afterBonus (winOf 1000000000) 7 (fun _ => calm) fun _ => calm).chain.map
        (·.payments) ≠ [recordedPayments (winOf 1000000000) "GREFERRER".toList
          "GREFERRED".toList] ∧
      (World.referred.afterBonus (winOf 1000000000) 7 (fun _ => calm) fun _ => calm).chain.map
        (·.payments) = [[⟨"GREFERRER".toList, 50000000 * 10000000⟩,
          ⟨"GREFERRED".toList, 10000000 * 10000000⟩]] := by
  obtain ⟨hnever, hcalm⟩ := bonus_never_moves_recorded_amounts due_referred rfl rfl
  obtain ⟨id, hid, hpaid⟩ := hcalm (fun _ => calm) fun _ => rfl
  have hjobs : (World.referred.afterCall (winOf 1000000000) fun _ => calm).jobs = [7] := by
    decide +kernel
  obtain rfl : 7 = id := (List.cons.inj (hjobs.symm.trans hid)).1
  exact ⟨hnever 7 _ _, hpaid _ fun _ => rfl⟩

/-- The win is due its bonus, but not the recorded one. -/
theorem hundred_usdc_not_recorded :
    ¬ ∀ (w : World) (params : BonusParams) (referral : Referral) (a b : Text) (id : Id)
      (s t : Nat → Env), Due w params referral a b → w.payout = none → w.chain = [] →
      (∀ n, (s n).fault = none) → (∀ n, (t n).fault = none) →
      (w.afterCall params s).jobs = w.jobs ++ [id] →
      (w.afterBonus params id s t).chain.map (·.payments) = [recordedPayments params a b] := by
  intro hall
  have hpaid := hall World.referred (winOf 1000000000) _ _ _ 7 (fun _ => calm) (fun _ => calm)
    due_referred rfl rfl (fun _ => rfl) (fun _ => rfl) (by decide +kernel)
  revert hpaid
  decide +kernel

end BrandBlitz.Referrals

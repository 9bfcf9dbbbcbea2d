import BrandBlitz.Lib.Crew
import BrandBlitz.Lib.Shares
import BrandBlitz.Deposit.Delivery

/-!
# BrandBlitz.Deposit.Solvency

**Are the open pools covered?** One hot wallet holds the pools of all challenges. The webhook
activates a challenge when the wallet's whole balance covers that challenge's pool; neither the
amount of the deposit nor the pools that are open already enter the comparison. So one large
deposit carries any number of activations.

What does hold: if every challenge is activated by a deposit of at least its pool, the pools of
the activated challenges never exceed the balance. `UNIQUE (deposit_tx_hash)` makes every
deposit count once.
-/

namespace BrandBlitz.Deposit

open BrandBlitz.Lib BrandBlitz.Payout

/-- Has the webhook moved the challenge to `active`? -/
def Challenge.isFunded (c : Challenge) : Bool := c.status = .active && c.depositTxHash.isSome

/-- The pools of all challenges that the webhook has moved to `active`. -/
def World.openPools (w : World) : Nat :=
  ((w.challenges.rows.filter (·.isFunded)).map (·.poolAmountStroops)).sum

/-- The hot wallet covers them. -/
def Solvent (w : World) : Prop := w.openPools ≤ w.balance

/-- While no payout or refund is made: deposits arrive, and challenges that nobody has funded
are added. -/
inductive Incoming (w : World) : World → Prop
  | deposit (d : OnChainDeposit) : Incoming w { w with deposits := w.deposits ++ [d] }
  | challenge (t : Challenges) (c : Challenge) (hrows : t.rows = w.challenges.rows ++ [c])
      (hc : c.depositTxHash = none) : Incoming w { w with challenges := t }

/-- The transaction that activates a challenge is a deposit of at least the challenge's pool. -/
def Funded (w : World) : Op → Env → Prop
  | .updateChallengeStatusActive id depositTx, _ => ∃ d ∈ w.deposits, d.txHash = depositTx ∧
      ∀ c ∈ w.challenges.rows, c.id = id → c.poolAmountStroops ≤ d.stroops
  | _, _ => True

instance (w : World) : ∀ (op : Op) (e : Env), Decidable (Funded w op e)
  | .updateChallengeStatusActive .., _ => inferInstanceAs (Decidable (∃ d ∈ w.deposits, _ ∧ _))
  | .webhookLimiter, _ | .selectAppConfig, _ | .dateNow, _ | .getChallengeByDepositTxHash _, _
  | .findPayoutByTxHash _, _ | .getChallengeByMemo _, _ | .loadAccount, _ | .setWebhookId .., _
  | .selectBrandId _, _ | .respond .., _ => .isTrue trivial

/-- Every recorded deposit covers the pool of its challenge. -/
def Covered (w : World) : Prop :=
  ∀ c ∈ w.challenges.rows, ∀ txHash, c.depositTxHash = some txHash →
    ∃ d ∈ w.deposits, d.txHash = txHash ∧ c.poolAmountStroops ≤ d.stroops

theorem Covered.solvent {w : World} (h : Covered w) : Solvent w := by
  have hdistinct : ((w.challenges.rows.filter (·.isFunded)).map (·.depositTxHash)).Nodup := by
    refine List.pairwise_map.mpr
      ((w.challenges.txHashes.sublist List.filter_sublist).imp_of_mem fun {a b} ha _ hab heq => ?_)
    have hfunded := (List.mem_filter.mp ha).2
    simp only [Challenge.isFunded, Bool.and_eq_true, Option.isSome_iff_exists] at hfunded
    obtain ⟨-, txHash, htx⟩ := hfunded
    exact hab txHash htx (heq ▸ htx)
  have hcovered : ∀ c ∈ w.challenges.rows.filter (·.isFunded), ∃ d ∈ w.deposits,
      some d.txHash = c.depositTxHash ∧ c.poolAmountStroops ≤ d.stroops := by
    intro c hc
    obtain ⟨hmem, hfunded⟩ := List.mem_filter.mp hc
    simp only [Challenge.isFunded, Bool.and_eq_true, Option.isSome_iff_exists] at hfunded
    obtain ⟨-, txHash, htx⟩ := hfunded
    obtain ⟨d, hd, hhash, hpool⟩ := h c hmem txHash htx
    exact ⟨d, hd, by rw [hhash, htx], hpool⟩
  have hle : w.openPools ≤ (w.deposits.map (·.stroops)).sum :=
    sum_claims_le_sum_shares hdistinct hcovered
  exact Nat.le_trans hle (Nat.le_add_left _ _)

section Exec

variable (deps : Deps) (e : Env) (w : World)

theorem exec_deposits (op : Op) :
    ((apiMachine deps).exec e op w).2.deposits = w.deposits := by
  refine exec_frame deps e (f := World.deposits) (fun w n => rfl) (fun w => ?_) (fun w r => ?_) w
  · cases op with
    | updateChallengeStatusActive id tx =>
        simp only [perform]
        split <;> rfl
    | _ => rfl
  · unfold World.enter
    split <;> rfl

/-- The update leaves the table as it is, or activates the row. -/
theorem exec_update (id depositTx : Text) :
    let w' := ((apiMachine deps).exec e (.updateChallengeStatusActive id depositTx) w).2
    w'.challenges = w.challenges ∨
      w'.challenges.rows = w.challenges.rows.map (Challenges.activateRow id depositTx) := by
  have hperform : (perform deps e (.updateChallengeStatusActive id depositTx)
      { w with clock := w.clock + e.elapsed }).2.challenges = w.challenges ∨
      (perform deps e (.updateChallengeStatusActive id depositTx)
        { w with clock := w.clock + e.elapsed }).2.challenges.rows =
        w.challenges.rows.map (Challenges.activateRow id depositTx) := by
    simp only [perform]
    split
    · exact .inl rfl
    · exact .inr rfl
  simp only [apiMachine]
  split
  · simp only [Op.canThrow, if_true]
    split
    · exact hperform
    · exact .inl rfl
  · exact hperform

end Exec

/-- **One operation keeps the deposits covering.** -/
theorem Covered.exec {w : World} (h : Covered w) (deps : Deps) (op : Op) (e : Env)
    (hop : Funded w op e) : Covered ((apiMachine deps).exec e op w).2 := by
  have hdeposits := exec_deposits deps e w op
  by_cases hwrite : op.writes = false
  · intro c hc txHash htx
    rw [(Prod.mk.inj (exec_tables deps e hwrite w)).1] at hc
    rw [hdeposits]
    exact h c hc txHash htx
  cases op with
  | updateChallengeStatusActive id depositTx =>
      intro c hc txHash htx
      rw [hdeposits]
      rcases exec_update deps e w id depositTx with hsame | hrows
      · rw [hsame] at hc
        exact h c hc txHash htx
      · rw [hrows] at hc
        obtain ⟨c', hc', rfl⟩ := List.mem_map.mp hc
        by_cases hid : c'.id = id
        · -- the row that is activated now: its transaction is the funding deposit
          obtain ⟨d, hd, hhash, hpool⟩ := hop
          simp only [Challenges.activateRow, if_pos hid, Option.some.injEq] at htx ⊢
          exact ⟨d, hd, hhash.trans htx, hpool c' hc' hid⟩
        · simp only [Challenges.activateRow, if_neg hid] at htx ⊢
          exact h c' hc' txHash htx
  | _ => exact absurd rfl hwrite

theorem Covered.incoming {w w' : World} (h : Covered w) (hin : Incoming w w') : Covered w' := by
  cases hin with
  | deposit d =>
      intro c hc txHash htx
      obtain ⟨d', hd', hrest⟩ := h c hc txHash htx
      exact ⟨d', List.mem_append_left _ hd', hrest⟩
  | challenge t c hrows hc =>
      intro c' hc' txHash htx
      rw [hrows] at hc'
      rcases List.mem_append.mp hc' with hold | hnew
      · exact h c' hold txHash htx
      · rw [List.mem_singleton.mp hnew, hc] at htx
        cases htx

/-- **Solvency.** For every sequence of deposits, new challenges and webhook calls, in any
order and interleaving, in which every activation is by a deposit of at least the challenge's
pool: the pools of the activated challenges never exceed the hot wallet's balance. -/
theorem solvent_of_funded (deps : Deps) {w₀ w : World} {ps : List (Api Unit)}
    (hstart : ∀ c ∈ w₀.challenges.rows, c.depositTxHash = none)
    (h : Pool (apiMachine deps) Funded (AnyRequest deps) Incoming w₀ w ps) : Solvent w := by
  have hcovered : Covered w₀ := by
    intro c hc txHash htx
    rw [hstart c hc] at htx
    cases htx
  exact (Crew.invariant (I := Covered) hcovered (fun _ w op e hw hG => hw.exec deps op e hG)
    (fun w w' hw hin => hw.incoming hin) h).solvent

/-! Two challenges of 100 USDC each; 100 USDC came in for the first and a single stroop for the
second. -/

def otherMemo : Text := "0b0e7a52-7c1c-4a6e-9d3f-2f6a51c0a002".toList

theorem otherMemo_ne : some exampleMemo ≠ some otherMemo := by decide +kernel

def otherTxHash : Text := (List.replicate 32 ['c', 'd']).flatten

def otherEvent : DepositEvent :=
  ⟨otherTxHash, "0.0000001".toList, otherMemo, "GHOT".toList, 1001, "2023-11-14".toList⟩

def World.twoPending : World :=
  { World.atRest with
    challenges := ⟨[⟨"c1".toList, .pendingDeposit, 1000000000, some exampleMemo, none, false⟩,
        ⟨"c2".toList, .pendingDeposit, 1000000000, some otherMemo, none, false⟩],
      List.pairwise_pair.mpr (by decide +kernel),
      List.pairwise_pair.mpr fun _ hmemo hother => otherMemo_ne (hmemo.trans hother.symm),
      List.pairwise_pair.mpr fun _ hnone => by cases hnone⟩
    deposits := [⟨exampleTxHash, exampleMemo, 1000000000⟩, ⟨otherTxHash, otherMemo, 1⟩] }

def bothDeliveries : List (Api Unit) := [exampleEvent, otherEvent].map fun event =>
  depositEndpoint exampleDeps (depositRequest exampleDeps "whsec".toList 1700000000 event)

theorem bothDeliveries_pool {G : World → Op → Env → Prop} :
    Pool (apiMachine exampleDeps) G (AnyRequest exampleDeps) Incoming World.twoPending
      World.twoPending bothDeliveries :=
  (Crew.init.spawn ⟨_, rfl⟩).spawn ⟨_, rfl⟩

/-- A whole request takes twelve operations. -/
def wholeRequest (i : Nat) : List (Nat × Env) := List.replicate 12 (i, calm)

/-- The first deposit activates its challenge. -/
theorem funded_deposit_solvent :
    (play (apiMachine exampleDeps) (wholeRequest 0) World.twoPending bothDeliveries).1.openPools =
        1000000000 ∧
      Solvent (play (apiMachine exampleDeps) (wholeRequest 0) World.twoPending
        bothDeliveries).1 := by
  refine ⟨by decide +kernel, ?_⟩
  have hpool := bothDeliveries_pool.play (wholeRequest 0)
    (by decide +kernel : playOk (apiMachine exampleDeps) Funded (wholeRequest 0) _ _)
  exact solvent_of_funded exampleDeps (by decide +kernel) hpool

/-- The stroop activates the second challenge as well: 200 USDC are promised, and the wallet
holds 100.0000001. -/
theorem stroop_activates_challenge :
    ¬ ∀ w ps, Pool (apiMachine exampleDeps) (fun _ _ _ => True) (AnyRequest exampleDeps) Incoming
      World.twoPending w ps → Solvent w := by
  intro h
  have hsolvent := h _ _ (bothDeliveries_pool.play (wholeRequest 0 ++ wholeRequest 1)
    (by decide +kernel))
  revert hsolvent
  unfold Solvent
  decide +kernel

end BrandBlitz.Deposit

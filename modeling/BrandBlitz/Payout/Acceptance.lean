import Mathlib.Algebra.BigOperators.Ring.Finset
import BrandBlitz.Escrow.Contract
import BrandBlitz.Payout.Emission
import BrandBlitz.Payout.FraudGuard

/-!
# BrandBlitz.Payout.Acceptance

**Does the escrow contract accept what `processPayout` hands to it?** The contract pays
only lists of positive amounts that add up to its balance to the last stroop, while the
service rounds every share down, leaves out shares below one stroop, and leaves out
flagged users and users already paid.

Positive the amounts are. The sum is right exactly when the pool splits without a rest
and nobody is left out, and `settle_list_acceptable_iff` says so for every challenge and
leaderboard. Otherwise the settlement is refused, and the direct path takes over.
-/

namespace BrandBlitz.Payout

open BrandBlitz.Lib BrandBlitz.Stellar

/-- The contract's condition on a list of recipients. -/
def Acceptable (balance : Nat) (recipients : List (EscrowRecipient Entry)) : Prop :=
  (∀ r ∈ recipients, 0 < r.amountStroops) ∧ (recipients.map (·.amountStroops)).sum = balance

instance (balance : Nat) (recipients : List (EscrowRecipient Entry)) :
    Decidable (Acceptable balance recipients) := inferInstanceAs (Decidable (_ ∧ _))

/-- It is the condition that the loop of `EscrowContract::settle` checks, on arguments
with these amounts. -/
theorem acceptable_iff_totalToDistribute {A : Type} {args : List (A × Escrow.I128)}
    {recipients : List (EscrowRecipient Entry)}
    (hargs : args.map (·.2.val) = recipients.map fun r => (r.amountStroops : Int))
    {balance : Escrow.I128} {n : Nat} (hbalance : balance.val = n) :
    Escrow.totalToDistribute 0 args = .ok balance ↔ Acceptable n recipients := by
  rw [Escrow.totalToDistribute_eq_ok_iff, hargs, hbalance, Acceptable]
  refine and_congr ?_ ?_
  · have hpos : (∀ p ∈ args, 0 < p.2.val) ↔ ∀ v ∈ args.map (·.2.val), 0 < v :=
      List.forall_mem_map.symm
    rw [hpos, hargs, List.forall_mem_map]
    exact forall₂_congr fun r _ => Int.natCast_pos
  · have hcast : (recipients.map fun r => (r.amountStroops : Int)).sum =
        ((recipients.map (·.amountStroops)).sum : Nat) := by
      rw [Nat.cast_list_sum, List.map_map]
      rfl
    rw [hcast, Signed.val_zero, Int.zero_add, Int.natCast_inj]
    exact eq_comm

/-! ### The list for the due records -/

/-- What is handed to the escrow for the due records. -/
def World.settlementList (w : World) : List (EscrowRecipient Entry) :=
  w.dueRecords.map (escrowRecipient w.basis)

theorem amount_pos_of_mem {basis : Basis} {a : PayoutAllocation}
    (ha : a ∈ (payoutAllocations basis).values) : 0 < a.amountStroops := by
  obtain ⟨e, he, rfl⟩ := List.mem_map.mp ha
  exact (payoutAllocations_wellFormed basis e he).2.2

/-- The amounts are positive, so only the sum counts. -/
theorem acceptable_settlementList (w : World) (balance : Nat) :
    Acceptable balance w.settlementList ↔
      (w.dueAllocations.map (·.amountStroops)).sum = balance := by
  have hamounts : w.settlementList.map (·.amountStroops) =
      w.dueAllocations.map (·.amountStroops) := by
    simp [World.settlementList, World.dueRecords, escrowRecipient, recordOf, Function.comp_def]
  refine ⟨fun h => hamounts ▸ h.2, fun h => ⟨?_, hamounts ▸ h⟩⟩
  simp only [World.settlementList, World.dueRecords, List.forall_mem_map]
  exact fun a ha => amount_pos_of_mem (List.mem_filter.mp ha).1

/-- The due amounts exhaust the pool when all allocations do and none is left out. -/
theorem sum_dueAllocations_iff (w : World) :
    (w.dueAllocations.map (·.amountStroops)).sum = w.challenge.poolAmountStroops ↔
      (payoutAllocations w.basis).total (·.amountStroops) = w.challenge.poolAmountStroops ∧
        ∀ a ∈ (payoutAllocations w.basis).values, w.skips a.userId = false := by
  have hkept : (w.dueAllocations.map (·.amountStroops)).sum =
        (payoutAllocations w.basis).total (·.amountStroops) ↔
      ∀ a ∈ (payoutAllocations w.basis).values, (!w.skips a.userId) = true :=
    sum_filter_eq_iff fun a ha => amount_pos_of_mem ha
  have hsub : (w.dueAllocations.map (·.amountStroops)).sum ≤
      (payoutAllocations w.basis).total (·.amountStroops) :=
    (List.filter_sublist.map _).sum_le_sum fun _ _ => Nat.zero_le _
  have hpool : (payoutAllocations w.basis).total (·.amountStroops) ≤
      w.challenge.poolAmountStroops := payoutAllocations_total_le w.basis
  simp only [Bool.not_eq_true'] at hkept
  rw [← hkept]
  omega

/-- Whom the basis gives something is allocated something, and nobody else. -/
theorem forall_owes_iff {w : World} (hpos : 0 < w.basis.totalPoints) (b : Bool) :
    (∀ a ∈ (payoutAllocations w.basis).values, w.skips a.userId = b) ↔
      ∀ u, w.basis.Owes u → w.skips u = b := by
  simp only [← mem_payoutAllocations_users hpos, List.mem_map, forall_exists_index, and_imp,
    forall_apply_eq_imp_iff₂]

/-- **When the list is right**: the pool splits exactly and nobody is left out. -/
theorem settlementList_acceptable_iff {w : World} (hpos : 0 < w.basis.totalPoints)
    (hdue : w.dueAllocations ≠ []) :
    Acceptable w.challenge.poolAmountStroops w.settlementList ↔
      w.basis.SplitsExactly ∧ ∀ u, w.basis.Owes u → w.skips u = false := by
  obtain ⟨a, ha⟩ := List.exists_mem_of_ne_nil _ hdue
  have hpool : 0 < w.basis.poolAmountStroops := by
    have hamount : a.amountStroops ≤ (payoutAllocations w.basis).total (·.amountStroops) :=
      List.single_le_sum (fun _ _ => Nat.zero_le _) _
        (List.mem_map_of_mem (List.mem_filter.mp ha).1)
    have hpositive := amount_pos_of_mem (List.mem_filter.mp ha).1
    have htotal := payoutAllocations_total_le w.basis
    omega
  rw [acceptable_settlementList, sum_dueAllocations_iff, forall_owes_iff hpos]
  exact and_congr_left fun _ => payoutAllocations_exhaust_iff hpos hpool

/-! ### Whole runs -/

/-- What a run hands to the network. -/
def submittedBy (config : PayoutConfig) (challengeId : Text) (contributions : Nat → Env)
    (w : World) : List Submission :=
  ((processPayout config challengeId).run payoutMachine contributions w).2.submissions.drop
    w.submissions.length

/-- Every list handed to the escrow since `w` is acceptable. -/
def AllAcceptable (w w' : World) : Prop :=
  ∃ submitted, w'.submissions = w.submissions ++ submitted ∧
    ∀ recipients, Submission.settle recipients ∈ submitted →
      Acceptable w.challenge.poolAmountStroops recipients

theorem Unsubmitted.allAcceptable {w w' : World} (h : Unsubmitted w w') : AllAcceptable w w' :=
  ⟨[], by rw [h.2, List.append_nil], by simp⟩

/-- What the call hands to the escrow, if anything, is acceptable. -/
def HandsAcceptable (balance : Nat) (op : Op) : Prop :=
  ∀ recipients, op = .settle recipients → Acceptable balance recipients

theorem handsAcceptable_quiet {balance : Nat} (op : Op) (hop : op.broadcasts = false) :
    HandsAcceptable balance op := by
  rintro recipients rfl
  cases hop

/-- A call that does keeps the lists acceptable. -/
theorem exec_allAcceptable {w₀ w : World} {e : Env} {op : Op} (h : AllAcceptable w₀ w)
    (hop : HandsAcceptable w₀.challenge.poolAmountStroops op) :
    AllAcceptable w₀ (payoutMachine.exec e op w).2 := by
  obtain ⟨submitted, hsubmitted, hall⟩ := h
  have hrecord : (w.record op).submissions = w₀.submissions ++ (submitted ++ op.submission) := by
    rw [record_submissions, hsubmitted, List.append_assoc]
  have hlists : ∀ recipients, Submission.settle recipients ∈ submitted ++ op.submission →
      Acceptable w₀.challenge.poolAmountStroops recipients := by
    intro recipients hmem
    rcases List.mem_append.mp hmem with hmem | hmem
    · exact hall recipients hmem
    · refine hop recipients ?_
      cases op with
      | settle rs => simpa [Op.submission, eq_comm] using hmem
      | stellar o => cases o <;> simp [Op.submission] at hmem
      | _ => cases hmem
  exact exec_world (P := AllAcceptable w₀) ⟨_, hrecord, hlists⟩
    ⟨_, perform_submissions.trans hrecord, hlists⟩

/-- If the list for the due records is acceptable, or there are none, no run hands the
escrow anything else. -/
theorem run_allAcceptable {config : PayoutConfig} {w : World} (hallocates : w.Allocates config)
    (hlist : w.dueAllocations = [] ∨
      Acceptable w.challenge.poolAmountStroops w.settlementList)
    (challengeId : Text) (contributions : Nat → Env) (hhonest : ∀ n, Honest (contributions n)) :
    AllAcceptable w
      ((processPayout config challengeId).run payoutMachine contributions w).2 := by
  have hemits : (if w.dueRecords.isEmpty then updateChallengeStatus .settled none
      else payRecords config challengeId w.basis w.dueRecords : Service Unit).Emits
        (HandsAcceptable w.challenge.poolAmountStroops) (fun _ _ => True) fun _ => True := by
    split
    · exact emits_updateChallengeStatus
        (fun op hop _ => handsAcceptable_quiet op (broadcasts_of_db hop)) _ _
    · rename_i hdue
      refine emits_payRecords (fun op hop _ => handsAcceptable_quiet op hop) config challengeId
        (fun recipients heq => ?_) fun tx htx recipients heq => by cases heq
      rcases hlist with hnone | hlist
      · exact absurd (by simp [World.dueRecords, hnone]) hdue
      · cases heq
        exact hlist
  have hwp : (processPayout config challengeId).wp payoutMachine (fun _ _ e => Honest e)
      (fun _ => True) (Prog.Ends (fun _ => AllAcceptable w) fun _ => AllAcceptable w) w :=
    wp_processPayout_records (fun _ _ _ he => he) (fun _ _ => trivial)
      (fun _ _ _ _ _ w' _ _ h => h.allAcceptable) hallocates fun w' hsame =>
        hemits.wp (fun _ _ => trivial)
          (fun w' op e h hop _ => ⟨exec_allAcceptable h hop, trivial⟩) hsame.allAcceptable
  exact Prog.run_world_of_wp hwp fun _ _ n => hhonest n

/-- **When the escrow accepts what it is handed.** Take any challenge with a configured
escrow whose balance is the pool, and any leaderboard with an eligible winner of positive
score, such that the run gets to allocate. Every list that a run passes to the escrow,
whatever else fails, is acceptable if and only if all users the pool owes something are
left out, so that no list is passed, or the pool splits exactly and none is left out. -/
theorem settle_list_acceptable_iff (config : PayoutConfig)
    (hescrow : config.sorobanContractId = true) (challengeId : Text) (w : World)
    (hallocates : w.Allocates config) (hscore : ∃ s ∈ w.basis.winners, 0 < s.totalScore) :
    (∀ contributions, (∀ n, Honest (contributions n)) → ∀ recipients,
      Submission.settle recipients ∈ submittedBy config challengeId contributions w →
        Acceptable w.challenge.poolAmountStroops recipients) ↔
      (∀ u, w.basis.Owes u → w.skips u = true) ∨
        (w.basis.SplitsExactly ∧ ∀ u, w.basis.Owes u → w.skips u = false) := by
  have hpos : 0 < w.basis.totalPoints := by
    obtain ⟨s, hs, hscore⟩ := hscore
    exact Nat.lt_of_lt_of_le hscore
      (List.single_le_sum (fun _ _ => Nat.zero_le _) _ (List.mem_map_of_mem hs))
  have hnone : w.dueAllocations = [] ↔ ∀ u, w.basis.Owes u → w.skips u = true := by
    rw [← forall_owes_iff hpos, World.dueAllocations, List.filter_eq_nil_iff]
    simp
  constructor
  · intro hall
    by_cases hdue : w.dueAllocations = []
    · exact .inl (hnone.mp hdue)
    · -- the undisturbed run passes the list for the due records
      have hcalm : ((processPayout config challengeId).run payoutMachine (fun _ => calm)
          w).2.submissions = w.submissions ++ [.settle w.settlementList] := by
        have hrun := Prog.run_world_of_wp (s := fun _ => calm) (Prog.wp_weaken
          (submits_processPayout hallocates : (processPayout config challengeId).wp _ _ _ _ w)
          (fun _ _ h => h) fun _ _ hfalse => hfalse.elim) fun _ _ _ => ⟨rfl, rfl⟩
        rwa [if_neg (by simpa [World.dueRecords] using hdue), plannedSubmissions,
          if_pos hescrow] at hrun
      refine .inr ((settlementList_acceptable_iff hpos hdue).mp
        (hall (fun _ => calm) (fun _ _ hfault => by cases hfault) _ ?_))
      rw [submittedBy, hcalm, List.drop_left]
      exact List.mem_cons_self
  · intro hcondition contributions hhonest recipients hmem
    -- no list, or the one list: whatever fails, a run hands over nothing else
    have hlist : w.dueAllocations = [] ∨
        Acceptable w.challenge.poolAmountStroops w.settlementList := by
      rcases hcondition with hskipped | hexact
      · exact .inl (hnone.mpr hskipped)
      · by_cases hdue : w.dueAllocations = []
        · exact .inl hdue
        · exact .inr ((settlementList_acceptable_iff hpos hdue).mpr hexact)
    obtain ⟨submitted, hsubmitted, hacceptable⟩ :=
      run_allAcceptable hallocates hlist challengeId contributions hhonest
    rw [submittedBy, hsubmitted, List.drop_left] at hmem
    exact hacceptable recipients hmem

/-! ### Two leaderboards

The escrow is configured and holds a hundred USDC. -/

def settlesThroughEscrow : PayoutConfig := ⟨true, fun _ => true⟩

/-- Three quarters and one quarter of the pool are exact. -/
theorem quarters_accepted :
    submittedBy settlesThroughEscrow "c1".toList (fun _ => calm)
        (World.ended 1000000000 [player 1 300, player 2 100]) =
          [.settle (World.ended 1000000000 [player 1 300, player 2 100]).settlementList] ∧
      Acceptable 1000000000 (World.ended 1000000000 [player 1 300, player 2 100]).settlementList := by
  have hexact : (World.ended 1000000000 [player 1 300, player 2 100]).basis.SplitsExactly :=
    ⟨by decide, by decide⟩
  refine ⟨rfl, (settle_list_acceptable_iff settlesThroughEscrow rfl "c1".toList
    (World.ended 1000000000 [player 1 300, player 2 100]) (by decide) (by decide)).mpr
      (.inr ⟨hexact, fun _ _ => rfl⟩) (fun _ => calm) (fun _ _ hfault => by cases hfault) _ ?_⟩
  exact List.mem_cons_self

/-- Three thirds of the pool leave a stroop. -/
theorem thirds_refused :
    ¬ ∀ (w : World) (contributions : Nat → Env), w.Allocates settlesThroughEscrow →
      (∃ s ∈ w.basis.winners, 0 < s.totalScore) → (∀ n, Honest (contributions n)) →
      ∀ recipients, Submission.settle recipients ∈
          submittedBy settlesThroughEscrow "c1".toList contributions w →
        Acceptable w.challenge.poolAmountStroops recipients := by
  intro hall
  have hlist := hall (World.ended 1000000000 [player 1 150, player 2 150, player 3 150]) (fun _ => calm)
    (by decide) (by decide) (fun _ _ hfault => by cases hfault)
    (World.ended 1000000000 [player 1 150, player 2 150, player 3 150]).settlementList
    (List.mem_cons_self)
  revert hlist
  decide

end BrandBlitz.Payout

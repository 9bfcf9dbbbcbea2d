import BrandBlitz.Payout.Allocation

/-!
# BrandBlitz.Payout.Prizes

**What each player gets** out of the pool.

The map `payoutAllocations` is written in two steps, and every amount in it is the sum
of what the two left under its user (`amount_eq_share_add_fee`): the share that the loop
over the winners set last (`Basis.allocated`), and the licence fee, for the licensor
(`Basis.feeTo`). This holds whoever appears in the leaderboard, and how often.

A user who appears once has one share, so nothing overwrites it (`allocated_winner`); a
share below one stroop is skipped, which is what it is worth rounded down. The fee is
taken off the pool before the shares are, and only when the licensor has an address: a
licence without one costs nothing.
-/

namespace BrandBlitz.Payout

open BrandBlitz.Lib

/-- The session's user has an address on file. -/
def LeaderboardSession.hasAddress (s : LeaderboardSession) : Bool :=
  !(summaryOf s).stellarAddress.isEmpty

namespace Basis

variable (basis : Basis)

/-- What the loop over the winners leaves under a user. -/
def allocated (u : UserId) : Nat :=
  (((OrderedMap.setAll .empty basis.entries).get? u).map (·.amountStroops)).getD 0

/-- The licence fee, for the licensor. -/
def feeTo (u : UserId) : Nat :=
  match licensor basis.licenseTerms with
  | some (t, _) => if t.userId = u then basis.licenseFee else 0
  | none => 0

end Basis

variable {basis : Basis}

/-! ### Winners and sessions -/

/-- The winners are the sessions with an address, in another order. -/
theorem winners_perm (basis : Basis) :
    basis.winners.Perm ((basis.sessions.filter (·.hasAddress)).map summaryOf) := by
  have hranked : (rankWinners (basis.sessions.map summaryOf)).Perm
      (basis.sessions.map summaryOf) := List.perm_insertionSort ranksBefore _
  have hkept := hranked.filter fun w => !w.stellarAddress.isEmpty
  rwa [List.filter_map] at hkept

theorem mem_winners {w : SessionSummary} :
    w ∈ basis.winners ↔ ∃ s ∈ basis.sessions, s.hasAddress = true ∧ summaryOf s = w := by
  rw [(winners_perm basis).mem_iff, List.mem_map]
  simp only [List.mem_filter, and_assoc]

theorem winners_users_nodup (h : (basis.sessions.map (·.userId)).Nodup) :
    (basis.winners.map (·.userId)).Nodup := by
  rw [((winners_perm basis).map _).nodup_iff, List.map_map]
  exact h.sublist (List.filter_sublist.map _)

/-- The entries are keyed by their winners. -/
theorem mem_entries {e : UserId × PayoutAllocation} :
    e ∈ basis.entries ↔ ∃ w ∈ basis.winners, 1 ≤ e.2.amountStroops ∧
      e = (w.userId, ⟨w.stellarAddress, w.userId, winnerShare basis.poolAmountStroops
        basis.playerPoolStroops basis.tiers basis.winners w⟩) := by
  simp only [Basis.entries, winnerEntries, List.mem_filter, List.mem_map, decide_eq_true_eq]
  constructor
  · rintro ⟨⟨w, hw, rfl⟩, hpos⟩
    exact ⟨w, hw, hpos, rfl⟩
  · rintro ⟨w, hw, hpos, rfl⟩
    exact ⟨⟨w, hw, rfl⟩, hpos⟩

/-- With one session for each user, no share is overwritten. -/
theorem entries_setAll_entries (h : (basis.sessions.map (·.userId)).Nodup) :
    (OrderedMap.setAll .empty basis.entries).entries = basis.entries := by
  have hkeys : (basis.entries.map (·.1)).Nodup := by
    have hall : ((basis.winners.map fun w => (w.userId,
        (⟨w.stellarAddress, w.userId, winnerShare basis.poolAmountStroops
          basis.playerPoolStroops basis.tiers basis.winners w⟩ : PayoutAllocation))).map
            (·.1)).Nodup := by
      rw [List.map_map]
      exact winners_users_nodup h
    exact hall.sublist (List.filter_sublist.map _)
  have hentries := OrderedMap.entries_setAll hkeys (m := .empty)
    (fun k _ => by simp [OrderedMap.empty])
  simpa [OrderedMap.empty] using hentries

/-- A winner's user is left the winner's share, in whole stroops. -/
theorem allocated_winner (h : (basis.sessions.map (·.userId)).Nodup) {w : SessionSummary}
    (hw : w ∈ basis.winners) : basis.allocated w.userId =
      winnerShare basis.poolAmountStroops basis.playerPoolStroops basis.tiers
        basis.winners w := by
  rw [Basis.allocated]
  cases hget : (OrderedMap.setAll .empty basis.entries).get? w.userId with
  | none =>
      -- only a share below one stroop is left out
      have hnone := OrderedMap.get?_eq_none.mp hget
      rw [entries_setAll_entries h] at hnone
      by_contra hne
      refine hnone (List.mem_map_of_mem (f := (·.1)) (mem_entries.mpr ⟨w, hw, ?_, rfl⟩))
      exact Nat.one_le_iff_ne_zero.mpr fun hzero => hne hzero.symm
  | some a =>
      have hmem := OrderedMap.mem_of_get? hget
      rw [entries_setAll_entries h] at hmem
      obtain ⟨w', hw', -, heq⟩ := mem_entries.mp hmem
      obtain ⟨huser, rfl⟩ := Prod.mk.inj heq
      obtain rfl := List.inj_on_of_nodup_map (winners_users_nodup h) hw hw' huser
      rfl

/-- Whoever is no winner is left nothing. -/
theorem allocated_of_forall_ne {u : UserId} (h : ∀ w ∈ basis.winners, w.userId ≠ u) :
    basis.allocated u = 0 := by
  have hnone : (OrderedMap.setAll .empty basis.entries).get? u = none := by
    rw [OrderedMap.get?_eq_none, OrderedMap.mem_setAll_keys]
    rintro (hu | hu)
    · simp [OrderedMap.empty] at hu
    · obtain ⟨e, he, rfl⟩ := List.mem_map.mp hu
      obtain ⟨w, hw, -, rfl⟩ := mem_entries.mp he
      exact h w hw rfl
  rw [Basis.allocated, hnone]
  rfl

/-! ### Amounts -/

/-- The fee is the rounded part of the pool when the licensor has an address. -/
theorem licenseFeeStroops_eq (gross : Nat) (terms : Option LicensePayoutTerms) :
    licenseFeeStroops gross terms =
      ((licensor terms).map fun t => gross * t.1.feeBps / 10000).getD 0 := by
  unfold licenseFeeStroops
  split
  · rename_i t _ hlicensor
    rw [hlicensor]
    show (if t.feeBps > 0 then gross * t.feeBps / 10000 else 0) = gross * t.feeBps / 10000
    split
    · rfl
    · rename_i hzero
      rw [Nat.eq_zero_of_not_pos hzero, Nat.mul_zero, Nat.zero_div]
  · rename_i hnone
    rw [hnone]
    rfl

/-- Every amount is what the two steps left under its user. -/
theorem amount_eq_share_add_fee {a : PayoutAllocation}
    (ha : a ∈ (payoutAllocations basis).values) :
    a.amountStroops = basis.allocated a.userId + basis.feeTo a.userId := by
  obtain ⟨e, he, rfl⟩ := List.mem_map.mp ha
  have huser : e.2.userId = e.1 := (payoutAllocations_wellFormed basis e he).1
  -- an entry of the first step is what its user has been left
  have hshare : e ∈ (OrderedMap.setAll .empty basis.entries).entries →
      basis.allocated e.2.userId = e.2.amountStroops := fun hmem => by
    rw [huser, Basis.allocated, OrderedMap.get?_of_mem hmem]
    rfl
  rw [payoutAllocations, addLicenseFee] at he
  rw [Basis.feeTo]
  cases hlicensor : licensor basis.licenseTerms with
  | some paid =>
      rw [hlicensor] at he
      dsimp only at he ⊢
      split at he
      · rcases OrderedMap.mem_set_iff.mp he with rfl | ⟨he, hne⟩
        · simp only [if_true, Basis.allocated]
        · rw [hshare he, huser, if_neg (Ne.symm hne), Nat.add_zero]
      · rename_i hfee
        rw [hshare he, Nat.eq_zero_of_not_pos hfee, ite_self, Nat.add_zero]
  | none =>
      rw [hlicensor] at he
      dsimp only at he ⊢
      rw [hshare he, Nat.add_zero]

/-- **Prizes are never over-allocated.** Whatever the leaderboard, the pool, the tiers and
the licence are, every user has one allocation, of at least one stroop, and all of them
stay within the pool; the fee is the licensor's part rounded down. With one session for
each user, a player with an address gets the share of the player pool rounded down, the
licensor gets the fee on top, and nobody else gets anything. -/
theorem prizes_never_overallocated (basis : Basis) :
    ((payoutAllocations basis).values.map (·.userId)).Nodup ∧
    (∀ a ∈ (payoutAllocations basis).values, 1 ≤ a.amountStroops) ∧
    (payoutAllocations basis).total (·.amountStroops) ≤ basis.poolAmountStroops ∧
    basis.licenseFee = ((licensor basis.licenseTerms).map fun t =>
      basis.poolAmountStroops * t.1.feeBps / 10000).getD 0 ∧
    ((basis.sessions.map (·.userId)).Nodup → ∀ a ∈ (payoutAllocations basis).values,
      (∀ s ∈ basis.sessions, s.hasAddress = true → s.userId = a.userId →
        a.amountStroops = s.totalScore * basis.playerPoolStroops / basis.totalPoints +
          basis.feeTo a.userId) ∧
      ((∀ s ∈ basis.sessions, s.hasAddress = true → s.userId ≠ a.userId) →
        a.amountStroops = basis.feeTo a.userId)) := by
  refine ⟨payoutAllocations_users_nodup basis, ?_, payoutAllocations_total_le basis,
    licenseFeeStroops_eq _ _, ?_⟩
  · intro a ha
    obtain ⟨e, he, rfl⟩ := List.mem_map.mp ha
    exact (payoutAllocations_wellFormed basis e he).2.2
  · intro hnodup a ha
    refine ⟨?_, ?_⟩
    · intro s hs haddress huser
      have hw : summaryOf s ∈ basis.winners := mem_winners.mpr ⟨s, hs, haddress, rfl⟩
      have hshare := allocated_winner hnodup hw
      rw [winnerShare_eq, ← Basis.totalPoints] at hshare
      rw [amount_eq_share_add_fee ha, ← huser]
      show basis.allocated (summaryOf s).userId + _ = _
      rw [hshare, calculatePayoutShareStroops]
      split
      · rename_i hzero
        rw [hzero, Nat.div_zero]
      · rw [Nat.mul_comm]
        rfl
    · intro hnone
      have hzero : basis.allocated a.userId = 0 := allocated_of_forall_ne fun w hw => by
        obtain ⟨s, hs, haddress, rfl⟩ := mem_winners.mp hw
        exact hnone s hs haddress
      rw [amount_eq_share_add_fee ha, hzero, Nat.zero_add]

/-- A pool of 20000 stroops over two players and one without an address; the licence
costs ten percent and belongs to the first player. -/
def licensedQuiz (licensorAddress : Option Text) : Basis where
  poolAmountStroops := 20000
  sessions := [⟨1, 11, some ['G'], 300, some 1000, 0, none⟩,
    ⟨2, 12, some ['H'], 150, some 2000, 0, none⟩, ⟨3, 13, none, 400, some 3000, 0, none⟩]
  tiers := []
  licenseTerms := some ⟨1000, 11, licensorAddress, by decide⟩

/-- The first player gets two thirds of what the fee leaves, and the fee. -/
theorem licensor_plays :
    ∃ a ∈ (payoutAllocations (licensedQuiz (some ['G']))).values,
      a.userId = 11 ∧ a.amountStroops = 300 * 18000 / 450 + 2000 := by
  refine ⟨⟨['G'], 11, 14000⟩, by decide, rfl, ?_⟩
  exact ((prizes_never_overallocated (licensedQuiz (some ['G']))).2.2.2.2 (by decide)
    ⟨['G'], 11, 14000⟩ (by decide)).1 ⟨1, 11, some ['G'], 300, some 1000, 0, none⟩ (by decide)
      (by decide) rfl

/-- Without an address there is no fee, although ten percent of the pool are 2000. -/
theorem unaddressed_licence_is_free :
    ∃ t, (licensedQuiz none).licenseTerms = some t ∧
      (licensedQuiz none).licenseFee ≠ (licensedQuiz none).poolAmountStroops * t.feeBps / 10000 :=
  ⟨_, rfl, by decide⟩

end BrandBlitz.Payout

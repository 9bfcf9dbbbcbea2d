import Mathlib.Data.List.Sort
import BrandBlitz.Lib.OrderedMap
import BrandBlitz.Lib.Shares
import BrandBlitz.Payout.Usdc

/-!
# BrandBlitz.Payout.Allocation

**Who is owed what**: the pure middle part of `processPayout`
(`apps/api/src/services/payout.ts`), from the leaderboard rows to the map
`payoutAllocations`.

* Winners are ranked, winners without an address are dropped, the licence fee is taken
  off the pool, and each winner gets a share proportional to the score, rounded down.
* The map is keyed by user: a user who appears twice keeps the last share, and a
  licensor who also played gets the fee on top of the share.
* `rankWinners` returns summaries without a `tier_id`, so reading it gives `undefined`
  and the tier branches never run; they are here as the source has them.

The sum of all allocations never exceeds the pool, and equals it exactly when every
share is exact and no user's share overwrites an earlier one.
-/

namespace BrandBlitz.Payout

open BrandBlitz.Lib

/-- A user's UUID. `localeCompare` orders UUIDs by their value. -/
abbrev UserId := Nat

/-- Milliseconds since the epoch. -/
abbrev Time := Int

/-- A row of `getLeaderboard`, as far as `processPayout` reads it. -/
structure LeaderboardSession where
  id : Nat
  userId : UserId
  stellarAddress : Option Text
  totalScore : Nat
  completedAt : Option Time
  createdAt : Time
  integrityHmac : Option Text
deriving DecidableEq, Repr

/-- What the ranking sees of a session. -/
structure SessionSummary where
  userId : UserId
  stellarAddress : Text
  totalScore : Nat
  endedAt : Time
deriving DecidableEq, Repr

/-- `winner.tier_id`: a summary has no such property. -/
def SessionSummary.tierId (_ : SessionSummary) : Option Nat := none

/-- `challenge_licenses` terms: the fee is checked to be at most half the pool. -/
structure LicensePayoutTerms where
  feeBps : Nat
  userId : UserId
  stellarAddress : Option Text
  feeBps_le : feeBps ≤ 5000
deriving DecidableEq, Repr

/-- A row of `challenge_tiers`. -/
structure ChallengeTier where
  id : Nat
  prizePoolStroops : Nat
deriving DecidableEq, Repr

/-- An entry of `payoutAllocations`. -/
structure PayoutAllocation where
  address : Text
  userId : UserId
  amountStroops : Nat
deriving DecidableEq, Repr

/-! ### Ranking -/

/-- The object literal handed to `rankWinners`. -/
def summaryOf (s : LeaderboardSession) : SessionSummary where
  userId := s.userId
  stellarAddress := trim (s.stellarAddress.getD [])
  totalScore := s.totalScore
  endedAt := s.completedAt.getD s.createdAt

/-- The comparison of `rankWinners` is not positive: higher score, then earlier end,
then smaller user id. -/
def ranksBefore (a b : SessionSummary) : Prop :=
  b.totalScore < a.totalScore ∨ (a.totalScore = b.totalScore ∧
    (a.endedAt < b.endedAt ∨ (a.endedAt = b.endedAt ∧ a.userId ≤ b.userId)))

instance : DecidableRel ranksBefore := fun _ _ => inferInstanceAs (Decidable (_ ∨ _))

/-- `rankWinners(sessions)`: a stable sort. -/
def rankWinners (sessions : List SessionSummary) : List SessionSummary :=
  sessions.insertionSort ranksBefore

/-- The winners that have an address on file, in rank order. -/
def eligibleWinners (sessions : List LeaderboardSession) : List SessionSummary :=
  (rankWinners (sessions.map summaryOf)).filter fun w => !w.stellarAddress.isEmpty

/-! ### Fee and shares -/

/-- The terms and `licenseTerms?.stellar_address`, when that is truthy. -/
def licensor (terms : Option LicensePayoutTerms) : Option (LicensePayoutTerms × Text) :=
  terms.bind fun t => (t.stellarAddress.filter fun address => !address.isEmpty).map (t, ·)

/-- The licensor's part of the pool. -/
def licenseFeeStroops (grossPoolStroops : Nat) (terms : Option LicensePayoutTerms) : Nat :=
  match licensor terms with
  | some (t, _) => if t.feeBps > 0 then grossPoolStroops * t.feeBps / 10000 else 0
  | none => 0

/-- The points of the winners of each tier. -/
def tierPoints (winners : List SessionSummary) : OrderedMap Nat Nat :=
  winners.foldl (fun points w => match w.tierId with
    | some tier => points.set tier ((points.get? tier).getD 0 + w.totalScore)
    | none => points) .empty

/-- What one winner gets. -/
def winnerShare (grossPoolStroops playerPoolStroops : Nat) (tiers : List ChallengeTier)
    (winners : List SessionSummary) (winner : SessionSummary) : Nat :=
  let totalPoints := (winners.map (·.totalScore)).sum
  let tierPools := OrderedMap.setAll .empty (tiers.map fun t => (t.id, t.prizePoolStroops))
  let tierPool := winner.tierId.bind tierPools.get?
  let scopedGrossPool := tierPool.getD grossPoolStroops
  let scopedPlayerPool :=
    if tierPool.getD 0 ≠ 0 then scopedGrossPool * playerPoolStroops / grossPoolStroops
    else playerPoolStroops
  let scopedTotalPoints := match winner.tierId with
    | some tier => ((tierPoints winners).get? tier).getD 0
    | none => totalPoints
  calculatePayoutShareStroops winner.totalScore scopedTotalPoints scopedPlayerPool

/-- The entries the loop over the winners sets: shares below one stroop are skipped. -/
def winnerEntries (grossPoolStroops playerPoolStroops : Nat) (tiers : List ChallengeTier)
    (winners : List SessionSummary) : List (UserId × PayoutAllocation) :=
  (winners.map fun w => (w.userId, (⟨w.stellarAddress, w.userId,
    winnerShare grossPoolStroops playerPoolStroops tiers winners w⟩ : PayoutAllocation))).filter
      fun e => 1 ≤ e.2.amountStroops

/-- The licence fee is added to what its owner already gets. -/
def addLicenseFee (licenseFee : Nat) (terms : Option LicensePayoutTerms)
    (allocations : OrderedMap UserId PayoutAllocation) : OrderedMap UserId PayoutAllocation :=
  match licensor terms with
  | some (t, address) =>
      if licenseFee > 0 then
        let existing := allocations.get? t.userId
        allocations.set t.userId
          ⟨address, t.userId, (existing.map (·.amountStroops)).getD 0 + licenseFee⟩
      else allocations
  | none => allocations

/-- What a run reads before it allocates. -/
structure Basis where
  poolAmountStroops : Nat
  sessions : List LeaderboardSession
  tiers : List ChallengeTier
  licenseTerms : Option LicensePayoutTerms
deriving DecidableEq, Repr

namespace Basis

variable (basis : Basis)

def winners : List SessionSummary := eligibleWinners basis.sessions

def totalPoints : Nat := (basis.winners.map (·.totalScore)).sum

def licenseFee : Nat := licenseFeeStroops basis.poolAmountStroops basis.licenseTerms

/-- What is left of the pool for the players. -/
def playerPoolStroops : Nat := basis.poolAmountStroops - basis.licenseFee

/-- The shares of at least one stroop, in rank order. -/
def entries : List (UserId × PayoutAllocation) :=
  winnerEntries basis.poolAmountStroops basis.playerPoolStroops basis.tiers basis.winners

end Basis

/-- `payoutAllocations`. -/
def payoutAllocations (basis : Basis) : OrderedMap UserId PayoutAllocation :=
  addLicenseFee basis.licenseFee basis.licenseTerms (OrderedMap.setAll .empty basis.entries)

/-! ### The map as a whole -/

section Entries

/-- What every entry of the map looks like. -/
def WellFormed (e : UserId × PayoutAllocation) : Prop :=
  e.2.userId = e.1 ∧ e.2.address ≠ [] ∧ 1 ≤ e.2.amountStroops

theorem winnerEntries_wellFormed {gross pool : Nat} {tiers : List ChallengeTier}
    {sessions : List LeaderboardSession} :
    ∀ e ∈ winnerEntries gross pool tiers (eligibleWinners sessions), WellFormed e := by
  intro e he
  obtain ⟨he, hpos⟩ := List.mem_filter.mp he
  obtain ⟨w, hw, rfl⟩ := List.mem_map.mp he
  have haddress := (List.mem_filter.mp hw).2
  exact ⟨rfl, by simpa using haddress, by simpa using hpos⟩

theorem licensor_address_ne_nil {terms : Option LicensePayoutTerms} {t : LicensePayoutTerms}
    {address : Text} (h : licensor terms = some (t, address)) : address ≠ [] := by
  obtain ⟨t', -, h⟩ := Option.bind_eq_some_iff.mp h
  obtain ⟨address', h, heq⟩ := Option.map_eq_some_iff.mp h
  cases heq
  simpa using (Option.filter_eq_some_iff.mp h).2

/-- **Every allocation** is to its own user, to an address, and of at least one stroop. -/
theorem payoutAllocations_wellFormed (basis : Basis) :
    ∀ e ∈ (payoutAllocations basis).entries, WellFormed e := by
  have hwinners : ∀ e ∈ (OrderedMap.setAll .empty basis.entries).entries, WellFormed e :=
    OrderedMap.forall_setAll winnerEntries_wellFormed (by simp [OrderedMap.empty])
  intro e he
  unfold payoutAllocations addLicenseFee at he
  split at he
  · rename_i t address hlicensor
    split at he
    · rcases OrderedMap.mem_set he with rfl | he
      · exact ⟨rfl, licensor_address_ne_nil hlicensor, by dsimp only; omega⟩
      · exact hwinners e he
    · exact hwinners e he
  · exact hwinners e he

/-- The users are the keys. -/
theorem payoutAllocations_users (basis : Basis) :
    (payoutAllocations basis).values.map (·.userId) =
      (payoutAllocations basis).entries.map (·.1) := by
  rw [OrderedMap.values, List.map_map]
  exact List.map_congr_left fun e he => (payoutAllocations_wellFormed basis e he).1

/-- No user has two allocations. -/
theorem payoutAllocations_users_nodup (basis : Basis) :
    ((payoutAllocations basis).values.map (·.userId)).Nodup := by
  rw [payoutAllocations_users]
  exact (payoutAllocations basis).nodup

end Entries

/-! ### Fee, shares and the pool -/

/-- The basis gives the user something: a share of at least one stroop, or a fee. -/
def Basis.Owes (basis : Basis) (u : UserId) : Prop :=
  (∃ w ∈ basis.winners, w.userId = u ∧
    basis.totalPoints ≤ basis.playerPoolStroops * w.totalScore) ∨
  ∃ t address, licensor basis.licenseTerms = some (t, address) ∧ t.userId = u ∧
    0 < basis.licenseFee

/-- The fee is at most half the pool. -/
theorem licenseFeeStroops_le (gross : Nat) (terms : Option LicensePayoutTerms) :
    licenseFeeStroops gross terms ≤ gross := by
  unfold licenseFeeStroops
  split
  · rename_i t _ _
    split
    · have hmul : gross * t.feeBps ≤ gross * 10000 :=
        Nat.mul_le_mul_left _ (Nat.le_trans t.feeBps_le (by decide))
      exact Nat.div_le_of_le_mul (by omega)
    · omega
  · omega

/-- The fee step adds the fee, whoever the licensor is. -/
theorem total_addLicenseFee (gross : Nat) (terms : Option LicensePayoutTerms)
    (m : OrderedMap UserId PayoutAllocation) :
    (addLicenseFee (licenseFeeStroops gross terms) terms m).total (·.amountStroops) =
      m.total (·.amountStroops) + licenseFeeStroops gross terms := by
  unfold addLicenseFee
  split
  · rename_i t address _
    split
    · -- a licensor who also won keeps the share: the fee goes on top of the old entry
      have hset := OrderedMap.total_set (·.amountStroops) m t.userId
        ⟨address, t.userId, ((m.get? t.userId).map (·.amountStroops)).getD 0 +
          licenseFeeStroops gross terms⟩
      dsimp only at hset ⊢
      omega
    · omega
  · rename_i hnone
    simp only [licenseFeeStroops, hnone, Nat.add_zero]

/-- Without tiers in the summaries, a share is a share of the whole player pool. -/
theorem winnerShare_eq (gross pool : Nat) (tiers : List ChallengeTier)
    (winners : List SessionSummary) (w : SessionSummary) :
    winnerShare gross pool tiers winners w =
      calculatePayoutShareStroops w.totalScore (winners.map (·.totalScore)).sum pool := rfl

/-- A share is at least one stroop when the exact share is. -/
theorem one_le_winnerShare {basis : Basis} (hpos : 0 < basis.totalPoints)
    (w : SessionSummary) : 1 ≤ winnerShare basis.poolAmountStroops basis.playerPoolStroops
      basis.tiers basis.winners w ↔
        basis.totalPoints ≤ basis.playerPoolStroops * w.totalScore := by
  rw [winnerShare_eq, ← Basis.totalPoints, calculatePayoutShareStroops,
    if_neg (Nat.pos_iff_ne_zero.mp hpos), Nat.one_le_div_iff hpos]

theorem mem_entries_users {basis : Basis} (hpos : 0 < basis.totalPoints) {u : UserId} :
    u ∈ basis.entries.map (·.1) ↔ ∃ w ∈ basis.winners, w.userId = u ∧
      basis.totalPoints ≤ basis.playerPoolStroops * w.totalScore := by
  simp only [Basis.entries, winnerEntries, List.mem_map, List.mem_filter, decide_eq_true_eq]
  constructor
  · intro h
    obtain ⟨_, ⟨⟨w, hw, rfl⟩, hshare⟩, rfl⟩ := h
    exact ⟨w, hw, rfl, (one_le_winnerShare hpos w).mp hshare⟩
  · intro h
    obtain ⟨w, hw, rfl, hshare⟩ := h
    exact ⟨_, ⟨⟨w, hw, rfl⟩, (one_le_winnerShare hpos w).mpr hshare⟩, rfl⟩

/-- **Who is in the map**: those to whom the basis gives something. -/
theorem mem_payoutAllocations_users {basis : Basis} (hpos : 0 < basis.totalPoints)
    {u : UserId} : u ∈ (payoutAllocations basis).values.map (·.userId) ↔ basis.Owes u := by
  rw [payoutAllocations_users, Basis.Owes, ← mem_entries_users hpos, payoutAllocations,
    addLicenseFee]
  have hwinners : ∀ k, k ∈ (OrderedMap.setAll .empty basis.entries).entries.map (·.1) ↔
      k ∈ basis.entries.map (·.1) := fun k => by
    rw [OrderedMap.mem_setAll_keys]
    simp [OrderedMap.empty]
  split
  · rename_i t address hlicensor
    split
    · rename_i hfee
      rw [OrderedMap.mem_set_keys, hwinners]
      constructor
      · intro h
        rcases h with rfl | hu
        · exact .inr ⟨t, address, hlicensor, rfl, hfee⟩
        · exact .inl hu
      · intro h
        rcases h with hu | ⟨t', address', hlicensor', rfl, -⟩
        · exact .inr hu
        · cases hlicensor.symm.trans hlicensor'
          exact .inl rfl
    · rename_i hfee
      rw [hwinners]
      refine ⟨.inl, ?_⟩
      intro h
      rcases h with hu | ⟨-, -, -, -, hfee'⟩
      · exact hu
      · exact absurd hfee' hfee
  · rename_i hnone
    rw [hwinners]
    refine ⟨.inl, ?_⟩
    intro h
    rcases h with hu | ⟨t, address, hlicensor, -⟩
    · exact hu
    · cases hnone.symm.trans hlicensor

/-- Skipping the shares below one stroop loses nothing. -/
theorem sum_entries (basis : Basis) :
    (basis.entries.map fun e => e.2.amountStroops).sum =
      ((basis.winners.map (·.totalScore)).map fun score =>
        calculatePayoutShareStroops score basis.totalPoints basis.playerPoolStroops).sum := by
  have hfilter : ∀ l : List (UserId × PayoutAllocation),
      ((l.filter fun e => 1 ≤ e.2.amountStroops).map fun e => e.2.amountStroops).sum =
        (l.map fun e => e.2.amountStroops).sum := by
    intro l
    induction l with
    | nil => rfl
    | cons e rest ih =>
        by_cases he : 1 ≤ e.2.amountStroops
        · simp [he, ih]
        · have hzero : e.2.amountStroops = 0 := by omega
          simp [hzero, ih]
  rw [Basis.entries, winnerEntries, hfilter, List.map_map, List.map_map]
  rfl

/-- The players' shares stay within the player pool, and exhaust it exactly when every
one of them is exact. -/
theorem sum_entries_le (basis : Basis) :
    (basis.entries.map fun e => e.2.amountStroops).sum ≤ basis.playerPoolStroops := by
  rw [sum_entries]
  rcases Nat.eq_zero_or_pos basis.totalPoints with hzero | hpos
  · simp [calculatePayoutShareStroops, hzero, Function.comp_def]
  · simp only [calculatePayoutShareStroops, Nat.pos_iff_ne_zero.mp hpos, if_false]
    exact sum_shares_le _ hpos

theorem sum_entries_eq_iff {basis : Basis} (hpos : 0 < basis.totalPoints) :
    (basis.entries.map fun e => e.2.amountStroops).sum = basis.playerPoolStroops ↔
      ∀ w ∈ basis.winners, basis.totalPoints ∣ basis.playerPoolStroops * w.totalScore := by
  rw [sum_entries]
  simp only [calculatePayoutShareStroops, Nat.pos_iff_ne_zero.mp hpos, if_false]
  have hiff := sum_shares_eq_iff basis.playerPoolStroops hpos
  simp only [List.mem_map, forall_exists_index, and_imp, forall_apply_eq_imp_iff₂] at hiff
  exact hiff

theorem total_winners (basis : Basis) :
    (OrderedMap.setAll .empty basis.entries).total (·.amountStroops) ≤
        (basis.entries.map fun e => e.2.amountStroops).sum ∧
      ((OrderedMap.setAll .empty basis.entries).total (·.amountStroops) =
        (basis.entries.map fun e => e.2.amountStroops).sum ↔ (basis.entries.map (·.1)).Nodup) := by
  have hall := OrderedMap.total_setAll (·.amountStroops) (l := basis.entries)
    (fun e he => (winnerEntries_wellFormed e he).2.2) .empty (by simp [OrderedMap.empty])
  simpa [OrderedMap.total, OrderedMap.values, OrderedMap.empty] using hall

/-- **Allocations never exceed the pool.** -/
theorem payoutAllocations_total_le (basis : Basis) :
    (payoutAllocations basis).total (·.amountStroops) ≤ basis.poolAmountStroops := by
  have hfee := total_addLicenseFee basis.poolAmountStroops basis.licenseTerms
    (OrderedMap.setAll .empty basis.entries)
  have hle := licenseFeeStroops_le basis.poolAmountStroops basis.licenseTerms
  have hwinners := (total_winners basis).1
  have hshares := sum_entries_le basis
  simp only [payoutAllocations, Basis.playerPoolStroops, Basis.licenseFee] at *
  omega

/-- **Allocations exhaust the pool** exactly when every share is exact and no user's
share overwrites another one. -/
theorem payoutAllocations_total_eq_iff {basis : Basis} (hpos : 0 < basis.totalPoints) :
    (payoutAllocations basis).total (·.amountStroops) = basis.poolAmountStroops ↔
      (∀ w ∈ basis.winners, basis.totalPoints ∣ basis.playerPoolStroops * w.totalScore) ∧
        (basis.entries.map (·.1)).Nodup := by
  have hfee := total_addLicenseFee basis.poolAmountStroops basis.licenseTerms
    (OrderedMap.setAll .empty basis.entries)
  have hle := licenseFeeStroops_le basis.poolAmountStroops basis.licenseTerms
  obtain ⟨hwinners, hdistinct⟩ := total_winners basis
  have hshares := sum_entries_le basis
  rw [← sum_entries_eq_iff hpos, ← hdistinct]
  simp only [payoutAllocations, Basis.playerPoolStroops, Basis.licenseFee] at *
  omega

/-- The pool splits without a rest, over winners with distinct user ids. -/
def Basis.SplitsExactly (basis : Basis) : Prop :=
  (∀ w ∈ basis.winners, basis.totalPoints ∣ basis.playerPoolStroops * w.totalScore) ∧
    ((basis.winners.filter fun w => 0 < w.totalScore).map (·.userId)).Nodup

/-- The fee leaves something of a pool that is not empty. -/
theorem playerPoolStroops_pos {basis : Basis} (hpool : 0 < basis.poolAmountStroops) :
    0 < basis.playerPoolStroops := by
  have hfee : 2 * basis.licenseFee ≤ basis.poolAmountStroops := by
    unfold Basis.licenseFee licenseFeeStroops
    split
    · rename_i t _ _
      split
      · have hmul : basis.poolAmountStroops * t.feeBps ≤ basis.poolAmountStroops * 5000 :=
          Nat.mul_le_mul_left _ t.feeBps_le
        have hdiv := Nat.div_mul_le_self (basis.poolAmountStroops * t.feeBps) 10000
        omega
      · omega
    · omega
  rw [Basis.playerPoolStroops]
  omega

/-- When all shares are exact, the winners with a share are those with a score. -/
theorem entries_users_of_exact {basis : Basis} (hpos : 0 < basis.totalPoints)
    (hpool : 0 < basis.playerPoolStroops)
    (hexact : ∀ w ∈ basis.winners, basis.totalPoints ∣ basis.playerPoolStroops * w.totalScore) :
    basis.entries.map (·.1) =
      (basis.winners.filter fun w => 0 < w.totalScore).map (·.userId) := by
  rw [Basis.entries, winnerEntries, List.filter_map, List.map_map]
  refine congrArg (List.map _) (List.filter_congr fun w hw => ?_)
  simp only [Function.comp_apply, one_le_winnerShare hpos, decide_eq_decide]
  constructor
  · intro hshare
    exact Nat.pos_of_ne_zero fun hzero => by simp [hzero] at hshare; omega
  · intro hscore
    exact Nat.le_of_dvd (Nat.mul_pos hpool hscore) (hexact w hw)

/-- Allocations exhaust a pool that is not empty exactly when it splits exactly. -/
theorem payoutAllocations_exhaust_iff {basis : Basis} (hpos : 0 < basis.totalPoints)
    (hpool : 0 < basis.poolAmountStroops) :
    (payoutAllocations basis).total (·.amountStroops) = basis.poolAmountStroops ↔
      basis.SplitsExactly := by
  rw [payoutAllocations_total_eq_iff hpos, Basis.SplitsExactly]
  refine and_congr_right fun hexact => ?_
  rw [entries_users_of_exact hpos (playerPoolStroops_pos hpool) hexact]

end BrandBlitz.Payout

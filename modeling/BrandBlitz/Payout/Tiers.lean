import BrandBlitz.Payout.Prizes

/-!
# BrandBlitz.Payout.Tiers

**Prize tiers.** A challenge can split its pool into tiers, and a session belongs to at
most one. `processPayout` reads the pools of the tiers and adds up the points of each, so
that the winners of a tier share what the tier's pool leaves them.

The tier of a session does not get that far: the object literal that is handed to
`rankWinners` has no `tier_id`, nor has `SessionSummary`, so that every winner is treated
as one without a tier. Everybody shares the whole player pool, and what the winners of a
tier get depends on everybody's points.

`TieredBasis.TierScoped` says what the tiers are for, `TieredBasis.RatesAgree` when it
makes no difference.
-/

namespace BrandBlitz.Payout

open BrandBlitz.Lib

/-- A row of the leaderboard with its `tier_id`. -/
structure TieredSession extends LeaderboardSession where
  tierId : Option Nat
deriving DecidableEq, Repr

/-- What a run reads before it allocates, with the tiers of the sessions. -/
structure TieredBasis where
  poolAmountStroops : Nat
  sessions : List TieredSession
  tiers : List ChallengeTier
  licenseTerms : Option LicensePayoutTerms
deriving DecidableEq, Repr

namespace TieredBasis

variable (b : TieredBasis)

/-- What the allocation works with. -/
def basis : Basis where
  poolAmountStroops := b.poolAmountStroops
  sessions := b.sessions.map (·.toLeaderboardSession)
  tiers := b.tiers
  licenseTerms := b.licenseTerms

/-- The sessions with an address. -/
def winners : List TieredSession := b.sessions.filter (·.hasAddress)

/-- Those of one tier. -/
def winnersOf (tier : Nat) : List TieredSession :=
  b.winners.filter fun s => s.tierId == some tier

/-- What the loop over the winners gives to a session. -/
def share (s : TieredSession) : Nat :=
  winnerShare b.poolAmountStroops b.basis.playerPoolStroops b.tiers b.basis.winners
    (summaryOf s.toLeaderboardSession)

/-- The tier's part of the player pool. -/
def tierPlayerPool (t : ChallengeTier) : Nat :=
  t.prizePoolStroops * b.basis.playerPoolStroops / b.poolAmountStroops

/-- What the tiers are for: the winners of a tier share its part of the player pool by
their points, and nothing exceeds the player pool. -/
structure TierScoped : Prop where
  within : ∀ t ∈ b.tiers, ((b.winnersOf t.id).map b.share).sum ≤ b.tierPlayerPool t
  proportional : ∀ t ∈ b.tiers, ∀ s ∈ b.winnersOf t.id, b.share s =
    b.tierPlayerPool t * s.totalScore / ((b.winnersOf t.id).map (·.totalScore)).sum
  total : (b.winners.map b.share).sum ≤ b.basis.playerPoolStroops

/-- To every winner of a tier, a point of the whole leaderboard is worth as many whole
stroops as a point of the tier. -/
def RatesAgree : Prop :=
  ∀ t ∈ b.tiers, ∀ s ∈ b.winnersOf t.id,
    b.basis.playerPoolStroops * s.totalScore / (b.winners.map (·.totalScore)).sum =
      b.tierPlayerPool t * s.totalScore / ((b.winnersOf t.id).map (·.totalScore)).sum

end TieredBasis

variable (b : TieredBasis)

theorem summaries_perm : b.basis.winners.Perm
    (b.winners.map fun s => summaryOf s.toLeaderboardSession) := by
  have hperm := winners_perm b.basis
  rw [show b.basis.sessions = b.sessions.map (·.toLeaderboardSession) from rfl,
    List.filter_map, List.map_map] at hperm
  exact hperm

/-- A share is a share of the whole player pool, by the points of all winners. -/
theorem share_eq (s : TieredSession) : b.share s =
    b.basis.playerPoolStroops * s.totalScore / (b.winners.map (·.totalScore)).sum := by
  have hscores : (b.basis.winners.map (·.totalScore)).sum =
      (b.winners.map (·.totalScore)).sum := by
    rw [((summaries_perm b).map _).sum_eq, List.map_map]
    rfl
  rw [TieredBasis.share, winnerShare_eq, calculatePayoutShareStroops, hscores]
  split
  · rename_i hzero
    rw [hzero, Nat.div_zero]
  · rfl

theorem sum_rounded_le (pool : Nat) (l : List TieredSession) :
    (l.map fun s => pool * s.totalScore / (l.map (·.totalScore)).sum).sum ≤ pool := by
  have hle := sum_shares_le_pool pool (l.map (·.totalScore))
  rwa [List.map_map] at hle

/-- **Payouts are scoped to the tiers** exactly when the rates agree. With one session for
each user, what the session is given is what its user is left. -/
theorem payouts_tier_scoped_iff (b : TieredBasis) :
    (b.TierScoped ↔ b.RatesAgree) ∧
    ((b.sessions.map (·.userId)).Nodup →
      ∀ s ∈ b.winners, b.basis.allocated s.userId = b.share s) := by
  refine ⟨⟨?_, ?_⟩, ?_⟩
  · intro h t ht s hs
    rw [← share_eq]
    exact h.proportional t ht s hs
  · intro h
    have hshare : ∀ t ∈ b.tiers, ∀ s ∈ b.winnersOf t.id, b.share s =
        b.tierPlayerPool t * s.totalScore / ((b.winnersOf t.id).map (·.totalScore)).sum := by
      intro t ht s hs
      rw [share_eq]
      exact h t ht s hs
    refine ⟨?_, hshare, ?_⟩
    · intro t ht
      rw [List.map_congr_left (hshare t ht)]
      exact sum_rounded_le _ _
    · rw [List.map_congr_left fun s _ => share_eq b s]
      exact sum_rounded_le _ _
  · intro hnodup s hs
    obtain ⟨hs, haddress⟩ := List.mem_filter.mp hs
    refine @allocated_winner b.basis ?_ _
      (mem_winners.mpr ⟨s.toLeaderboardSession, List.mem_map_of_mem hs, haddress, rfl⟩)
    rw [show b.basis.sessions = b.sessions.map (·.toLeaderboardSession) from rfl, List.map_map]
    exact hnodup

/-- A pool of 100 USDC, ten for one tier and ninety for the other, and a winner in each
with the same score. -/
def twoTiers : TieredBasis where
  poolAmountStroops := 1000000000
  sessions := [⟨⟨1, 11, some ['G'], 300, some 1000, 0, none⟩, some 1⟩,
    ⟨⟨2, 12, some ['H'], 300, some 2000, 0, none⟩, some 2⟩]
  tiers := [⟨1, 100000000⟩, ⟨2, 900000000⟩]
  licenseTerms := none

/-- Both get fifty USDC. -/
theorem small_tier_overpaid :
    (twoTiers.tiers.map (·.prizePoolStroops)).sum ≤ twoTiers.poolAmountStroops ∧
      ¬ twoTiers.TierScoped :=
  ⟨by decide, fun h => absurd (h.within ⟨1, 100000000⟩ (by decide)) (by decide)⟩

/-- When all play in one tier that has the whole pool, it makes no difference. -/
theorem one_tier_scoped :
    ({ twoTiers with
        sessions := twoTiers.sessions.map fun s => { s with tierId := some 1 }
        tiers := [⟨1, 1000000000⟩] } : TieredBasis).TierScoped :=
  (payouts_tier_scoped_iff _).1.mpr (by unfold TieredBasis.RatesAgree; decide)

end BrandBlitz.Payout

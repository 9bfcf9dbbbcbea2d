import BrandBlitz.Payout.Process

/-!
# BrandBlitz.Payout.Ranking

**The order of payouts** (`rankWinners` in `apps/api/src/services/scoring.ts`, and what
`processPayout` makes of it) does not depend on the order in which the database returns the rows.

Here `rankWinners` is given the comparison of user ids. With the comparison by value it is the one
of `BrandBlitz.Payout.Allocation` (`payoutAllocationsBy_byValue`).
-/

namespace BrandBlitz.Payout

open BrandBlitz.Lib BrandBlitz.Stellar

/-! ### Ranking -/

/-- A comparison like `localeCompare` orders the user ids. -/
structure TotalOrder (localeCompare : UserId → UserId → Int) : Prop where
  total : ∀ a b, localeCompare a b ≤ 0 ∨ localeCompare b a ≤ 0
  trans : ∀ a b c, localeCompare a b ≤ 0 → localeCompare b c ≤ 0 → localeCompare a c ≤ 0
  antisymm : ∀ a b, localeCompare a b ≤ 0 → localeCompare b a ≤ 0 → a = b

section

variable (localeCompare : UserId → UserId → Int)

/-- The function that `rankWinners` sorts by. -/
def compareSessions (a b : SessionSummary) : Int :=
  if b.totalScore ≠ a.totalScore then (b.totalScore : Int) - a.totalScore
  else if a.endedAt ≠ b.endedAt then a.endedAt - b.endedAt
  else localeCompare a.userId b.userId

def rankWinnersBy (sessions : List SessionSummary) (topN : Option Nat) : List SessionSummary :=
  let sorted := sessions.insertionSort fun a b => compareSessions localeCompare a b ≤ 0
  match topN.filter (0 < ·) with
  | some n => sorted.take n
  | none => sorted

/-- By score from the highest, then by the end, then by user id. -/
def InOrder (a b : SessionSummary) : Prop :=
  b.totalScore < a.totalScore ∨ (a.totalScore = b.totalScore ∧
    (a.endedAt < b.endedAt ∨ (a.endedAt = b.endedAt ∧ localeCompare a.userId b.userId ≤ 0)))

theorem compareSessions_le_iff (a b : SessionSummary) :
    compareSessions localeCompare a b ≤ 0 ↔ InOrder localeCompare a b := by
  unfold compareSessions InOrder Time
  split
  next => omega
  next hscore =>
    split
    next => omega
    next hended =>
      rw [not_not] at hscore hended
      simp [hscore, hended]

end

section

variable {localeCompare : UserId → UserId → Int} (horder : TotalOrder localeCompare)
include horder

theorem inOrder_total (a b : SessionSummary) :
    InOrder localeCompare a b ∨ InOrder localeCompare b a := by
  have hids := horder.total a.userId b.userId
  unfold InOrder Time
  omega

theorem inOrder_trans {a b c : SessionSummary} (hab : InOrder localeCompare a b)
    (hbc : InOrder localeCompare b c) : InOrder localeCompare a c := by
  have hids := horder.trans a.userId b.userId c.userId
  unfold InOrder Time at *
  omega

theorem inOrder_antisymm {a b : SessionSummary} (hab : InOrder localeCompare a b)
    (hba : InOrder localeCompare b a) : a.userId = b.userId := by
  refine horder.antisymm _ _ ?_ ?_
  · unfold InOrder Time at *
    omega
  · unfold InOrder Time at *
    omega

theorem rankWinnersBy_pairwise (sessions : List SessionSummary) :
    (rankWinnersBy localeCompare sessions none).Pairwise (InOrder localeCompare) := by
  have htotal : Std.Total fun a b => compareSessions localeCompare a b ≤ 0 :=
    ⟨fun a b => by simpa only [compareSessions_le_iff] using inOrder_total horder a b⟩
  have htrans : IsTrans SessionSummary fun a b => compareSessions localeCompare a b ≤ 0 :=
    ⟨fun a b c hab hbc => by
      rw [compareSessions_le_iff] at *
      exact inOrder_trans horder hab hbc⟩
  exact (List.pairwise_insertionSort _ sessions).imp fun h =>
    (compareSessions_le_iff localeCompare _ _).mp h

end

theorem rankWinnersBy_perm (localeCompare : UserId → UserId → Int)
    (sessions : List SessionSummary) :
    (rankWinnersBy localeCompare sessions none).Perm sessions :=
  List.perm_insertionSort _ _

/-- Only the sorted list matters for the first winners. -/
theorem rankWinnersBy_topN (localeCompare : UserId → UserId → Int)
    (sessions : List SessionSummary) (topN : Option Nat) :
    rankWinnersBy localeCompare sessions topN =
      match topN.filter (0 < ·) with
      | some n => (rankWinnersBy localeCompare sessions none).take n
      | none => rankWinnersBy localeCompare sessions none := rfl

/-- Of sessions of different users there is one ranking. -/
theorem rankWinnersBy_congr {localeCompare : UserId → UserId → Int}
    (horder : TotalOrder localeCompare) {sessions sessions' : List SessionSummary}
    (hids : (sessions.map fun s => s.userId).Nodup) (hperm : sessions'.Perm sessions)
    (topN : Option Nat) :
    rankWinnersBy localeCompare sessions' topN = rankWinnersBy localeCompare sessions topN := by
  have hsorted : rankWinnersBy localeCompare sessions' none =
      rankWinnersBy localeCompare sessions none := by
    have hpair := rankWinnersBy_perm localeCompare sessions
    have hpair' := (rankWinnersBy_perm localeCompare sessions').trans hperm
    refine (hpair'.trans hpair.symm).eq_of_pairwise (fun a b ha hb hab hba => ?_)
      (rankWinnersBy_pairwise horder sessions') (rankWinnersBy_pairwise horder sessions)
    exact List.inj_on_of_nodup_map hids (hpair'.mem_iff.mp ha) (hpair.mem_iff.mp hb)
      (inOrder_antisymm horder hab hba)
  rw [rankWinnersBy_topN, hsorted, ← rankWinnersBy_topN]

/-! ### Allocations -/

section

variable (localeCompare : UserId → UserId → Int)

def eligibleWinnersBy (sessions : List LeaderboardSession) : List SessionSummary :=
  (rankWinnersBy localeCompare (sessions.map summaryOf) none).filter
    fun w => !w.stellarAddress.isEmpty

/-- `payoutAllocations`, with the winners in this order. -/
def payoutAllocationsBy (basis : Basis) : OrderedMap UserId PayoutAllocation :=
  addLicenseFee basis.licenseFee basis.licenseTerms (OrderedMap.setAll .empty
    (winnerEntries basis.poolAmountStroops basis.playerPoolStroops basis.tiers
      (eligibleWinnersBy localeCompare basis.sessions)))

end

/-- Ids are compared by their value. -/
def byValue (a b : UserId) : Int := (a : Int) - b

theorem byValue_totalOrder : TotalOrder byValue where
  total a b := by
    unfold byValue
    omega
  trans a b c := by
    unfold byValue
    omega
  antisymm a b := by
    unfold byValue UserId
    omega

theorem rankWinnersBy_byValue (sessions : List SessionSummary) :
    rankWinnersBy byValue sessions none = rankWinners sessions := by
  have hsame : (fun a b : SessionSummary => compareSessions byValue a b ≤ 0) = ranksBefore := by
    funext a b
    rw [eq_iff_iff, compareSessions_le_iff]
    unfold InOrder ranksBefore byValue UserId Time
    omega
  show sessions.insertionSort (fun a b => compareSessions byValue a b ≤ 0) = _
  unfold rankWinners
  congr 1

theorem payoutAllocationsBy_byValue (basis : Basis) :
    payoutAllocationsBy byValue basis = payoutAllocations basis := by
  unfold payoutAllocationsBy payoutAllocations Basis.entries Basis.winners eligibleWinnersBy
    eligibleWinners
  rw [rankWinnersBy_byValue]

/-! ### Batches -/

/-- Who is paid how much in each batch. -/
def batchesOf (basis : Basis) (records : List PayoutRecord) : List (List (UserId × Text × Text)) :=
  (payoutBatches (records.map (payoutRecipient basis))).map
    (List.map fun r => (r.entry.user, r.address, r.amount))

theorem chunksOf_map {α β : Type} (f : α → β) (size fuel : Nat) (l : List α) :
    chunksOf size fuel (l.map f) = (chunksOf size fuel l).map (List.map f) := by
  induction fuel generalizing l with
  | zero => rfl
  | succ fuel ih =>
      cases l with
      | nil => rfl
      | cons a l =>
          rw [List.map_cons, chunksOf, chunksOf, ← List.map_cons (f := f), ← List.map_take,
            ← List.map_drop, ih]
          rfl

/-- The batches do not depend on what else was read. -/
theorem batchesOf_congr (basis basis' : Basis) (records : List PayoutRecord) :
    batchesOf basis' records = batchesOf basis records := by
  have hpaid (basis : Basis) : batchesOf basis records =
      chunksOf MAX_OPS_PER_TX (records.filter fun r => (getInvalidRecipientReason
        (⟨r.address, r.amount, ()⟩ : PayoutRecipient Unit)).isNone).length
        ((records.filter fun r => (getInvalidRecipientReason
          (⟨r.address, r.amount, ()⟩ : PayoutRecipient Unit)).isNone).map
            fun r => (r.userId, r.address, r.amount)) := by
    rw [batchesOf, payoutBatches, chunkArray, List.filter_map, List.length_map, ← chunksOf_map,
      List.map_map]
    rfl
  rw [hpaid basis', hpaid basis]

/-- **The order of payouts is canonical.** -/
theorem payout_order_canonical (localeCompare : UserId → UserId → Int)
    (horder : TotalOrder localeCompare) :
    (∀ sessions sessions' : List SessionSummary, (sessions.map fun s => s.userId).Nodup →
      sessions'.Perm sessions →
      (∀ topN, rankWinnersBy localeCompare sessions' topN =
        rankWinnersBy localeCompare sessions topN) ∧
      (rankWinnersBy localeCompare sessions none).Perm sessions ∧
      (rankWinnersBy localeCompare sessions none).Pairwise (InOrder localeCompare)) ∧
    ∀ (basis : Basis) (rows : List LeaderboardSession),
      (basis.sessions.map fun s => s.userId).Nodup → rows.Perm basis.sessions →
      let basis' := { basis with sessions := rows }
      (payoutAllocationsBy localeCompare basis').values =
        (payoutAllocationsBy localeCompare basis).values ∧
      ∀ keep : PayoutAllocation → Bool,
        batchesOf basis' (((payoutAllocationsBy localeCompare basis').values.filter keep).map
          recordOf) =
        batchesOf basis (((payoutAllocationsBy localeCompare basis).values.filter keep).map
          recordOf) := by
  constructor
  · intro sessions sessions' hids hperm
    exact ⟨rankWinnersBy_congr horder hids hperm, rankWinnersBy_perm localeCompare sessions,
      rankWinnersBy_pairwise horder sessions⟩
  · intro basis rows hids hperm basis'
    have hranked : rankWinnersBy localeCompare (rows.map summaryOf) none =
        rankWinnersBy localeCompare (basis.sessions.map summaryOf) none := by
      refine rankWinnersBy_congr horder ?_ (hperm.map summaryOf) none
      rw [List.map_map]
      exact hids
    have hallocations : payoutAllocationsBy localeCompare basis' =
        payoutAllocationsBy localeCompare basis := by
      unfold payoutAllocationsBy eligibleWinnersBy
      rw [hranked]
      rfl
    refine ⟨by rw [hallocations], fun keep => ?_⟩
    rw [hallocations]
    exact batchesOf_congr basis basis' _

def fastWinner (userId : UserId) (endedAt : Time) : SessionSummary where
  userId := userId
  stellarAddress := "G".toList
  totalScore := 300
  endedAt := endedAt

/-- Two winners who tie, the other way round. -/
theorem tied_winners_ranked :
    rankWinnersBy byValue [fastWinner 2 5000, fastWinner 1 5000] none =
      rankWinnersBy byValue [fastWinner 1 5000, fastWinner 2 5000] none :=
  ((payout_order_canonical byValue byValue_totalOrder).1
    [fastWinner 1 5000, fastWinner 2 5000] [fastWinner 2 5000, fastWinner 1 5000] (by decide)
    (List.Perm.swap _ _ _)).1 none

end BrandBlitz.Payout

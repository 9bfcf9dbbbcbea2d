import BrandBlitz.Competition.Teams
import Mathlib.Algebra.Order.Field.Rat
import Mathlib.Data.List.Flatten
import Mathlib.Data.Rat.Cast.Order
import Mathlib.Tactic.Linarith

/-!
# BrandBlitz.Competition.TeamPayouts

**What the payouts of teams add up to.**

* `splitTeamPayout` gives a team's total to its members with an address, nobody less than the
  share that is rounded down, and the last of them what is left
  (`splitTeamPayout_conserves`).
* `calculateTeamPayoutAllocations` gives every team at most its part of the pool, and all teams
  at most the pool (`teamAllocations_within_pool`).

Scores are integers that the database bounds, far from where sums of numbers are rounded.
-/

namespace BrandBlitz.Competition

open BrandBlitz.Lib
open BrandBlitz.Paging (Uuid)
open BrandBlitz.Payout (calculatePayoutShareStroops)

/-! ### The split of a team's total -/

/-- The members that are paid. -/
def eligibleMembers (members : List PayoutMember) : List PayoutMember :=
  members.filter fun m => !(trim m.address).isEmpty

def pointsOf (members : List PayoutMember) : Int := (members.map fun m => m.score).sum

/-- What a user gets, 0 without an entry. -/
def amountOf (splits : List TeamSplit) (userId : Uuid) : Nat :=
  ((splits.find? fun a => a.userId = userId).map fun a => a.amountStroops).getD 0

/-- The share of an eligible member, not rounded. -/
def exactShare (teamTotalStroops : Nat) (eligible : List PayoutMember) (m : PayoutMember) : ℚ :=
  if 0 < pointsOf eligible then teamTotalStroops * m.score / pointsOf eligible
  else teamTotalStroops / eligible.length

/-- The entries of the members that get something. -/
def paid (amounts : List (PayoutMember × Nat)) : List TeamSplit :=
  (amounts.filter fun e => 0 < e.2).map fun e => ⟨e.1.userId, e.1.address, e.2⟩

section Paid

variable {amounts : List (PayoutMember × Nat)}

theorem paid_cons (e : PayoutMember × Nat) : paid (e :: amounts) =
    if 0 < e.2 then ⟨e.1.userId, e.1.address, e.2⟩ :: paid amounts else paid amounts := by
  by_cases hpos : 0 < e.2
  · rw [paid, List.filter_cons_of_pos (by simpa using hpos), if_pos hpos]
    rfl
  · rw [paid, List.filter_cons_of_neg (by simpa using hpos), if_neg hpos]
    rfl

theorem mem_paid {a : TeamSplit} (h : a ∈ paid amounts) :
    0 < a.amountStroops ∧ ∃ e ∈ amounts, e.1.userId = a.userId ∧ e.1.address = a.address := by
  obtain ⟨e, he, rfl⟩ := List.mem_map.mp h
  obtain ⟨he, hpos⟩ := List.mem_filter.mp he
  exact ⟨of_decide_eq_true hpos, e, he, rfl, rfl⟩

theorem paid_users_sublist :
    ((paid amounts).map fun a => a.userId).Sublist (amounts.map fun e => e.1.userId) := by
  rw [paid, List.map_map]
  exact List.filter_sublist.map _

theorem sum_paid : ((paid amounts).map fun a => a.amountStroops).sum =
    (amounts.map Prod.snd).sum := by
  induction amounts with
  | nil => rfl
  | cons e amounts ih =>
      rw [paid_cons, List.map_cons, List.sum_cons, ← ih]
      split
      next => rfl
      next hzero => omega

theorem amountOf_paid (hids : (amounts.map fun e => e.1.userId).Nodup)
    {e : PayoutMember × Nat} (he : e ∈ amounts) : amountOf (paid amounts) e.1.userId = e.2 := by
  induction amounts with
  | nil => cases he
  | cons e' amounts ih =>
      obtain ⟨hfresh, hids⟩ := List.nodup_cons.mp hids
      rw [paid_cons, amountOf]
      rcases List.mem_cons.mp he with rfl | he
      · split
        next => simp
        next hzero =>
          -- no entry of its own, and none of another member
          have hnone : (paid amounts).find? (fun a => a.userId = e.1.userId) = none := by
            refine List.find?_eq_none.mpr fun a ha hsame => hfresh ?_
            show e.1.userId ∈ _
            rw [← of_decide_eq_true hsame]
            exact paid_users_sublist.subset (List.mem_map.mpr ⟨a, ha, rfl⟩)
          rw [hnone]
          exact (Nat.eq_zero_of_not_pos hzero).symm
      · have hne : e'.1.userId ≠ e.1.userId := by
          intro hsame
          exact hfresh (List.mem_map.mpr ⟨e, he, hsame.symm⟩)
        rw [← ih hids he, amountOf]
        split
        next => rw [List.find?_cons_of_neg (by simpa using hne)]
        next => rfl

end Paid

/-! ### The two loops -/

theorem withRest_users (share : PayoutMember → Nat) (teamTotalStroops allocated : Nat)
    (members : List PayoutMember) :
    (withRest share teamTotalStroops allocated members).map (fun e => e.1.userId) =
      members.map fun m => m.userId := by
  have hfst := congrArg (List.map fun m => m.userId)
    (withRest_fst share teamTotalStroops allocated members)
  rwa [List.map_map] at hfst

/-- The share of a member in the first loop. -/
def scoreShare (teamTotalStroops totalPoints : Nat) (m : PayoutMember) : Nat :=
  calculatePayoutShareStroops m.score.toNat totalPoints teamTotalStroops

theorem splitByScore_eq (teamTotalStroops totalPoints allocated : Nat)
    (members : List PayoutMember) :
    (splitByScore teamTotalStroops totalPoints allocated members).filter
        (fun a => 0 < a.amountStroops) =
      paid (withRest (scoreShare teamTotalStroops totalPoints) teamTotalStroops allocated
        members) := by
  fun_induction splitByScore teamTotalStroops totalPoints allocated members with
  | case1 => rfl
  | case2 allocated m hlt =>
      have hpos : 0 < teamTotalStroops - allocated := Nat.sub_pos_of_lt hlt
      rw [withRest, paid_cons, if_pos hpos, List.filter_cons_of_pos (by simpa using hpos)]
      rfl
  | case3 allocated m hle =>
      rw [withRest, paid_cons, if_neg (by dsimp only; omega)]
      rfl
  | case4 allocated m rest hne share ih =>
      obtain ⟨m', rest, rfl⟩ := List.exists_cons_of_ne_nil (by simpa using hne)
      rw [withRest, paid_cons, List.filter_cons, ih]
      simp only [decide_eq_true_eq]
      rfl

theorem splitEqually_eq (teamTotalStroops perMember allocated : Nat)
    (members : List PayoutMember) :
    (splitEqually teamTotalStroops perMember allocated members).filter
        (fun a => 0 < a.amountStroops) =
      paid (withRest (fun _ => perMember) teamTotalStroops allocated members) := by
  fun_induction splitEqually teamTotalStroops perMember allocated members with
  | case1 => rfl
  | case2 allocated m =>
      rw [withRest, paid_cons, List.filter_cons]
      simp only [decide_eq_true_eq]
      rfl
  | case3 allocated m rest hne ih =>
      obtain ⟨m', rest, rfl⟩ := List.exists_cons_of_ne_nil (by simpa using hne)
      rw [withRest, paid_cons, List.filter_cons, ih]
      simp only [decide_eq_true_eq]

/-! ### Shares rounded down -/

/-- The shares are rounded down and leave less than a stroop for each member. -/
structure RoundsDown (teamTotalStroops : Nat) (eligible : List PayoutMember)
    (share : PayoutMember → Nat) : Prop where
  sum_le : (eligible.map share).sum ≤ teamTotalStroops
  rest_lt : teamTotalStroops - (eligible.map share).sum < eligible.length
  le_exact : ∀ m ∈ eligible, (share m : ℚ) ≤ exactShare teamTotalStroops eligible m
  exact_lt : ∀ m ∈ eligible, exactShare teamTotalStroops eligible m < share m + 1

section

variable {teamTotalStroops : Nat} {eligible : List PayoutMember}

/-- The bounds of a quotient that is rounded down. -/
theorem floor_bounds (a : Nat) {b : Nat} (hb : 0 < b) :
    ((a / b : Nat) : ℚ) ≤ (a : ℚ) / b ∧ (a : ℚ) / b < (a / b : Nat) + 1 := by
  have hpos : (0 : ℚ) < b := by exact_mod_cast hb
  rw [le_div_iff₀ hpos, div_lt_iff₀ hpos]
  constructor
  · exact_mod_cast Nat.div_mul_le_self a b
  · exact_mod_cast Nat.lt_mul_of_div_lt (Nat.lt_succ_self (a / b)) hb

theorem sum_toNat {scores : List Int} (hscores : ∀ score ∈ scores, 0 ≤ score) :
    (scores.map Int.toNat).sum = scores.sum.toNat ∧ 0 ≤ scores.sum := by
  induction scores with
  | nil => exact ⟨rfl, le_rfl⟩
  | cons score scores ih =>
      obtain ⟨hsum, hnonneg⟩ := ih fun score' hscore' =>
        hscores score' (List.mem_cons_of_mem score hscore')
      have hscore := hscores score List.mem_cons_self
      rw [List.map_cons, List.sum_cons, List.sum_cons, hsum]
      omega

theorem scoreShare_roundsDown (hscores : ∀ m ∈ eligible, 0 ≤ m.score)
    (hpoints : 0 < pointsOf eligible) :
    RoundsDown teamTotalStroops eligible
      (scoreShare teamTotalStroops (pointsOf eligible).toNat) := by
  have hsum : (eligible.map fun m => m.score.toNat).sum = (pointsOf eligible).toNat := by
    have htoNat := (sum_toNat (List.forall_mem_map.mpr hscores)).1
    rwa [List.map_map] at htoNat
  have hpos : 0 < (eligible.map fun m => m.score.toNat).sum := by omega
  have hshares : eligible.map (scoreShare teamTotalStroops (pointsOf eligible).toNat) =
      (eligible.map fun m => m.score.toNat).map fun w =>
        teamTotalStroops * w / (eligible.map fun m => m.score.toNat).sum := by
    rw [List.map_map, hsum]
    refine List.map_congr_left fun m _ => ?_
    rw [scoreShare, calculatePayoutShareStroops, if_neg (by omega)]
    rfl
  have hexact : ∀ m ∈ eligible, exactShare teamTotalStroops eligible m =
      ((teamTotalStroops * m.score.toNat : Nat) : ℚ) / ((pointsOf eligible).toNat : Nat) := by
    intro m hm
    have hscore : ((m.score.toNat : Int) : ℚ) = m.score := by
      rw [Int.toNat_of_nonneg (hscores m hm)]
    have htotal : (((pointsOf eligible).toNat : Int) : ℚ) = pointsOf eligible := by
      rw [Int.toNat_of_nonneg hpoints.le]
    rw [exactShare, if_pos hpoints, Nat.cast_mul, ← hscore, ← htotal, Int.cast_natCast,
      Int.cast_natCast]
  have hfloor (m : PayoutMember) : scoreShare teamTotalStroops (pointsOf eligible).toNat m =
      teamTotalStroops * m.score.toNat / (pointsOf eligible).toNat := by
    rw [scoreShare, calculatePayoutShareStroops, if_neg (by omega)]
  refine ⟨?_, ?_, fun m hm => ?_, fun m hm => ?_⟩
  · rw [hshares]
    exact sum_shares_le teamTotalStroops hpos
  · have hrest := pool_sub_sum_shares_lt teamTotalStroops hpos
    rwa [← hshares, List.length_map] at hrest
  · rw [hexact m hm, hfloor]
    exact (floor_bounds _ (by omega)).1
  · rw [hexact m hm, hfloor]
    exact (floor_bounds _ (by omega)).2

theorem equalShare_roundsDown (hpoints : ¬ 0 < pointsOf eligible) (hne : eligible ≠ []) :
    RoundsDown teamTotalStroops eligible fun _ => teamTotalStroops / eligible.length := by
  have hpos : 0 < eligible.length := List.length_pos_iff.mpr hne
  have hsum : (eligible.map fun _ => teamTotalStroops / eligible.length).sum =
      eligible.length * (teamTotalStroops / eligible.length) := by
    rw [List.map_const', List.sum_replicate_nat]
  have hdiv := Nat.div_add_mod teamTotalStroops eligible.length
  have hmod := Nat.mod_lt teamTotalStroops hpos
  refine ⟨by omega, by omega, fun m _ => ?_, fun m _ => ?_⟩
  · rw [exactShare, if_neg hpoints]
    exact (floor_bounds _ hpos).1
  · rw [exactShare, if_neg hpoints]
    exact (floor_bounds _ hpos).2

/-- With shares rounded down and the rest to the last, nothing is lost and nobody is far from
the exact share. -/
theorem RoundsDown.conserves {share : PayoutMember → Nat}
    (h : RoundsDown teamTotalStroops eligible share) (hne : eligible ≠ [])
    (hids : (eligible.map fun m => m.userId).Nodup) :
    ((paid (withRest share teamTotalStroops 0 eligible)).map fun a => a.amountStroops).sum =
      teamTotalStroops ∧
    ∀ m ∈ eligible, |(amountOf (paid (withRest share teamTotalStroops 0 eligible)) m.userId : ℚ) -
      exactShare teamTotalStroops eligible m| < eligible.length := by
  have hfst := withRest_fst share teamTotalStroops 0 eligible
  have hsum := h.sum_le
  rw [← Nat.zero_add (List.sum _)] at hsum
  refine ⟨by rw [sum_paid, sum_withRest hne hsum, Nat.sub_zero], fun m hm => ?_⟩
  rw [← withRest_users share teamTotalStroops 0] at hids
  rw [← hfst] at hm
  obtain ⟨e, he, rfl⟩ := List.mem_map.mp hm
  rw [hfst] at hm
  obtain ⟨hlow, hhigh⟩ := withRest_bounds hsum e he
  have hle := h.le_exact e.1 hm
  have hlt := h.exact_lt e.1 hm
  have hrest := h.rest_lt
  rw [amountOf_paid hids he, abs_lt]
  -- the amount is the share, or the share with the rest, which is at most one less than there
  -- are members
  have hlow' : (share e.1 : ℚ) ≤ e.2 := by exact_mod_cast hlow
  have hhigh' : (e.2 : ℚ) + 1 ≤ share e.1 + eligible.length := by
    have hcount : e.2 + 1 ≤ share e.1 + eligible.length := by omega
    exact_mod_cast hcount
  have hpos : (1 : ℚ) ≤ eligible.length := by
    exact_mod_cast List.length_pos_iff.mpr hne
  constructor
  · linarith
  · linarith

end

/-! ### `splitTeamPayout` -/

section

variable {teamTotalStroops : Nat} {members : List PayoutMember}

theorem splitTeamPayout_cases (teamTotalStroops : Nat) (hscores : ∀ m ∈ members, 0 ≤ m.score) :
    (splitTeamPayout teamTotalStroops members = [] ∧
      (eligibleMembers members = [] ∨ teamTotalStroops = 0 ∨
        ¬ 0 < pointsOf (eligibleMembers members) ∧
          teamTotalStroops < (eligibleMembers members).length)) ∨
    ∃ share, RoundsDown teamTotalStroops (eligibleMembers members) share ∧
      eligibleMembers members ≠ [] ∧
      splitTeamPayout teamTotalStroops members =
        paid (withRest share teamTotalStroops 0 (eligibleMembers members)) := by
  have hscores' : ∀ m ∈ eligibleMembers members, 0 ≤ m.score := fun m hm =>
    hscores m (List.mem_filter.mp hm).1
  unfold splitTeamPayout
  simp only
  rw [← eligibleMembers, ← pointsOf]
  split
  next hnothing =>
    rw [Bool.or_eq_true, decide_eq_true_eq, List.isEmpty_iff] at hnothing
    exact .inl ⟨rfl, by tauto⟩
  next hsome =>
    rw [Bool.or_eq_true, decide_eq_true_eq, List.isEmpty_iff, not_or] at hsome
    split
    next hpoints =>
      exact .inr ⟨_, scoreShare_roundsDown hscores' hpoints, hsome.1, splitByScore_eq ..⟩
    next hpoints =>
      split
      next hzero =>
        have hlength := List.length_pos_iff.mpr hsome.1
        exact .inl ⟨rfl, .inr (.inr ⟨hpoints, (Nat.div_eq_zero_iff_lt hlength).mp hzero⟩)⟩
      next =>
        exact .inr ⟨_, equalShare_roundsDown hpoints hsome.1, hsome.1, splitEqually_eq ..⟩

/-- No more than the total is given out. -/
theorem sum_splitTeamPayout_le (hscores : ∀ m ∈ members, 0 ≤ m.score) :
    ((splitTeamPayout teamTotalStroops members).map fun a => a.amountStroops).sum ≤
      teamTotalStroops := by
  rcases splitTeamPayout_cases _ hscores with ⟨hsplit, -⟩ | ⟨share, hdown, hne, hsplit⟩
  · rw [hsplit]
    exact Nat.zero_le _
  · have hsum := hdown.sum_le
    rw [← Nat.zero_add (List.sum _)] at hsum
    rw [hsplit, sum_paid, sum_withRest hne hsum]
    exact Nat.sub_le _ _

/-- The users who are paid are members, in the order of the members. -/
theorem splitTeamPayout_users_sublist (teamTotalStroops : Nat)
    (hscores : ∀ m ∈ members, 0 ≤ m.score) :
    ((splitTeamPayout teamTotalStroops members).map fun a => a.userId).Sublist
      (members.map fun m => m.userId) := by
  rcases splitTeamPayout_cases _ hscores with ⟨hsplit, -⟩ | ⟨share, -, -, hsplit⟩
  · rw [hsplit]
    exact List.nil_sublist _
  · rw [hsplit]
    refine paid_users_sublist.trans ?_
    rw [withRest_users]
    exact List.filter_sublist.map _

/-- An entry is for a member with an address, and of at least one stroop. -/
theorem mem_splitTeamPayout (hscores : ∀ m ∈ members, 0 ≤ m.score) {a : TeamSplit}
    (ha : a ∈ splitTeamPayout teamTotalStroops members) :
    0 < a.amountStroops ∧
      ∃ m ∈ members, m.userId = a.userId ∧ m.address = a.address ∧ trim m.address ≠ [] := by
  rcases splitTeamPayout_cases _ hscores with ⟨hsplit, -⟩ | ⟨share, -, -, hsplit⟩
  · rw [hsplit] at ha
    exact absurd ha List.not_mem_nil
  · rw [hsplit] at ha
    obtain ⟨hpos, e, he, huser, haddress⟩ := mem_paid ha
    have hmem : e.1 ∈ eligibleMembers members := by
      rw [← withRest_fst share teamTotalStroops 0 (eligibleMembers members)]
      exact List.mem_map_of_mem he
    obtain ⟨hmem, heligible⟩ := List.mem_filter.mp hmem
    exact ⟨hpos, e.1, hmem, huser, haddress, by simpa using heligible⟩

end

/-- **A team's total is split without a rest.** -/
theorem splitTeamPayout_conserves (teamTotalStroops : Nat) (members : List PayoutMember)
    (hids : (members.map fun m => m.userId).Nodup) (hscores : ∀ m ∈ members, 0 ≤ m.score) :
    (∀ a ∈ splitTeamPayout teamTotalStroops members, 0 < a.amountStroops ∧
      ∃ m ∈ members, m.userId = a.userId ∧ m.address = a.address ∧ trim m.address ≠ []) ∧
    ((splitTeamPayout teamTotalStroops members).map fun a => a.userId).Nodup ∧
    (eligibleMembers members ≠ [] →
      0 < pointsOf (eligibleMembers members) ∨
        (eligibleMembers members).length ≤ teamTotalStroops →
      ((splitTeamPayout teamTotalStroops members).map fun a => a.amountStroops).sum =
        teamTotalStroops ∧
      ∀ m ∈ eligibleMembers members,
        |(amountOf (splitTeamPayout teamTotalStroops members) m.userId : ℚ) -
          exactShare teamTotalStroops (eligibleMembers members) m| <
            (eligibleMembers members).length) := by
  have hids' : ((eligibleMembers members).map fun m => m.userId).Nodup :=
    hids.sublist (List.filter_sublist.map _)
  refine ⟨fun a ha => mem_splitTeamPayout hscores ha,
    hids.sublist (splitTeamPayout_users_sublist _ hscores), fun hne hshares => ?_⟩
  rcases splitTeamPayout_cases teamTotalStroops hscores with
    ⟨hsplit, hwhy⟩ | ⟨share, hdown, hne, hsplit⟩
  · -- nothing is given out where there is nothing
    have hzero : teamTotalStroops = 0 := by
      rcases hwhy with h | h | ⟨hpoints, hlt⟩
      · exact absurd h hne
      · exact h
      · rcases hshares with h | h
        · exact absurd h hpoints
        · omega
    subst hzero
    rw [hsplit]
    refine ⟨rfl, fun m _ => ?_⟩
    have hexact : exactShare 0 (eligibleMembers members) m = 0 := by simp [exactShare]
    have hpos : (0 : ℚ) < (eligibleMembers members).length := by
      exact_mod_cast List.length_pos_iff.mpr hne
    simpa [hexact, amountOf] using hpos
  · rw [hsplit]
    exact hdown.conserves hne hids'

/-- Ten stroops for one point and two. -/
theorem ten_stroops_split :
    ((splitTeamPayout 10 [⟨1, "G1".toList, 1⟩, ⟨2, "G2".toList, 2⟩]).map
      fun a => a.amountStroops).sum = 10 :=
  ((splitTeamPayout_conserves 10 [⟨1, "G1".toList, 1⟩, ⟨2, "G2".toList, 2⟩] (by decide)
    (by decide)).2.2 (by decide) (.inl (by decide))).1

/-! ### The teams of a challenge -/

/-- The rows of `team_members` that belong to the teams of a challenge. -/
def Db.memberships (db : Db) (challengeId : Uuid) : List TeamMember :=
  db.teamMembers.filter fun tm =>
    db.teams.any fun team => team.id = tm.teamId && team.challengeId = challengeId

/-- The groups of the leaderboard, before they are listed. -/
def Db.teamRows (db : Db) (challengeId : Uuid) : List TeamRow :=
  (db.teams.filter fun team => team.challengeId = challengeId).filterMap db.teamRow

section

variable {db : Db} {challengeId : Uuid}

theorem userScore_nonneg (userId : Uuid) : 0 ≤ db.userScore challengeId userId := by
  refine Sql.maxOrZero_nonneg (List.forall_mem_map.mpr fun s _ => ?_)
  exact s.totalScore_range.1

theorem teamRow_spec {team : ChallengeTeam} {row : TeamRow} (h : db.teamRow team = some row) :
    row.team = team ∧ row.members.Perm (db.teamUserScores team) ∧
      row.totalScore = ((db.teamUserScores team).map fun m => m.score).sum := by
  unfold Db.teamRow at h
  split at h
  next => cases h
  next =>
    obtain rfl := Option.some.inj h
    exact ⟨rfl, Sql.orderBy_perm _ _, rfl⟩

theorem teamUserScores_nonneg {team : ChallengeTeam} {m : TeamMemberScore}
    (h : m ∈ db.teamUserScores team) : 0 ≤ m.score := by
  obtain ⟨tm, -, hm⟩ := List.mem_filterMap.mp h
  obtain ⟨u, -, rfl⟩ := Option.map_eq_some_iff.mp hm
  exact userScore_nonneg tm.userId

/-- The members of a team that the query lists have a membership each. -/
theorem teamUserScores_users_sublist (team : ChallengeTeam) :
    ((db.teamUserScores team).map fun m => m.userId).Sublist
      ((db.teamMembers.filter fun tm => tm.teamId = team.id).map fun tm => tm.userId) := by
  unfold Db.teamUserScores
  induction db.teamMembers.filter fun tm => tm.teamId = team.id with
  | nil => exact List.Sublist.refl _
  | cons tm rest ih =>
      cases huser : db.users tm.userId with
      | none =>
          rw [List.filterMap_cons_none (by rw [huser]; rfl)]
          exact ih.cons _
      | some u =>
          rw [List.filterMap_cons_some (by rw [huser]; rfl)]
          exact ih.cons_cons _

theorem mem_teamRows {row : TeamRow} (h : row ∈ db.teamRows challengeId) :
    row.team ∈ db.teams ∧ row.team.challengeId = challengeId ∧
      db.teamRow row.team = some row := by
  obtain ⟨team, hteam, hrow⟩ := List.mem_filterMap.mp h
  obtain ⟨hteam, hchallenge⟩ := List.mem_filter.mp hteam
  obtain rfl := (teamRow_spec hrow).1
  exact ⟨hteam, of_decide_eq_true hchallenge, hrow⟩

theorem teamRows_ids_nodup (hteams : (db.teams.map fun team => team.id).Nodup) :
    ((db.teamRows challengeId).map fun row => row.team.id).Nodup := by
  have hrow : ∀ team row, db.teamRow team = some row → row.team = team := fun _ _ h =>
    (teamRow_spec h).1
  have hsub := Sql.join_sublist hrow (db.teams.filter fun team => team.challengeId = challengeId)
  have hids := (hsub.map fun team => team.id).trans (List.filter_sublist.map _)
  rw [List.map_map] at hids
  exact hteams.sublist hids

/-- Each user is among the members of one team at most, and once. -/
theorem teamRows_users_nodup (hteams : (db.teams.map fun team => team.id).Nodup)
    (hmembers : ((db.memberships challengeId).map fun tm => tm.userId).Nodup) :
    ((db.teamRows challengeId).flatMap fun row => row.members.map fun m => m.userId).Nodup := by
  -- the memberships of a team
  have hsub : ∀ row ∈ db.teamRows challengeId,
      (db.teamMembers.filter fun tm => tm.teamId = row.team.id).Sublist
        (db.memberships challengeId) := by
    intro row hrow
    obtain ⟨hteam, hchallenge, -⟩ := mem_teamRows hrow
    refine List.monotone_filter_right _ fun tm htm => ?_
    rw [decide_eq_true_eq] at htm
    exact List.any_eq_true.mpr ⟨row.team, hteam, by simp [htm, hchallenge]⟩
  have husers : ∀ row ∈ db.teamRows challengeId, (row.members.map fun m => m.userId).Subperm
      ((db.teamMembers.filter fun tm => tm.teamId = row.team.id).map fun tm => tm.userId) := by
    intro row hrow
    have hperm := (teamRow_spec (mem_teamRows hrow).2.2).2.1
    exact (hperm.map _).subperm.trans (teamUserScores_users_sublist row.team).subperm
  refine List.nodup_flatMap.mpr ⟨fun row hrow => ?_, ?_⟩
  · obtain ⟨users, hperm, hsublist⟩ := husers row hrow
    have hnodup := hmembers.sublist ((hsub row hrow).map _)
    exact hperm.nodup_iff.mp (hnodup.sublist hsublist)
  · have hids : (db.teamRows challengeId).Pairwise fun row row' => row.team.id ≠ row'.team.id :=
      List.pairwise_map.mp (teamRows_ids_nodup hteams)
    refine hids.imp_of_mem fun {row row'} hrow hrow' hne u hu hu' => hne ?_
    -- a user in both has two memberships, hence one
    obtain ⟨tm, htm, rfl⟩ := List.mem_map.mp ((husers row hrow).subset hu)
    obtain ⟨tm', htm', hsame⟩ := List.mem_map.mp ((husers row' hrow').subset hu')
    have heq := List.inj_on_of_nodup_map hmembers ((hsub row' hrow').subset htm')
      ((hsub row hrow).subset htm) hsame
    have hteam := of_decide_eq_true (List.mem_filter.mp htm).2
    have hteam' := of_decide_eq_true (List.mem_filter.mp htm').2
    rw [← hteam, ← hteam', heq]

/-! ### The listed teams -/

variable {limit : Nat}

theorem leaderboard_map {β : Type} {f : TeamLeaderboardEntry → β} {g : TeamRow → β}
    (h : ∀ idx row, f (teamLeaderboardEntry idx row) = g row) :
    (db.getChallengeTeamLeaderboard challengeId limit).map f =
      ((Sql.orderBy teamKey (db.teamRows challengeId)).take limit).map g := by
  unfold Db.getChallengeTeamLeaderboard
  refine List.ext_getElem (by simp [Db.teamRows]) fun i hi hi' => ?_
  simp [h, Db.teamRows]

theorem leaderboard_ids_nodup (hteams : (db.teams.map fun team => team.id).Nodup) :
    ((db.getChallengeTeamLeaderboard challengeId limit).map fun team => team.teamId).Nodup := by
  rw [leaderboard_map (g := fun row => row.team.id) fun _ _ => rfl]
  have hsorted := ((Sql.orderBy_perm teamKey (db.teamRows challengeId)).map
    fun row => row.team.id).nodup_iff.mpr (teamRows_ids_nodup hteams)
  exact hsorted.sublist ((List.take_sublist _ _).map _)

theorem leaderboard_users_nodup (hteams : (db.teams.map fun team => team.id).Nodup)
    (hmembers : ((db.memberships challengeId).map fun tm => tm.userId).Nodup) :
    ((db.getChallengeTeamLeaderboard challengeId limit).flatMap fun team =>
      team.members.map fun m => m.userId).Nodup := by
  rw [List.flatMap_def, leaderboard_map (g := fun row => row.members.map fun m => m.userId)
    fun _ _ => rfl, ← List.flatMap_def]
  have hsorted := ((Sql.orderBy_perm teamKey (db.teamRows challengeId)).flatMap_right
    fun row => row.members.map fun m => m.userId).nodup_iff.mpr
      (teamRows_users_nodup hteams hmembers)
  exact hsorted.sublist ((List.take_sublist _ _).flatMap _)

/-- Nobody's score is negative. -/
theorem leaderboard_nonneg {team : TeamLeaderboardEntry}
    (h : team ∈ db.getChallengeTeamLeaderboard challengeId limit) :
    0 ≤ team.totalScore ∧ ∀ m ∈ team.members, 0 ≤ m.score := by
  have hmem : (team.totalScore, team.members) ∈
      ((Sql.orderBy teamKey (db.teamRows challengeId)).take limit).map fun row =>
        (row.totalScore, row.members) := by
    rw [← leaderboard_map (f := fun team => (team.totalScore, team.members)) fun _ _ => rfl]
    exact List.mem_map_of_mem h
  obtain ⟨row, hrow, hsame⟩ := List.mem_map.mp hmem
  obtain ⟨htotal, hmembers⟩ := Prod.mk.inj hsame
  have hrow := (Sql.orderBy_perm _ _).mem_iff.mp (List.mem_of_mem_take hrow)
  obtain ⟨-, hperm, hsum⟩ := teamRow_spec (mem_teamRows hrow).2.2
  rw [← htotal, ← hmembers, hsum]
  constructor
  · exact (sum_toNat (List.forall_mem_map.mpr fun m hm => teamUserScores_nonneg hm)).2
  · intro m hm
    exact teamUserScores_nonneg (hperm.mem_iff.mp hm)

/-! ### What the teams get -/

variable {totalPoints playerPoolStroops : Nat} {team : TeamLeaderboardEntry}

/-- What `splitTeamPayout` is called with. -/
def Db.payoutMembers (db : Db) (challengeId : Uuid) (team : TeamLeaderboardEntry) :
    List PayoutMember :=
  team.members.map fun m => ⟨m.userId, db.memberAddress challengeId m.userId, m.score⟩

/-- What a team's members get: entries of its own for some of them, and no more than its part. -/
theorem teamAllocations_spec (db : Db) (challengeId : Uuid)
    (totalPoints playerPoolStroops : Nat) (hscores : ∀ m ∈ team.members, 0 ≤ m.score) :
    let allocations := db.teamAllocations challengeId totalPoints playerPoolStroops team
    (allocations.map fun a => a.1.userId).Sublist (team.members.map fun m => m.userId) ∧
    (∀ a ∈ allocations, a.2 = team.teamId ∧ 0 < a.1.amountStroops ∧ trim a.1.address ≠ []) ∧
    (allocations.map fun a => a.1.amountStroops).sum ≤
      calculatePayoutShareStroops team.totalScore.toNat totalPoints playerPoolStroops := by
  have hnonneg : ∀ m ∈ db.payoutMembers challengeId team, 0 ≤ m.score :=
    List.forall_mem_map.mpr hscores
  unfold Db.teamAllocations
  simp only
  rw [← Db.payoutMembers]
  split
  next => exact ⟨List.nil_sublist _, fun a ha => absurd ha List.not_mem_nil, Nat.zero_le _⟩
  next =>
    rw [List.map_map, List.map_map]
    refine ⟨?_, fun a ha => ?_, sum_splitTeamPayout_le hnonneg⟩
    · have husers := splitTeamPayout_users_sublist
        (calculatePayoutShareStroops team.totalScore.toNat totalPoints playerPoolStroops) hnonneg
      rw [Db.payoutMembers, List.map_map] at husers
      exact husers
    · obtain ⟨split, hmem, rfl⟩ := List.mem_map.mp ha
      obtain ⟨hpos, m, -, -, haddress, htrim⟩ := mem_splitTeamPayout hnonneg hmem
      exact ⟨rfl, hpos, haddress ▸ htrim⟩

/-- `teamEntries.reduce((sum, t) => sum + t.totalScore, 0)`. -/
def listedPoints (teams : List TeamLeaderboardEntry) : Int :=
  (teams.map fun team => team.totalScore).sum

theorem calculateTeamPayoutAllocations_cases (db : Db) (challengeId : Uuid)
    (playerPoolStroops : Nat) :
    db.calculateTeamPayoutAllocations challengeId playerPoolStroops = [] ∨
    db.calculateTeamPayoutAllocations challengeId playerPoolStroops =
      (db.getChallengeTeamLeaderboard challengeId 100).flatMap
        (db.teamAllocations challengeId
          (listedPoints (db.getChallengeTeamLeaderboard challengeId 100)).toNat
          playerPoolStroops) := by
  unfold Db.calculateTeamPayoutAllocations
  simp only
  split
  next => exact .inl rfl
  next => exact .inr rfl

end

theorem share_le_floor (userScore totalPoints pool : Nat) :
    calculatePayoutShareStroops userScore totalPoints pool ≤ pool * userScore / totalPoints := by
  unfold calculatePayoutShareStroops
  split
  next => exact Nat.zero_le _
  next => exact le_rfl

/-- The part of one team, of what several teams get that are told apart. -/
theorem sum_of_team {teams : List TeamLeaderboardEntry}
    {allocations : TeamLeaderboardEntry → List (TeamSplit × Uuid)}
    (hids : (teams.map fun team => team.teamId).Nodup)
    (hown : ∀ team ∈ teams, ∀ a ∈ allocations team, a.2 = team.teamId)
    {team : TeamLeaderboardEntry} (hteam : team ∈ teams) :
    (teams.flatMap allocations).filter (fun a => a.2 = team.teamId) = allocations team := by
  induction teams with
  | nil => cases hteam
  | cons other teams ih =>
      obtain ⟨hfresh, hids⟩ := List.nodup_cons.mp hids
      have hrest := fun team hteam => hown team (List.mem_cons_of_mem other hteam)
      rw [List.flatMap_cons, List.filter_append]
      rcases List.mem_cons.mp hteam with rfl | hteam
      · have hothers : (teams.flatMap allocations).filter (fun a => a.2 = team.teamId) = [] := by
          refine List.filter_eq_nil_iff.mpr fun a ha hsame => ?_
          obtain ⟨other, hother, ha⟩ := List.mem_flatMap.mp ha
          refine hfresh (List.mem_map.mpr ⟨other, hother, ?_⟩)
          rw [← hrest other hother a ha]
          exact of_decide_eq_true hsame
        have hself := fun a ha => decide_eq_true (hown team List.mem_cons_self a ha)
        rw [hothers, List.append_nil, List.filter_eq_self.mpr hself]
      · have hother : (allocations other).filter (fun a => a.2 = team.teamId) = [] := by
          refine List.filter_eq_nil_iff.mpr fun a ha hsame => ?_
          refine hfresh (List.mem_map.mpr ⟨team, hteam, ?_⟩)
          rw [← of_decide_eq_true hsame]
          exact hown other List.mem_cons_self a ha
        rw [hother, List.nil_append]
        exact ih hids hrest hteam

/-- **Teams stay within the pool.** -/
theorem teamAllocations_within_pool (db : Db) (challengeId : Uuid) (playerPoolStroops : Nat)
    (hteams : (db.teams.map fun team => team.id).Nodup)
    (hmembers : ((db.memberships challengeId).map fun tm => tm.userId).Nodup) :
    let teams := db.getChallengeTeamLeaderboard challengeId 100
    let allocations := db.calculateTeamPayoutAllocations challengeId playerPoolStroops
    (allocations.map fun a => a.1.userId).Nodup ∧
    (∀ a ∈ allocations, 0 < a.1.amountStroops ∧ trim a.1.address ≠ []) ∧
    (∀ team ∈ teams,
      ((allocations.filter fun a => a.2 = team.teamId).map fun a => a.1.amountStroops).sum ≤
        playerPoolStroops * team.totalScore.toNat / (listedPoints teams).toNat) ∧
    (allocations.map fun a => a.1.amountStroops).sum ≤ playerPoolStroops := by
  intro teams allocations
  rcases calculateTeamPayoutAllocations_cases db challengeId playerPoolStroops with hnone | hall
  · have hempty : allocations = [] := hnone
    rw [hempty]
    exact ⟨List.nodup_nil, fun a ha => absurd ha List.not_mem_nil,
      fun team _ => Nat.zero_le _, Nat.zero_le _⟩
  · have hnonneg := fun team (hteam : team ∈ teams) => leaderboard_nonneg hteam
    have hspec := fun team (hteam : team ∈ teams) =>
      teamAllocations_spec db challengeId (listedPoints teams).toNat playerPoolStroops
        (hnonneg team hteam).2
    have heq : allocations = teams.flatMap (db.teamAllocations challengeId
      (listedPoints teams).toNat playerPoolStroops) := hall
    rw [heq]
    refine ⟨?_, fun a ha => ?_, fun team hteam => ?_, ?_⟩
    · rw [List.map_flatMap]
      exact (leaderboard_users_nodup hteams hmembers).sublist
        (List.Sublist.flatMap_right teams fun team hteam => (hspec team hteam).1)
    · obtain ⟨team, hteam, ha⟩ := List.mem_flatMap.mp ha
      exact ((hspec team hteam).2.1 a ha).2
    · rw [sum_of_team (leaderboard_ids_nodup hteams)
        (fun team hteam a ha => ((hspec team hteam).2.1 a ha).1) hteam]
      exact (hspec team hteam).2.2.trans (share_le_floor _ _ _)
    · -- the parts of the teams are proportional shares of the pool
      have hweights : (teams.map fun team => team.totalScore.toNat).sum =
          (listedPoints teams).toNat := by
        have hsum := (sum_toNat (List.forall_mem_map.mpr fun team hteam =>
          (hnonneg team hteam).1)).1
        rwa [List.map_map] at hsum
      have hparts : (teams.map fun team =>
          playerPoolStroops * team.totalScore.toNat / (listedPoints teams).toNat).sum ≤
            playerPoolStroops := by
        have hle := sum_shares_le_pool playerPoolStroops
          (teams.map fun team => team.totalScore.toNat)
        rwa [List.map_map, hweights] at hle
      refine Nat.le_trans ?_ hparts
      rw [List.map_flatMap, List.flatMap_def, List.sum_flatten, List.map_map]
      exact List.sum_le_sum fun team hteam =>
        (hspec team hteam).2.2.trans (share_le_floor _ _ _)

def teamSession (id userId : Uuid) (score : Fin 451) : GameSession :=
  { GameSession.new id ⟨userId, 7, false, none⟩ 0 with
    status := .completed
    completedAt := some 1000
    totalScore := score.val
    totalScore_range := by omega }

/-- A team of two and a team of one; the second player has no address. -/
def teamGame : Db where
  userBlocks := []
  payouts _ _ := none
  teams := [⟨5, 7, "Owls".toList⟩, ⟨6, 7, "Foxes".toList⟩]
  teamMembers := [⟨5, 7, 1⟩, ⟨5, 7, 2⟩, ⟨6, 7, 3⟩]
  leagues := []
  assignments := []
  sessions := [teamSession 10 1 100, teamSession 20 2 50, teamSession 30 3 300]
  ids_nodup := by decide
  users userId := if userId = 0 then none else some
    { username := "player".toList
      avatarUrl := []
      displayName := "Player".toList
      league := none
      totalEarnedUsdc := "0".toList
      embeddedWalletAddress := none
      stellarAddress := if userId = 2 then none else some "G".toList
      deletedAt := none
      totalScore := 0
      challengesPlayed := 1
      streak := 0
      lastPlayDay := none }
  users_known := by decide
  userBadges := []

theorem two_teams_within_pool :
    ((teamGame.calculateTeamPayoutAllocations 7 1000).map fun a => a.1.amountStroops).sum ≤ 1000 :=
  (teamAllocations_within_pool teamGame 7 1000 (by decide) (by decide)).2.2.2

example : (teamGame.calculateTeamPayoutAllocations 7 1000).map
    (fun a => (a.1.userId, a.1.amountStroops, a.2)) = [(3, 666, 6), (1, 333, 5)] := by
  decide +kernel

end BrandBlitz.Competition

import BrandBlitz.Paging.Leaderboard

/-!
# BrandBlitz.Paging.Ranks

**The ranks of `GET /leaderboard/:challengeId`** (`apps/api/src/routes/leaderboard.ts`), and who
appears in the scope `friends`.

The ranks are counted on each page anew. And a list of friends that is empty filters nothing, so
that a viewer without friends sees everyone.

* The answer is the one of the loader: nothing is cached. Requests for teams are answered by
  another query, and are left out.
-/

namespace BrandBlitz.Paging

open BrandBlitz.Lib
open BrandBlitz.Lib.Keyset (Page Visited fullPage)

/-! ### The route -/

/-- A row of `referrals`. -/
structure ReferralRow where
  referrerId : Uuid
  referredId : Uuid
deriving DecidableEq, Repr

def getReferralNetworkUserIds (db : LeaderboardDb) (referrals : List ReferralRow) (userId : Uuid) :
    List Uuid :=
  let network :=
    (referrals.filter fun r => r.referrerId = userId).map (·.referredId) ++
      (referrals.filter fun r => r.referredId = userId).map (·.referrerId)
  network.dedup.filter fun id => (db.users id).any (·.deletedAt.isNone)

inductive LeaderboardScope where
  | global | friends
deriving DecidableEq, Repr

/-- `z.coerce.number().int().min(1).max(100)`. -/
abbrev PageLimit := { n : Nat // 1 ≤ n ∧ n ≤ 100 }

structure LeaderboardRequest where
  challengeId : Uuid
  sortBy : LeaderboardSort
  window : LeaderboardWindow
  limit : PageLimit
  scope : LeaderboardScope
  /-- `req.user?.sub` -/
  sub : Option Uuid

/-- An entry of `mappedSessions`, and the session that it shows. -/
structure LeaderboardEntry where
  rank : Nat
  session : LeaderboardSession
deriving DecidableEq, Repr

namespace LeaderboardEntry

variable (entry : LeaderboardEntry)

def userId : Option Uuid := entry.session.session.userId

def username : Text := entry.session.user.username

def displayName : Text := entry.session.user.displayName

def league : Option Text := entry.session.user.league

def avatarUrl : Text := entry.session.user.avatarUrl

def totalScore : Int := entry.session.session.totalScore

def totalEarned : Text := entry.session.user.totalEarnedUsdc

end LeaderboardEntry

/-- The page, under `sessions` and under `data`, with its `nextCursor`. -/
structure LeaderboardAnswer extends Page LeaderboardEntry Cursor where
  scope : LeaderboardScope
  window : LeaderboardWindow

/-- `sessions.map((s, i) => ({ rank: i + 1, … }))`. -/
def rankedFromOne (sessions : List LeaderboardSession) : List LeaderboardEntry :=
  sessions.mapIdx fun i session => ⟨i + 1, session⟩

section

variable (db : LeaderboardDb) (referrals : List ReferralRow) (now : Timestamp)
  (request : LeaderboardRequest)

/-- The network of the viewer; nobody is in that of an anonymous one. -/
def networkOf (sub : Option Uuid) : List Uuid :=
  sub.elim [] (getReferralNetworkUserIds db referrals)

def friendUserIds : List Uuid :=
  match request.scope with
  | .friends => networkOf db referrals request.sub
  | .global => []

def leaderboardQuery : LeaderboardQuery where
  challengeId := request.challengeId
  limit := request.limit
  sortBy := request.sortBy
  friendUserIds := match request.scope with
    | .friends => some (friendUserIds db referrals request)
    | .global => none
  window := request.window
  tierId := none
  viewerUserId := none

/-- `GET /leaderboard/:challengeId`. -/
def challengeLeaderboard (cursor : Option Cursor) : Except ApiError LeaderboardAnswer := do
  let result ← getLeaderboard db now (leaderboardQuery db referrals request) cursor
  return ⟨⟨rankedFromOne result.rows, result.nextCursor⟩, request.scope, request.window⟩

def leaderboardPage (cursor : Option Cursor) : Except ApiError (Page LeaderboardEntry Cursor) :=
  (challengeLeaderboard db referrals now request cursor).map (·.toPage)

/-! ### The property -/

/-- Who belongs to the scope. -/
def inScope (row : LeaderboardSession) : Bool :=
  match request.scope with
  | .global => true
  | .friends => (networkOf db referrals request.sub).any fun id => row.session.userId = some id

/-- The complete ordering of the scope. -/
def standings : List LeaderboardSession :=
  (leaderboard db now { leaderboardQuery db referrals request with friendUserIds := none }).filter
    (inScope db referrals request)

structure AnswersTruthful : Prop where
  rank : ∀ cursor, Visited (leaderboardPage db referrals now request) cursor →
    ∀ page, leaderboardPage db referrals now request cursor = .ok page → ∀ entry ∈ page.rows,
      ∃ i, (standings db referrals now request)[i]? = some entry.session ∧ entry.rank = i + 1
  friends : request.scope = .friends →
    ∀ cursor, Visited (leaderboardPage db referrals now request) cursor →
      ∀ page, leaderboardPage db referrals now request cursor = .ok page → ∀ entry ∈ page.rows,
        ∃ id ∈ networkOf db referrals request.sub, entry.userId = some id

/-- A viewer without friends has an empty leaderboard anyway. -/
def HasFriends : Prop :=
  request.scope = .friends → networkOf db referrals request.sub = [] →
    leaderboard db now { leaderboardQuery db referrals request with friendUserIds := none } = []

end

/-- The first page is not full, or its cursor admits nothing more; or else it admits the first
row, and leads back to the first page. -/
def OnePage (n : Nat) (rows : List LeaderboardSession) : Prop :=
  n ≤ rows.length → ∀ b ∈ (rows.take n).getLast?,
    (∀ r ∈ rows, afterRow Sql.lt b.session r.session = false) ∨
      ∃ first ∈ rows.head?, afterRow Sql.lt b.session first.session = true

/-! ### The listing -/

section

variable {db : LeaderboardDb} {referrals : List ReferralRow} {now : Timestamp}
  {request : LeaderboardRequest}

theorem amongFriends_cons {friends : List Uuid} (h : friends ≠ []) (row : LeaderboardSession) :
    amongFriends (some friends) row = friends.any fun id => row.session.userId = some id := by
  have hmember : ∀ id : Uuid, Sql.holds (Sql.eq row.session.userId (some id)) =
      decide (row.session.userId = some id) := fun id => by
    rw [Bool.eq_iff_iff, Sql.holds_eq]
    simp
  cases friends with
  | nil => exact absurd rfl h
  | cons friend friends => simp only [amongFriends, hmember]

/-- A list of friends filters what the others leave. -/
theorem leaderboard_friends (q : LeaderboardQuery) :
    leaderboard db now q =
      (leaderboard db now { q with friendUserIds := none }).filter
        (amongFriends q.friendUserIds) := by
  have hwhere : leaderboardWhere db now q = fun row =>
      amongFriends q.friendUserIds row &&
        leaderboardWhere db now { q with friendUserIds := none } row := by
    funext row
    simp only [leaderboardWhere, amongFriends, Bool.and_true]
    cases ranked q.challengeId row <;> simp [Bool.and_comm, Bool.and_assoc, Bool.and_left_comm]
  unfold leaderboard
  rw [hwhere, ← List.filter_filter]
  exact leaderboardOrderBy_filter (matching_ids_nodup db now { q with friendUserIds := none })
    q.sortBy _

/-- **The complete ordering is what the query goes through**, but for a viewer without friends. -/
theorem standings_eq (h : HasFriends db referrals now request) :
    standings db referrals now request =
      leaderboard db now (leaderboardQuery db referrals request) := by
  rw [leaderboard_friends]
  unfold standings
  cases hscope : request.scope with
  | global =>
      have hall : inScope db referrals request =
          amongFriends (leaderboardQuery db referrals request).friendUserIds := by
        funext row
        simp [inScope, leaderboardQuery, amongFriends, hscope]
      rw [hall]
  | friends =>
      by_cases hnetwork : networkOf db referrals request.sub = []
      · rw [h hscope hnetwork]
        rfl
      · have hmembers : inScope db referrals request =
            amongFriends (leaderboardQuery db referrals request).friendUserIds := by
          funext row
          simp only [leaderboardQuery, friendUserIds, hscope, inScope]
          rw [amongFriends_cons hnetwork]
        rw [hmembers]

end

/-! ### The pages -/

theorem mem_rankedFromOne {sessions : List LeaderboardSession} {entry : LeaderboardEntry} :
    entry ∈ rankedFromOne sessions ↔
      ∃ i, sessions[i]? = some entry.session ∧ entry.rank = i + 1 := by
  unfold rankedFromOne
  rw [List.mem_mapIdx]
  constructor
  · rintro ⟨i, hi, rfl⟩
    exact ⟨i, List.getElem?_eq_getElem hi, rfl⟩
  · rintro ⟨i, hsession, hrank⟩
    obtain ⟨hi, heq⟩ := List.getElem?_eq_some_iff.mp hsession
    refine ⟨i, hi, ?_⟩
    rw [heq, ← hrank]

theorem scoreKey_le_iff {b r : SessionRow} :
    scoreKey b ≤ scoreKey r ↔ r.totalScore < b.totalScore ∨
      r.totalScore = b.totalScore ∧ (Sql.nullsLast b.completedAt < Sql.nullsLast r.completedAt ∨
        b.completedAt = r.completedAt ∧ b.id ≤ r.id) := by
  simp only [scoreKey, Prod.Lex.toLex_le_toLex, OrderDual.toDual_lt_toDual,
    OrderDual.toDual_inj, Sql.nullsLast_inj, eq_comm]

/-- What a cursor admits, whatever it has lost. -/
theorem afterRow_lt_clipped {b r : SessionRow} : afterRow Sql.lt b r = true ↔
    r.totalScore < b.totalScore ∨ r.totalScore = b.totalScore ∧
      ∃ t u, b.completedAt = some t ∧ r.completedAt = some u ∧
        (clip t < u ∨ clip t = u ∧ b.id < r.id) := by
  have hclip : (b.completedAt.map clip).map clip = b.completedAt.map clip := by
    cases b.completedAt with
    | none => rfl
    | some t => exact congrArg some (clip_clip t)
  have hiff :=
    afterRow_lt_iff (r := r) (b := { b with completedAt := b.completedAt.map clip }) hclip
  rw [afterRow, hclip] at hiff
  refine hiff.trans (or_congr Iff.rfl (and_congr_right fun _ => ?_))
  constructor
  · rintro ⟨_, u, ht, hu, hlater⟩
    obtain ⟨t, hb, rfl⟩ := Option.map_eq_some_iff.mp ht
    exact ⟨t, u, hb, hu, hlater⟩
  · rintro ⟨t, u, ht, hu, hlater⟩
    exact ⟨clip t, u, congrArg (Option.map clip) ht, hu, hlater⟩

/-- A cursor that admits the first row admits every row up to its own. -/
theorem afterRow_of_first {b first r : SessionRow} (h : afterRow Sql.lt b first = true)
    (hfirst : scoreKey first ≤ scoreKey r) (hlast : scoreKey r ≤ scoreKey b) :
    afterRow Sql.lt b r = true := by
  have hbetween := scoreKey_le_iff.mp hfirst
  have hbefore := scoreKey_le_iff.mp hlast
  rcases afterRow_lt_clipped.mp h with hlt | ⟨heq, t, u, ht, hu, hlater⟩
  · omega
  · refine afterRow_lt_clipped.mpr (.inr ⟨by omega, ?_⟩)
    cases hr : r.completedAt with
    | none =>
        -- without a time it would come after `b`
        rw [hr, ht] at hbefore
        simp [Sql.nullsLast] at hbefore
        omega
    | some v =>
        rw [hr, hu] at hbetween
        refine ⟨t, v, ht, rfl, ?_⟩
        rcases hbetween with hlt | ⟨-, huv | ⟨huv, hid⟩⟩
        · omega
        · have hlt : u < v := WithTop.coe_lt_coe.mp huv
          rcases hlater with h | ⟨h, -⟩
          · exact .inl (Int.lt_trans h hlt)
          · exact .inl (h ▸ hlt)
        · obtain rfl := Option.some.inj huv
          exact hlater.imp_right (And.imp_right fun h => Nat.lt_of_lt_of_le h hid)

section

variable (db : LeaderboardDb) (referrals : List ReferralRow) (now : Timestamp)
  (request : LeaderboardRequest)

/-- The rows that the query goes through. -/
def listing : List LeaderboardSession := leaderboard db now (leaderboardQuery db referrals request)

/-- The rows of a page. -/
def pageRows (b : Option LeaderboardSession) : List LeaderboardSession :=
  (Keyset.window (listing db referrals now request)
    (fun b r => afterRow Sql.lt b.session r.session) b).take request.limit

variable {db referrals now request}

theorem leaderboardPage_eq (hsort : request.sortBy = .score) (b : Option LeaderboardSession) :
    leaderboardPage db referrals now request (b.map fun row => sessionCursor row.session) =
      .ok ⟨rankedFromOne (pageRows db referrals now request b),
        (fullPage request.limit.1 (fun row => sessionCursor row.session)
          (pageRows db referrals now request b)).nextCursor⟩ := by
  have hop : (leaderboardQuery db referrals request).scoreOp = Sql.lt := by
    simp [LeaderboardQuery.scoreOp, leaderboardQuery, hsort]
  unfold leaderboardPage challengeLeaderboard
  rw [getLeaderboard_eq, hop]
  rfl

/-- A cursor that admits the first row leads back to the first page. -/
theorem pageRows_of_first (hsort : request.sortBy = .score) {last first : LeaderboardSession}
    (hlast : last ∈ ((listing db referrals now request).take request.limit).getLast?)
    (hfirst : first ∈ (listing db referrals now request).head?)
    (hadmits : afterRow Sql.lt last.session first.session = true) :
    pageRows db referrals now request (some last) =
      (listing db referrals now request).take request.limit := by
  have hrows := leaderboard_pairwise db now (leaderboardQuery db referrals request)
    (by simp [leaderboardQuery, hsort])
  have hnodup : (listing db referrals now request).Nodup := leaderboard_nodup db now _
  refine (Keyset.filter_take_eq_iff (k := 0) hnodup request.limit.2.1 _).mpr
    ⟨by simp, fun r hr => afterRow_of_first hadmits ?_ ?_⟩
  · obtain ⟨rest, hlist⟩ := List.head?_eq_some_iff.mp hfirst
    have hmem : r ∈ listing db referrals now request := List.mem_of_mem_take hr
    change (listing db referrals now request).Pairwise _ at hrows
    rw [hlist] at hrows hmem
    rcases List.mem_cons.mp hmem with rfl | hmem
    · exact le_refl _
    · exact le_of_lt ((List.pairwise_cons.mp hrows).1 r hmem)
  · rcases Keyset.rel_getLast_of_mem_take hrows hlast hr with rfl | hlt
    · exact le_refl _
    · exact le_of_lt hlt

/-- Every page is the first one, or empty. -/
theorem pageRows_of_onePage (hsort : request.sortBy = .score)
    (h : OnePage request.limit (listing db referrals now request)) {cursor : Option Cursor}
    (hvisited : Visited (leaderboardPage db referrals now request) cursor) :
    ∃ b : Option LeaderboardSession, cursor = b.map (fun row => sessionCursor row.session) ∧
      (pageRows db referrals now request b =
          (listing db referrals now request).take request.limit ∨
        pageRows db referrals now request b = []) := by
  induction hvisited with
  | first => exact ⟨none, rfl, .inl rfl⟩
  | next _ hfetch ih =>
      rename_i cursor entries next _
      obtain ⟨b, rfl, hb⟩ := ih
      rw [leaderboardPage_eq hsort] at hfetch
      injection hfetch with hfetch
      injection hfetch with _ hnext
      unfold fullPage at hnext
      dsimp only at hnext
      split at hnext
      · rename_i hfull
        obtain ⟨last, hlast, rfl⟩ := Option.map_eq_some_iff.mp hnext
        rcases hb with hb | hb
        · rw [hb] at hfull hlast
          rw [List.length_take] at hfull
          refine ⟨some last, rfl, ?_⟩
          rcases h (by omega) last hlast with hnone | ⟨first, hfirst, hadmits⟩
          · refine .inr ?_
            unfold pageRows Keyset.window
            dsimp only
            rw [List.filter_eq_nil_iff.mpr fun r hr => by simp [hnone r hr], List.take_nil]
          · exact .inl (pageRows_of_first hsort hlast hfirst hadmits)
        · rw [hb] at hlast
          cases hlast
      · cases hnext

/-- **The second page shows that there is one page.** -/
theorem onePage_of_truthful (hsort : request.sortBy = .score)
    (hstandings : standings db referrals now request = listing db referrals now request)
    (h : AnswersTruthful db referrals now request) :
    OnePage request.limit (listing db referrals now request) := by
  intro hfull b hb
  by_contra hnot
  obtain ⟨hsome, hfirst⟩ := not_or.mp hnot
  have hnext : leaderboardPage db referrals now request none =
      .ok ⟨rankedFromOne (pageRows db referrals now request none),
        some (sessionCursor b.session)⟩ := by
    have hlength : (pageRows db referrals now request none).length = request.limit.1 := by
      show ((listing db referrals now request).take _).length = _
      rw [List.length_take]
      omega
    have hcursor : (fullPage request.limit.1 (fun row => sessionCursor row.session)
        (pageRows db referrals now request none)).nextCursor = some (sessionCursor b.session) := by
      unfold fullPage
      dsimp only
      rw [if_pos hlength, show (pageRows db referrals now request none).getLast? = some b from hb]
      rfl
    rw [← hcursor]
    exact leaderboardPage_eq hsort none
  have hpage : leaderboardPage db referrals now request (some (sessionCursor b.session)) = _ :=
    leaderboardPage_eq hsort (some b)
  -- the first row that is admitted is shown with rank 1
  cases hrows : (listing db referrals now request).filter
      (fun r => afterRow Sql.lt b.session r.session) with
  | nil =>
      refine hsome fun r hr => ?_
      have hnone := List.filter_eq_nil_iff.mp hrows r hr
      simpa using hnone
  | cons r rest =>
      have hr : r ∈ (listing db referrals now request).filter
          fun r => afterRow Sql.lt b.session r.session := hrows ▸ List.mem_cons_self
      have hshown : pageRows db referrals now request (some b) = (r :: rest).take request.limit :=
        congrArg (List.take _) hrows
      have hentry : (⟨1, r⟩ : LeaderboardEntry) ∈
          rankedFromOne (pageRows db referrals now request (some b)) := by
        refine mem_rankedFromOne.mpr ⟨0, ?_, rfl⟩
        rw [hshown, List.getElem?_take_of_lt request.limit.2.1]
        rfl
      obtain ⟨i, hat, hrank⟩ := h.rank _ (.next .first hnext) _ hpage _ hentry
      obtain rfl : i = 0 := by
        have hone : 1 = i + 1 := hrank
        omega
      rw [hstandings, ← List.head?_eq_getElem?] at hat
      exact hfirst ⟨r, hat, (List.mem_filter.mp hr).2⟩

/-! ### When the answers are true -/

theorem hasFriends_of_truthful (hsort : request.sortBy = .score)
    (h : AnswersTruthful db referrals now request) : HasFriends db referrals now request := by
  intro hscope hnetwork
  have heveryone : leaderboard db now { leaderboardQuery db referrals request with
      friendUserIds := none } = listing db referrals now request := by
    refine ((leaderboard_friends _).trans (List.filter_eq_self.mpr fun row _ => ?_)).symm
    simp [leaderboardQuery, friendUserIds, hscope, hnetwork, amongFriends]
  rw [heveryone]
  cases hrows : listing db referrals now request with
  | nil => rfl
  | cons r rest =>
      have hshown : pageRows db referrals now request none = (r :: rest).take request.limit :=
        congrArg (List.take _) hrows
      have hentry : (⟨1, r⟩ : LeaderboardEntry) ∈
          rankedFromOne (pageRows db referrals now request none) := by
        refine mem_rankedFromOne.mpr ⟨0, ?_, rfl⟩
        rw [hshown, List.getElem?_take_of_lt request.limit.2.1]
        rfl
      obtain ⟨id, hid, -⟩ := h.friends hscope _ .first _ (leaderboardPage_eq hsort none) _ hentry
      rw [hnetwork] at hid
      cases hid

/-- **Ranks and friends are true in every answer**, for the order by score, if and only if the
viewer has friends (where friends are asked for and there is anyone to show), and no second page
shows anything but the first. -/
theorem leaderboard_answers_truthful_iff (hsort : request.sortBy = .score) :
    AnswersTruthful db referrals now request ↔
      HasFriends db referrals now request ∧
        OnePage request.limit (leaderboard db now (leaderboardQuery db referrals request)) := by
  constructor
  · intro h
    have hfriends := hasFriends_of_truthful hsort h
    exact ⟨hfriends, onePage_of_truthful hsort (standings_eq hfriends) h⟩
  · rintro ⟨hfriends, hone⟩
    have hrank : ∀ cursor, Visited (leaderboardPage db referrals now request) cursor →
        ∀ page, leaderboardPage db referrals now request cursor = .ok page →
          ∀ entry ∈ page.rows, ∃ i, (standings db referrals now request)[i]? = some entry.session ∧
            entry.rank = i + 1 := by
      intro cursor hvisited page hpage entry hentry
      obtain ⟨b, rfl, hb⟩ := pageRows_of_onePage hsort hone hvisited
      rw [leaderboardPage_eq hsort] at hpage
      obtain rfl := Except.ok.inj hpage
      obtain ⟨i, hat, hentryRank⟩ := mem_rankedFromOne.mp hentry
      refine ⟨i, ?_, hentryRank⟩
      rw [standings_eq hfriends]
      rcases hb with hb | hb
      · rw [hb, List.getElem?_take] at hat
        split at hat
        · exact hat
        · cases hat
      · rw [hb] at hat
        cases hat
    refine ⟨hrank, fun hscope cursor hvisited page hpage entry hentry => ?_⟩
    obtain ⟨i, hat, -⟩ := hrank cursor hvisited page hpage entry hentry
    have hmem := List.mem_of_getElem? hat
    unfold standings at hmem
    have hin := (List.mem_filter.mp hmem).2
    unfold inScope at hin
    rw [hscope] at hin
    obtain ⟨id, hid, heq⟩ := List.any_eq_true.mp hin
    exact ⟨id, hid, of_decide_eq_true heq⟩

end

/-! ### Two players -/

def ask (scope : LeaderboardScope) (limit : PageLimit) : LeaderboardRequest :=
  ⟨7, .score, .allTime, limit, scope, none⟩

/-- They fit on one page. -/
theorem twoPlayers_truthful :
    AnswersTruthful twoPlayers [] 0 (ask .global ⟨20, by decide⟩) :=
  (leaderboard_answers_truthful_iff rfl).mpr
    ⟨(fun h => by cases h), fun hfull => absurd hfull (by decide +kernel)⟩

/-- What a page shows: ranks, sessions and users. -/
def ranksShown (request : LeaderboardRequest) (cursor : Option Cursor) :
    Option (List (Nat × Uuid × Option Uuid)) :=
  match leaderboardPage twoPlayers [] 0 request cursor with
  | .ok page =>
    some (page.rows.map fun entry => (entry.rank, entry.session.session.id, entry.userId))
  | .error _ => none

/-- The second page begins with rank 1 again; and an anonymous viewer has everyone for a
friend. -/
theorem answers_untruthful :
    (ranksShown (ask .global ⟨1, by decide⟩) none = some [(1, 1, some 10)] ∧
      (∃ cursor, (leaderboardPage twoPlayers [] 0 (ask .global ⟨1, by decide⟩) none).toOption.bind
          (·.nextCursor) = some cursor ∧
        ranksShown (ask .global ⟨1, by decide⟩) (some cursor) = some [(1, 2, some 11)]) ∧
      ¬ AnswersTruthful twoPlayers [] 0 (ask .global ⟨1, by decide⟩)) ∧
    (networkOf twoPlayers [] none = [] ∧
      ranksShown (ask .friends ⟨20, by decide⟩) none = some [(1, 1, some 10), (2, 2, some 11)] ∧
      ¬ AnswersTruthful twoPlayers [] 0 (ask .friends ⟨20, by decide⟩)) := by
  refine ⟨⟨by decide +kernel, ⟨_, rfl, by decide +kernel⟩, fun h => ?_⟩,
    rfl, by decide +kernel, fun h => ?_⟩
  · have hone := onePage_of_truthful rfl (standings_eq (hasFriends_of_truthful rfl h)) h
    revert hone
    unfold OnePage
    decide +kernel
  · have hfriends := hasFriends_of_truthful rfl h rfl rfl
    revert hfriends
    decide +kernel

end BrandBlitz.Paging

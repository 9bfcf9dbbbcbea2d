import BrandBlitz.Lib.Crew
import BrandBlitz.Sessions.Course

/-!
# BrandBlitz.Sessions.Status

**The status of a session is a one-way machine**: from the warm-up to the challenge, and from
there to one of three ends; only what is completed can still be flagged.

`abandonSession` and the sweeper ask for an open session. Three other statements do not look at
the status: `markChallengeStarted` makes any session active, `finishSession` completes any that
has no `completed_at`, and `flagSession` flags any. The routes that await them have looked at a
copy, or not at all: `start` asks only for a token, which outlives the session's being
abandoned.

`InOrder` leaves out the three statements where they meet a session they have no move for. Under
it every session keeps to the machine.
-/

namespace BrandBlitz.Sessions

open BrandBlitz.Lib

/-! ### The machine -/

/-- May the status change from the first to the second? -/
def Status.next : Status → Status → Bool
  | .warmup, .active | .warmup, .abandoned | .warmup, .flagged => true
  | .active, .completed | .active, .abandoned | .active, .flagged => true
  | .completed, .flagged => true
  | _, _ => false

/-- Has the session ended? -/
def Status.ended : Status → Bool
  | .completed | .abandoned | .flagged => true
  | .warmup | .active => false

/-- The session has kept to the machine. -/
structure SessionRow.OneWay (row : SessionRow) : Prop where
  begins : row.trail.getLast? = some .warmup
  path : row.trail.IsChain fun later earlier => earlier.next later = true
  present : row.trail.head? = some row.session.status
  neverAgain : ∀ status ∈ row.trail, status.ended = true → row.session.status ≠ .active
  flagged : row.session.flagged = true ∨ .flagged ∈ row.trail → row.session.status ≠ .completed
  completedAt : row.session.completedAt.isSome = true ↔
    row.session.status = .completed ∨ row.session.status = .abandoned ∨
      row.session.status = .flagged ∧ .completed ∈ row.trail

/-- The statements that do not look at the status meet a session that they have a move for, or
leave as it is. -/
def SessionRow.inOrder (row : SessionRow) : LobbyOp → Bool
  | .markChallengeStarted sessionId => !row.hasId sessionId || row.isOpen
  | .answer (.finishSession sessionId) =>
      !row.hasId sessionId || row.session.completedAt.isSome || row.session.status = .active
  | .flagSession sessionId _ => !row.hasId sessionId || !row.isAbandoned
  | _ => true

/-- If a statement takes effect, every row is in order for it. -/
def InOrder (w : Lobby) (op : LobbyOp) (e : LobbyEnv) : Prop :=
  e.takesEffect = true → w.rows.all (·.inOrder op) = true

instance (w : Lobby) (op : LobbyOp) (e : LobbyEnv) : Decidable (InOrder w op e) :=
  inferInstanceAs (Decidable (_ → _))

/-- What else may happen: anything but to the sessions, of which some may be archived. -/
structure KeepsSessions (w w' : Lobby) : Prop where
  rows : w'.rows.Sublist w.rows
  ids : w'.ids = w.ids
  clock : w.clock ≤ w'.clock

/-! ### The invariant -/

/-- A session and its history keep to the machine. -/
structure Lawful (session : GameSession) (trail : List Status) : Prop where
  begins : trail.getLast? = some .warmup
  path : trail.IsChain fun later earlier => earlier.next later = true
  present : trail.head? = some session.status
  flagged : session.flagged = true → session.status = .flagged
  completedAt : session.completedAt.isSome = true ↔
    session.status = .completed ∨ session.status = .abandoned ∨
      session.status = .flagged ∧ .completed ∈ trail

variable {session session' : GameSession} {trail : List Status} {row row' : SessionRow}
  {op : LobbyOp} {now : Nat}

/-- Nothing leads to the warm-up, and to a challenge only the warm-up. -/
theorem Lawful.trail_of_open (h : Lawful session trail) (hopen : session.status.ended = false) :
    trail = [.warmup] ∨ trail = [.active, .warmup] := by
  obtain ⟨hbegins, hpath, hpresent, -, -⟩ := h
  cases trail with
  | nil => cases hbegins
  | cons status rest =>
      obtain rfl : status = session.status := Option.some.inj hpresent
      cases rest with
      | nil => exact .inl (congrArg (fun s => [s]) (Option.some.inj hbegins))
      | cons earlier rest =>
          obtain ⟨hnext, hpath⟩ := List.isChain_cons_cons.mp hpath
          cases hs : session.status with
          | active =>
              rw [hs] at hnext
              cases earlier <;> try cases hnext
              cases rest with
              | nil => exact .inr rfl
              | cons first rest =>
                  obtain ⟨hfirst, -⟩ := List.isChain_cons_cons.mp hpath
                  cases first <;> cases hfirst
          | warmup =>
              rw [hs] at hnext
              cases earlier <;> cases hnext
          | completed | flagged | abandoned =>
              rw [hs] at hopen
              cases hopen

/-- Every earlier status has had a next one. -/
theorem exists_next_of_mem_tail {trail : List Status} {status : Status}
    (hpath : trail.IsChain fun later earlier => earlier.next later = true)
    (hmem : status ∈ trail.tail) : ∃ later, status.next later = true := by
  induction trail with
  | nil => cases hmem
  | cons later rest ih =>
      cases rest with
      | nil => cases hmem
      | cons earlier rest =>
          obtain ⟨hnext, hpath⟩ := List.isChain_cons_cons.mp hpath
          rcases List.mem_cons.mp hmem with rfl | hmem
          · exact ⟨later, hnext⟩
          · exact ih hpath hmem

theorem Lawful.not_completed_of_open (h : Lawful session trail)
    (hopen : session.status.ended = false) : .completed ∉ trail := by
  rcases h.trail_of_open hopen with rfl | rfl <;> decide

theorem Lawful.completedAt_of_open (h : Lawful session trail)
    (hopen : session.status.ended = false) : session.completedAt = none := by
  have hnone : ¬ session.completedAt.isSome = true := by
    rw [h.completedAt]
    cases hs : session.status <;> simp_all [Status.ended]
  simpa using hnone

/-- The present status is in the history. -/
theorem Lawful.status_mem (h : Lawful session trail) : session.status ∈ trail :=
  List.mem_of_mem_head? h.present

theorem Lawful.oneWay (h : Lawful row.session row.trail) : row.OneWay where
  begins := h.begins
  path := h.path
  present := h.present
  neverAgain status hmem hended hactive := by
    rcases h.trail_of_open (by rw [hactive]; rfl) with htrail | htrail <;>
      rw [htrail] at hmem <;> cases status <;> simp_all [Status.ended]
  flagged hflagged hcompleted := by
    rcases hflagged with hflagged | hmem
    · rw [h.flagged hflagged] at hcompleted
      cases hcompleted
    · obtain ⟨rest, htrail⟩ := List.head?_eq_some_iff.mp h.present
      rw [htrail, hcompleted] at hmem
      rcases List.mem_cons.mp hmem with hmem | hmem
      · cases hmem
      · have hearlier : Status.flagged ∈ row.trail.tail := by
          rw [htrail]
          exact hmem
        obtain ⟨later, hnext⟩ := exists_next_of_mem_tail h.path hearlier
        cases later <;> cases hnext
  completedAt := h.completedAt

/-! ### One change -/

/-- A move of the machine. -/
theorem Lawful.move (h : Lawful session trail)
    (hnext : session.status.next session'.status = true)
    (hflagged : session'.flagged = true → session'.status = .flagged)
    (hcompleted : session'.completedAt.isSome = true ↔
      session'.status = .completed ∨ session'.status = .abandoned ∨
        session'.status = .flagged ∧ .completed ∈ trail) :
    Lawful session' (session'.status :: trail) := by
  obtain ⟨rest, htrail⟩ := List.head?_eq_some_iff.mp h.present
  refine ⟨?_, ?_, rfl, hflagged, hcompleted.trans ?_⟩
  · rw [List.getLast?_cons, h.begins]
    rfl
  · rw [htrail]
    exact List.isChain_cons_cons.mpr ⟨hnext, htrail ▸ h.path⟩
  · cases hs : session'.status <;> simp

/-- Or none. -/
theorem Lawful.stay (h : Lawful session trail) (hstatus : session'.status = session.status)
    (hflagged : session'.flagged = true → session'.status = .flagged)
    (hcompletedAt : session'.completedAt = session.completedAt) : Lawful session' trail where
  begins := h.begins
  path := h.path
  present := by rw [hstatus]; exact h.present
  flagged := hflagged
  completedAt := by rw [hstatus, hcompletedAt]; exact h.completedAt

theorem SessionRow.trail_setSession_of_eq (h : session.status = row.session.status) :
    (row.setSession session).trail = row.trail :=
  if_pos h

/-- What `setSession` makes of a row, where it moves. -/
theorem SessionRow.lawful_setSession (h : Lawful row.session row.trail)
    (hnext : row.session.status.next session.status = true)
    (hflagged : session.flagged = true → session.status = .flagged)
    (hcompleted : session.completedAt.isSome = true ↔
      session.status = .completed ∨ session.status = .abandoned ∨
        session.status = .flagged ∧ .completed ∈ row.trail) :
    Lawful session (row.setSession session).trail := by
  have hmoves : session.status ≠ row.session.status := by
    intro heq
    rw [heq] at hnext
    cases hs : row.session.status <;> rw [hs] at hnext <;> cases hnext
  rw [show (row.setSession session).trail = session.status :: row.trail from if_neg hmoves]
  exact h.move hnext hflagged hcompleted

theorem SessionRow.status_of_isOpen (h : row.isOpen = true) :
    row.session.status = .warmup ∨ row.session.status = .active := by
  simpa [isOpen] using h

/-- **The step lemma**: what is in order keeps to the machine. -/
theorem SessionRow.Change.lawful (hchange : row.Change now op row')
    (horder : row.inOrder op = true) (h : Lawful row.session row.trail) :
    Lawful row'.session row'.trail := by
  have hnotFlagged : row.session.status ≠ .flagged → row.session.flagged ≠ true :=
    fun hs hflagged => hs (h.flagged hflagged)
  cases hchange with
  | content hsame =>
      rw [hsame.trail]
      refine h.stay hsame.status (fun hflagged => ?_) hsame.completedAt
      rw [hsame.status]
      exact h.flagged (hsame.flagged ▸ hflagged)
  | warmupCompleted hnone => exact h
  | started =>
      have hopen : row.isOpen = true := by simpa [inOrder, hasId] using horder
      rcases status_of_isOpen hopen with hstatus | hstatus
      · refine lawful_setSession h (by rw [hstatus]; rfl) (fun hflagged => ?_) ?_
        · exact absurd hflagged (hnotFlagged (by rw [hstatus]; decide))
        · simp [h.completedAt_of_open (by rw [hstatus]; rfl)]
      · rw [trail_setSession_of_eq hstatus.symm]
        refine h.stay hstatus.symm (fun hflagged => ?_) rfl
        exact absurd hflagged (hnotFlagged (by rw [hstatus]; decide))
  | finished hnone =>
      have hstatus : row.session.status = .active := by
        simpa [inOrder, hasId, hnone] using horder
      refine lawful_setSession h (by rw [hstatus]; rfl) (fun hflagged => ?_) (by simp)
      exact absurd hflagged (hnotFlagged (by rw [hstatus]; decide))
  | abandoned hopen =>
      refine lawful_setSession h ?_ (fun hflagged => ?_) ?_
      · rcases status_of_isOpen hopen with hstatus | hstatus <;> rw [hstatus] <;> rfl
      · refine absurd hflagged (hnotFlagged ?_)
        rcases status_of_isOpen hopen with hstatus | hstatus <;> rw [hstatus] <;> decide
      · cases hcompletedAt : row.session.completedAt <;> simp
  | flagged =>
      have hnotAbandoned : row.session.status ≠ .abandoned := by
        simpa [inOrder, hasId, isAbandoned] using horder
      by_cases hstatus : row.session.status = .flagged
      · rw [show (row.setSession _).trail = row.trail from trail_setSession_of_eq hstatus.symm]
        exact h.stay hstatus.symm (fun _ => rfl) rfl
      · refine lawful_setSession h ?_ (fun _ => rfl) (h.completedAt.trans ?_)
        · cases hs : row.session.status <;> simp_all [Status.next]
        · cases hs : row.session.status with
          | warmup => simpa using h.not_completed_of_open (by rw [hs]; rfl)
          | active => simpa using h.not_completed_of_open (by rw [hs]; rfl)
          | completed => simpa using hs ▸ h.status_mem
          | flagged => exact absurd hs hstatus
          | abandoned => exact absurd hs hnotAbandoned

theorem SessionRow.lawful_fresh (data : SessionData) (id : Id) (now : Nat) :
    Lawful (fresh data id now).session (fresh data id now).trail :=
  ⟨rfl, .singleton _, rfl, nofun, by simp [fresh, GameSession.new]⟩

/-! ### Every interleaving -/

variable {w w' : Lobby} {e : LobbyEnv}

/-- Every session keeps to the machine. -/
def Lobby.AllLawful (w : Lobby) : Prop := ∀ row ∈ w.rows, Lawful row.session row.trail

theorem TableStep.lawful (hstep : TableStep op w w') (horder : w.rows.all (·.inOrder op) = true)
    (h : w.AllLawful) : w'.AllLawful := by
  intro row' hrow'
  rcases hstep.origin.1 row' hrow' with ⟨row, hrow, hchange⟩ | ⟨data, newId, -, -, rfl⟩
  · exact hchange.lawful (List.all_eq_true.mp horder row hrow) (h row hrow)
  · exact SessionRow.lawful_fresh data newId w'.clock

theorem lawful_exec (horder : InOrder w op e) (h : w.AllLawful) :
    (lobbyMachine.exec e op w).2.AllLawful := by
  by_cases heffect : e.takesEffect = true
  · exact (exec_table e op w).lawful (horder heffect) h
  by_cases hop : op.infallible = true
  · -- nothing of this kind touches a session
    refine (exec_table e op w).lawful (List.all_eq_true.mpr fun row _ => ?_) h
    cases op <;> first | rfl | cases hop
  · rw [exec_without_effect (by simpa using hop) (by simpa using heffect)]
    exact h

/-- **A session is a one-way machine.** Whatever requests, jobs and moderators do, however
their statements interleave, fail or take effect unnoticed: if none of the three statements that
ignore the status meets a session it has no move for, every session keeps to the machine in
every state. -/
theorem status_one_way_of_inOrder {config : LobbyConfig} {w₀ w : Lobby}
    {ps : List (Route Unit)} (hstart : w₀.rows = [])
    (h : Pool lobbyMachine InOrder (Activity config) KeepsSessions w₀ w ps) :
    ∀ row ∈ w.rows, row.OneWay := by
  have hinit : w₀.AllLawful := by
    intro row hrow
    rw [hstart] at hrow
    cases hrow
  have hstep : ∀ (w : Lobby) (op : LobbyOp) (e : LobbyEnv), w.AllLawful → InOrder w op e →
      (lobbyMachine.exec e op w).2.AllLawful := fun w op e hw horder => lawful_exec horder hw
  have hdrift : ∀ w w' : Lobby, w.AllLawful → KeepsSessions w w' → w'.AllLawful :=
    fun w w' hw hkeeps row hrow => hw row (hkeeps.rows.subset hrow)
  have hlawful : w.AllLawful := Crew.invariant hinit (fun _ => hstep) hdrift h
  exact fun row hrow => (hlawful row hrow).oneWay

/-! ### A token outlives its session -/

/-- A warm-up, its end, and the start of the challenge; or, before that, a change of mind. -/
def visits : List (Route Unit) :=
  [warmupStart plainLobbyConfig (tokenRequest none), warmupComplete (tokenRequest none),
    start (tokenRequest (some (challengeTokenText ['s'] 20000))), forfeit (tokenRequest none)]

theorem visits_pool {G : Lobby → LobbyOp → LobbyEnv → Prop} {drift : Lobby → Lobby → Prop} :
    Pool lobbyMachine G (Activity plainLobbyConfig) drift .opened .opened visits :=
  (((Crew.init.spawn (.warmupStart _)).spawn (.warmupComplete _)).spawn (.start _)).spawn
    (.forfeit _)

/-- The player starts the challenge and then gives up. -/
def startedThenForfeited : List (Nat × LobbyEnv) :=
  visit 0 20 0 ++ visit 1 20 20000 ++ visit 2 20 0 ++ visit 3 10 0

/-- The player gives up and starts the challenge with the token from before. -/
def forfeitedThenStarted : List (Nat × LobbyEnv) :=
  visit 0 20 0 ++ visit 1 20 20000 ++ visit 3 10 0 ++ visit 2 20 0

def statusesOf (w : Lobby) : List (List Status) := w.rows.map SessionRow.trail

theorem forfeited_session_one_way :
    statusesOf (play lobbyMachine startedThenForfeited .opened visits).1 =
        [[.abandoned, .active, .warmup]] ∧
      ∀ row ∈ (play lobbyMachine startedThenForfeited .opened visits).1.rows, row.OneWay := by
  refine ⟨by decide +kernel, ?_⟩
  have hpool : Pool lobbyMachine InOrder (Activity plainLobbyConfig) KeepsSessions .opened
      (play lobbyMachine startedThenForfeited .opened visits).1
      (play lobbyMachine startedThenForfeited .opened visits).2 :=
    Crew.play startedThenForfeited visits_pool (by decide +kernel)
  exact status_one_way_of_inOrder rfl hpool

/-- The abandoned session is active again. One request has come after the other, and no call has
failed. -/
theorem abandoned_session_active_again :
    ¬ ∀ (config : LobbyConfig) (w₀ w : Lobby) (ps : List (Route Unit)), w₀.rows = [] →
      Pool lobbyMachine (fun _ _ e => e.fault.isNone = true) (Activity config)
        (fun _ _ => False) w₀ w ps → ∀ row ∈ w.rows, row.OneWay := by
  intro hall
  let w := (play lobbyMachine forfeitedThenStarted Lobby.opened visits).1
  have honeWay : ∀ row ∈ w.rows, row.OneWay := hall plainLobbyConfig .opened _ _ rfl
    (visits_pool.play forfeitedThenStarted (by decide +kernel))
  have htrails : w.rows.map SessionRow.trail = [[.active, .abandoned, .warmup]] := by
    decide +kernel
  obtain ⟨row, hrow, htrail⟩ : ∃ row ∈ w.rows, row.trail = [.active, .abandoned, .warmup] := by
    rw [← List.mem_map, htrails]
    exact List.mem_singleton_self _
  have hpath := (honeWay row hrow).path
  rw [htrail] at hpath
  cases (List.isChain_cons_cons.mp hpath).1

end BrandBlitz.Sessions

import Mathlib.Data.List.Pairwise
import BrandBlitz.Lib.Crew
import BrandBlitz.Sessions.Calls

/-!
# BrandBlitz.Sessions.OneSession

**One session of a player for a challenge.** `enforceOneSessionPerChallenge` claims the session,
or fetches the one there is and replaces it if it is abandoned. Whatever runs at the same time,

* there is at most one row for a player and a challenge, at every point;
* a request that passes carries a row that was there at some point during the request;
* a row stays, unless it is abandoned, and then one fresh row takes its place.

The requests are told apart, and the world keeps book of what was there when each of them moved.
-/

namespace BrandBlitz.Sessions

open BrandBlitz.Lib

/-! ### The world with its book -/

/-- A session that was attached to a request. -/
structure Attached where
  request : Nat
  userId : Id
  challengeId : Id
  session : GameSession

structure Watched where
  lobby : Lobby
  /-- history: the sessions there were when a request moved -/
  seen : Nat → List GameSession
  /-- history: the sessions attached to requests -/
  attached : List Attached

/-- What a call of request `i` puts down. -/
def LobbyOp.attaches (i : Nat) : LobbyOp → List Attached
  | .attachSession userId challengeId session => [⟨i, userId, challengeId, session⟩]
  | _ => []

/-- The services, as request `i` meets them. -/
def watchedMachine (i : Nat) : Machine lobbySig ApiError Watched LobbyEnv where
  exec e op w :=
    let answered := lobbyMachine.exec e op w.lobby
    (answered.1, {
      lobby := answered.2
      seen := Function.update w.seen i (w.seen i ++ answered.2.rows.map SessionRow.session)
      attached := op.attaches i ++ w.attached })

/-- At most one row for a player and a challenge, and none is attached to a request that was not
there during it. -/
structure OneSession (w : Watched) : Prop where
  unique : ∀ userId challengeId, (w.lobby.rows.filter (·.isOf userId challengeId)).length ≤ 1
  carried : ∀ a ∈ w.attached, a.session ∈ w.seen a.request ∧
    a.session.userId = a.userId ∧ a.session.challengeId = a.challengeId

/-- Every row stays, or it is abandoned and one fresh row takes its place. -/
def ReplacesAbandoned (w w' : Lobby) : Prop :=
  ∀ row ∈ w.rows, (∃ row' ∈ w'.rows, row'.session.id = row.session.id ∧
      row'.session.userId = row.session.userId ∧
      row'.session.challengeId = row.session.challengeId) ∨
    row.session.status = .abandoned ∧ ∃ data newId, newId ∉ w.ids ∧
      w'.rows.filter (·.isOf row.session.userId row.session.challengeId) =
        [.fresh data newId w'.clock]

/-- What else may happen: anything but to the sessions. -/
structure Aside (w w' : Watched) : Prop where
  rows : w'.lobby.rows = w.lobby.rows
  ids : w'.lobby.ids = w.lobby.ids
  seen : w'.seen = w.seen
  attached : w'.attached = w.attached

/-! ### The table -/

/-- Sessions of different players, or for different challenges. -/
def Apart (row row' : SessionRow) : Prop :=
  row.session.userId = row'.session.userId → row.session.challengeId ≠ row'.session.challengeId

instance : Std.Symm Apart :=
  ⟨fun _ _ h huser hchallenge => h huser.symm hchallenge.symm⟩

variable {w w' : Lobby} {op : LobbyOp} {row row' : SessionRow} {data : SessionData}
  {userId challengeId : Id}

theorem SessionRow.isOf_iff : row.isOf userId challengeId = true ↔
    row.session.userId = userId ∧ row.session.challengeId = challengeId := by
  simp [isOf]

theorem apart_fresh {newId : Id} {now : Nat}
    (h : row.isOf data.userId data.challengeId = false) : Apart row (.fresh data newId now) := by
  intro huser hchallenge
  have hof : row.isOf data.userId data.challengeId = true :=
    SessionRow.isOf_iff.mpr ⟨huser, hchallenge⟩
  rw [h] at hof
  cases hof

theorem filter_length_le_one {rows : List SessionRow} (h : rows.Pairwise Apart)
    (userId challengeId : Id) : (rows.filter (·.isOf userId challengeId)).length ≤ 1 := by
  have hapart := h.filter (·.isOf userId challengeId)
  have hof : ∀ row ∈ rows.filter (·.isOf userId challengeId),
      row.session.userId = userId ∧ row.session.challengeId = challengeId :=
    fun row hrow => SessionRow.isOf_iff.mp (List.mem_filter.mp hrow).2
  generalize rows.filter (·.isOf userId challengeId) = found at hapart hof ⊢
  match found with
  | [] | [_] => simp
  | row :: row' :: rest =>
      obtain ⟨huser, hchallenge⟩ := hof row (by simp)
      obtain ⟨huser', hchallenge'⟩ := hof row' (by simp)
      have hne : Apart row row' := (List.pairwise_cons.mp hapart).1 row' (by simp)
      exact absurd (hchallenge.trans hchallenge'.symm) (hne (huser.trans huser'.symm))

theorem TableStep.pairwise (h : TableStep op w w') (hrows : w.rows.Pairwise Apart) :
    w'.rows.Pairwise Apart := by
  cases h with
  | updated change hmap hids hchange =>
      rw [hmap, List.pairwise_map]
      refine hrows.imp_of_mem fun {row row'} hrow hrow' hapart => ?_
      obtain ⟨-, huser, hchallenge⟩ := (hchange row hrow).identity
      obtain ⟨-, huser', hchallenge'⟩ := (hchange row' hrow').identity
      rwa [Apart, huser, huser', hchallenge, hchallenge']
  | claimed data newId hnone hnew hids happend =>
      rw [happend]
      refine List.pairwise_append.mpr ⟨hrows, List.pairwise_singleton .., ?_⟩
      intro row hrow fresh hfresh
      rw [List.mem_singleton.mp hfresh]
      exact apart_fresh (hnone row hrow)
  | replaced data newId hold hnone hnew hids happend =>
      rw [happend]
      refine List.pairwise_append.mpr
        ⟨hrows.filter _, List.pairwise_singleton .., fun row hrow fresh hfresh => ?_⟩
      obtain ⟨hmem, hkeep⟩ := List.mem_filter.mp hrow
      rw [List.mem_singleton.mp hfresh]
      exact apart_fresh (hnone row hmem (by simpa using hkeep))
  | deleted data hother hids hfilter =>
      rw [hfilter]
      exact hrows.filter _

/-- What is deleted is replaced, for there was no other row of the player for the challenge. -/
theorem TableStep.replacesAbandoned (h : TableStep op w w') (hrows : w.rows.Pairwise Apart) :
    ReplacesAbandoned w w' := by
  intro row hrow
  cases h with
  | updated change hmap hids hchange =>
      refine .inl ⟨change row, ?_, (hchange row hrow).identity⟩
      rw [hmap]
      exact List.mem_map_of_mem hrow
  | claimed data newId hnone hnew hids happend =>
      exact .inl ⟨row, happend ▸ List.mem_append_left _ hrow, rfl, rfl, rfl⟩
  | replaced data newId hold hnone hnew hids happend =>
      by_cases hreplace : row.replaceable data = true
      · obtain ⟨hof, habandoned⟩ := Bool.and_eq_true_iff.mp hreplace
        obtain ⟨huser, hchallenge⟩ := SessionRow.isOf_iff.mp hof
        refine .inr ⟨by simpa [SessionRow.isAbandoned] using habandoned, data, newId, hnew, ?_⟩
        have hothers : (w.rows.filter fun row => !row.replaceable data).filter
            (·.isOf data.userId data.challengeId) = [] := by
          refine List.filter_eq_nil_iff.mpr fun other hother => ?_
          obtain ⟨hmem, hkeep⟩ := List.mem_filter.mp hother
          rw [hnone other hmem (by simpa using hkeep)]
          exact Bool.false_ne_true
        have hfresh : (SessionRow.fresh data newId w'.clock).isOf data.userId data.challengeId =
            true := SessionRow.isOf_iff.mpr ⟨rfl, rfl⟩
        rw [happend, huser, hchallenge, List.filter_append, hothers, List.filter_singleton, hfresh]
        rfl
      · refine .inl ⟨row, ?_, rfl, rfl, rfl⟩
        rw [happend]
        exact List.mem_append_left _ (List.mem_filter.mpr ⟨hrow, by simpa using hreplace⟩)
  | deleted data hother hids hfilter =>
      obtain ⟨other, hmem, hkeep, hof⟩ := hother
      have hkept : row.replaceable data = false := by
        by_contra hreplace
        have hreplace : row.replaceable data = true := by simpa using hreplace
        obtain ⟨hof', -⟩ := Bool.and_eq_true_iff.mp hreplace
        obtain ⟨huser, hchallenge⟩ := SessionRow.isOf_iff.mp hof
        obtain ⟨huser', hchallenge'⟩ := SessionRow.isOf_iff.mp hof'
        have hne : other ≠ row := by
          rintro rfl
          rw [hkeep] at hreplace
          cases hreplace
        exact hrows.forall hmem hrow hne (huser.trans huser'.symm)
          (hchallenge.trans hchallenge'.symm)
      refine .inl ⟨row, ?_, rfl, rfl, rfl⟩
      rw [hfilter]
      exact List.mem_filter.mpr ⟨hrow, by simp [hkept]⟩

/-! ### The sessions that a request is given -/

variable {e : LobbyEnv} {session : GameSession}

theorem exec_claimSession
    (h : (lobbyMachine.exec e (.claimSession data) w).1 = .ok (some session)) :
    ∃ row ∈ (lobbyMachine.exec e (.claimSession data) w).2.rows,
      row.session = session ∧ row.isOf data.userId data.challengeId = true := by
  have hperform : (w.later e).claimSession e.newId data = (.ok (some session), _) := exec_of_ok h
  obtain ⟨-, hkept⟩ | ⟨err, hfails⟩ | ⟨-, -, hdone⟩ := (w.later e).claimSession_cases e.newId data
  · rw [hkept] at hperform
    cases congrArg Prod.fst hperform
  · rw [hfails] at hperform
    cases congrArg Prod.fst hperform
  · rw [hdone] at hperform
    obtain ⟨hsession, hworld⟩ := Prod.mk.inj hperform
    rw [← hworld]
    exact ⟨_, List.mem_append_right _ (List.mem_singleton_self _),
      Option.some.inj (Except.ok.inj hsession), SessionRow.isOf_iff.mpr ⟨rfl, rfl⟩⟩

theorem exec_replaceAbandoned
    (h : (lobbyMachine.exec e (.replaceAbandoned data) w).1 = .ok (some session)) :
    ∃ row ∈ (lobbyMachine.exec e (.replaceAbandoned data) w).2.rows,
      row.session = session ∧ row.isOf data.userId data.challengeId = true := by
  have hperform : (w.later e).replaceAbandoned e.newId data = (.ok (some session), _) :=
    exec_of_ok h
  obtain ⟨answer, hkept, hnone⟩ | ⟨-, ⟨-, hdone⟩ | ⟨-, -, hdone⟩⟩ :=
    (w.later e).replaceAbandoned_cases e.newId data
  · rw [hkept] at hperform
    exact absurd (congrArg Prod.fst hperform) (hnone session)
  · rw [hdone] at hperform
    cases congrArg Prod.fst hperform
  · rw [hdone] at hperform
    obtain ⟨hsession, hworld⟩ := Prod.mk.inj hperform
    rw [← hworld]
    exact ⟨_, List.mem_append_right _ (List.mem_singleton_self _),
      Option.some.inj (Except.ok.inj hsession), SessionRow.isOf_iff.mpr ⟨rfl, rfl⟩⟩

/-! ### The book -/

/-- A session of this player for this challenge was there when request `i` moved. -/
def Watched.Saw (v : Watched) (i : Nat) (userId challengeId : Id) (session : GameSession) : Prop :=
  session ∈ v.seen i ∧ session.userId = userId ∧ session.challengeId = challengeId

/-- The invariant: no two rows are of one player for one challenge, and the book is right. -/
structure Watched.Sound (v : Watched) : Prop where
  apart : v.lobby.rows.Pairwise Apart
  carried : ∀ a ∈ v.attached, v.Saw a.request a.userId a.challengeId a.session

/-- What request `i` may count on while the others move. -/
def Others (i : Nat) (v v' : Watched) : Prop :=
  v'.Sound ∧ ∀ session ∈ v.seen i, session ∈ v'.seen i

variable {i : Nat} {v v' : Watched}

theorem mem_seen_exec {j : Nat} (h : session ∈ v.seen j) :
    session ∈ ((watchedMachine i).exec e op v).2.seen j := by
  by_cases hj : j = i
  · subst hj
    simp [watchedMachine, h]
  · simp [watchedMachine, Function.update_of_ne hj, h]

theorem Watched.Sound.exec (h : v.Sound)
    (hop : ∀ a ∈ op.attaches i, a.request = i ∧ v.Saw i a.userId a.challengeId a.session) :
    ((watchedMachine i).exec e op v).2.Sound := by
  refine ⟨(exec_table e op v.lobby).pairwise h.apart, fun a ha => ?_⟩
  have hsaw : v.Saw a.request a.userId a.challengeId a.session := by
    rcases List.mem_append.mp ha with ha | ha
    · obtain ⟨hrequest, hsaw⟩ := hop a ha
      rw [hrequest]
      exact hsaw
    · exact h.carried a ha
  exact ⟨mem_seen_exec hsaw.1, hsaw.2⟩

/-- What is there after a call of the request is in the book. -/
theorem saw_exec (h : ∃ row ∈ (lobbyMachine.exec e op v.lobby).2.rows,
      row.session = session ∧ row.isOf userId challengeId = true) :
    ((watchedMachine i).exec e op v).2.Saw i userId challengeId session := by
  obtain ⟨row, hrow, rfl, hof⟩ := h
  refine ⟨?_, SessionRow.isOf_iff.mp hof⟩
  simp only [watchedMachine, Function.update_self]
  exact List.mem_append_right _ (List.mem_map_of_mem hrow)

/-! ### Requests -/

variable {α : Type}

/-- Request `i`, verified among others to end in `Q`. -/
abbrev Watching (i : Nat) (p : Route α) (Q : α → Watched → Prop) (v : Watched) : Prop :=
  p.wp (watchedMachine i).among (Among (Others i) fun _ _ _ => True) Watched.Sound
    (Prog.Ends Q fun _ => Watched.Sound) v

theorem attaches_of_quiet (op : LobbyOp) (h : op.quiet = true) : op.attaches i = [] := by
  cases op with
  | attachSession userId challengeId session => cases h
  | _ => rfl

theorem Watched.Sound.exec_free (h : v.Sound) (hop : op.attaches i = []) :
    ((watchedMachine i).exec e op v).2.Sound := by
  refine h.exec fun a ha => ?_
  rw [hop] at ha
  cases ha

/-- A program that attaches nothing. -/
theorem watching_free {p : Route α} {P : α → Prop}
    (hp : p.Emits (fun op : LobbyOp => op.attaches i = []) (fun _ _ => True) P) (h : v.Sound) :
    Watching i p (fun _ => Watched.Sound) v := by
  have hexec : ∀ (v : Watched) (op : LobbyOp) (move : Watched × LobbyEnv), v.Sound →
      op.attaches i = [] → Among (S := lobbySig) (Others i) (fun _ _ _ => True) v op move →
      ((watchedMachine i).among.exec move op v).2.Sound ∧ True :=
    fun v op move _ hop hmove => ⟨hmove.1.1.exec_free hop, trivial⟩
  exact hp.wp (fun _ hv => hv) hexec h

/-- A call that may answer with a session. -/
theorem watching_find {found : lobbySig.Ans op → Option GameSession} (hop : op.attaches i = [])
    (hfind : ∀ w e a session, (lobbyMachine.exec e op w).1 = .ok a → found a = some session →
      ∃ row ∈ (lobbyMachine.exec e op w).2.rows,
        row.session = session ∧ row.isOf userId challengeId = true) :
    Watching i (Prog.call (S := lobbySig) op) (fun a v' => v'.Sound ∧
      ∀ session, found a = some session → v'.Saw i userId challengeId session) v := by
  refine Prog.wp_call fun move hmove => ?_
  have hsound : ((watchedMachine i).exec move.2 op move.1).2.Sound := hmove.1.1.exec_free hop
  refine ⟨hsound, ?_⟩
  cases hanswer : (lobbyMachine.exec move.2 op move.1.lobby).1 with
  | error err =>
      simp only [Machine.among, watchedMachine, hanswer]
      exact hsound
  | ok a =>
      simp only [Machine.among, watchedMachine, hanswer]
      exact ⟨hsound, fun session hfound => saw_exec (hfind _ _ a session hanswer hfound)⟩

theorem watching_getSession :
    Watching i (Prog.call (S := lobbySig) (.answer (.getSession userId challengeId)))
      (fun found v' => v'.Sound ∧
        ∀ session, found = some session → v'.Saw i userId challengeId session) v :=
  watching_find rfl fun _ _ _ _ hok hfound => exec_getSession (hok.trans (congrArg _ hfound))

theorem watching_claimOrFetch (data : SessionData) :
    Watching i (claimOrFetch data)
      (fun session v' => v'.Sound ∧ v'.Saw i data.userId data.challengeId session) v := by
  have hclaim : Watching i (Prog.call (S := lobbySig) (.claimSession data)) (fun claimed v' =>
      v'.Sound ∧ ∀ session, claimed = some session →
        v'.Saw i data.userId data.challengeId session) v :=
    watching_find rfl fun _ _ _ _ hok hfound => exec_claimSession (hok.trans (congrArg _ hfound))
  refine Prog.wp_bind hclaim fun claimed v₁ h₁ => ?_
  cases claimed with
  | some session => exact ⟨h₁.1, h₁.2 session rfl⟩
  | none =>
      refine Prog.wp_bind watching_getSession fun existing v₂ h₂ => ?_
      cases existing with
      | none => exact h₂.1
      | some existing =>
          dsimp only
          split
          · have hreplace : Watching i (Prog.call (S := lobbySig) (.replaceAbandoned data))
                (fun fresh v' => v'.Sound ∧ ∀ session, fresh = some session →
                  v'.Saw i data.userId data.challengeId session) v₂ :=
              watching_find rfl fun _ _ _ _ hok hfound =>
                exec_replaceAbandoned (hok.trans (congrArg _ hfound))
            refine Prog.wp_bind hreplace fun fresh v₃ h₃ => ?_
            cases fresh with
            | some fresh => exact ⟨h₃.1, h₃.2 fresh rfl⟩
            | none =>
                refine Prog.wp_bind watching_getSession fun refetched v₄ h₄ => ?_
                cases refetched with
                | none => exact h₄.1
                | some session => exact ⟨h₄.1, h₄.2 session rfl⟩
          · exact ⟨h₂.1, h₂.2 existing rfl⟩

theorem watching_attach (hsaw : v.Saw i userId challengeId session) :
    Watching i (Prog.call (S := lobbySig) (.attachSession userId challengeId session))
      (fun _ => Watched.Sound) v := by
  refine Prog.wp_call_world fun move hmove => ?_
  have hsound : ((watchedMachine i).exec move.2 (.attachSession userId challengeId session)
      move.1).2.Sound := by
    refine hmove.1.1.exec fun a ha => ?_
    obtain rfl := List.mem_singleton.mp ha
    exact ⟨rfl, hmove.1.2 session hsaw.1, hsaw.2⟩
  exact ⟨hsound, hsound⟩

theorem watching_enforceOneSession (h : v.Sound) (req : LobbyRequest) (userId : Id) :
    Watching i (enforceOneSessionPerChallenge req userId) (fun _ => Watched.Sound) v := by
  unfold enforceOneSessionPerChallenge
  split
  · exact h
  refine Prog.wp_bind (watching_free (emits_lobbyCall rfl) h) fun options v₁ h₁ => ?_
  split
  · exact h₁
  · refine Prog.wp_bind (watching_claimOrFetch _) fun session v₂ h₂ => ?_
    exact Prog.wp_bind (watching_attach h₂.2) fun _ v₃ h₃ => h₃

theorem watching_warmupStart (h : v.Sound) (config : LobbyConfig) (req : LobbyRequest) :
    Watching i (warmupStart config req) (fun _ => Watched.Sound) v := by
  refine Prog.wp_bind (watching_free (emits_ofAnswer attaches_of_quiet _) h)
    fun payload v₀ h₀ => ?_
  cases payload with
  | error response => exact watching_free (emits_respond attaches_of_quiet rfl) h₀
  | ok payload =>
      refine Prog.wp_tryCatch (P := fun _ => Watched.Sound) ?_ fun err v₁ h₁ =>
        watching_free (emits_errorHandler attaches_of_quiet none err) h₁
      refine Prog.wp_bind (watching_free (emits_requireActiveUser attaches_of_quiet payload) h₀)
        fun _ v₁ h₁ => ?_
      refine Prog.wp_bind (watching_enforceOneSession h₁ req payload.sub) fun session v₂ h₂ => ?_
      refine watching_free (Prog.Emits.tryCatch ?_
        (emits_errorHandler attaches_of_quiet (some session.id))) h₂
      exact (emits_validateDeviceFingerprint attaches_of_quiet config req payload.sub).bind
        fun _ _ => (emits_beginWarmup attaches_of_quiet (fun _ _ => rfl) req session).bind
        fun response _ => emits_respond_of rfl

theorem watching_activity {config : LobbyConfig} {p : Route Unit} (hp : Activity config p)
    (h : v.Sound) : Watching i p (fun _ => Watched.Sound) v := by
  cases hp with
  | warmupStart req => exact watching_warmupStart h config req
  | warmupComplete req =>
      exact watching_free (emits_warmupComplete attaches_of_quiet (fun _ => rfl)
        (fun _ _ => rfl) req) h
  | start req => exact watching_free (emits_start attaches_of_quiet (fun _ => rfl) req) h
  | forfeit req => exact watching_free (emits_forfeit attaches_of_quiet req) h
  | answer req => exact watching_free (emits_answerRoute attaches_of_quiet config req) h
  | timeout => exact watching_free (emits_timeoutJob attaches_of_quiet) h
  | flagging sessionId reasons =>
      exact watching_free (emits_flagging attaches_of_quiet sessionId reasons) h

/-! ### Every interleaving -/

theorem verified_watching (config : LobbyConfig) :
    Crew.Verified watchedMachine (fun _ _ _ _ => True) (Activity config) Aside Watched.Sound
      Others fun _ _ => True where
  refl _ _ h := ⟨h, fun _ hmem => hmem⟩
  trans _ _ _ _ h h' := ⟨h'.1, fun session hmem => h'.2 session (h.2 session hmem)⟩
  stays _ _ _ _ _ := trivial
  spawned i v p hp h _ :=
    Prog.wp_mono (Prog.wp_world (watching_activity hp h)) fun _ _ _ => trivial
  others _ _ _ _ _ _ _ _ h := ⟨h, fun _ hmem => mem_seen_exec hmem⟩
  drifted i v v' h haside := by
    have hsound : v'.Sound := by
      refine ⟨haside.rows ▸ h.apart, fun a ha => ?_⟩
      rw [haside.attached] at ha
      obtain ⟨hmem, howner⟩ := h.carried a ha
      exact ⟨by rw [haside.seen]; exact hmem, howner⟩
    exact ⟨hsound, hsound, fun session hmem => by rw [haside.seen]; exact hmem⟩

/-- **One session of a player for a challenge.** Whatever requests and jobs there are and however
they interleave, with each other and with failing calls: in every state there is at most one row
for a player and a challenge, and a request carries a row that was there during it; and whatever
the next step is, every row survives it, or the row is abandoned and one fresh row takes its
place. -/
theorem one_session_per_challenge {config : LobbyConfig} {v₀ v : Watched}
    {ps : List (Route Unit)} (hrows : v₀.lobby.rows.Pairwise Apart) (hattached : v₀.attached = [])
    (h : Crew watchedMachine (fun _ _ _ _ => True) (Activity config) Aside v₀ v ps) :
    OneSession v ∧ ∀ (i : Nat) (op : LobbyOp) (e : LobbyEnv),
      ReplacesAbandoned v.lobby ((watchedMachine i).exec e op v).2.lobby := by
  have hsound₀ : v₀.Sound := by
    refine ⟨hrows, fun a ha => ?_⟩
    rw [hattached] at ha
    cases ha
  have hsound : v.Sound := ((verified_watching config).sound hsound₀ (fun _ => trivial) h).1
  refine ⟨⟨filter_length_le_one hsound.apart, hsound.carried⟩, fun i op e => ?_⟩
  exact (exec_table e op v.lobby).replacesAbandoned hsound.apart

/-- Calls that succeed, and draw this id. -/
def drawing (newId : Id) : Nat → LobbyEnv := fun _ => ⟨none, 0, newId, 0, true⟩

def Watched.opened : Watched := ⟨.opened, fun _ => [], []⟩

def firstVisit : Watched :=
  ((warmupStart plainLobbyConfig (tokenRequest none)).run (watchedMachine 0) (drawing ['s'])
    .opened).2

def afterQuitting : Watched :=
  ((forfeit (tokenRequest none)).run (watchedMachine 1) (drawing []) firstVisit).2

def secondVisit : Watched :=
  ((warmupStart plainLobbyConfig (tokenRequest none)).run (watchedMachine 2) (drawing ['r'])
    afterQuitting).2

/-- A player who has quit comes back to a fresh session, and there is no other. -/
theorem second_visit_one_session :
    secondVisit.lobby.rows.map (fun row => row.session.id) = [['r']] ∧
      secondVisit.attached.map (fun a => a.session.id) = [['r'], ['s']] ∧
      OneSession secondVisit := by
  refine ⟨by decide +kernel, by decide +kernel, ?_⟩
  obtain ⟨ps₁, h₁, hlen₁⟩ : ∃ ps, Crew watchedMachine (fun _ _ _ _ => True)
      (Activity plainLobbyConfig) Aside .opened firstVisit ps ∧ ps.length = 1 :=
    Crew.init.spawnRun (.warmupStart _) (Prog.runOk_of_forall fun _ _ _ => trivial)
  obtain ⟨ps₂, h₂, hlen₂⟩ := h₁.spawnRun (s := drawing []) (.forfeit (tokenRequest none))
    (Prog.runOk_of_forall fun _ _ _ => trivial)
  rw [hlen₁] at h₂ hlen₂
  obtain ⟨ps₃, h₃, -⟩ := h₂.spawnRun (s := drawing ['r']) (.warmupStart (tokenRequest none))
    (Prog.runOk_of_forall fun _ _ _ => trivial)
  rw [hlen₂] at h₃
  exact (one_session_per_challenge .nil rfl h₃).1

end BrandBlitz.Sessions

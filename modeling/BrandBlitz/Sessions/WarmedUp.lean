import BrandBlitz.Sessions.Admission

/-!
# BrandBlitz.Sessions.WarmedUp

**Nobody plays without a warm-up**, in every sequence of requests in which no warm-up ends whose
key was never written.

What `warmup-complete` does not ask is whether there has been a `warmup-start` that was answered
with success. The session is there as soon as `enforceOneSessionPerChallenge` has run, before the
device and the challenge are checked, and where the key is missing there is nothing to wait for.
`MindsKey` leaves out the warm-ups that are ended though there never was a key, and the writes of
a key that throw.
-/

namespace BrandBlitz.Sessions

open BrandBlitz.Lib

variable {w w' : Lobby} {op : LobbyOp} {e : LobbyEnv} {sessionId : Id} {t : Nat}

/-! ### Requests -/

/-- A program verified to end in `Q`, or with an error that leaves the invariant. -/
abbrev Safe {α : Type} (p : Route α) (Q : α → Lobby → Prop) (w : Lobby) : Prop :=
  p.wp lobbyMachine MindsKey Admissions (Prog.Ends Q fun _ => AtRest) w

variable {α : Type}

/-- What calm calls keep, a calm program keeps. -/
theorem safe_calm {p : Route α} {P : α → Prop}
    (hp : p.Emits (fun op : LobbyOp => op.calm = true) (fun _ _ => True) P)
    (h : AtRest w) {K : Lobby → Prop} (hw : K w) (hK : ∀ w w', K w → Calm w w' → K w') :
    Safe p (fun a w' => P a ∧ AtRest w' ∧ K w') w := by
  have hexec : ∀ (w : Lobby) (op : LobbyOp) (e : LobbyEnv), AtRest w ∧ K w →
      op.calm = true → MindsKey w op e →
      (AtRest (lobbyMachine.exec e op w).2 ∧ K (lobbyMachine.exec e op w).2) ∧ True :=
    fun w op e hw hop _ => ⟨⟨hw.1.exec_calm hop, hK _ _ hw.2 (exec_calm hop)⟩, trivial⟩
  exact Prog.wp_weaken (hp.wp_returns (fun _ hw => hw.1.toAdmissions) hexec ⟨h, hw⟩) (fun _ _ hw' => hw')
    fun _ _ hw' => hw'.1

/-- The same, where nothing but the invariant counts. -/
theorem safe_of_calm {p : Route α} {P : α → Prop}
    (hp : p.Emits (fun op : LobbyOp => op.calm = true) (fun _ _ => True) P)
    (h : AtRest w) : Safe p (fun a w' => P a ∧ AtRest w') w :=
  Prog.wp_weaken (safe_calm hp h trivial fun _ _ _ _ => trivial)
    (fun _ _ hw' => ⟨hw'.1, hw'.2.1⟩) fun _ _ hw' => hw'

theorem safe_end {p : Route α} {P : α → Prop}
    (hp : p.Emits (fun op : LobbyOp => op.calm = true) (fun _ _ => True) P)
    (h : AtRest w) : Safe p (fun _ => AtRest) w :=
  Prog.wp_weaken (safe_of_calm hp h) (fun _ _ hw' => hw'.2) fun _ _ hw' => hw'

theorem safe_call {Q : lobbySig.Ans op → Lobby → Prop}
    (h : ∀ e, MindsKey w op e → AtRest (lobbyMachine.exec e op w).2 ∧
      ∀ a, (lobbyMachine.exec e op w).1 = .ok a → Q a (lobbyMachine.exec e op w).2) :
    Safe (Prog.call (S := lobbySig) op) Q w := by
  refine Prog.wp_call fun e he => ⟨(h e he).1.toAdmissions, ?_⟩
  cases hanswer : (lobbyMachine.exec e op w).1 with
  | ok a => exact (h e he).2 a hanswer
  | error err => exact (h e he).1

theorem safe_calmCall (h : AtRest w) (hop : op.calm = true) :
    Safe (Prog.call (S := lobbySig) op) (fun _ => AtRest) w :=
  safe_call fun _ _ => ⟨h.exec_calm hop, fun _ _ => h.exec_calm hop⟩

theorem safe_dateNow (h : AtRest w) {K : Lobby → Prop} (hw : K w)
    (hK : ∀ w w', K w → Calm w w' → K w') :
    Safe (Prog.call (S := lobbySig) .dateNow)
      (fun now w' => AtRest w' ∧ K w' ∧ now = w'.clock) w := by
  refine safe_call fun e _ => ⟨h.exec_calm rfl, fun now hnow => ⟨h.exec_calm rfl, ?_, ?_⟩⟩
  · exact hK _ _ hw (exec_calm rfl)
  · have hperform := exec_of_ok hnow
    have hworld : (lobbyMachine.exec e .dateNow w).2 = w.later e :=
      (congrArg Prod.snd hperform).symm
    rw [hworld]
    exact (Except.ok.inj (congrArg Prod.fst hperform)).symm

theorem safe_authenticated (h : AtRest w) (req : LobbyRequest)
    {next : AuthPayload → Route Unit}
    (hnext : ∀ payload w', AtRest w' → Safe (next payload) (fun _ => AtRest) w') :
    Safe (authenticated req next) (fun _ => AtRest) w := by
  refine Prog.wp_bind (safe_of_calm (emits_ofAnswer calm_of_quiet _) h)
    fun payload w' hw' => ?_
  cases payload with
  | error response => exact safe_end (emits_respond calm_of_quiet rfl) hw'.2
  | ok payload =>
      refine Prog.wp_tryCatch (hnext payload w' hw'.2) fun err w'' hw'' => ?_
      exact safe_end (emits_errorHandler calm_of_quiet none err) hw''

/-! #### The warm-up begins -/

theorem safe_setUnlock (h : AtRest w) :
    Safe (Prog.call (S := lobbySig) (.setUnlock sessionId (w.clock + warmupMs)))
      (fun _ w' => Admitting w' sessionId w.clock) w := by
  refine Prog.wp_call fun e he => ?_
  cases hanswer : (lobbyMachine.exec e (.setUnlock sessionId (w.clock + warmupMs)) w).1 with
  | ok a =>
      have hadmitting := h.exec_setUnlock hanswer
      exact ⟨hadmitting.toAdmissions, hadmitting⟩
  | error err =>
      have hatRest := h.fail_setUnlock he hanswer
      exact ⟨hatRest.toAdmissions, hatRest⟩

theorem safe_beginWarmup (h : AtRest w) (req : LobbyRequest) (session : GameSession) :
    Safe (beginWarmup req session) (fun response w' =>
      ∃ t, response = .warmupStarted session.id (t + warmupMs) ∧ Admitting w' session.id t) w := by
  refine Prog.wp_bind (safe_calmCall h rfl) fun challenge w₁ h₁ => ?_
  split
  · refine Prog.wp_bind (safe_calmCall h₁ rfl) fun _ w₂ h₂ => ?_
    refine Prog.wp_bind (safe_dateNow h₂ trivial fun _ _ _ _ => trivial) fun now w₃ h₃ => ?_
    obtain ⟨h₃, -, rfl⟩ := h₃
    exact Prog.wp_bind (safe_setUnlock h₃) fun _ w₄ h₄ => ⟨w₃.clock, rfl, h₄⟩
  · exact h₁

theorem safe_warmupStart (h : AtRest w) (config : LobbyConfig) (req : LobbyRequest) :
    Safe (warmupStart config req) (fun _ => AtRest) w := by
  refine safe_authenticated h req fun payload w₀ h₀ => ?_
  refine Prog.wp_bind (safe_of_calm
    (emits_requireActiveUser calm_of_quiet payload) h₀) fun _ w₁ h₁ => ?_
  refine Prog.wp_bind (safe_of_calm
    (emits_enforceOneSession calm_of_quiet (fun _ _ _ => rfl) req payload.sub)
    h₁.2) fun session w₂ h₂ => ?_
  refine Prog.wp_tryCatch (P := fun _ => AtRest) ?_ fun err w₃ h₃ =>
    safe_end (emits_errorHandler calm_of_quiet (some session.id) err) h₃
  refine Prog.wp_bind (safe_of_calm (emits_validateDeviceFingerprint
    calm_of_quiet config req payload.sub) h₂.2) fun _ w₃ h₃ => ?_
  refine Prog.wp_bind (safe_beginWarmup h₃.2 req session) fun response w₄ h₄ => ?_
  obtain ⟨t, rfl, hadmitting⟩ := h₄
  exact safe_call fun e _ => ⟨hadmitting.exec_admission, fun _ _ => hadmitting.exec_admission⟩

/-! #### The warm-up ends -/

/-- What was read from the key lies behind every warm-up that was admitted; and if there was
nothing to read, their time is over. -/
def Released (w : Lobby) (sessionId : Id) : Option Nat → Prop
  | none => Elapsed w sessionId
  | some unlockAt => ∀ t, Admitted w sessionId t → t + warmupMs ≤ unlockAt

/-- The key lasts longer than the warm-up. -/
theorem AtRest.released (h : AtRest w) :
    Released w sessionId (Kept.get (w.unlocks sessionId) w.clock) := by
  cases hstored : Kept.get (w.unlocks sessionId) w.clock with
  | none =>
      intro t hadmitted
      obtain ⟨-, kept, hkept, -, hlast⟩ := h.locked hadmitted
      have hgone : kept.last < w.clock := by simpa [Kept.get, hkept] using hstored
      show t + 20 * 1000 ≤ w.clock
      omega
  | some unlockAt =>
      intro t hadmitted
      obtain ⟨-, kept, hkept, hvalue, -⟩ := h.locked hadmitted
      obtain ⟨-, rfl⟩ : w.clock ≤ kept.last ∧ kept.value = unlockAt := by
        simpa [Kept.get, hkept] using hstored
      exact hvalue

theorem KeepsKeys.released (h : KeepsKeys w w') {stored : Option Nat}
    (hreleased : Released w sessionId stored) : Released w' sessionId stored := by
  cases stored with
  | none => exact h.elapsed hreleased
  | some unlockAt => exact fun t hadmitted => hreleased t (h.admitted.mp hadmitted)

theorem safe_getUnlock (h : AtRest w) (hid : sessionId ∈ w.ids) :
    Safe (Prog.call (S := lobbySig) (.getUnlock sessionId)) (fun stored w' =>
      AtRest w' ∧ sessionId ∈ w'.ids ∧ Released w' sessionId stored) w := by
  refine safe_call fun e _ => ⟨h.exec_calm rfl, fun stored hok => ?_⟩
  have hperform := exec_of_ok hok
  have hworld : (lobbyMachine.exec e (.getUnlock sessionId) w).2 = w.later e :=
    (congrArg Prod.snd hperform).symm
  have hstored : Kept.get ((w.later e).unlocks sessionId) (w.later e).clock = stored :=
    Except.ok.inj (congrArg Prod.fst hperform)
  rw [hworld, ← hstored]
  exact ⟨h.later, hid, h.later.released⟩

theorem safe_enforceUnlock (h : AtRest w) (hid : sessionId ∈ w.ids) :
    Safe (enforceUnlock sessionId)
      (fun _ w' => AtRest w' ∧ sessionId ∈ w'.ids ∧ Elapsed w' sessionId) w := by
  refine Prog.wp_bind (safe_getUnlock h hid) fun stored w₁ h₁ => ?_
  obtain ⟨h₁, hid₁, hreleased⟩ := h₁
  cases stored with
  | none => exact ⟨h₁, hid₁, hreleased⟩
  | some unlockAt =>
      refine Prog.wp_bind (safe_dateNow h₁ (K := fun w' => sessionId ∈ w'.ids ∧
          Released w' sessionId (some unlockAt)) ⟨hid₁, hreleased⟩ ?_) fun now w₂ h₂ => ?_
      · exact fun w w' hw hcalm => ⟨hcalm.ids _ hw.1, hcalm.released hw.2⟩
      · obtain ⟨h₂, ⟨hid₂, hreleased₂⟩, rfl⟩ := h₂
        split
        · exact h₂
        · rename_i hover
          exact ⟨h₂, hid₂, fun t hadmitted =>
            Nat.le_trans (hreleased₂ t hadmitted) (Nat.le_of_not_lt hover)⟩

theorem safe_completeWarmup (h : AtRest w) (hid : sessionId ∈ w.ids) :
    Safe (completeWarmup sessionId) (fun response w' => response.admits = false ∧ AtRest w')
      w := by
  refine Prog.wp_bind (safe_enforceUnlock h hid) fun _ w₁ h₁ => ?_
  obtain ⟨h₁, hid₁, helapsed⟩ := h₁
  refine Prog.wp_bind (P := fun _ w' => AtRest w' ∧ Warm w' sessionId) ?_ fun _ w₂ h₂ => ?_
  · exact safe_call fun e he => ⟨h₁.exec_markWarmupCompleted helapsed he,
      fun _ hok => ⟨h₁.exec_markWarmupCompleted helapsed he, warm_markWarmupCompleted hid₁ hok⟩⟩
  refine Prog.wp_bind (safe_dateNow h₂.1 h₂.2 fun _ _ hw hcalm => hcalm.warm _ hw)
    fun now w₃ h₃ => ?_
  refine Prog.wp_bind (P := fun _ => AtRest) ?_ fun _ w₄ h₄ => ⟨rfl, h₄⟩
  exact safe_call fun e _ => ⟨h₃.1.exec_setChallengeToken h₃.2.1,
    fun _ _ => h₃.1.exec_setChallengeToken h₃.2.1⟩

theorem safe_getSession (h : AtRest w) {userId challengeId : Id} {K : Lobby → Prop} (hw : K w)
    (hK : ∀ w w', K w → Calm w w' → K w') :
    Safe (Prog.call (S := lobbySig) (.answer (.getSession userId challengeId)))
      (fun found w' => AtRest w' ∧ K w' ∧
        ∀ session, found = some session → session.id ∈ w'.ids) w := by
  refine safe_call fun e _ => ⟨h.exec_calm rfl, fun found hok => ?_⟩
  refine ⟨h.exec_calm rfl, hK _ _ hw (exec_calm rfl), fun session hfound => ?_⟩
  rw [hfound] at hok
  obtain ⟨row, hrow, rfl, -⟩ := exec_getSession hok
  exact (h.exec_calm rfl).ids row hrow

theorem safe_warmupComplete (h : AtRest w) (req : LobbyRequest) :
    Safe (warmupComplete req) (fun _ => AtRest) w := by
  refine safe_authenticated h req fun payload w₀ h₀ => ?_
  refine Prog.wp_bind (safe_of_calm
    (emits_detectClockSkew calm_of_quiet req payload.sub) h₀) fun _ w₁ h₁ => ?_
  refine Prog.wp_bind (P := fun response w' => response.admits = false ∧ AtRest w') ?_
    fun response w₂ h₂ =>
      safe_end (emits_respond calm_of_quiet h₂.1) h₂.2
  refine Prog.wp_bind (safe_calmCall h₁.2 rfl) fun challenge w₂ h₂ => ?_
  cases challenge with
  | none => exact h₂
  | some challenge =>
      refine Prog.wp_bind (safe_getSession h₂ trivial fun _ _ _ _ => trivial) fun found w₃ h₃ => ?_
      obtain ⟨h₃, -, hids⟩ := h₃
      cases found with
      | none => exact h₃
      | some session =>
          dsimp only
          split
          · exact h₃
          · exact safe_completeWarmup h₃ (hids session rfl)

/-! #### The challenge starts -/

theorem safe_getChallengeToken (h : AtRest w) (token : Text) :
    Safe (Prog.call (S := lobbySig) (.getChallengeToken token)) (fun stored w' =>
      AtRest w' ∧ ∀ sessionId, stored = some sessionId → Warm w' sessionId) w := by
  refine safe_call fun e _ => ⟨h.exec_calm rfl, fun stored hok => ⟨h.exec_calm rfl, ?_⟩⟩
  rintro sessionId rfl
  have hperform := exec_of_ok hok
  have hworld : (lobbyMachine.exec e (.getChallengeToken token) w).2 = w.later e :=
    (congrArg Prod.snd hperform).symm
  have hstored : Kept.get (w.challengeTokens token) (w.later e).clock = some sessionId :=
    Except.ok.inj (congrArg Prod.fst hperform)
  obtain ⟨kept, hkept, hvalue⟩ := Option.bind_eq_some_iff.mp hstored
  split at hvalue
  · obtain rfl := Option.some.inj hvalue
    rw [hworld]
    exact h.tokens token kept hkept
  · cases hvalue

theorem safe_redeemToken (h : AtRest w) (req : LobbyRequest) (userId : Id) :
    Safe (redeemToken req userId) (fun response w' => response.admits = false ∧ AtRest w')
      w := by
  unfold redeemToken
  split
  · exact h
  rename_i challengeToken _
  refine Prog.wp_bind (safe_calmCall h rfl) fun challenge w₁ h₁ => ?_
  cases challenge with
  | none => exact h₁
  | some challenge =>
      refine Prog.wp_bind (safe_getChallengeToken h₁ challengeToken) fun stored w₂ h₂ => ?_
      obtain ⟨h₂, hwarm⟩ := h₂
      cases stored with
      | none => exact h₂
      | some storedSessionId =>
          refine Prog.wp_bind (safe_getSession h₂ (hwarm storedSessionId rfl)
            fun _ _ hw hcalm => hcalm.warm _ hw) fun found w₃ h₃ => ?_
          obtain ⟨h₃, hwarm₃, -⟩ := h₃
          cases found with
          | none => exact h₃
          | some session =>
              dsimp only
              split
              · exact h₃
              · rename_i hid
                obtain rfl : session.id = storedSessionId := by simpa using hid
                have hmark : Safe (Prog.call (S := lobbySig) (.markChallengeStarted session.id))
                    (fun _ => AtRest) w₃ :=
                  safe_call fun e _ => ⟨h₃.exec_markChallengeStarted hwarm₃,
                    fun _ _ => h₃.exec_markChallengeStarted hwarm₃⟩
                exact Prog.wp_bind hmark fun _ w₄ h₄ => safe_of_calm
                  (emits_recordStart calm_of_quiet req userId challengeToken
                    session.id) h₄

theorem safe_start (h : AtRest w) (req : LobbyRequest) :
    Safe (start req) (fun _ => AtRest) w := by
  refine safe_authenticated h req fun payload w₀ h₀ => ?_
  refine Prog.wp_bind (safe_of_calm
    (emits_requireActiveUser calm_of_quiet payload) h₀) fun _ w₁ h₁ => ?_
  refine Prog.wp_bind (safe_of_calm
    (emits_challengeStartLimiter calm_of_quiet payload.sub) h₁.2)
    fun admitted w₂ h₂ => ?_
  split
  · refine Prog.wp_bind (safe_of_calm
      (emits_requireSessionStartAllowed calm_of_quiet payload.sub) h₂.2)
      fun allowed w₃ h₃ => ?_
    split
    · exact Prog.wp_bind (safe_redeemToken h₃.2 req payload.sub) fun response w₄ h₄ =>
        safe_end (emits_respond calm_of_quiet h₄.1) h₄.2
    · exact h₃.2
  · exact safe_end (emits_respond calm_of_quiet rfl) h₂.2

/-- Every request and every job keeps the invariant. -/
theorem safe_activity {config : LobbyConfig} {p : Route Unit} (hp : Activity config p)
    (h : AtRest w) : Safe p (fun _ => AtRest) w := by
  cases hp with
  | warmupStart req => exact safe_warmupStart h config req
  | warmupComplete req => exact safe_warmupComplete h req
  | start req => exact safe_start h req
  | forfeit req => exact safe_end (emits_forfeit calm_of_quiet req) h
  | answer req => exact safe_end (emits_answerRoute calm_of_quiet config req) h
  | timeout => exact safe_end (emits_timeoutJob calm_of_quiet) h
  | flagging sessionId reasons =>
      exact safe_end (emits_flagging calm_of_quiet sessionId reasons) h

/-! ### Every sequence of requests -/

/-- What may happen between requests: anything but to the sessions, of which some may be
archived, and to the keys, which stay until they expire. -/
structure Between (w w' : Lobby) : Prop extends KeepsSessions w w' where
  unlocks : w'.unlocks = w.unlocks
  tokens : w'.challengeTokens = w.challengeTokens
  responses : w'.responses = w.responses

theorem Between.atRest (hbetween : Between w w') (h : AtRest w) : AtRest w' := by
  have hkeys : KeepsKeys w w' :=
    .of_eq hbetween.unlocks hbetween.tokens hbetween.responses hbetween.clock
  refine h.of_keepsKeys hkeys ?_
  have hwarm : ∀ sessionId, Warm w sessionId → Warm w' sessionId := fun sessionId hwarm =>
    ⟨hbetween.ids ▸ hwarm.1, fun row hrow => hwarm.2 row (hbetween.rows.subset hrow)⟩
  refine ⟨fun row hrow completedAt hcompleted => ?_,
    fun row hrow => h.started row (hbetween.rows.subset hrow),
    fun token kept hkept => hwarm _ (h.tokens token kept (hkeys.tokens token kept hkept)),
    fun sessionId unlockAt hmem => ?_,
    fun row hrow => hbetween.ids ▸ h.ids row (hbetween.rows.subset hrow)⟩
  · obtain ⟨t, hadmitted, hle⟩ :=
      h.completed row (hbetween.rows.subset hrow) completedAt hcompleted
    exact ⟨t, hkeys.admitted.mpr hadmitted, hle⟩
  · obtain ⟨t, heq, hlocked⟩ := h.admitted sessionId unlockAt ((hkeys.responses _ _).mp hmem)
    exact ⟨t, heq, hkeys.locked hlocked⟩

/-- Each run is a request or a job. -/
def InTurn (config : LobbyConfig) (w w' : Lobby) (p : Route Unit) : Prop :=
  Between w w' ∧ Activity config p

/-- Nobody has been there. -/
structure Unvisited (w : Lobby) : Prop where
  rows : w.rows = []
  unlocks : ∀ sessionId, w.unlocks sessionId = none
  tokens : ∀ token, w.challengeTokens token = none
  responses : w.responses = []

theorem Unvisited.atRest (h : Unvisited w) : AtRest w := by
  refine ⟨⟨?_, ?_, fun token kept hkept => ?_, fun sessionId unlockAt hmem => ?_, ?_⟩,
    fun sessionId hkey => ?_⟩
  · rw [h.rows]; exact fun _ hrow => by cases hrow
  · rw [h.rows]; exact fun _ hrow => by cases hrow
  · rw [h.tokens] at hkept
    cases hkept
  · rw [h.responses] at hmem
    cases hmem
  · rw [h.rows]; exact fun _ hrow => by cases hrow
  · rw [h.unlocks] at hkey
    cases hkey

/-- **Nobody plays without a warm-up.** Whatever requests of whatever players follow each other,
with the jobs in between, whichever middleware turns them away and whichever calls fail: if no
warm-up ends whose key was never written, and no key is written by a call that throws, then in
every state of every history a challenge that is started follows a `warmup-start` that was
answered with success, by twenty seconds at least. And success is what only a request that passes
all checks is answered with. -/
theorem started_challenge_warmed_up {config : LobbyConfig} {w₀ w : Lobby}
    {o : Option (Route Unit)} (hstart : Unvisited w₀)
    (h : Seq lobbyMachine MindsKey (InTurn config) w₀ w o) :
    WarmedUp w ∧ ChecksFirst config := by
  have hrun : ∀ (w w' : Lobby) (p : Route Unit), AtRest w → InTurn config w w' p →
      Admissions w' ∧ p.wp lobbyMachine MindsKey Admissions (fun _ => AtRest) w' := by
    intro w w' p hw hturn
    have hw' : AtRest w' := hturn.1.atRest hw
    exact ⟨hw'.toAdmissions, Prog.wp_world (safe_activity hturn.2 hw')⟩
  have hsound := Seq.sound hstart.atRest (fun _ hw => hw.toAdmissions) hrun h
  exact ⟨hsound.1.warmedUp, checksFirst config⟩

/-! ### A warm-up that was turned away -/

/-- Calls that succeed, the first after a pause. -/
def paced (elapsed : Nat) : Nat → LobbyEnv
  | 0 => ⟨none, elapsed, ['s'], 0, true⟩
  | _ => ⟨none, 0, ['s'], 0, true⟩

/-- A request without the headers that name a device. -/
def deviceless : LobbyRequest := { tokenRequest none with deviceId := none }

/-- A request to `warmup-start`, one to `warmup-complete` after a pause, and one to `start` with
the token that this gives. -/
def playThrough (req : LobbyRequest) (pause : Nat) : Lobby :=
  let begun := ((warmupStart plainLobbyConfig req).run lobbyMachine (paced 0) .opened).2
  let ended := ((warmupComplete (tokenRequest none)).run lobbyMachine (paced pause) begun).2
  ((start (tokenRequest (some (challengeTokenText ['s'] pause)))).run lobbyMachine (paced 0)
    ended).2

theorem playThrough_seq {G : Lobby → LobbyOp → LobbyEnv → Prop}
    {turn : Lobby → Lobby → Route Unit → Prop}
    (hturn : ∀ w p, Activity plainLobbyConfig p → turn w w p) (req : LobbyRequest) (pause : Nat)
    (hbegin : (warmupStart plainLobbyConfig req).runOk lobbyMachine G (paced 0) .opened)
    (hend : (warmupComplete (tokenRequest none)).runOk lobbyMachine G (paced pause)
      ((warmupStart plainLobbyConfig req).run lobbyMachine (paced 0) .opened).2)
    (hplay : (start (tokenRequest (some (challengeTokenText ['s'] pause)))).runOk lobbyMachine G
      (paced 0) ((warmupComplete (tokenRequest none)).run lobbyMachine (paced pause)
        ((warmupStart plainLobbyConfig req).run lobbyMachine (paced 0) .opened).2).2) :
    Seq lobbyMachine G turn .opened (playThrough req pause) none :=
  ((((Seq.init.start (hturn _ _ (.warmupStart req))).runOk hbegin).start
    (hturn _ _ (.warmupComplete _))).runOk hend |>.start (hturn _ _ (.start _))).runOk hplay

theorem unvisited_opened : Unvisited .opened := ⟨rfl, fun _ => rfl, fun _ => rfl, rfl⟩

theorem between_refl (w : Lobby) : Between w w :=
  ⟨⟨.refl _, rfl, Nat.le_refl _⟩, rfl, rfl, rfl⟩

/-- When was a challenge started, and its warm-up ended? -/
def startsOf (w : Lobby) : List (Option Nat × Option Nat) :=
  w.rows.map fun row => (row.session.challengeStartedAt, row.warmupCompletedAt)

theorem visitor_warmed_up :
    startsOf (playThrough (tokenRequest none) 20000) = [(some 20000, some 20000)] ∧
      WarmedUp (playThrough (tokenRequest none) 20000) := by
  refine ⟨by decide +kernel, ?_⟩
  have hseq : Seq lobbyMachine MindsKey (InTurn plainLobbyConfig) .opened
      (playThrough (tokenRequest none) 20000) none :=
    playThrough_seq (fun w p hp => ⟨between_refl w, hp⟩) _ _ (by decide +kernel)
      (by decide +kernel) (by decide +kernel)
  exact (started_challenge_warmed_up unvisited_opened hseq).1

/-- The player who came without a device is turned away with an error, and then plays, with no
warm-up admitted and no time passed. No call has failed. -/
theorem rejected_visitor_plays :
    ¬ ∀ (config : LobbyConfig) (w₀ w : Lobby) (o : Option (Route Unit)), Unvisited w₀ →
      Seq lobbyMachine (fun _ _ e => e.fault.isNone = true)
        (fun w w' p => w' = w ∧ Activity config p) w₀ w o → WarmedUp w := by
  intro hall
  have hwarmed : WarmedUp (playThrough deviceless 0) :=
    hall plainLobbyConfig .opened _ none unvisited_opened
      (playThrough_seq (fun w p hp => ⟨rfl, hp⟩) _ _ (by decide +kernel) (by decide +kernel)
        (by decide +kernel))
  have hstarts : startsOf (playThrough deviceless 0) = [(some 0, some 0)] := by decide +kernel
  have hresponses : (playThrough deviceless 0).responses.any (·.admits) = false := by
    decide +kernel
  have hmem : (some 0, some 0) ∈ startsOf (playThrough deviceless 0) := by
    rw [hstarts]
    exact List.mem_singleton_self _
  obtain ⟨row, hrow, hstarted⟩ := List.mem_map.mp hmem
  obtain ⟨t, completedAt, hadmitted, -⟩ := hwarmed row hrow (by rw [(Prod.mk.inj hstarted).1]; rfl)
  have hnone := List.any_eq_false.mp hresponses _ hadmitted
  exact hnone rfl

end BrandBlitz.Sessions

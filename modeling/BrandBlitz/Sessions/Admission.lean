import BrandBlitz.Sessions.Calls
import BrandBlitz.Sessions.Status

/-!
# BrandBlitz.Sessions.Admission

**Warm-ups that are admitted**, and what they leave behind. A challenge is started with a token,
the token is issued at the end of the warm-up, and the warm-up ends twenty seconds after it began.
The last of these is enforced through a key in Redis, which a `warmup-start` that was answered
with success leaves behind: while it lasts it holds the end of the twenty seconds, and it lasts
longer than that. `Admissions` ties rows, keys and tokens to the responses, and every call that
the routes make keeps it; between requests every key has its response, too (`AtRest`).
`BrandBlitz.Sessions.WarmedUp` puts the calls together.
-/

namespace BrandBlitz.Sessions

open BrandBlitz.Lib

/-- The exposure time in milliseconds. -/
abbrev warmupMs : Nat := WARMUP_MIN_SECONDS * 1000

/-- A `warmup-start` that read the clock at `t` was answered with success. -/
def Admitted (w : Lobby) (sessionId : Id) (t : Nat) : Prop :=
  LobbyResponse.warmupStarted sessionId (t + warmupMs) ∈ w.responses

/-- A challenge that is started follows a warm-up that was admitted, and ended in time. -/
def WarmedUp (w : Lobby) : Prop :=
  ∀ row ∈ w.rows, row.session.challengeStartedAt.isSome = true →
    ∃ t completedAt, Admitted w row.session.id t ∧ row.warmupCompletedAt = some completedAt ∧
      t + warmupMs ≤ completedAt

/-- Was the key of the warm-up written that the call ends? Is a key that the call writes
acknowledged? -/
def LobbyOp.minds (w : Lobby) (e : LobbyEnv) : LobbyOp → Bool
  | .markWarmupCompleted sessionId => (w.unlocks sessionId).isSome
  | .setUnlock .. => e.fault.isNone
  | _ => true

/-- A warm-up is ended only if `warmup:unlock:…` was written for its session, though it may have
expired, and no key is written by a call that throws. -/
def MindsKey (w : Lobby) (op : LobbyOp) (e : LobbyEnv) : Prop :=
  e.takesEffect = true → op.minds w e = true

instance (w : Lobby) (op : LobbyOp) (e : LobbyEnv) : Decidable (MindsKey w op e) :=
  inferInstanceAs (Decidable (_ → _))

/-! ### The checks come first -/

/-- Is this the response that admits a warm-up? -/
def LobbyOp.admits : LobbyOp → Bool
  | .respond response => response.admits
  | _ => false

/-- The challenge is not active. -/
def Inactive : (op : LobbyOp) → Except ApiError (lobbySig.Ans op) → Prop
  | .getChallengeById _, answer => ∀ id, answer ≠ .ok (some (id, true))
  | _, _ => True

/-- Redis is there, and three accounts share the device. -/
def Shared : (op : LobbyOp) → Except ApiError (lobbySig.Ans op) → Prop
  | .sadd .., answer | .expire _, answer => answer = .ok ()
  | .scard _, answer => ∃ count, answer = .ok count ∧ 3 ≤ count
  | _, _ => True

/-- No request is answered with an admission if the challenge is not active or the device is
not accepted. -/
structure ChecksFirst (config : LobbyConfig) : Prop where
  challenge : ∀ p, Activity config p →
    p.Emits (fun op : LobbyOp => op.admits = false) Inactive fun _ => True
  device : ∀ p, Activity config p →
    p.Emits (fun op : LobbyOp => op.admits = false) Shared fun _ => True
  header : ∀ req, isMissing req.visitorId = true → isMissing req.deviceId = true →
    (warmupStart config req).Emits (fun op : LobbyOp => op.admits = false) (fun _ _ => True)
      fun _ => True

theorem not_admits_of_quiet (op : LobbyOp) (h : op.quiet = true) : op.admits = false := by
  cases op with
  | respond response => simpa [LobbyOp.quiet, LobbyOp.admits] using h
  | _ => rfl

section Checks

variable {good : (op : LobbyOp) → Except ApiError (lobbySig.Ans op) → Prop}

/-- Only what runs once a session is attached can admit it. -/
theorem warmupStart_not_admits {config : LobbyConfig} {req : LobbyRequest}
    (h : ∀ userId session, (admitWarmup config req userId session).Emits
      (fun op : LobbyOp => op.admits = false) good fun _ => True) :
    (warmupStart config req).Emits (fun op : LobbyOp => op.admits = false) good fun _ => True := by
  refine emits_authenticated not_admits_of_quiet req fun payload => ?_
  refine (emits_requireActiveUser not_admits_of_quiet payload).bind fun _ _ => ?_
  refine (emits_enforceOneSession not_admits_of_quiet (fun _ _ _ => rfl) req payload.sub).bind
    fun session _ => ?_
  exact (h payload.sub session).tryCatch fun err =>
    emits_errorHandler not_admits_of_quiet (some session.id) err

/-- No other request admits a warm-up. -/
theorem activity_not_admits {config : LobbyConfig} {p : Route Unit} (hp : Activity config p)
    (h : ∀ req userId session, (admitWarmup config req userId session).Emits
      (fun op : LobbyOp => op.admits = false) good fun _ => True) :
    p.Emits (fun op : LobbyOp => op.admits = false) good fun _ => True := by
  cases hp with
  | warmupStart req => exact warmupStart_not_admits (h req)
  | warmupComplete req =>
      exact emits_warmupComplete not_admits_of_quiet (fun _ => rfl) (fun _ _ => rfl) req
  | start req => exact emits_start not_admits_of_quiet (fun _ => rfl) req
  | forfeit req => exact emits_forfeit not_admits_of_quiet req
  | answer req => exact emits_answerRoute not_admits_of_quiet config req
  | timeout => exact emits_timeoutJob not_admits_of_quiet
  | flagging sessionId reasons => exact emits_flagging not_admits_of_quiet sessionId reasons

/-- A flag is recorded as best one can; what is thrown then is what is caught. -/
theorem emits_flag_then_throw {ok : LobbyOp → Prop}
    (hquiet : ∀ op : LobbyOp, op.quiet = true → ok op) (flag : Handler Unit) {err : ApiError}
    {handler : ApiError → Route Unit} {P : Unit → Prop} (h : (handler err).Emits ok good P) :
    (((ofAnswer (flag.tryCatch fun _ => .ret ())).bind fun _ => .raise err).tryCatch
      handler).Emits ok good P := by
  induction flag with
  | ret a => exact h
  | raise e => exact h
  | await op k ih => exact ⟨hquiet (.answer op) rfl, fun r _ => ih _⟩

end Checks

theorem beginWarmup_inactive (req : LobbyRequest) (session : GameSession) :
    (beginWarmup req session).Emits (fun op : LobbyOp => op.admits = false) Inactive
      fun _ => False := by
  have hread : (Prog.call (S := lobbySig) (.getChallengeById req.challengeId) :
      Route (Option (Id × Bool))).Emits (fun op : LobbyOp => op.admits = false) Inactive
      fun challenge => ∀ id, challenge ≠ some (id, true) := by
    refine ⟨rfl, fun answer hinactive => ?_⟩
    cases answer with
    | error err => trivial
    | ok challenge => exact fun id heq => hinactive id (congrArg Except.ok heq)
  refine hread.bind fun challenge hchallenge => ?_
  split
  · exact absurd rfl (hchallenge _)
  · trivial

theorem validateDevice_shared (config : LobbyConfig) (req : LobbyRequest) (userId : Id) :
    (validateDeviceFingerprint config req userId).Emits (fun op : LobbyOp => op.admits = false)
      Shared fun _ => False := by
  unfold validateDeviceFingerprint
  split
  · trivial
  refine ⟨rfl, fun added hadded => ?_⟩
  obtain rfl : added = .ok () := hadded
  refine ⟨rfl, fun expires hexpires => ?_⟩
  obtain rfl : expires = .ok () := hexpires
  refine ⟨rfl, fun counted hcounted => ?_⟩
  obtain ⟨count, rfl, hcount⟩ : ∃ count : Nat, counted = .ok count ∧ 3 ≤ count := hcounted
  dsimp only [Prog.ofExcept, Prog.bind]
  rw [if_pos hcount]
  exact emits_flag_then_throw not_admits_of_quiet _ trivial

theorem checksFirst (config : LobbyConfig) : ChecksFirst config where
  challenge p hp := by
    refine activity_not_admits hp fun req userId session => ?_
    exact (emits_validateDeviceFingerprint not_admits_of_quiet config req userId).bind fun _ _ =>
      (beginWarmup_inactive req session).bind fun _ hreturned => hreturned.elim
  device p hp := activity_not_admits hp fun req userId session =>
    (validateDevice_shared config req userId).bind fun _ hreturned => hreturned.elim
  header req hvisitor hdevice := by
    refine warmupStart_not_admits fun userId session => ?_
    have hmissing : (validateDeviceFingerprint config req userId).Emits
        (fun op : LobbyOp => op.admits = false) (fun _ _ => True) fun _ => False := by
      unfold validateDeviceFingerprint
      rw [hvisitor, hdevice]
      trivial
    exact hmissing.bind fun _ hreturned => hreturned.elim

/-! ### The invariant -/

/-- The exposure time from `t` on is enforced. -/
def Locked (w : Lobby) (sessionId : Id) (t : Nat) : Prop :=
  t ≤ w.clock ∧ ∃ kept, w.unlocks sessionId = some kept ∧ t + warmupMs ≤ kept.value ∧
    t + 300000 ≤ kept.last

/-- The warm-up of the session has ended, if the session is still there. -/
def Warm (w : Lobby) (sessionId : Id) : Prop :=
  sessionId ∈ w.ids ∧
    ∀ row ∈ w.rows, row.session.id = sessionId → row.warmupCompletedAt.isSome = true

structure Admissions (w : Lobby) : Prop where
  completed : ∀ row ∈ w.rows, ∀ completedAt, row.warmupCompletedAt = some completedAt →
    ∃ t, Admitted w row.session.id t ∧ t + warmupMs ≤ completedAt
  started : ∀ row ∈ w.rows, row.session.challengeStartedAt.isSome = true →
    row.warmupCompletedAt.isSome = true
  tokens : ∀ token kept, w.challengeTokens token = some kept → Warm w kept.value
  admitted : ∀ sessionId unlockAt, .warmupStarted sessionId unlockAt ∈ w.responses →
    ∃ t, unlockAt = t + warmupMs ∧ Locked w sessionId t
  ids : ∀ row ∈ w.rows, row.session.id ∈ w.ids

theorem Admissions.warmedUp {w : Lobby} (h : Admissions w) : WarmedUp w := by
  intro row hrow hstarted
  obtain ⟨completedAt, hcompleted⟩ := Option.isSome_iff_exists.mp (h.started row hrow hstarted)
  obtain ⟨t, hadmitted, hle⟩ := h.completed row hrow completedAt hcompleted
  exact ⟨t, completedAt, hadmitted, hcompleted, hle⟩

variable {w w' : Lobby} {op : LobbyOp} {e : LobbyEnv} {sessionId : Id} {t : Nat}

theorem Admissions.locked (h : Admissions w) (hadmitted : Admitted w sessionId t) :
    Locked w sessionId t := by
  obtain ⟨t', heq, hlocked⟩ := h.admitted sessionId _ hadmitted
  obtain rfl : t = t' := Nat.add_right_cancel heq
  exact hlocked

/-! ### Steps -/

/-- The step leaves the keys and the admissions alone. -/
structure KeepsKeys (w w' : Lobby) : Prop where
  unlocks : w'.unlocks = w.unlocks
  tokens : ∀ token kept, w'.challengeTokens token = some kept → w.challengeTokens token = some kept
  responses : ∀ sessionId unlockAt, LobbyResponse.warmupStarted sessionId unlockAt ∈ w'.responses ↔
    .warmupStarted sessionId unlockAt ∈ w.responses
  clock : w.clock ≤ w'.clock

theorem KeepsKeys.of_eq (hunlocks : w'.unlocks = w.unlocks)
    (htokens : w'.challengeTokens = w.challengeTokens) (hresponses : w'.responses = w.responses)
    (hclock : w.clock ≤ w'.clock) : KeepsKeys w w' := by
  refine ⟨hunlocks, fun token kept hkept => ?_, fun _ _ => ?_, hclock⟩
  · rwa [htokens] at hkept
  · rw [hresponses]

theorem KeepsKeys.admitted (h : KeepsKeys w w') :
    Admitted w' sessionId t ↔ Admitted w sessionId t :=
  h.responses sessionId _

theorem KeepsKeys.locked (h : KeepsKeys w w') (hlocked : Locked w sessionId t) :
    Locked w' sessionId t := by
  obtain ⟨hle, hkept⟩ := hlocked
  exact ⟨Nat.le_trans hle h.clock, by rwa [h.unlocks]⟩

/-- The end of a warm-up is not undone. -/
theorem SessionRow.Change.warmup {now : Nat} {row row' : SessionRow}
    (h : row.Change now op row') : row'.warmupCompletedAt = row.warmupCompletedAt ∨
      op = .markWarmupCompleted row.session.id ∧ row'.warmupCompletedAt = some now := by
  cases h with
  | content hsame => exact .inl hsame.warmupCompletedAt
  | warmupCompleted hnone => exact .inr ⟨rfl, rfl⟩
  | started | finished | abandoned | flagged => exact .inl rfl

theorem SessionRow.Change.start {now : Nat} {row row' : SessionRow}
    (h : row.Change now op row') :
    row'.session.challengeStartedAt = row.session.challengeStartedAt ∨
      op = .markChallengeStarted row.session.id := by
  cases h with
  | content hsame => exact .inl hsame.challengeStartedAt
  | started => exact .inr rfl
  | warmupCompleted | finished | abandoned | flagged => exact .inl rfl

theorem TableStep.warm (h : TableStep op w w') (hwarm : Warm w sessionId) :
    Warm w' sessionId := by
  obtain ⟨horigin, hids⟩ := h.origin
  refine ⟨hids _ hwarm.1, fun row' hrow' hid => ?_⟩
  rcases horigin row' hrow' with ⟨row, hrow, hchange⟩ | ⟨data, newId, hnew, -, rfl⟩
  · rcases hchange.warmup with hsame | ⟨-, hnow⟩
    · rw [hsame]
      exact hwarm.2 row hrow (hchange.identity.1 ▸ hid)
    · rw [hnow]
      rfl
  · obtain rfl : newId = sessionId := hid
    exact absurd hwarm.1 hnew

/-- **The step lemma** for statements on the table: a warm-up that ends was admitted in time, and
a challenge that starts follows a warm-up. -/
theorem Admissions.table (h : Admissions w) (hkeys : KeepsKeys w w') (hstep : TableStep op w w')
    (hends : ∀ row ∈ w.rows, op = .markWarmupCompleted row.session.id →
      ∃ t, Admitted w row.session.id t ∧ t + warmupMs ≤ w'.clock)
    (hstarts : ∀ row ∈ w.rows, op = .markChallengeStarted row.session.id →
      row.warmupCompletedAt.isSome = true) : Admissions w' := by
  obtain ⟨horigin, hids⟩ := hstep.origin
  refine ⟨fun row' hrow' completedAt hcompleted => ?_, fun row' hrow' hstarted => ?_,
    fun token kept hkept => hstep.warm (h.tokens token kept (hkeys.tokens token kept hkept)),
    fun sessionId unlockAt hmem => ?_, fun row' hrow' => ?_⟩
  · rcases horigin row' hrow' with ⟨row, hrow, hchange⟩ | ⟨data, newId, -, -, rfl⟩
    · rw [hchange.identity.1]
      rcases hchange.warmup with hsame | ⟨hop, hnow⟩
      · obtain ⟨t, hadmitted, hle⟩ := h.completed row hrow completedAt (hsame ▸ hcompleted)
        exact ⟨t, hkeys.admitted.mpr hadmitted, hle⟩
      · obtain ⟨t, hadmitted, hle⟩ := hends row hrow hop
        obtain rfl : w'.clock = completedAt := Option.some.inj (hnow.symm.trans hcompleted)
        exact ⟨t, hkeys.admitted.mpr hadmitted, hle⟩
    · cases hcompleted
  · rcases horigin row' hrow' with ⟨row, hrow, hchange⟩ | ⟨data, newId, -, -, rfl⟩
    · have hwarm : row.warmupCompletedAt.isSome = true := by
        rcases hchange.start with hsame | hop
        · exact h.started row hrow (hsame ▸ hstarted)
        · exact hstarts row hrow hop
      rcases hchange.warmup with hsame | ⟨-, hnow⟩
      · rw [hsame]
        exact hwarm
      · rw [hnow]
        rfl
    · cases hstarted
  · obtain ⟨t, heq, hlocked⟩ := h.admitted sessionId unlockAt ((hkeys.responses _ _).mp hmem)
    exact ⟨t, heq, hkeys.locked hlocked⟩
  · rcases horigin row' hrow' with ⟨row, hrow, hchange⟩ | ⟨data, newId, -, hmem, rfl⟩
    · rw [hchange.identity.1]
      exact hids _ (h.ids row hrow)
    · exact hmem

theorem keepsKeys_claimSession (newId : Id) (data : SessionData) :
    KeepsKeys w (w.claimSession newId data).2 := by
  obtain ⟨-, hkept⟩ | ⟨err, hfails⟩ | ⟨-, -, hdone⟩ := w.claimSession_cases newId data
  · rw [hkept]
    exact .of_eq rfl rfl rfl (Nat.le_refl _)
  · rw [hfails]
    exact .of_eq rfl rfl rfl (Nat.le_refl _)
  · rw [hdone]
    exact .of_eq rfl rfl rfl (Nat.le_refl _)

theorem keepsKeys_replaceAbandoned (newId : Id) (data : SessionData) :
    KeepsKeys w (w.replaceAbandoned newId data).2 := by
  obtain ⟨answer, hkept, -⟩ | ⟨-, ⟨-, hdone⟩ | ⟨-, -, hdone⟩⟩ :=
    w.replaceAbandoned_cases newId data
  · rw [hkept]
    exact .of_eq rfl rfl rfl (Nat.le_refl _)
  · rw [hdone]
    exact .of_eq rfl rfl rfl (Nat.le_refl _)
  · rw [hdone]
    exact .of_eq rfl rfl rfl (Nat.le_refl _)

/-- Does the call leave the keys and the admissions alone? -/
def LobbyOp.keepsKeys : LobbyOp → Bool
  | .setUnlock .. | .setChallengeToken .. => false
  | .respond response => !response.admits
  | _ => true

theorem performLobby_keepsKeys (hop : op.keepsKeys = true) :
    KeepsKeys w (performLobby e op w).2 := by
  cases op with
  | claimSession data => exact keepsKeys_claimSession e.newId data
  | replaceAbandoned data => exact keepsKeys_replaceAbandoned e.newId data
  | markWarmupCompleted sessionId =>
      simp only [performLobby, Lobby.markWarmupCompleted]
      split
      · exact .of_eq rfl rfl rfl (Nat.le_refl _)
      · exact .of_eq rfl rfl rfl (Nat.le_refl _)
  | delChallengeToken token =>
      refine ⟨rfl, fun other kept hkept => ?_, fun _ _ => .rfl, Nat.le_refl _⟩
      by_cases hother : other = token
      · subst hother
        simp [performLobby] at hkept
      · simpa [performLobby, Function.update_of_ne hother] using hkept
  | respond response =>
      refine ⟨rfl, fun _ _ => id, fun sessionId unlockAt => ?_, Nat.le_refl _⟩
      rw [performLobby, List.mem_cons]
      refine or_iff_right fun heq => ?_
      subst heq
      cases hop
  | setUnlock | setChallengeToken => cases hop
  | _ => exact .of_eq rfl rfl rfl (Nat.le_refl _)

theorem keepsKeys_later (w : Lobby) (e : LobbyEnv) : KeepsKeys w (w.later e) :=
  .of_eq rfl rfl rfl (Nat.le_add_right _ _)

theorem exec_keepsKeys (hop : op.keepsKeys = true) :
    KeepsKeys w (lobbyMachine.exec e op w).2 := by
  rcases exec_lobby e op w with hworld | hworld
  · obtain ⟨hunlocks, htokens, hresponses, hclock⟩ :=
      performLobby_keepsKeys (w := w.later e) (e := e) hop
    rw [hworld]
    exact ⟨hunlocks, htokens, hresponses, Nat.le_trans (keepsKeys_later w e).clock hclock⟩
  · rw [hworld]
    exact keepsKeys_later w e

/-- Is this a call that admits no warm-up, ends none and starts no challenge? -/
def LobbyOp.calm : LobbyOp → Bool
  | .markWarmupCompleted _ | .markChallengeStarted _ => false
  | op => op.keepsKeys

theorem calm_of_quiet (op : LobbyOp) (h : op.quiet = true) : op.calm = true := by
  cases op <;> first | rfl | exact h

theorem LobbyOp.keepsKeys_of_calm (h : op.calm = true) : op.keepsKeys = true := by
  cases op <;> first | rfl | exact h

/-- What a calm call keeps of the warm-ups. -/
structure Calm (w w' : Lobby) : Prop extends KeepsKeys w w' where
  warm : ∀ sessionId, Warm w sessionId → Warm w' sessionId
  ids : ∀ id ∈ w.ids, id ∈ w'.ids

theorem exec_calm (hop : op.calm = true) : Calm w (lobbyMachine.exec e op w).2 :=
  ⟨exec_keepsKeys (op.keepsKeys_of_calm hop), fun _ => (exec_table e op w).warm,
    (exec_table e op w).origin.2⟩

theorem Admissions.exec_calm (h : Admissions w) (hop : op.calm = true) :
    Admissions (lobbyMachine.exec e op w).2 := by
  refine h.table (exec_keepsKeys (op.keepsKeys_of_calm hop)) (exec_table e op w) ?_ ?_
  · rintro row - rfl
    cases hop
  · rintro row - rfl
    cases hop

theorem Admissions.later (h : Admissions w) : Admissions (w.later e) :=
  h.table (keepsKeys_later w e) (.kept rfl rfl : TableStep .dateNow w (w.later e))
    (fun _ _ => nofun) fun _ _ => nofun

/-- The key is set to a time that no warm-up of the session was promised to end after. -/
theorem Admissions.exec_setUnlock (h : Admissions w) {unlockAt : Nat}
    (hlate : ∀ t, Admitted w sessionId t → t + warmupMs ≤ unlockAt) :
    Admissions (lobbyMachine.exec e (.setUnlock sessionId unlockAt) w).2 := by
  rcases exec_lobby e (.setUnlock sessionId unlockAt) w with hworld | hworld
  · rw [hworld]
    refine ⟨h.completed, h.started, h.tokens, fun id unlockAt' hmem => ?_, h.ids⟩
    obtain ⟨t, rfl, hle, kept, hkept, hvalue, hlast⟩ := h.later.admitted id unlockAt' hmem
    refine ⟨t, rfl, hle, ?_⟩
    by_cases hid : id = sessionId
    · subst hid
      exact ⟨_, Function.update_self .., hlate t hmem, Nat.add_le_add_right hle _⟩
    · exact ⟨kept, (Function.update_of_ne hid ..).trans hkept, hvalue, hlast⟩
  · rw [hworld]
    exact h.later

/-- Once it is set, the time is enforced. -/
theorem locked_setUnlock {now : Nat} (hnow : now ≤ w.clock)
    (hok : (lobbyMachine.exec e (.setUnlock sessionId (now + warmupMs)) w).1 = .ok ()) :
    Locked (lobbyMachine.exec e (.setUnlock sessionId (now + warmupMs)) w).2 sessionId now := by
  have hnow' : now ≤ (w.later e).clock := Nat.le_trans hnow (keepsKeys_later w e).clock
  rw [← congrArg Prod.snd (exec_of_ok hok)]
  exact ⟨hnow', _, Function.update_self .., Nat.le_refl _, Nat.add_le_add_right hnow' _⟩

/-- A warm-up is admitted whose time is enforced. -/
theorem Admissions.exec_admission (h : Admissions w) (hlocked : Locked w sessionId t) :
    Admissions (lobbyMachine.exec e (.respond (.warmupStarted sessionId (t + warmupMs))) w).2 := by
  rw [exec_infallible rfl]
  have hlater := h.later (e := e)
  refine ⟨fun row hrow completedAt hcompleted => ?_, h.started, h.tokens,
    fun id unlockAt hmem => ?_, h.ids⟩
  · obtain ⟨t', hadmitted, hle⟩ := h.completed row hrow completedAt hcompleted
    exact ⟨t', List.mem_cons_of_mem _ hadmitted, hle⟩
  · rcases List.mem_cons.mp hmem with heq | hmem
    · obtain ⟨rfl, rfl⟩ := LobbyResponse.warmupStarted.inj heq
      exact ⟨t, rfl, (keepsKeys_later w e).locked hlocked⟩
    · exact hlater.admitted id unlockAt hmem

/-- The exposure time of every warm-up of the session is over. -/
def Elapsed (w : Lobby) (sessionId : Id) : Prop :=
  ∀ t, Admitted w sessionId t → t + warmupMs ≤ w.clock

theorem KeepsKeys.elapsed (h : KeepsKeys w w') (helapsed : Elapsed w sessionId) :
    Elapsed w' sessionId :=
  fun t hadmitted => Nat.le_trans (helapsed t (h.admitted.mp hadmitted)) h.clock

/-- Where no `warmup-start` is under way, whose key was written had a warm-up admitted. -/
structure AtRest (w : Lobby) : Prop extends Admissions w where
  keys : ∀ sessionId, (w.unlocks sessionId).isSome = true → ∃ t, Admitted w sessionId t

theorem AtRest.of_keepsKeys (h : AtRest w) (hkeys : KeepsKeys w w') (h' : Admissions w') :
    AtRest w' := by
  refine ⟨h', fun sessionId hkey => ?_⟩
  rw [hkeys.unlocks] at hkey
  obtain ⟨t, hadmitted⟩ := h.keys sessionId hkey
  exact ⟨t, hkeys.admitted.mpr hadmitted⟩

theorem AtRest.later (h : AtRest w) : AtRest (w.later e) :=
  h.of_keepsKeys (keepsKeys_later w e) h.toAdmissions.later

theorem AtRest.exec_calm (h : AtRest w) (hop : op.calm = true) :
    AtRest (lobbyMachine.exec e op w).2 :=
  h.of_keepsKeys (exec_keepsKeys (op.keepsKeys_of_calm hop)) (h.toAdmissions.exec_calm hop)

/-- Until the admission is answered, the key of its session is the exception. -/
structure Admitting (w : Lobby) (sessionId : Id) (t : Nat) : Prop extends Admissions w where
  locked : Locked w sessionId t
  others : ∀ id, id ≠ sessionId → (w.unlocks id).isSome = true → ∃ t, Admitted w id t

theorem AtRest.exec_setUnlock (h : AtRest w)
    (hok : (lobbyMachine.exec e (.setUnlock sessionId (w.clock + warmupMs)) w).1 = .ok ()) :
    Admitting (lobbyMachine.exec e (.setUnlock sessionId (w.clock + warmupMs)) w).2 sessionId
      w.clock := by
  refine ⟨h.toAdmissions.exec_setUnlock fun t hadmitted =>
    Nat.add_le_add_right (h.locked hadmitted).1 _, locked_setUnlock (Nat.le_refl _) hok,
    fun id hid hkey => ?_⟩
  rw [← congrArg Prod.snd (exec_of_ok hok)] at hkey ⊢
  rw [show (performLobby e (.setUnlock sessionId _) (w.later e)).2.unlocks id = w.unlocks id from
    Function.update_of_ne hid ..] at hkey
  exact h.keys id hkey

/-- A key that is not written is no key. -/
theorem AtRest.fail_setUnlock (h : AtRest w) {unlockAt : Nat} {err : ApiError}
    (hminds : MindsKey w (.setUnlock sessionId unlockAt) e)
    (hfail : (lobbyMachine.exec e (.setUnlock sessionId unlockAt) w).1 = .error err) :
    AtRest (lobbyMachine.exec e (.setUnlock sessionId unlockAt) w).2 := by
  by_cases heffect : e.takesEffect = true
  · have hfault : e.fault = none := by simpa [LobbyOp.minds] using hminds heffect
    simp [lobbyMachine, hfault, performLobby] at hfail
  · rw [exec_without_effect rfl (by simpa using heffect)]
    exact h.later

theorem Admitting.exec_admission (h : Admitting w sessionId t) :
    AtRest (lobbyMachine.exec e (.respond (.warmupStarted sessionId (t + warmupMs))) w).2 := by
  refine ⟨h.toAdmissions.exec_admission h.locked, fun id hkey => ?_⟩
  rw [exec_infallible rfl] at hkey ⊢
  by_cases hid : id = sessionId
  · subst hid
    exact ⟨t, List.mem_cons_self⟩
  · obtain ⟨t', hadmitted⟩ := h.others id hid hkey
    exact ⟨t', List.mem_cons_of_mem _ hadmitted⟩

theorem AtRest.exec_markWarmupCompleted (h : AtRest w) (helapsed : Elapsed w sessionId)
    (hminds : MindsKey w (.markWarmupCompleted sessionId) e) :
    AtRest (lobbyMachine.exec e (.markWarmupCompleted sessionId) w).2 := by
  by_cases heffect : e.takesEffect = true
  · have hkeys : KeepsKeys w (lobbyMachine.exec e (.markWarmupCompleted sessionId) w).2 :=
      exec_keepsKeys rfl
    refine h.of_keepsKeys hkeys
      (h.table hkeys (exec_table e _ w) (fun row _ hop => ?_) fun _ _ => nofun)
    obtain rfl := LobbyOp.markWarmupCompleted.inj hop
    obtain ⟨t, hadmitted⟩ := h.keys _ (hminds heffect)
    exact ⟨t, hadmitted, Nat.le_trans (helapsed t hadmitted) hkeys.clock⟩
  · rw [exec_without_effect rfl (by simpa using heffect)]
    exact h.later

/-- Once it is marked, the warm-up has ended. -/
theorem warm_markWarmupCompleted (hid : sessionId ∈ w.ids)
    (hok : (lobbyMachine.exec e (.markWarmupCompleted sessionId) w).1 = .ok ()) :
    Warm (lobbyMachine.exec e (.markWarmupCompleted sessionId) w).2 sessionId := by
  have hperform := exec_of_ok hok
  simp only [performLobby, Lobby.markWarmupCompleted] at hperform
  split at hperform
  · rw [← congrArg Prod.snd hperform]
    refine ⟨hid, fun row' hrow' hid' => ?_⟩
    obtain ⟨row, hrow, rfl⟩ := List.mem_map.mp hrow'
    cases hcompleted : row.warmupCompletedAt with
    | some completedAt => simp [hcompleted]
    | none =>
        have hhas : row.hasId sessionId = true := by
          simp only [hcompleted, Option.isNone_none, Bool.and_true] at hid'
          split at hid'
          · assumption
          · simpa [SessionRow.hasId] using hid'
        simp [hcompleted, hhas]
  · cases congrArg Prod.fst hperform

theorem AtRest.exec_setChallengeToken (h : AtRest w) (hwarm : Warm w sessionId)
    {token : Text} : AtRest (lobbyMachine.exec e (.setChallengeToken token sessionId) w).2 := by
  rcases exec_lobby e (.setChallengeToken token sessionId) w with hworld | hworld
  · rw [hworld]
    refine ⟨⟨h.completed, h.started, fun other kept hkept => ?_, h.later.admitted, h.ids⟩, h.keys⟩
    simp only [performLobby] at hkept
    by_cases hother : other = token
    · rw [hother, Function.update_self] at hkept
      obtain rfl := Option.some.inj hkept
      exact hwarm
    · rw [Function.update_of_ne hother] at hkept
      exact h.tokens other kept hkept
  · rw [hworld]
    exact h.later

theorem AtRest.exec_markChallengeStarted (h : AtRest w) (hwarm : Warm w sessionId) :
    AtRest (lobbyMachine.exec e (.markChallengeStarted sessionId) w).2 := by
  refine h.of_keepsKeys (exec_keepsKeys rfl)
    (h.table (exec_keepsKeys rfl) (exec_table e _ w) (fun _ _ => nofun) fun row hrow hop => ?_)
  exact hwarm.2 row hrow (LobbyOp.markChallengeStarted.inj hop).symm

end BrandBlitz.Sessions

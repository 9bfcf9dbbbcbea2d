import BrandBlitz.Lib.Crew
import BrandBlitz.Sessions.Answer

/-!
# BrandBlitz.Sessions.Signing

**A session that the answer route has completed carries its own tag**: the HMAC of its id, its
score and its time of completion, as they are in the row.

Others may write between two statements of the request. What they leave alone of a session that
is completed is `LeavesCompleted`; the second of two requests that complete one session at once
finds it completed, and signs the same values.
-/

namespace BrandBlitz.Sessions

open BrandBlitz.Lib

/-- The tag that goes with the columns of a row. -/
def tagOf (config : Config) (session : GameSession) : Text :=
  computeSessionHmac config session.id session.totalScore (session.completedAt.getD 0)

/-- What the others leave alone: the id, the score and the time of a completed session, and the
tag that goes with them. -/
def LeavesCompleted (config : Config) (w w' : World) : Prop :=
  ∀ session, w.db.session = some session → session.completedAt.isSome →
    ∃ session', w'.db.session = some session' ∧ session'.id = session.id ∧
      session'.totalScore = session.totalScore ∧ session'.completedAt = session.completedAt ∧
      (session.integrityHmac = some (tagOf config session) →
        session'.integrityHmac = session.integrityHmac)

/-- The steps of a request, with others between them. -/
abbrev RouteStep (config : Config) : World → answerSig.Op → World × Env → Prop :=
  Among (S := answerSig) (LeavesCompleted config) fun _ _ _ => True

/-- A request to the answer route was told that its answer to round 3 was scored, and this is the
row it leaves. -/
def CompletedByRoute (config : Config) (session : GameSession) : Prop :=
  ∃ (req : Request) (s : Nat → World × Env) (w w' : World) (correct : Bool) (score : Nat)
    (shareCard : Option Id),
    (answer config req).runOk answerMachine.among (RouteStep config) s w ∧
      (answer config req).run answerMachine.among s w =
        (.ok (.scored correct score .three shareCard), w') ∧
      w'.db.session = some session

/-- A request that was alone. -/
theorem CompletedByRoute.alone {config : Config} {session : GameSession} {req : Request}
    {s : Nat → Env} {w w' : World} {correct : Bool} {score : Nat} {shareCard : Option Id}
    (hrun : (answer config req).run answerMachine s w =
      (.ok (.scored correct score .three shareCard), w'))
    (hsession : w'.db.session = some session) : CompletedByRoute config session := by
  have hrefl : ∀ w, LeavesCompleted config w w :=
    fun w session hsession _ => ⟨session, hsession, rfl, rfl, rfl, fun _ => rfl⟩
  obtain ⟨moves, hok, heq⟩ := Prog.exists_run_among (G := fun _ _ _ => True) hrefl
    (Prog.runOk_of_forall (p := answer config req) (M := answerMachine) (s := s) (w := w)
      fun _ _ _ => trivial)
  exact ⟨req, moves, w, w', correct, score, shareCard, hok, heq.trans hrun, hsession⟩

structure Signed (config : Config) (session : GameSession) : Prop where
  completed : session.completedAt.isSome = true
  tag : session.integrityHmac = some (tagOf config session)

/-- The columns that are signed are those of `completed`. -/
structure SameColumns (completed session : GameSession) : Prop where
  id : session.id = completed.id
  totalScore : session.totalScore = completed.totalScore
  completedAt : session.completedAt = completed.completedAt

theorem SameColumns.tagOf_eq {config : Config} {completed session : GameSession}
    (h : SameColumns completed session) : tagOf config session = tagOf config completed := by
  rw [tagOf, tagOf, h.id, h.totalScore, h.completedAt]

def HoldsColumns (completed : GameSession) (w : World) : Prop :=
  completed.completedAt.isSome = true ∧
    ∃ session, w.db.session = some session ∧ SameColumns completed session

def HoldsSigned (config : Config) (w : World) : Prop :=
  ∃ session, w.db.session = some session ∧ Signed config session

section Route

variable {config : Config} {w w' : World}

theorem HoldsColumns.leaves {completed : GameSession} (h : HoldsColumns completed w)
    (hleaves : LeavesCompleted config w w') : HoldsColumns completed w' := by
  obtain ⟨hsome, session, hsession, hsame⟩ := h
  obtain ⟨session', hsession', hid, htotal, htime, -⟩ :=
    hleaves session hsession (by rw [hsame.completedAt, hsome])
  exact ⟨hsome, session', hsession', hid.trans hsame.id, htotal.trans hsame.totalScore,
    htime.trans hsame.completedAt⟩

theorem HoldsSigned.leaves (h : HoldsSigned config w) (hleaves : LeavesCompleted config w w') :
    HoldsSigned config w' := by
  obtain ⟨session, hsession, hsome, htag⟩ := h
  obtain ⟨session', hsession', hid, htotal, htime, htag'⟩ := hleaves session hsession hsome
  refine ⟨session', hsession', by rw [htime, hsome], ?_⟩
  rw [(SameColumns.mk hid htotal htime).tagOf_eq, htag' htag, htag]

/-- What `finishSession` returns is what it leaves. -/
theorem finishSession_ok {db db' : Db} {now : Nat} {sessionId : Id} {completed : GameSession}
    (h : db.finishSession now sessionId = (.ok completed, db')) :
    db'.session = some completed ∧ completed.completedAt.isSome = true ∧
      completed.id = sessionId := by
  unfold Db.finishSession at h
  split at h
  · cases h
  · rename_i current hfound
    obtain ⟨hsession, hid⟩ := Option.filter_eq_some_iff.mp hfound
    split at h
    · rename_i hsome
      cases h
      exact ⟨hsession, hsome, of_decide_eq_true hid⟩
    · split at h
      · cases h
      · cases h
        exact ⟨rfl, rfl, of_decide_eq_true hid⟩

/-! ### What the other statements do -/

/-- A tag that is stored for the session is its own. -/
def StoresOwnTag (config : Config) (w : World) : Op → Prop
  | .storeSessionHmac sessionId hmac =>
    ∀ session, w.db.byId sessionId = some session → hmac = tagOf config session
  | _ => True

theorem updateById_leaves {sessionId : Id} {set : GameSession → GameSession}
    (hset : ∀ session, w.db.byId sessionId = some session →
      SameColumns session (set session) ∧ (session.integrityHmac = some (tagOf config session) →
        (set session).integrityHmac = session.integrityHmac)) :
    LeavesCompleted config w { w with db := w.db.updateById sessionId set } := by
  intro session hsession _
  by_cases hid : session.id = sessionId
  · have hfound : w.db.byId sessionId = some session := by
      simp [Db.byId, hsession, Option.filter, hid]
    obtain ⟨hsame, htag⟩ := hset session hfound
    refine ⟨set session, ?_, hsame.id, hsame.totalScore, hsame.completedAt, htag⟩
    simp [Db.updateById, hfound]
  · have hmiss : w.db.byId sessionId = none := by simp [Db.byId, hsession, Option.filter, hid]
    refine ⟨session, ?_, rfl, rfl, rfl, fun _ => rfl⟩
    simp [Db.updateById, hmiss, hsession]

theorem leaves_of_session_eq (h : w'.db.session = w.db.session) : LeavesCompleted config w w' :=
  fun session hsession _ => ⟨session, h.trans hsession, rfl, rfl, rfl, fun _ => rfl⟩

theorem recordRoundScore_leaves (sessionId : Id) (round : Round) (score : Nat)
    (answer : Option Choice) (reactionTimeMs : Nat) :
    LeavesCompleted config w { w with
      db := (w.db.recordRoundScore sessionId round score answer reactionTimeMs).2 } := by
  rcases w.db.recordRoundScore_cases sessionId round score answer reactionTimeMs with
    ⟨err, heq⟩ | ⟨current, hfound, -, heq⟩
  · rw [heq]
    exact leaves_of_session_eq rfl
  · rw [heq]
    intro session hsession _
    obtain ⟨hcurrent, -⟩ := Option.filter_eq_some_iff.mp hfound
    obtain rfl := Option.some.inj (hsession.symm.trans hcurrent)
    exact ⟨_, rfl, rfl, rfl, rfl, fun _ => rfl⟩

/-- A session is not finished twice. -/
theorem finishSession_leaves (now : Nat) (sessionId : Id) :
    LeavesCompleted config w { w with db := (w.db.finishSession now sessionId).2 } := by
  unfold Db.finishSession
  split
  · exact leaves_of_session_eq rfl
  · rename_i current hfound
    split
    · exact leaves_of_session_eq rfl
    · rename_i hopen
      split
      · exact leaves_of_session_eq rfl
      · intro session hsession hsome
        obtain ⟨hcurrent, -⟩ := Option.filter_eq_some_iff.mp hfound
        obtain rfl := Option.some.inj (hsession.symm.trans hcurrent)
        exact absurd hsome hopen

/-- **Every statement of a request leaves a completed session alone**, if a tag that it stores is
the session's own. -/
theorem exec_leaves {op : Op} (e : Env) (hop : StoresOwnTag config w op) :
    LeavesCompleted config w (answerMachine.exec e op w).2 := by
  have hperform : LeavesCompleted config w (perform e op w).2 := by
    cases op with
    | recordRoundScore sessionId round score answer reactionTimeMs =>
        exact recordRoundScore_leaves sessionId round score answer reactionTimeMs
    | finishSession sessionId => exact finishSession_leaves e.now sessionId
    | storeSessionHmac sessionId hmac =>
        refine updateById_leaves fun session hfound => ⟨⟨rfl, rfl, rfl⟩, fun htag => ?_⟩
        rw [htag, hop session hfound]
    | _ => exact leaves_of_session_eq rfl
  unfold answerMachine
  dsimp only
  split
  · split
    · exact hperform
    · exact leaves_of_session_eq rfl
  · exact hperform

/-! ### The route -/

/-- A request of which only the value that it returns counts. -/
abbrev Keeps (config : Config) {α : Type} (p : Handler α) (Q : α → World → Prop) (w : World) :
    Prop :=
  p.wp answerMachine.among (RouteStep config) (fun _ => True) (Prog.Ends Q fun _ _ => True) w

theorem keeps_any {α : Type} (p : Handler α) : Keeps config p (fun _ _ => True) w :=
  Prog.Emits.wp (K := fun _ => True) (fun _ _ => trivial) (fun _ _ _ _ _ _ => ⟨trivial, trivial⟩)
    (Prog.emits_any p) trivial

/-- A statement that goes through, from an assertion the others leave alone. -/
theorem keeps_call {op : Op} {A : World → Prop} {Q : answerSig.Ans op → World → Prop}
    (halone : ∀ w w', A w → LeavesCompleted config w w' → A w') (hw : A w)
    (h : ∀ e w a, A w → (perform e op w).1 = .ok a → Q a (perform e op w).2) :
    Keeps config (Prog.call (S := answerSig) op) Q w := by
  refine Prog.wp_call_among halone hw fun w' e _ hw' _ => ⟨trivial, ?_⟩
  unfold answerMachine
  dsimp only
  split
  · trivial
  · cases ha : (perform e op w').1 with
    | error => trivial
    | ok a => exact h e w' a hw' ha

theorem finishSession_keeps (sessionId : Id) :
    Keeps config (Prog.call (S := answerSig) (.finishSession sessionId))
      (fun completed w => HoldsColumns completed w ∧ completed.id = sessionId) w := by
  refine keeps_call (A := fun _ => True) (fun _ _ _ _ => trivial) trivial
    fun e w completed _ hok => ?_
  obtain ⟨hsession, hsome, hid⟩ := finishSession_ok
    (Prod.ext hok rfl : w.db.finishSession e.now sessionId = (.ok completed, _))
  exact ⟨⟨hsome, completed, hsession, rfl, rfl, rfl⟩, hid⟩

/-- The tag is stored with the columns it was computed from. -/
theorem storeHmac_keeps {completed : GameSession} (htag : tagOf config completed ≠ [])
    (h : HoldsColumns completed w) :
    Keeps config (storeHmac config completed.id completed) (fun _ => HoldsSigned config) w := by
  unfold storeHmac
  rw [if_neg (by simpa [tagOf] using htag)]
  refine keeps_call (fun _ _ h hleaves => h.leaves hleaves) h fun e w _ h _ => ?_
  obtain ⟨hsome, session, hsession, hsame⟩ := h
  have hfound : w.db.byId completed.id = some session := by
    simp [Db.byId, hsession, Option.filter, hsame.id]
  refine ⟨{ session with integrityHmac := some (tagOf config completed) }, ?_, ?_, ?_⟩
  · show (w.db.storeSessionHmac completed.id _).session = _
    rw [Db.storeSessionHmac, Db.updateById, hfound]
    rfl
  · rw [hsame.completedAt, hsome]
  · exact congrArg some hsame.tagOf_eq.symm

/-- Is the statement none that stores a tag? -/
def Op.storesNoTag : Op → Bool
  | .storeSessionHmac .. => false
  | _ => true

theorem storesOwnTag_of_none {op : Op} (hop : op.storesNoTag = true) :
    StoresOwnTag config w op := by
  cases op with
  | storeSessionHmac => cases hop
  | _ => trivial

/-- The tag is still there after it, whether it throws or not. -/
theorem call_holds_signed {op : Op} (hop : op.storesNoTag = true) (h : HoldsSigned config w) :
    (Prog.call (S := answerSig) op : Handler (answerSig.Ans op)).wp answerMachine.among
      (RouteStep config) (fun _ => True)
      (Prog.Ends (fun _ => HoldsSigned config) fun _ => HoldsSigned config) w := by
  refine Prog.wp_call_world fun move hmove => ⟨trivial, ?_⟩
  exact (h.leaves hmove.1).leaves (exec_leaves move.2 (storesOwnTag_of_none hop))

theorem call_keeps_signed {op : Op} (hop : op.storesNoTag = true) (h : HoldsSigned config w) :
    Keeps config (Prog.call (S := answerSig) op) (fun _ => HoldsSigned config) w :=
  Prog.wp_weaken (call_holds_signed hop h) (fun _ _ h => h) fun _ _ _ => trivial

theorem rewardPlayer_keeps_signed {completed : GameSession} (h : HoldsSigned config w) :
    Keeps config (rewardPlayer completed) (fun _ => HoldsSigned config) w := by
  unfold rewardPlayer
  split
  · exact h
  · refine Prog.wp_bind (call_keeps_signed rfl h) fun _ w h => ?_
    refine Prog.wp_bind (call_keeps_signed rfl h) fun _ w h => ?_
    refine Prog.wp_bind (P := fun _ => HoldsSigned config) ?_ fun _ w h => ?_
    · refine Prog.wp_bind (call_keeps_signed rfl h) fun keys w h => ?_
      split
      · exact h
      · exact call_keeps_signed rfl h
    · exact Prog.wp_tryCatch (P := fun _ => HoldsSigned config) (call_holds_signed rfl h)
        fun _ _ h => h

theorem revokeBearerToken_keeps_signed {req : Request} {sessionId : Id}
    (h : HoldsSigned config w) :
    Keeps config (revokeBearerToken req sessionId) (fun _ => HoldsSigned config) w := by
  unfold revokeBearerToken
  split
  · refine Prog.wp_bind (call_keeps_signed rfl h) fun _ w h => ?_
    exact Prog.wp_bind (call_keeps_signed rfl h) fun _ w h => call_keeps_signed rfl h
  · exact h

theorem completeSession_keeps (htag : ∀ session, tagOf config session ≠ []) (req : Request)
    (sessionId : Id) :
    Keeps config (completeSession config req sessionId) (fun _ => HoldsSigned config) w := by
  refine Prog.wp_bind (finishSession_keeps sessionId) fun completed w h => ?_
  obtain ⟨hcolumns, hid⟩ := h
  refine Prog.wp_bind (P := fun _ => HoldsColumns completed) ?_ fun _ w h => ?_
  · unfold assertValidTotalScore
    split
    · trivial
    · exact hcolumns
  · have hstore := storeHmac_keeps (htag completed) h
    rw [hid] at hstore
    refine Prog.wp_bind hstore fun _ w h => ?_
    refine Prog.wp_bind (rewardPlayer_keeps_signed h) fun _ w h => ?_
    exact Prog.wp_bind (revokeBearerToken_keeps_signed h) fun _ w h => h

/-- What is known after a response. -/
def SignedAfter (config : Config) (response : Response) (w : World) : Prop :=
  ∀ correct score shareCard, response = .scored correct score .three shareCard →
    HoldsSigned config w

theorem answerQuestion_keeps (htag : ∀ session, tagOf config session ≠ []) (req : Request)
    (round : Round) (body : AnswerBody) (session : GameSession) (question : ChallengeQuestion) :
    Keeps config (answerQuestion config req round body session question)
      (SignedAfter config) w := by
  unfold answerQuestion
  split
  · split
    · trivial
    · intro _ _ _ h
      cases h
  split
  · trivial
  unfold scoreAnswer
  dsimp only
  split
  · trivial
  · refine Prog.wp_bind (keeps_any _) fun _ w _ => ?_
    refine Prog.wp_bind (P := fun _ w => round = .three → HoldsSigned config w) ?_
      fun shareCard w h => ?_
    · unfold afterRound
      split
      · exact Prog.wp_weaken (completeSession_keeps htag req session.id) (fun _ _ h _ => h)
          fun _ _ _ => trivial
      · rename_i hround
        exact fun h => absurd h hround
    · intro _ _ _ hresponse
      cases hresponse
      exact h rfl

theorem submitAnswer_keeps (htag : ∀ session, tagOf config session ≠ []) (userId : Id)
    (req : Request) (round : Round) (body : AnswerBody) :
    Keeps config (submitAnswer config userId req round body) (SignedAfter config) w := by
  refine Prog.wp_bind (keeps_any _) fun challenge w _ => ?_
  cases challenge with
  | none => trivial
  | some challengeId =>
      refine Prog.wp_bind (keeps_any _) fun found w _ => ?_
      cases found with
      | none => trivial
      | some session =>
          dsimp only
          split
          · trivial
          split
          · trivial
          split
          · trivial
          split
          · trivial
          refine Prog.wp_bind (keeps_any _) fun questions w _ => ?_
          split
          · trivial
          · exact answerQuestion_keeps htag req round body session _

/-- What `authenticate` sends itself scores nothing. -/
theorem authenticate_keeps (req : Request) :
    Keeps config (authenticate req)
      (fun authenticated w => ∀ response, authenticated = .error response →
        SignedAfter config response w) w := by
  have hdenied : ∀ {status : Nat} {error : String} {code : Option String} {w : World} (response),
      (.error (.denied status error code) : Except Response AuthPayload) = .error response →
        SignedAfter config response w := by
    intro status error code w response h correct score shareCard hscored
    cases h
    cases hscored
  unfold authenticate
  dsimp only
  split
  · exact hdenied
  split
  · exact hdenied
  · exact hdenied
  · refine Prog.wp_tryCatch (P := fun _ _ => True)
      (Prog.wp_bind (keeps_any _) fun revoked w _ => ?_) fun _ w _ => hdenied
    split
    · exact hdenied
    split
    · exact hdenied
    · intro response h
      cases h

theorem answer_keeps (htag : ∀ session, tagOf config session ≠ []) (req : Request) :
    Keeps config (answer config req) (SignedAfter config) w := by
  refine Prog.wp_bind (authenticate_keeps req) fun authenticated w h => ?_
  cases authenticated with
  | error response => exact h response rfl
  | ok payload =>
      refine Prog.wp_bind (keeps_any _) fun _ w _ => ?_
      split
      · trivial
      split
      · trivial
      · exact submitAnswer_keeps htag payload.sub req _ _

/-- **The row of a session that the route has completed carries its own tag.** -/
theorem CompletedByRoute.signed {session : GameSession}
    (htag : ∀ session, tagOf config session ≠ []) (h : CompletedByRoute config session) :
    Signed config session := by
  obtain ⟨req, s, w, w', correct, score, shareCard, hok, hrun, hsession⟩ := h
  have hsigned := Prog.run_of_wp_runOk (answer_keeps (w := w) htag req) hok
  rw [hrun] at hsigned
  obtain ⟨session', hsession', hsigned⟩ := hsigned correct score shareCard rfl
  obtain rfl := Option.some.inj (hsession.symm.trans hsession')
  exact hsigned

end Route

end BrandBlitz.Sessions

import BrandBlitz.Sessions.Consistency

/-!
# BrandBlitz.Sessions.AnsweredOnce

**Each round is answered once.** The route lets an answer through if the session it has read
has none stored for the round. Two things get past this: an answer that is stored as `null`
(the player's time ran out) does not look like one, and a request that has read the session
before another one recorded does not look again. `recordRoundScore` overwrites in either case.

`Unreplaced` leaves out the records that overwrite an answer. Under it an answer that was
accepted stays as it is: in every state of every interleaving, what is stored for its round is
the option and the score that were accepted.
-/

namespace BrandBlitz.Sessions

open BrandBlitz.Lib

/-- A request together with the response to it. -/
def served (config : Config) (req : Request) : Handler (Request × Response) :=
  (answer config req).bind fun response => .ret (req, response)

/-- Any request to the route, with its response. -/
def AnyServed (config : Config) (p : Handler (Request × Response)) : Prop :=
  ∃ req, p = served config req

/-- The request was scored: it was answered with this score for this round. -/
def Accepted (ps : List (Handler (Request × Response))) (req : Request) (round : Round)
    (score : Nat) : Prop :=
  ∃ correct sessionId, Prog.ret (req, .scored correct score round sessionId) ∈ ps

/-- This option and score are stored for the round, in the row and in the columns. -/
structure Db.Stores (db : Db) (round : Round) (option : Option Choice) (score : Nat) : Prop where
  row : ∃ row, db.roundScores round = some row ∧ row.answer = option ∧ row.score = score
  columns : ∀ session, db.session = some session →
    (session.rounds round).answer = option ∧ (session.rounds round).score = score

/-- What was accepted for a round is what is stored for it, so two accepted requests for one
round agree, and nothing has changed since the first. -/
def AnsweredOnce (w : World) (ps : List (Handler (Request × Response))) : Prop :=
  ∀ req round score, Accepted ps req round score →
    (∃ option, req.selectedOption = some option ∧ w.db.Stores round option score) ∧
    ∀ req' score', Accepted ps req' round score' →
      req'.selectedOption = req.selectedOption ∧ score' = score

/-- An answer is recorded for a round that has none, or `null` in place of `null`. -/
def Unreplaced (w : World) (op : Op) (e : Env) : Prop :=
  match op with
  | .recordRoundScore sessionId round _ answer reactionTimeMs =>
      e.takesEffect = true → reactionTimeMs ≤ maxInteger →
      (w.db.byId sessionId).isSome = true →
      (w.db.roundScores round).all (fun row => row.answer = none && answer = none) = true
  | _ => True

instance (w : World) (op : Op) (e : Env) : Decidable (Unreplaced w op e) :=
  decideRecording (P := (Unreplaced w · e)) (fun _ _ _ _ _ =>
    inferInstanceAs (Decidable (_ → _ → _ → _)))
    (fun op h => by cases op <;> trivial) op

/-- What others may do: anything but to the rounds of the session. -/
structure KeepsRounds (w w' : World) : Prop where
  rows : w'.db.roundScores = w.db.roundScores
  columns : w'.db.session.map GameSession.rounds = w.db.session.map GameSession.rounds

/-! ### The invariant -/

/-- A round's row is copied in the columns, and scores nothing if it holds `null`. -/
structure Db.Copied (db : Db) : Prop where
  columns : ∀ session, db.session = some session → ∀ round row,
    db.roundScores round = some row → session.rounds round = row
  nothing : ∀ round row, db.roundScores round = some row → row.answer = none → row.score = 0

/-- What is stored for a round stays stored. -/
def KeepsStored (w w' : World) : Prop :=
  w'.db.Copied ∧ ∀ round option score, w.db.Stores round option score →
    w'.db.Stores round option score

variable {w w' : World} {round : Round} {option : Option Choice} {score : Nat}

theorem Db.Copied.stores {db : Db} {row : RoundRecord} (h : db.Copied)
    (hrow : db.roundScores round = some row) : db.Stores round row.answer row.score := by
  refine ⟨⟨row, hrow, rfl, rfl⟩, fun session hs => ?_⟩
  rw [h.columns session hs round row hrow]
  exact ⟨rfl, rfl⟩

/-- Two answers stored for one round are the same. -/
theorem Db.Stores.unique {db : Db} {option' : Option Choice} {score' : Nat}
    (h : db.Stores round option score) (h' : db.Stores round option' score') :
    option' = option ∧ score' = score := by
  obtain ⟨row, hrow, rfl, rfl⟩ := h.row
  obtain ⟨row', hrow', rfl, rfl⟩ := h'.row
  obtain rfl := Option.some.inj (hrow.symm.trans hrow')
  exact ⟨rfl, rfl⟩

/-- For the rest only the rows and the columns of the rounds count. -/
theorem keepsStored_of_keepsRounds (h : w.db.Copied) (hkeeps : KeepsRounds w w') :
    KeepsStored w w' := by
  have hsession : ∀ session', w'.db.session = some session' →
      ∃ session, w.db.session = some session ∧ session'.rounds = session.rounds := by
    intro session' hs'
    have hcolumns := hkeeps.columns
    rw [hs'] at hcolumns
    obtain ⟨session, hs, hrounds⟩ := Option.map_eq_some_iff.mp hcolumns.symm
    exact ⟨session, hs, hrounds.symm⟩
  refine ⟨⟨fun session' hs' round row hrow => ?_, ?_⟩, fun round option score hstores =>
    ⟨?_, fun session' hs' => ?_⟩⟩
  · obtain ⟨session, hs, hrounds⟩ := hsession session' hs'
    rw [hrounds]
    exact h.columns session hs round row (hkeeps.rows ▸ hrow)
  · rw [hkeeps.rows]
    exact h.nothing
  · rw [hkeeps.rows]
    exact hstores.row
  · obtain ⟨session, hs, hrounds⟩ := hsession session' hs'
    rw [hrounds]
    exact hstores.columns session hs

/-! ### Recording -/

/-- A round that has no answer, or `null` in place of `null`, is recorded. -/
theorem Db.Copied.withRound {db : Db} {session : GameSession} {row : RoundRecord}
    (h : db.Copied) (hsession : db.session = some session)
    (hnothing : row.answer = none → row.score = 0)
    (hfree : ∀ old, db.roundScores round = some old → old.answer = none ∧ row.answer = none) :
    (db.withRound session round row).Copied ∧
      ∀ r option score, db.Stores r option score →
        (db.withRound session round row).Stores r option score := by
  have hcopied : (db.withRound session round row).Copied := by
    refine ⟨fun s hs r row' hrow' => ?_, fun r row' hrow' => ?_⟩
    · obtain rfl := Option.some.inj hs
      by_cases hr : r = round
      · subst hr
        simp only [Db.withRound, Function.update_self, Option.some.injEq] at hrow' ⊢
        exact hrow'
      · simp only [Db.withRound, Function.update_of_ne hr] at hrow' ⊢
        exact h.columns session hsession r row' hrow'
    · by_cases hr : r = round
      · subst hr
        rw [Db.withRound_self] at hrow'
        exact Option.some.inj hrow' ▸ hnothing
      · rw [Db.withRound_of_ne _ _ _ hr] at hrow'
        exact h.nothing r row' hrow'
  refine ⟨hcopied, fun r option score hstores => ?_⟩
  obtain ⟨old, hold, rfl, rfl⟩ := hstores.row
  by_cases hr : r = round
  · subst hr
    -- both are `null`, and so neither scores
    obtain ⟨holdNone, hnewNone⟩ := hfree old hold
    have hnew := hcopied.stores (db.withRound_self session r row)
    rw [hnewNone, hnothing hnewNone] at hnew
    rw [holdNone, h.nothing r old hold holdNone]
    exact hnew
  · exact hcopied.stores ((db.withRound_of_ne session row hr).trans hold)

variable {op : Op} {e : Env}

/-- A score of `null` is nothing. -/
def Op.NullScoresNothing : Op → Prop
  | .recordRoundScore _ _ score answer _ => answer = none → score = 0
  | _ => True

theorem keepsStored_refl (h : w.db.Copied) : KeepsStored w w := ⟨h, fun _ _ _ => id⟩

/-- An operation other than the upsert leaves the rounds alone. -/
theorem perform_keepsRounds (hop : op.records = false) : KeepsRounds w (perform e op w).2 := by
  cases op with
  | recordRoundScore sessionId round score answer reactionTimeMs => cases hop
  | finishSession sessionId =>
      simp only [perform, Db.finishSession]
      split
      · exact ⟨rfl, rfl⟩
      split
      · exact ⟨rfl, rfl⟩
      split
      · exact ⟨rfl, rfl⟩
      · rename_i current hfound _ _
        refine ⟨rfl, ?_⟩
        rw [(Db.byId_eq_some hfound).1]
        rfl
  | storeSessionHmac sessionId hmac =>
      simp only [perform, Db.storeSessionHmac, Db.updateById]
      split
      · rename_i session hfound
        refine ⟨rfl, ?_⟩
        rw [(Db.byId_eq_some hfound).1]
        rfl
      · exact ⟨rfl, rfl⟩
  | _ => exact ⟨rfl, rfl⟩

theorem keepsStored_perform (h : w.db.Copied) (hop : Unreplaced w op e)
    (heffect : e.takesEffect = true)
    (hscore : op.NullScoresNothing ∨ (perform e op w).2.db.Copied) :
    KeepsStored w (perform e op w).2 := by
  by_cases hrecords : op.records = false
  · exact keepsStored_of_keepsRounds h (perform_keepsRounds hrecords)
  cases op with
  | recordRoundScore sessionId round score answer reactionTimeMs =>
      simp only [perform] at hscore ⊢
      obtain ⟨err, hfails⟩ | ⟨session, hfound, hfits, hdone⟩ :=
        w.db.recordRoundScore_cases sessionId round score answer reactionTimeMs
      · rw [hfails]
        exact keepsStored_refl h
      · rw [hdone] at hscore ⊢
        have hnothing : answer = none → score = 0 := by
          rcases hscore with hscore | hcopied
          · exact hscore
          · exact hcopied.nothing round _ (w.db.withRound_self session round _)
        refine h.withRound (Db.byId_eq_some hfound).1 hnothing fun old hold => ?_
        have hfree := hop heffect hfits (by rw [hfound]; rfl)
        rw [hold] at hfree
        simpa using hfree
  | _ => exact absurd rfl hrecords

/-- A step of the route keeps what is stored, by the score it records or by the invariant
after it. -/
theorem keepsStored_exec (h : w.db.Copied) (hop : Unreplaced w op e)
    (hscore : op.NullScoresNothing ∨ (answerMachine.exec e op w).2.db.Copied) :
    KeepsStored w (answerMachine.exec e op w).2 := by
  rw [exec_world] at hscore ⊢
  split
  · rename_i heffect
    rw [if_pos heffect] at hscore
    exact keepsStored_perform h hop heffect hscore
  · exact keepsStored_refl h

/-! ### A request -/

/-- What a request is verified to: a score that is returned is stored. -/
def Response.Stored (option : Option Choice) : Response → World → Prop
  | .scored _ score round _, w => w.db.Stores round option score
  | .denied .., _ | .replayed .., _ => True

/-- A program verified among other requests. -/
abbrev Amid {α : Type} (p : Handler α) (Q : Except ApiError α → World → Prop) (w : World) :
    Prop :=
  p.wp answerMachine.among (Among KeepsStored Unreplaced) (fun w => w.db.Copied) Q w

variable {α : Type}

/-- Nothing is asked of an error. -/
abbrev Returns (Q : α → World → Prop) : Except ApiError α → World → Prop :=
  Prog.Ends Q fun _ _ => True

/-- What no operation but the upsert changes, a program without it keeps. -/
theorem amid_quiet {p : Handler α} {P : α → Prop}
    (hp : p.Emits (fun op : Op => op.records = false) (fun _ _ => True) P)
    (h : w.db.Copied) {K : World → Prop} (hw : K w)
    (hK : ∀ w w', K w → KeepsStored w w' → K w') :
    Amid p (Returns fun a w' => P a ∧ w'.db.Copied ∧ K w') w := by
  have hstep : ∀ (op : Op) (move : World × Env), op.records = false → move.1.db.Copied →
      Unreplaced move.1 op move.2 →
      KeepsStored move.1 (answerMachine.exec move.2 op move.1).2 := by
    intro op move hop hcopied hunreplaced
    refine keepsStored_exec hcopied hunreplaced (.inl ?_)
    cases op with
    | recordRoundScore sessionId round score answer reactionTimeMs => cases hop
    | _ => trivial
  have hwp : Amid p (Prog.Ends (fun a w' => P a ∧ w'.db.Copied ∧ K w')
      fun _ w' => w'.db.Copied ∧ K w') w := by
    refine hp.wp_returns (fun _ h => h.1) (fun w' op move hw' hop hmove => ⟨?_, trivial⟩) ⟨h, hw⟩
    have hkeeps := hstep op move hop hmove.1.1 hmove.2
    exact ⟨hkeeps.1, hK _ _ (hK _ _ hw'.2 hmove.1) hkeeps⟩
  exact Prog.wp_weaken hwp (fun _ _ hw' => hw') fun _ _ _ => trivial

/-- The upsert: if it answers, what it wrote is stored. -/
theorem amid_record (h : w.db.Copied) {sessionId : Id} {reactionTimeMs : Nat}
    (hscore : option = none → score = 0) :
    Amid (Prog.call (S := answerSig) (.recordRoundScore sessionId round score option
        reactionTimeMs))
      (Returns fun _ w' => w'.db.Copied ∧ w'.db.Stores round option score) w := by
  refine Prog.wp_call_among (A := fun w => w.db.Copied) (fun _ _ _ hrely => hrely.1) h
    fun w' e hrely hw' hop => ?_
  have hstep := keepsStored_exec hw' hop (.inl hscore)
  refine ⟨hstep.1, ?_⟩
  cases hanswer : (answerMachine.exec e (.recordRoundScore sessionId round score option
      reactionTimeMs) w').1 with
  | error err => trivial
  | ok _ =>
      refine ⟨hstep.1, ?_⟩
      obtain ⟨fault, now⟩ := e
      cases fault with
      | some fault => cases hanswer
      | none =>
          simp only [answerMachine, perform] at hanswer hstep ⊢
          obtain ⟨err, hfails⟩ | ⟨session, hfound, hfits, hdone⟩ :=
            w'.db.recordRoundScore_cases sessionId round score option reactionTimeMs
          · rw [hfails] at hanswer
            cases hanswer
          · rw [hdone] at hstep ⊢
            exact hstep.1.stores (w'.db.withRound_self session round _)

/-- A part of the route that records nothing. -/
theorem amid_prelude {p : Handler α} {P : α → Prop}
    (hp : p.Emits (fun op : Op => op.records = false) (fun _ _ => True) P)
    (h : w.db.Copied) : Amid p (Returns fun a w' => P a ∧ w'.db.Copied) w :=
  Prog.wp_weaken (amid_quiet hp h trivial fun _ _ _ _ => trivial)
    (fun _ _ hw' => ⟨hw'.1, hw'.2.1⟩) fun _ _ _ => trivial

theorem amid_call (op : Op) (hop : op.records = false) (h : w.db.Copied) :
    Amid (Prog.call (S := answerSig) op) (Returns fun _ w' => True ∧ w'.db.Copied) w :=
  amid_prelude (emits_call hop) h

variable (config : Config)

theorem amid_scoreAnswer (h : w.db.Copied) (req : Request) (round : Round) (body : AnswerBody)
    (session : GameSession) (question : ChallengeQuestion) :
    Amid (scoreAnswer config req round body session question)
      (Returns (Response.Stored body.selectedOption)) w := by
  have hnull : body.selectedOption = none →
      calculateRoundScore body.selectedOption question.correctOption body.reactionTimeMs = 0 := by
    intro hnone
    rw [hnone]
    rfl
  have hafter : (afterRound config req round session.id).Emits
      (fun op : Op => op.records = false) (fun _ _ => True) fun _ => True := by
    unfold afterRound
    split
    · exact emits_completeSession (fun _ => id) config req session.id
    · trivial
  unfold scoreAnswer
  dsimp only
  split
  · trivial
  refine Prog.wp_bind (amid_record h hnull) fun _ w' hw' => ?_
  refine Prog.wp_bind (Prog.wp_weaken (amid_quiet hafter hw'.1 hw'.2
    fun _ _ hstores hkeeps => hkeeps.2 _ _ _ hstores) (fun _ _ hw'' => hw''.2.2)
    fun _ _ _ => trivial) fun _ w'' hstores => ?_
  exact hstores

theorem amid_submitAnswer (h : w.db.Copied) (userId : Id) (req : Request) (round : Round)
    (body : AnswerBody) :
    Amid (submitAnswer config userId req round body)
      (Returns (Response.Stored body.selectedOption)) w := by
  refine Prog.wp_bind (amid_call _ rfl h) fun challenge w' hw' => ?_
  cases challenge with
  | none => trivial
  | some challengeId =>
      refine Prog.wp_bind (amid_call _ rfl hw'.2) fun found w' hw' => ?_
      cases found with
      | none => trivial
      | some session =>
          dsimp only
          split
          · trivial
          split
          · trivial
          split
          · trivial
          split
          · trivial
          refine Prog.wp_bind (amid_call _ rfl hw'.2) fun questions w' hw' => ?_
          split
          · trivial
          unfold answerQuestion
          split
          · split
            · trivial
            · trivial
          split
          · trivial
          · exact amid_scoreAnswer config hw'.2 req round body session _

/-- `authenticate` sends refusals only. -/
theorem authenticate_denies (req : Request) :
    (authenticate req).Emits (fun op : Op => op.records = false) (fun _ _ => True) fun result =>
      ∀ response, result = .error response →
        ∃ status error code, response = .denied status error code := by
  have hdenied : ∀ status error code response,
      (.error (.denied status error code) : Except Response AuthPayload) = .error response →
        ∃ status error code, response = .denied status error code := by
    rintro status error code _ ⟨⟩
    exact ⟨status, error, code, rfl⟩
  have hread : ∀ token, (Prog.call (S := answerSig) (.getRevoked token) : Handler Bool).Emits
      (fun op : Op => op.records = false) (fun _ _ => True) fun _ => True :=
    fun _ => emits_call rfl
  unfold authenticate
  dsimp only
  split
  · exact hdenied _ _ _
  split
  · exact hdenied _ _ _
  · exact hdenied _ _ _
  · refine Prog.Emits.tryCatch (Prog.Emits.bind (hread _) fun revoked _ => ?_) fun _ => ?_
    · split
      · exact hdenied _ _ _
      split
      · exact hdenied _ _ _
      · exact nofun
    · exact hdenied _ _ _

/-- What is stored when a request is scored. -/
def SelectionStored (req : Request) (response : Response) (w : World) : Prop :=
  ∃ option, response.Stored option w ∧ ∀ correct score round sessionId,
    response = .scored correct score round sessionId → req.selectedOption = some option

theorem amid_answer (h : w.db.Copied) (req : Request) :
    Amid (answer config req) (Returns (SelectionStored req)) w := by
  refine Prog.wp_bind (amid_prelude (authenticate_denies req) h) fun authenticated w' hw' => ?_
  cases authenticated with
  | error response =>
      obtain ⟨status, error, code, rfl⟩ := hw'.1 response rfl
      exact ⟨none, trivial, nofun⟩
  | ok payload =>
      refine Prog.wp_bind (amid_prelude ((emits_validateReactionTime (fun _ => records_of_reads)
        payload.sub req).mono fun _ _ => trivial) hw'.2) fun _ w' hw' => ?_
      split
      · trivial
      split
      · trivial
      · rename_i body hbody
        refine Prog.wp_weaken (amid_submitAnswer config hw'.2 payload.sub req _ body)
          (fun response w'' hstored => ⟨body.selectedOption, hstored, fun _ _ _ _ _ => ?_⟩)
          fun _ _ _ => trivial
        unfold parseBody at hbody
        split at hbody
        · rename_i selectedOption _ hselected _
          obtain rfl := Except.ok.inj hbody
          exact hselected
        · cases hbody

/-! ### Every interleaving -/

/-- The proof about the pool of requests. -/
theorem verified_served :
    Pool.Verified answerMachine Unreplaced (AnyServed config) KeepsRounds
      (fun w => w.db.Copied) KeepsStored
      (Returns fun result w => SelectionStored result.1 result.2 w) where
  refl _ h := keepsStored_refl h
  trans _ _ _ h h' := ⟨h'.1, fun _ _ _ hstores => h'.2 _ _ _ (h.2 _ _ _ hstores)⟩
  stays r w w' h hkeeps := by
    cases r with
    | error err => trivial
    | ok result =>
        obtain ⟨option, hstored, hselected⟩ := h
        refine ⟨option, ?_, hselected⟩
        cases hresponse : result.2 with
        | scored correct score round sessionId =>
            rw [hresponse] at hstored
            exact hkeeps.2 _ _ _ hstored
        | denied | replayed => trivial
  spawned w p hp h := by
    obtain ⟨req, rfl⟩ := hp
    exact Prog.wp_bind (amid_answer config h req) fun response w' hstored => hstored
  moves _ _ _ h hop h' := keepsStored_exec h hop (.inr h')
  drifted _ _ h hkeeps :=
    ⟨(keepsStored_of_keepsRounds h hkeeps).1, keepsStored_of_keepsRounds h hkeeps⟩

/-- **Each round is answered once.** Whatever requests are sent and however they interleave,
with each other, with failing calls and with whatever leaves the rounds alone: if every record
is of a round without an answer, or of `null` in place of `null`, then in every state what was
accepted for a round is what is stored for it, and all that was accepted for it is the same. -/
theorem round_answered_once_of_unreplaced {w₀ w : World}
    {ps : List (Handler (Request × Response))} (hstart : Unanswered w₀)
    (h : Pool answerMachine Unreplaced (AnyServed config) KeepsRounds w₀ w ps) :
    AnsweredOnce w ps := by
  have hcopied : w₀.db.Copied := by
    refine ⟨fun _ _ round row hrow => ?_, fun round row hrow => ?_⟩
    · rw [hstart.noRows] at hrow
      cases hrow
    · rw [hstart.noRows] at hrow
      cases hrow
  obtain ⟨-, hps⟩ := (verified_served config).sound hcopied h
  have haccepted : ∀ req round score, Accepted ps req round score →
      ∃ option, req.selectedOption = some option ∧ w.db.Stores round option score := by
    rintro req round score ⟨correct, sessionId, hmem⟩
    obtain ⟨option, hstored, hselected⟩ := hps _ hmem
    exact ⟨option, hselected _ _ _ _ rfl, hstored⟩
  intro req round score hreq
  obtain ⟨option, hoption, hstores⟩ := haccepted req round score hreq
  refine ⟨⟨option, hoption, hstores⟩, fun req' score' hreq' => ?_⟩
  obtain ⟨option', hoption', hstores'⟩ := haccepted req' round score' hreq'
  obtain ⟨rfl, rfl⟩ := hstores.unique hstores'
  exact ⟨hoption'.trans hoption.symm, rfl⟩

/-! ### Two answers to one round -/

/-- Both for round 1, after a second. -/
def firstRound (option : Option Choice) : Request :=
  { answerAfterSecond 1 .A with selectedOption := some option }

def twoServed (first second : Option Choice) : List (Handler (Request × Response)) :=
  [served plainConfig (firstRound first), served plainConfig (firstRound second)]

theorem twoServed_pool {G : World → Op → Env → Prop} {drift : World → World → Prop}
    (first second : Option Choice) :
    Pool answerMachine G (AnyServed plainConfig) drift World.started World.started
      (twoServed first second) :=
  (Crew.init.spawn ⟨_, rfl⟩).spawn ⟨_, rfl⟩

/-- One after the other. -/
def servedInTurn : List (Nat × Env) := stepsOf 0 6 ++ stepsOf 1 6

/-- The response to a request that has been answered. -/
def responseOf : Handler (Request × Response) → Option Response
  | .ret result => some result.2
  | _ => none

/-- After `A` was accepted, `B` is refused. -/
theorem second_option_refused :
    ((play answerMachine servedInTurn World.started (twoServed (some .A) (some .B))).2.map
        responseOf) = [some (.scored true 146 .one none), none] ∧
      AnsweredOnce (play answerMachine servedInTurn World.started
          (twoServed (some .A) (some .B))).1
        (play answerMachine servedInTurn World.started (twoServed (some .A) (some .B))).2 := by
  refine ⟨by decide +kernel, ?_⟩
  have hpool : Pool answerMachine Unreplaced (AnyServed plainConfig) KeepsRounds
      World.started _ _ :=
    (twoServed_pool (some .A) (some .B)).play servedInTurn (by decide +kernel)
  exact round_answered_once_of_unreplaced plainConfig unanswered_started hpool

/-- After `null` was accepted with the score 0, `A` is accepted as well, with 146. No call has
failed, and one request came after the other. -/
theorem null_answer_replaced :
    ¬ ∀ (config : Config) (w₀ w : World) (ps : List (Handler (Request × Response))),
      Unanswered w₀ →
      Pool answerMachine (fun _ _ e => e.fault.isNone = true) (AnyServed config)
        (fun _ _ => False) w₀ w ps → AnsweredOnce w ps := by
  intro hall
  have hpool : Pool answerMachine (fun _ _ e => e.fault.isNone = true) (AnyServed plainConfig)
      (fun _ _ => False) World.started _ _ :=
    (twoServed_pool none (some .A)).play servedInTurn (by decide +kernel)
  have honce := hall plainConfig World.started _ _ unanswered_started hpool
  have hnull : Accepted (play answerMachine servedInTurn World.started
      (twoServed none (some .A))).2 (firstRound none) .one 0 :=
    ⟨false, none, List.mem_of_getElem? (i := 0) rfl⟩
  have hA : Accepted (play answerMachine servedInTurn World.started
      (twoServed none (some .A))).2 (firstRound (some .A)) .one 146 :=
    ⟨true, none, List.mem_of_getElem? (i := 1) rfl⟩
  cases ((honce _ _ _ hnull).2 _ _ hA).2

end BrandBlitz.Sessions

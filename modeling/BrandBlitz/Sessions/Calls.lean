import BrandBlitz.Sessions.Course

/-!
# BrandBlitz.Sessions.Calls

**Which calls the routes make.** Most of them are quiet: they attach no session, admit no
warm-up, and neither end a warm-up nor start a challenge. A statement about the few that are not
has to look only at the places where they are made.
-/

namespace BrandBlitz.Sessions

open BrandBlitz.Lib

/-- Does the response admit a warm-up? -/
def LobbyResponse.admits : LobbyResponse → Bool
  | .warmupStarted .. => true
  | _ => false

/-- Is this none of the calls by which a player gets into a challenge? -/
def LobbyOp.quiet : LobbyOp → Bool
  | .attachSession .. | .setUnlock .. | .markWarmupCompleted _ | .setChallengeToken ..
  | .markChallengeStarted _ => false
  | .respond response => !response.admits
  | _ => true

section Emission

variable {ok : LobbyOp → Prop} {good : (op : LobbyOp) → Except ApiError (lobbySig.Ans op) → Prop}

theorem emits_lobbyCall {op : LobbyOp} (h : ok op) :
    (Prog.call (S := lobbySig) op : Route (lobbySig.Ans op)).Emits ok good fun _ => True :=
  Prog.Emits.call h fun _ _ => trivial

theorem emits_respond_of {response : LobbyResponse} (h : ok (.respond response)) :
    (respond response).Emits ok good fun _ => True :=
  emits_lobbyCall h

variable (hquiet : ∀ op : LobbyOp, op.quiet = true → ok op)
include hquiet

theorem emits_ofAnswer {α : Type} (p : Handler α) :
    (ofAnswer p).Emits ok good fun _ => True := by
  have hall : ∀ op : Op, ok (answerCalls.op op) := fun op => hquiet (.answer op) rfl
  have hp : p.Emits (fun op : Op => ok (answerCalls.op op)) (fun _ _ => True) fun _ => True :=
    Prog.emits_of_forall hall p
  exact Prog.Emits.embed (fun _ _ _ => trivial) hp

theorem emits_respond {response : LobbyResponse} (h : response.admits = false) :
    (respond response).Emits ok good fun _ => True :=
  emits_respond_of (hquiet _ (by simp [LobbyOp.quiet, h]))

theorem emits_errorHandler (attached : Option Id) (err : ApiError) :
    (errorHandler attached err).Emits ok good fun _ => True := by
  refine (emits_respond hquiet rfl).bind fun _ _ => ?_
  cases attached with
  | none => trivial
  | some sessionId => exact (emits_lobbyCall (hquiet _ rfl)).tryCatch fun _ => trivial

theorem emits_authenticated (req : LobbyRequest) {next : AuthPayload → Route Unit}
    (hnext : ∀ payload, (next payload).Emits ok good fun _ => True) :
    (authenticated req next).Emits ok good fun _ => True := by
  refine (emits_ofAnswer hquiet _).bind fun payload _ => ?_
  cases payload with
  | error response => exact emits_respond hquiet rfl
  | ok payload => exact (hnext payload).tryCatch (emits_errorHandler hquiet none)

theorem emits_requireActiveUser (payload : AuthPayload) :
    (requireActiveUser payload).Emits ok good fun _ => True := by
  refine (emits_lobbyCall (hquiet _ rfl)).bind fun user _ => ?_
  cases user with
  | none => trivial
  | some suspended =>
      dsimp only
      split
      · trivial
      split
      · trivial
      · trivial

theorem emits_claimOrFetch (data : SessionData) :
    (claimOrFetch data).Emits ok good fun _ => True := by
  refine (emits_lobbyCall (hquiet _ rfl)).bind fun claimed _ => ?_
  cases claimed with
  | some session => trivial
  | none =>
      refine (emits_lobbyCall (hquiet _ rfl)).bind fun existing _ => ?_
      cases existing with
      | none => trivial
      | some existing =>
          dsimp only
          split
          · refine (emits_lobbyCall (hquiet _ rfl)).bind fun fresh _ => ?_
            cases fresh with
            | some fresh => trivial
            | none =>
                refine (emits_lobbyCall (hquiet _ rfl)).bind fun refetched _ => ?_
                cases refetched with
                | none => trivial
                | some session => trivial
          · trivial

theorem emits_enforceOneSession
    (hattach : ∀ userId challengeId session, ok (.attachSession userId challengeId session))
    (req : LobbyRequest) (userId : Id) :
    (enforceOneSessionPerChallenge req userId).Emits ok good fun _ => True := by
  unfold enforceOneSessionPerChallenge
  split
  · trivial
  refine (emits_lobbyCall (hquiet _ rfl)).bind fun options _ => ?_
  split
  · trivial
  · exact (emits_claimOrFetch hquiet _).bind fun session _ =>
      (emits_lobbyCall (hattach _ _ _)).bind fun _ _ => trivial

theorem emits_validateDeviceFingerprint (config : LobbyConfig) (req : LobbyRequest)
    (userId : Id) : (validateDeviceFingerprint config req userId).Emits ok good fun _ => True := by
  unfold validateDeviceFingerprint
  split
  · trivial
  refine Prog.Emits.tryCatch ?_ fun err => ?_
  · refine (emits_lobbyCall (hquiet _ rfl)).bind fun _ _ =>
      (emits_lobbyCall (hquiet _ rfl)).bind fun _ _ =>
      (emits_lobbyCall (hquiet _ rfl)).bind fun count _ => ?_
    split
    · exact (emits_ofAnswer hquiet _).bind fun _ _ => trivial
    · trivial
  · split
    · trivial
    · trivial

theorem emits_beginWarmup (hunlock : ∀ sessionId unlockAt, ok (.setUnlock sessionId unlockAt))
    (req : LobbyRequest) (session : GameSession) :
    (beginWarmup req session).Emits ok good fun _ => True := by
  refine (emits_lobbyCall (hquiet _ rfl)).bind fun challenge _ => ?_
  split
  · exact (emits_lobbyCall (hquiet _ rfl)).bind fun _ _ =>
      (emits_lobbyCall (hquiet _ rfl)).bind fun now _ =>
      (emits_lobbyCall (hunlock _ _)).bind fun _ _ => trivial
  · trivial

theorem emits_flagAndThrow (req : LobbyRequest) (userId : Id) (flagType : String)
    (err : ApiError) : (flagAndThrow req userId flagType err).Emits ok good fun _ => True :=
  (emits_ofAnswer hquiet _).bind fun _ _ => trivial

theorem emits_detectClockSkew (req : LobbyRequest) (userId : Id) :
    (detectClockSkew req userId).Emits ok good fun _ => True := by
  unfold detectClockSkew
  dsimp only
  split
  · trivial
  split
  · trivial
  · exact emits_flagAndThrow hquiet req userId _ _
  split
  · exact emits_flagAndThrow hquiet req userId _ _
  refine (emits_lobbyCall (hquiet _ rfl)).bind fun serverTime _ => ?_
  split
  · exact emits_flagAndThrow hquiet req userId _ _
  · trivial

theorem emits_enforceUnlock (sessionId : Id) :
    (enforceUnlock sessionId).Emits ok good fun _ => True := by
  refine (emits_lobbyCall (hquiet _ rfl)).bind fun stored _ => ?_
  cases stored with
  | none => trivial
  | some unlockAt =>
      refine (emits_lobbyCall (hquiet _ rfl)).bind fun now _ => ?_
      split
      · trivial
      · trivial

theorem emits_warmupComplete (hmark : ∀ sessionId, ok (.markWarmupCompleted sessionId))
    (htoken : ∀ token sessionId, ok (.setChallengeToken token sessionId)) (req : LobbyRequest) :
    (warmupComplete req).Emits ok good fun _ => True := by
  have hcomplete : ∀ sessionId, (completeWarmup sessionId).Emits ok good
      fun response => response.admits = false := fun sessionId =>
    (emits_enforceUnlock hquiet sessionId).bind fun _ _ =>
      (emits_lobbyCall (hmark sessionId)).bind fun _ _ =>
      (emits_lobbyCall (hquiet _ rfl)).bind fun now _ =>
      (emits_lobbyCall (htoken _ _)).bind fun _ _ => rfl
  have hend : ∀ userId, (endWarmup req userId).Emits ok good
      fun response => response.admits = false := by
    intro userId
    refine (emits_lobbyCall (hquiet _ rfl)).bind fun challenge _ => ?_
    cases challenge with
    | none => trivial
    | some challenge =>
        refine (emits_lobbyCall (hquiet _ rfl)).bind fun found _ => ?_
        cases found with
        | none => trivial
        | some session =>
            dsimp only
            split
            · trivial
            · exact hcomplete session.id
  exact emits_authenticated hquiet req fun payload =>
    (emits_detectClockSkew hquiet req payload.sub).bind fun _ _ =>
      (hend payload.sub).bind fun response hresponse => emits_respond hquiet hresponse

theorem emits_recordStart (req : LobbyRequest) (userId : Id) (challengeToken : Text)
    (sessionId : Id) : (recordStart req userId challengeToken sessionId).Emits ok good
      fun response => response.admits = false := by
  have hstore : (storeBearerToken req sessionId).Emits ok good fun _ => True := by
    unfold storeBearerToken
    split
    · exact emits_lobbyCall (hquiet _ rfl)
    · trivial
  exact (emits_lobbyCall (hquiet _ rfl)).bind fun _ _ =>
    (emits_lobbyCall (hquiet _ rfl)).bind fun _ _ =>
    (emits_lobbyCall (hquiet _ rfl)).bind fun now _ =>
    (emits_lobbyCall (hquiet _ rfl)).bind fun _ _ =>
    hstore.bind fun _ _ => (emits_lobbyCall (hquiet _ rfl)).bind fun startsAt _ => rfl

theorem emits_challengeStartLimiter (userId : Id) :
    (challengeStartLimiter userId).Emits ok good fun _ => True :=
  Prog.Emits.tryCatch (emits_lobbyCall (hquiet _ rfl)) fun _ => trivial

theorem emits_requireSessionStartAllowed (userId : Id) :
    (requireSessionStartAllowed userId).Emits ok good fun _ => True :=
  Prog.Emits.tryCatch (emits_lobbyCall (hquiet _ rfl)) fun _ => trivial

theorem emits_start (hmark : ∀ sessionId, ok (.markChallengeStarted sessionId))
    (req : LobbyRequest) : (start req).Emits ok good fun _ => True := by
  have hredeem : ∀ userId, (redeemToken req userId).Emits ok good
      fun response => response.admits = false := by
    intro userId
    unfold redeemToken
    split
    · trivial
    refine (emits_lobbyCall (hquiet _ rfl)).bind fun challenge _ => ?_
    cases challenge with
    | none => trivial
    | some challenge =>
        refine (emits_lobbyCall (hquiet _ rfl)).bind fun stored _ => ?_
        cases stored with
        | none => trivial
        | some storedSessionId =>
            refine (emits_lobbyCall (hquiet _ rfl)).bind fun found _ => ?_
            cases found with
            | none => trivial
            | some session =>
                dsimp only
                split
                · trivial
                · exact (emits_lobbyCall (hmark session.id)).bind fun _ _ =>
                    emits_recordStart hquiet req userId _ session.id
  refine emits_authenticated hquiet req fun payload =>
    (emits_requireActiveUser hquiet payload).bind fun _ _ => ?_
  refine (emits_challengeStartLimiter hquiet payload.sub).bind fun admitted _ => ?_
  split
  · refine (emits_requireSessionStartAllowed hquiet payload.sub).bind fun allowed _ => ?_
    split
    · exact (hredeem payload.sub).bind fun response hresponse => emits_respond hquiet hresponse
    · trivial
  · exact emits_respond hquiet rfl

theorem emits_forfeit (req : LobbyRequest) : (forfeit req).Emits ok good fun _ => True := by
  refine emits_authenticated hquiet req fun payload =>
    (emits_lobbyCall (hquiet _ rfl)).bind fun challenge _ => ?_
  cases challenge with
  | none => trivial
  | some challenge =>
      refine (emits_lobbyCall (hquiet _ rfl)).bind fun abandoned _ => ?_
      split
      · exact emits_respond hquiet rfl
      · trivial

theorem emits_answerRoute (config : LobbyConfig) (req : LobbyRequest) :
    (answerRoute config req).Emits ok good fun _ => True :=
  Prog.Emits.tryCatch ((emits_ofAnswer hquiet _).bind fun _ _ => emits_respond hquiet rfl)
    (emits_errorHandler hquiet none)

theorem emits_timeoutJob : processSessionTimeoutJob.Emits ok good fun _ => True :=
  (emits_lobbyCall (hquiet _ rfl)).bind fun _ _ => trivial

theorem emits_flagging (sessionId : Id) (reasons : List Text) :
    (flagging sessionId reasons).Emits ok good fun _ => True :=
  emits_lobbyCall (hquiet _ rfl)

end Emission

end BrandBlitz.Sessions

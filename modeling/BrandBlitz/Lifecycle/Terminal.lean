import BrandBlitz.Lib.CheckThenAct
import BrandBlitz.Deposit.Solvency
import BrandBlitz.Lifecycle.Site
import BrandBlitz.Payout.Emission

/-!
# BrandBlitz.Lifecycle.Terminal

**Are the terminal states of a challenge final?** `updateChallengeStatus` writes any status over
any other. Its callers looked at the challenge before, but awaits ago: a refund that saw an
`ended` challenge writes `refunded` over `settled`, and a deposit that saw a `pending_deposit`
writes `active` over `cancelled`. `deleteBrand` looks and writes in one statement.

What does hold: where no challenge becomes terminal between a program's look at it and the
program's write, a terminal status stays, but for `cancelled`, which may become `refunded`. The
argument is that of `BrandBlitz.Lib.CheckThenAct`.
-/

namespace BrandBlitz.Lifecycle

open BrandBlitz.Lib BrandBlitz.Payout

/-! ### What is to hold -/

/-- `settled`, `refunded` and `cancelled`. -/
def isTerminal : ChallengeStatus → Bool
  | .settled | .refunded | .cancelled => true
  | _ => false

/-- May the second status come after the first? -/
def MayFollow (s s' : ChallengeStatus) : Prop :=
  isTerminal s = true → s' = s ∨ (s = .cancelled ∧ s' = .refunded)

theorem mayFollow_refl (s : ChallengeStatus) : MayFollow s s := fun _ => .inl rfl

theorem mayFollow_of_open {s : ChallengeStatus} (h : isTerminal s = false)
    (s' : ChallengeStatus) : MayFollow s s' := fun ht => by
  rw [h] at ht
  cases ht

instance : Trans MayFollow MayFollow MayFollow where
  trans {s s' s''} h h' ht := by
    rcases h ht with rfl | ⟨rfl, rfl⟩
    · exact h' ht
    · rcases h' rfl with rfl | ⟨h', -⟩
      · exact .inr ⟨rfl, rfl⟩
      · cases h'

/-- The site with the history of every status. -/
abbrev SiteHistory : Type := Chronicled Site Text ChallengeStatus

/-- Every status is followed, at any later time, only by what may follow it. -/
structure TerminalFinal (w : SiteHistory) : Prop where
  current : ∀ id, (w.chronicle.history id).getLast? = w.world.status id
  final : ∀ id, (w.chronicle.history id).Pairwise MayFollow

/-! ### Looks and writes -/

def depositTouches : Touches Deposit.apiSig Err Text ChallengeStatus where
  seen
    | .getChallengeByMemo _, .ok (some c) => some (c.id, c.status)
    | _, _ => none
  writes
    | .updateChallengeStatusActive id _ => some (id, .active)
    | _ => none

def payoutTouches (id : Text) : Touches payoutSig Err Text ChallengeStatus where
  seen
    | .getChallengeById, .ok (some c) => some (id, c.status)
    | _, _ => none
  writes
    | .updateChallengeStatus status _ => some (id, status)
    | _ => none

/-- `deleteBrand` sees by itself what it may write. -/
def siteTouches : Touches siteSig Err Text ChallengeStatus where
  seen
    | .deposit op, r => depositTouches.seen op r
    | .payout id op, r => (payoutTouches id).seen op r
    | .deleteBrand .., _ => none
  writes
    | .deposit op => depositTouches.writes op
    | .payout id op => (payoutTouches id).writes op
    | .deleteBrand .. => none

/-- Meanwhile the rest of the site moves on: it may add challenges and do what it likes with
those that are not terminal. -/
def Meanwhile (w w' : Site) : Prop :=
  ∀ id s, w.status id = some s →
    ∃ s', w'.status id = some s' ∧ (isTerminal s = true → s' = s)

/-- The site, with what every program has seen. -/
def siteHistory (deps : Deposit.Deps) : Nat → Machine siteSig Err SiteHistory SiteEnv :=
  (siteMachine deps).chronicled siteTouches isTerminal Site.status

/-! ### What an operation does to a status -/

section Exec

variable (deps : Deposit.Deps) (e : SiteEnv) {w : Site} {id : Text} {s : ChallengeStatus}

theorem status_setApi {api : Deposit.World} (h : api.challenges = w.api.challenges) :
    ({ w with api := api } : Site).status = w.status := by
  funext id
  simp only [Site.status, Site.row, h]

/-- An operation of the webhook changes nothing, or activates a challenge. -/
theorem status_deposit (op : Deposit.Op) (hs : w.status id = some s) :
    ∃ s', ((siteMachine deps).exec e (.deposit op) w).2.status id = some s' ∧
      (s' = s ∨ depositTouches.writes op = some (id, s')) := by
  cases hop : op.writes with
  | false =>
      have hsame := congrArg Prod.fst (Deposit.exec_tables deps e.api hop w.api)
      exact ⟨s, (congrFun (status_setApi hsame) id).trans hs, .inl rfl⟩
  | true =>
      cases op with
      | updateChallengeStatusActive id' txHash =>
          rcases Deposit.exec_update deps e.api w.api id' txHash with hsame | hrows
          · exact ⟨s, (congrFun (status_setApi hsame) id).trans hs, .inl rfl⟩
          · obtain ⟨row, hrow, rfl⟩ := Option.map_eq_some_iff.mp hs
            refine ⟨(Deposit.Challenges.activateRow id' txHash row).status, ?_, ?_⟩
            · exact congrArg (Option.map (·.status)) ((byId_activate hrows id).trans
                (congrArg (Option.map _) hrow))
            · have hid : row.id = id := id_of_byId hrow
              unfold Deposit.Challenges.activateRow
              split
              · rename_i hsame
                exact .inr (by rw [depositTouches, ← hsame, hid])
              · exact .inl rfl
      | _ => cases hop

/-- An operation on a challenge changes nothing, or writes the status of that challenge. -/
theorem status_payout (id' : Text) (op : Payout.Op) (hs : w.status id = some s) :
    ∃ s', ((siteMachine deps).exec e (.payout id' op) w).2.status id = some s' ∧
      (s' = s ∨ (payoutTouches id').writes op = some (id, s')) := by
  have hsame : ∀ b : Payout.World, b.challenge.status = (w.challenge id').status →
      ∃ s', (w.closeBooks id' b).status id = some s' ∧
        (s' = s ∨ (payoutTouches id').writes op = some (id, s')) :=
    fun b hb => ⟨s, (congrFun (Site.status_closeBooks_of_eq hb) id).trans hs, .inl rfl⟩
  cases hop : op.writesChallenge with
  | false => exact hsame _ (congrArg Challenge.status (exec_challenge hop))
  | true =>
      cases op with
      | updateChallengeStatus status hashes =>
          refine exec_world (P := fun b => ∃ s', (w.closeBooks id' b).status id = some s' ∧
            (s' = s ∨ (payoutTouches id').writes (.updateChallengeStatus status hashes) =
              some (id, s'))) (hsame _ rfl) ?_
          rw [Site.status_closeBooks]
          split
          · rename_i hid
            rw [← hid, hs]
            exact ⟨status, rfl, .inr rfl⟩
          · exact ⟨s, hs, .inl rfl⟩
      | _ => cases hop

/-- A brand that is deleted cancels what is open. -/
theorem status_deleteBrand (brand : Text) (ownerUserId : Option UserId)
    (hs : w.status id = some s) :
    ∃ s', ((siteMachine deps).exec e (.deleteBrand brand ownerUserId) w).2.status id = some s' ∧
      MayFollow s s' := by
  have hdelete : ∃ s', (w.performDelete brand ownerUserId e.now).2.status id = some s' ∧
      MayFollow s s' := by
    unfold Site.performDelete
    split
    · obtain ⟨row, hrow, rfl⟩ := Option.map_eq_some_iff.mp hs
      refine ⟨_, (Site.status_cancelBrand e.now id).trans (congrArg _ hrow), ?_⟩
      dsimp only
      split
      · rename_i hopen
        refine mayFollow_of_open ?_ _
        simp only [Site.isOpenOf, Bool.and_eq_true, Bool.or_eq_true, decide_eq_true_eq] at hopen
        rcases hopen.1.2 with hstatus | hstatus <;> rw [hstatus] <;> rfl
      · exact mayFollow_refl _
    · exact ⟨s, hs, mayFollow_refl s⟩
  simp only [siteMachine]
  split
  · dsimp only
    split
    · exact hdelete
    · exact ⟨s, hs, mayFollow_refl s⟩
  · exact hdelete

/-- What the webhook is shown is a row of the table. -/
theorem status_of_seen_deposit (op : Deposit.Op)
    (h : depositTouches.seen op ((siteMachine deps).exec e (.deposit op) w).1 = some (id, s)) :
    ((siteMachine deps).exec e (.deposit op) w).2.status id = some s := by
  cases op with
  | getChallengeByMemo memo =>
      cases hanswer : ((Deposit.apiMachine deps).exec e.api (.getChallengeByMemo memo) w.api).1 with
      | error err => simp [siteMachine, depositTouches, hanswer] at h
      | ok found =>
          cases found with
          | none => simp [siteMachine, depositTouches, hanswer] at h
          | some c =>
              simp only [siteMachine, depositTouches, hanswer, Option.some.injEq,
                Prod.mk.injEq] at h
              obtain ⟨rfl, rfl⟩ := h
              have hfound : w.api.challenges.byMemo memo = some c :=
                Except.ok.inj (Deposit.exec_ok deps e.api hanswer).1
              have hsame : ((Deposit.apiMachine deps).exec e.api (.getChallengeByMemo memo)
                  w.api).2.challenges = w.api.challenges :=
                congrArg Prod.fst (Deposit.exec_tables deps e.api rfl w.api)
              refine (congrFun (status_setApi hsame) c.id).trans ?_
              exact congrArg (Option.map (·.status))
                (byId_of_mem (Deposit.Challenges.mem_of_byMemo hfound).1)
  | _ => cases h

/-- So is what a payout or a refund is shown. -/
theorem status_of_seen_payout (id' : Text) (op : Payout.Op)
    (h : (payoutTouches id').seen op ((siteMachine deps).exec e (.payout id' op) w).1 =
      some (id, s)) :
    ((siteMachine deps).exec e (.payout id' op) w).2.status id = some s := by
  cases op with
  | getChallengeById =>
      have hread : (payoutMachine.exec e.books .getChallengeById (w.openBooks id')).2 =
          w.openBooks id' := exec_read rfl
      have hsame : ((siteMachine deps).exec e (.payout id' .getChallengeById) w).2.status =
          w.status := Site.status_closeBooks_of_eq (by rw [hread]; rfl)
      rw [hsame]
      cases hanswer : (payoutMachine.exec e.books .getChallengeById (w.openBooks id')).1 with
      | error err => simp [siteMachine, payoutTouches, hanswer] at h
      | ok found =>
          cases found with
          | none => simp [siteMachine, payoutTouches, hanswer] at h
          | some c =>
              simp only [siteMachine, payoutTouches, hanswer, Option.some.injEq,
                Prod.mk.injEq] at h
              obtain ⟨rfl, rfl⟩ := h
              rw [exec_ok hanswer] at hanswer
              have hshown : (perform e.books .getChallengeById (w.openBooks id')).1 =
                  .ok (some c) := hanswer
              have hc : c = w.challenge id' := eq_of_getChallengeById hshown
              cases hrow : w.row id' with
              | some row => rw [hc, Site.challenge_status hrow, Site.status, hrow, Option.map_some]
              | none =>
                  -- a challenge without a row is not found
                  simp [perform, Site.openBooks, Site.challenge, hrow] at hshown
  | _ => cases h

end Exec

theorem siteTouches_describes (deps : Deposit.Deps) :
    siteTouches.Describes (siteMachine deps) Site.status MayFollow where
  seen e op w id s h := by
    cases op with
    | deposit op => exact status_of_seen_deposit deps e op h
    | payout id' op => exact status_of_seen_payout deps e id' op h
    | deleteBrand brand owner => cases h
  steps e op w id s hs := by
    cases op with
    | deposit op =>
        obtain ⟨s', hs', rfl | hwrites⟩ := status_deposit deps e op hs
        · exact ⟨s', hs', .inl (mayFollow_refl s')⟩
        · exact ⟨s', hs', .inr hwrites⟩
    | payout id' op =>
        obtain ⟨s', hs', rfl | hwrites⟩ := status_payout deps e id' op hs
        · exact ⟨s', hs', .inl (mayFollow_refl s')⟩
        · exact ⟨s', hs', .inr hwrites⟩
    | deleteBrand brand owner =>
        obtain ⟨s', hs', hfollows⟩ := status_deleteBrand deps e brand owner hs
        exact ⟨s', hs', .inl hfollows⟩

/-! ### What the programs check -/

/-- Nothing is seen yet. -/
abbrev SeesNothing : Text → ChallengeStatus → Prop := fun _ _ => False

/-- A payout goes on only with an `ended` challenge, after which anything may follow. -/
theorem checks_processPayout (config : PayoutConfig) (id : Text) :
    (processPayout config id).Checks (payoutTouches id) MayFollow SeesNothing := by
  refine Prog.checks_call_bind rfl fun found => ?_
  cases found with
  | none => trivial
  | some c =>
      dsimp only
      split
      · trivial
      · rename_i hended
        have hunseeing : ∀ op : Payout.Op, op.opensRun = false →
            Prog.Unseeing (payoutTouches id) MayFollow (fun key v => SeesNothing key v ∨
              (payoutTouches id).seen .getChallengeById (.ok (some c)) = some (key, v)) op := by
          intro op hop
          refine ⟨fun r => ?_, fun key v' _ v hv => ?_⟩
          · cases op with
            | getChallengeById => cases hop
            | _ => rfl
          · rcases hv with hv | hv
            · exact hv.elim
            · cases hv
              refine mayFollow_of_open ?_ _
              rw [not_not.mp hended]
              rfl
        exact Prog.checks_of_emits ((emits_opened config id c).imp_ok hunseeing)

/-- A refund goes on unless the challenge is `settled`, and writes `refunded`. -/
theorem checks_refundChallenge (adminId : UserId) (reason : Text) (id : Text) :
    (refundChallenge adminId reason).Checks (payoutTouches id) MayFollow SeesNothing := by
  refine Prog.checks_untouching_bind ⟨fun _ => rfl, rfl⟩ fun existing => ?_
  cases existing with
  | some refund => trivial
  | none =>
      refine Prog.checks_call_bind rfl fun found => ?_
      cases found with
      | none => trivial
      | some c =>
          dsimp only
          split
          · trivial
          · rename_i hsettled
            refine Prog.checks_of_emits (emits_refundDeposit adminId reason (fun op hop => ?_)
              fun destination now => ⟨fun r => rfl, fun key v' hw => by cases hw⟩)
            refine ⟨fun r => ?_, fun key v' hwrites v hv hterminal => ?_⟩
            · cases op with
              | getChallengeById => cases hop
              | _ => rfl
            · have hwritten : v' = .refunded := by
                cases op with
                | updateChallengeStatus status hashes =>
                    cases hwrites
                    cases v' with
                    | refunded => rfl
                    | _ => cases hop
                | _ => cases hwrites
              rcases hv with hv | hv
              · exact hv.elim
              · cases hv
                subst hwritten
                cases hstatus : c.status with
                | settled => exact absurd hstatus hsettled
                | refunded => exact .inl rfl
                | cancelled => exact .inr ⟨rfl, rfl⟩
                | _ =>
                    rw [hstatus] at hterminal
                    cases hterminal

section Deposit

variable (deps : Deposit.Deps) {φ : Text → ChallengeStatus → Prop}

/-- The middleware neither looks at a challenge nor writes one. -/
theorem emits_verifyWebhook (req : Deposit.Request) :
    (Deposit.verifyWebhook deps req).Emits (Prog.Untouching depositTouches) (fun _ _ => True)
      fun _ => True := by
  have hcall : ∀ op : Deposit.Op, Prog.Untouching depositTouches op →
      (Prog.call (S := Deposit.apiSig) op : Deposit.Api _).Emits
        (Prog.Untouching depositTouches) (fun _ _ => True) fun _ => True :=
    fun op hop => Prog.Emits.call hop fun _ _ => trivial
  unfold Deposit.verifyWebhook
  refine Prog.Emits.bind (P := fun _ => True) ?_ fun secrets _ => ?_
  · refine (hcall .selectAppConfig ⟨fun _ => rfl, rfl⟩).bind fun rows _ => ?_
    exact (hcall .dateNow ⟨fun _ => rfl, rfl⟩).bind fun now _ => trivial
  split
  · trivial
  split
  · trivial
  refine (hcall .dateNow ⟨fun _ => rfl, rfl⟩).bind fun millis _ => ?_
  split
  · trivial
  split
  · trivial
  split
  · trivial
  exact (hcall (.setWebhookId ..) ⟨fun _ => rfl, rfl⟩).bind fun stored _ => trivial

theorem emits_getAccountUsdcBalance : (Deposit.getAccountUsdcBalance deps).Emits
    (Prog.Untouching depositTouches) (fun _ _ => True) fun _ => True := by
  unfold Deposit.getAccountUsdcBalance
  refine (Prog.Emits.call (P := fun _ => True) (S := Deposit.apiSig) ⟨fun _ => rfl, rfl⟩
    fun _ _ => trivial).bind fun balances _ => ?_
  split
  · trivial
  split
  · trivial
  · rename_i line _ _
    cases Deposit.usdcTextToStroops line.balance <;> trivial

/-- The handler goes on only with a `pending_deposit` challenge. -/
theorem checks_stellarDepositHandler (req : Deposit.Request) :
    (Deposit.stellarDepositHandler deps req).Checks depositTouches MayFollow SeesNothing := by
  unfold Deposit.stellarDepositHandler
  refine Prog.checks_bind ?_ fun body => ?_
  · cases Deposit.depositWebhookSchema deps req.body <;> trivial
  refine Prog.checks_untouching_bind ⟨fun _ => rfl, rfl⟩ fun duplicateChallenge => ?_
  refine Prog.checks_untouching_bind ⟨fun _ => rfl, rfl⟩ fun duplicatePayout => ?_
  split
  · trivial
  refine Prog.checks_call_bind rfl fun found => ?_
  cases found with
  | none => trivial
  | some c =>
      dsimp only
      split
      · trivial
      rename_i hpending
      refine Prog.checks_bind ?_ fun requiredBalance => ?_
      · cases Deposit.usdcTextToStroops c.poolAmountUsdc <;> trivial
      refine Prog.checks_bind ?_ fun currentBalance => ?_
      · exact (emits_getAccountUsdcBalance deps).imp_ok fun _ hop => hop.unseeing
      split
      · trivial
      have hupdate : Prog.Unseeing depositTouches MayFollow (fun key v => SeesNothing key v ∨
          depositTouches.seen (.getChallengeByMemo body.memo) (.ok (some c)) = some (key, v))
          (.updateChallengeStatusActive c.id body.txHash) := by
        refine ⟨fun r => rfl, fun key v' _ v hv => ?_⟩
        rcases hv with hv | hv
        · exact hv.elim
        · cases hv
          refine mayFollow_of_open ?_ _
          rw [not_not.mp hpending]
          rfl
      have hselect : Prog.Untouching depositTouches (.selectBrandId c.id) := ⟨fun _ => rfl, rfl⟩
      refine Prog.checks_bind (Prog.Emits.bind (P := fun _ => True) ?_ fun _ _ => ?_)
        fun _ => trivial
      · exact Prog.Emits.call (S := Deposit.apiSig) hupdate fun _ _ => trivial
      · refine Prog.Emits.tryCatch ?_ fun _ => trivial
        exact Prog.Emits.call (S := Deposit.apiSig) hselect.unseeing fun _ _ => trivial

/-- The whole request. -/
theorem checks_depositEndpoint (req : Deposit.Request) :
    (Deposit.depositEndpoint deps req).Checks depositTouches MayFollow SeesNothing := by
  have hrespond : ∀ response,
      (Prog.call (S := Deposit.apiSig) (.respond req.webhookId response) : Deposit.Api Unit).Emits
        (Prog.Untouching depositTouches) (fun _ _ => True) fun _ => True :=
    fun response => Prog.Emits.call ⟨fun _ => rfl, rfl⟩ fun _ _ => trivial
  have hcaught : ∀ err, (.ret (Deposit.errorHandler err) : Deposit.Api Deposit.Response).Emits
      (Prog.Untouching depositTouches) (fun _ _ => True) fun _ => True := fun _ => trivial
  refine Prog.Checks.bind_untouching hrespond (Prog.Checks.tryCatch_untouching hcaught ?_)
  unfold Deposit.serveDeposit
  refine Prog.checks_untouching_bind ⟨fun _ => rfl, rfl⟩ fun allowed => ?_
  split
  · trivial
  refine Prog.checks_bind ((emits_verifyWebhook deps req).imp_ok fun _ hop => hop.unseeing)
    fun verdict => ?_
  cases verdict with
  | some response => trivial
  | none => exact checks_stellarDepositHandler deps req

end Deposit

/-- **Every program of the site checks before it writes.** -/
theorem SiteProgram.checks {deps : Deposit.Deps} {p : SiteService Unit}
    (hp : SiteProgram deps p) : p.Checks siteTouches MayFollow SeesNothing := by
  cases hp with
  | deposit req =>
      refine Prog.Checks.embed (fun op r => ?_) (fun _ => rfl) (checks_depositEndpoint deps req)
      exact congrArg _ (Prog.except_map_self r).symm
  | processPayout config id =>
      refine Prog.Checks.embed (fun op r => ?_) (fun _ => rfl) (checks_processPayout config id)
      exact congrArg _ (Prog.except_map_self r).symm
  | refundChallenge id adminId reason =>
      refine Prog.Checks.bind_untouching (f := fun _ => .ret ()) (fun _ => trivial) ?_
      refine Prog.Checks.embed (fun op r => ?_) (fun _ => rfl)
        (checks_refundChallenge adminId reason id)
      exact congrArg _ (Prog.except_map_self r).symm
  | deleteBrand brand owner =>
      exact Prog.checks_untouching_bind ⟨fun _ => rfl, rfl⟩ fun _ => trivial

/-! ### Every interleaving -/

/-- **Terminal states are final.** In every interleaving of deposits, payouts, refunds and
deletions, with failures anywhere, in which every program writes a status only if the challenge
has not become terminal since the program's look: a terminal status stays, but for `cancelled`,
which may become `refunded`. -/
theorem terminal_states_final (deps : Deposit.Deps) {w₀ w : SiteHistory}
    (h₀ : w₀.chronicle = .starting w₀.world.status) {ps : List (SiteService Unit)}
    (h : Crew (siteHistory deps) (OnALook siteTouches) (SiteProgram deps)
      (Chronicled.Drift isTerminal Site.status Meanwhile) w₀ w ps) : TerminalFinal w := by
  have hdrift : ∀ w w', Meanwhile w w' → ∀ id s, w.status id = some s →
      ∃ s', w'.status id = some s' ∧ MayFollow s s' := by
    intro w w' hmeanwhile id s hs
    obtain ⟨s', hs', hstays⟩ := hmeanwhile id s hs
    exact ⟨s', hs', fun hterminal => .inl (hstays hterminal)⟩
  have hsound : w.chronicle.Sound MayFollow isTerminal w.world.status :=
    Crew.chronicle_sound (siteTouches_describes deps) (fun _ _ hopen => mayFollow_of_open hopen _)
      hdrift (fun _ => SiteProgram.checks) h₀ h
  exact ⟨hsound.current, fun id => List.isChain_iff_pairwise.mp (hsound.chain id)⟩

/-! ### One challenge

The brand `b1` has one challenge, `c1`. -/

instance (s s' : ChallengeStatus) : Decidable (MayFollow s s') :=
  inferInstanceAs (Decidable (_ → _))

/-- Nothing fails. -/
def SiteEnv.Calm (e : SiteEnv) : Prop :=
  e.api.fault = none ∧ Payout.Calm e.books ∧ e.dbFault = none

def calmSite : SiteEnv := ⟨Deposit.calm, Payout.calm, none, 0⟩

theorem calmSite_calm : calmSite.Calm := ⟨rfl, ⟨rfl, rfl⟩, rfl⟩

/-- The site with these rows in `challenges`, and a history that starts. -/
def siteWith (api : Deposit.World) : SiteHistory :=
  let site : Site := ⟨api, fun _ => World.ended 1000000000 [player 1 300],
    fun _ => some ⟨7, none⟩, fun _ => "b1".toList⟩
  ⟨site, .starting site.status⟩

/-- The challenge waits for its deposit, which has arrived. -/
def pendingSite : SiteHistory := siteWith Deposit.World.pending

/-- The challenge is over. -/
def endedSite : SiteHistory :=
  siteWith { Deposit.World.atRest with
    challenges := ⟨[⟨"c1".toList, .ended, 1000000000, none, some Deposit.exampleTxHash, false⟩],
      List.pairwise_singleton _ _, List.pairwise_singleton _ _, List.pairwise_singleton _ _⟩ }

def depositProgram : SiteService Unit := Deposit.exampleDelivery.embed depositHom

def payoutProgram : SiteService Unit :=
  (processPayout ⟨false, fun _ => true⟩ "c1".toList).embed (payoutHom "c1".toList)

def refundProgram : SiteService Unit :=
  ((refundChallenge 9 "brand request".toList).embed (payoutHom "c1".toList)).bind
    fun _ => .ret ()

def deleteProgram : SiteService Unit := (deleteBrand "b1".toList none).bind fun _ => .ret ()

/-- All four are started. -/
def allPrograms : List (SiteService Unit) :=
  [depositProgram, payoutProgram, refundProgram, deleteProgram]

theorem allPrograms_reached {G : Nat → SiteHistory → SiteOp → SiteEnv → Prop}
    (w₀ : SiteHistory) : Crew (siteHistory Deposit.exampleDeps) G
      (SiteProgram Deposit.exampleDeps) (Chronicled.Drift isTerminal Site.status Meanwhile) w₀ w₀
      allPrograms :=
  Crew.spawn (Crew.spawn (Crew.spawn (Crew.spawn .init (.deposit _)) (.processPayout _ _))
    (.refundChallenge _ _ _)) (.deleteBrand _ _)

/-- Program `i` takes `n` steps, and nothing fails. -/
def steps (i n : Nat) : List (Nat × SiteEnv) := List.replicate n (i, calmSite)

def played (w₀ : SiteHistory) (schedule : List (Nat × SiteEnv)) :
    SiteHistory × List (SiteService Unit) :=
  playCrew (siteHistory Deposit.exampleDeps) schedule w₀ allPrograms

/-- The deposit activates the challenge, the brand is deleted, and the challenge is refunded. -/
theorem cancelled_challenge_refunded :
    (played pendingSite (steps 0 12 ++ steps 3 1 ++ steps 2 9)).1.chronicle.history "c1".toList =
      [.pendingDeposit, .active, .cancelled, .refunded] ∧
    TerminalFinal (played pendingSite (steps 0 12 ++ steps 3 1 ++ steps 2 9)).1 :=
  ⟨by decide +kernel, terminal_states_final Deposit.exampleDeps rfl
    (Crew.play _ (allPrograms_reached pendingSite) (by decide +kernel))⟩

theorem calm_steps {i m j n k l : Nat} {w : SiteHistory} {ps : List (SiteService Unit)} :
    playCrewOk (siteHistory Deposit.exampleDeps) (fun _ _ _ e => e.Calm)
      (steps i m ++ steps j n ++ steps k l) w ps := by
  refine playCrewOk_of_forall _ fun move hmove _ _ => ?_
  have hcalm : move.2 = calmSite := by
    simp only [steps, List.mem_append, List.mem_replicate] at hmove
    rcases hmove with (⟨-, rfl⟩ | ⟨-, rfl⟩) | ⟨-, rfl⟩ <;> rfl
  rw [hcalm]
  exact calmSite_calm

/-- The brand is deleted while a deposit is being checked, and a payout settles the challenge
while a refund is: both write what they meant to. -/
theorem stale_looks_reopen_challenges :
    (¬ ∀ (w : SiteHistory) (ps : List (SiteService Unit)),
      Crew (siteHistory Deposit.exampleDeps) (fun _ _ _ e => e.Calm)
        (SiteProgram Deposit.exampleDeps) (Chronicled.Drift isTerminal Site.status Meanwhile)
        pendingSite w ps → TerminalFinal w) ∧
    ¬ ∀ (w : SiteHistory) (ps : List (SiteService Unit)),
      Crew (siteHistory Deposit.exampleDeps) (fun _ _ _ e => e.Calm)
        (SiteProgram Deposit.exampleDeps) (Chronicled.Drift isTerminal Site.status Meanwhile)
        endedSite w ps → TerminalFinal w := by
  constructor
  · intro hall
    have hfinal := (hall _ _ (Crew.play (steps 0 9 ++ steps 3 1 ++ steps 0 3)
      (allPrograms_reached pendingSite) calm_steps)).final "c1".toList
    revert hfinal
    decide +kernel
  · intro hall
    have hfinal := (hall _ _ (Crew.play (steps 2 2 ++ steps 1 40 ++ steps 2 7)
      (allPrograms_reached endedSite) calm_steps)).final "c1".toList
    revert hfinal
    decide +kernel

end BrandBlitz.Lifecycle

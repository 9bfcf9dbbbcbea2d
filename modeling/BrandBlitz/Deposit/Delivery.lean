import BrandBlitz.Deposit.Webhook

/-!
# BrandBlitz.Deposit.Delivery

**Deliveries** (`sendDepositWebhook` of `apps/deposit-monitor/src/index.ts`) and what an answer
to one means. The monitor delivers a deposit again on later polls until it gets a 2xx answer,
so a 2xx answer should mean that some delivery went through the handler to its end.

The middleware stores the webhook id, which is made from the transaction's hash, before the
handler runs. If the handler then fails, a second delivery within the life of the id is answered
`200 duplicate`, and the monitor goes on. `Spaced` leaves out these second deliveries.
-/

namespace BrandBlitz.Deposit

open BrandBlitz.Lib BrandBlitz.Payout

/-! ### The sender -/

structure DepositEvent where
  txHash : Text
  amount : Text
  memo : Text
  toAddress : Text
  ledger : Nat
  createdAt : Text
deriving DecidableEq, Repr

/-- One character inside a JSON string. -/
def jsonEscape (c : Char) : Text :=
  match c with
  | '"' => ['\\', '"']
  | '\\' => ['\\', '\\']
  | '\x08' => ['\\', 'b']
  | '\t' => ['\\', 't']
  | '\n' => ['\\', 'n']
  | '\x0c' => ['\\', 'f']
  | '\r' => ['\\', 'r']
  | c =>
    if c.toNat < 0x20 then
      "\\u00".toList ++ [Nat.digitChar (c.toNat / 16), Nat.digitChar (c.toNat % 16)]
    else [c]

def jsonString (text : Text) : Text := '"' :: text.flatMap jsonEscape ++ ['"']

/-- `JSON.stringify({ memo, txHash, amount })`. -/
def webhookBody (event : DepositEvent) : Text :=
  "\x7b\"memo\":".toList ++ jsonString event.memo ++ ",\"txHash\":".toList ++
    jsonString event.txHash ++ ",\"amount\":".toList ++ jsonString event.amount ++ "\x7d".toList

/-- The webhook id of a deposit. -/
def depositWebhookId (txHash : Text) : Text := "deposit-".toList ++ txHash

/-- The transaction a webhook id is made from. -/
def webhookIdTx (webhookId : Text) : Text := webhookId.drop "deposit-".toList.length

@[simp] theorem webhookIdTx_depositWebhookId (txHash : Text) :
    webhookIdTx (depositWebhookId txHash) = txHash := List.drop_left

/-- The request `sendDepositWebhook` makes, with the monitor's secret and the second on its
clock. -/
def depositRequest (deps : Deps) (secret : Text) (seconds : Nat) (event : DepositEvent) :
    Request where
  signature := some ("sha256=".toList ++
    signWebhookPayload deps (webhookBody event) seconds secret)
  timestamp := some (some (seconds : Rat))
  webhookId := some (depositWebhookId event.txHash)
  rawBody := some (webhookBody event)
  body := some ⟨event.memo, event.txHash, some event.amount⟩

/-! ### What an answer should mean -/

/-- The handler's own answers, as opposed to those of the middleware. -/
def Response.completed (r : Response) : Bool :=
  r.status = 200 && (match r.json with
    | .activated _ => true
    | .status status =>
      status = "already_processed".toList || status = "duplicate_tx_ignored".toList
    | _ => false)

/-- A deposit is handled: it activated the challenge with its memo, or that challenge is not
pending, or the transaction is recorded already. -/
def Handled (challenges : Challenges) (payoutTx : Text → Bool) (memo txHash : Text) : Prop :=
  (∃ c ∈ challenges.rows, c.depositMemo = some memo ∧ c.status = .active ∧
    c.depositTxHash = some txHash) ∨
  (∃ c ∈ challenges.rows, c.depositMemo = some memo ∧ c.status ≠ .pendingDeposit) ∨
  (∃ c ∈ challenges.rows, c.depositTxHash = some txHash) ∨ payoutTx txHash = true

/-- Some delivery of the transaction ran the handler to its end. -/
def RanToEnd (w : World) (memo txHash : Text) : Prop :=
  ∃ r ∈ w.responses, r.webhookId = some (depositWebhookId txHash) ∧
    r.response.completed = true ∧ Handled r.challenges r.payoutTx memo txHash

/-- Every 2xx answer stands for a delivery that ran to its end. -/
def Acknowledged (memoOf : Text → Text) (w : World) : Prop :=
  ∀ txHash, ∀ r ∈ w.responses, r.webhookId = some (depositWebhookId txHash) →
    r.response.ok = true → RanToEnd w (memoOf txHash) txHash

/-- Between deliveries anything may change but the ids and the logs; then the monitor delivers
a deposit. The memo belongs to the transaction. -/
def Delivers (deps : Deps) (memoOf : Text → Text) (w w' : World) (p : Api Unit) : Prop :=
  Outside w w' ∧ w'.responses = w.responses ∧ ∃ secret seconds event,
    event.memo = memoOf event.txHash ∧
      p = depositEndpoint deps (depositRequest deps secret seconds event)

/-- A delivery reaches the id store only after the life of every earlier id of its transaction,
unless a delivery of the transaction has run to its end. -/
def Spaced (memoOf : Text → Text) (w : World) : Op → Env → Prop
  | .setWebhookId webhookId _ _, e =>
      RanToEnd w (memoOf (webhookIdTx webhookId)) (webhookIdTx webhookId) ∨
        ∀ s ∈ w.idSets, s.1 = webhookId → s.2 + webhookIdTtl < w.clock + e.elapsed
  | _, _ => True

instance (challenges : Challenges) (payoutTx : Text → Bool) (memo txHash : Text) :
    Decidable (Handled challenges payoutTx memo txHash) :=
  inferInstanceAs (Decidable (_ ∨ _ ∨ _ ∨ _))

instance (w : World) (memo txHash : Text) : Decidable (RanToEnd w memo txHash) :=
  inferInstanceAs (Decidable (∃ r ∈ w.responses, _))

instance (memoOf : Text → Text) (w : World) :
    ∀ (op : Op) (e : Env), Decidable (Spaced memoOf w op e)
  | .setWebhookId .., _ => inferInstanceAs (Decidable (_ ∨ ∀ s ∈ w.idSets, _ → _))
  | .webhookLimiter, _ | .selectAppConfig, _ | .dateNow, _ | .getChallengeByDepositTxHash _, _
  | .findPayoutByTxHash _, _ | .getChallengeByMemo _, _ | .loadAccount, _
  | .updateChallengeStatusActive .., _ | .selectBrandId _, _ | .respond .., _ => .isTrue trivial

/-! ### The invariant -/

/-- An id in Redis was stored by somebody, who gave it its life. -/
def IdsLogged (w : World) : Prop :=
  ∀ key last, w.webhookIds key = some last →
    ∃ s ∈ w.idSets, key = webhookKey s.1 ∧ last = s.2 + webhookIdTtl

/-- What holds at every await. -/
structure Sound (memoOf : Text → Text) (w : World) : Prop where
  acknowledged : Acknowledged memoOf w
  logged : IdsLogged w

section Steps

variable {deps : Deps} {memoOf : Text → Text} {w w' : World}

theorem RanToEnd.congr {memo txHash : Text} (h : RanToEnd w memo txHash)
    (hresponses : w'.responses = w.responses) : RanToEnd w' memo txHash := by
  unfold RanToEnd
  rw [hresponses]
  exact h

theorem Sound.congr (h : Sound memoOf w) (hids : w'.ids = w.ids)
    (hresponses : w'.responses = w.responses) : Sound memoOf w' := by
  simp only [World.ids, Prod.mk.injEq] at hids
  obtain ⟨hkeys, -, hsets⟩ := hids
  refine ⟨fun txHash r hr hid hok => ?_, ?_⟩
  · rw [hresponses] at hr
    exact (h.acknowledged txHash r hr hid hok).congr hresponses
  · unfold IdsLogged
    rw [hkeys, hsets]
    exact h.logged

/-- Does the operation send a response? -/
def Op.responds : Op → Bool
  | .respond .. => true
  | _ => false

theorem exec_responses {op : Op} (hop : op.responds = false) (e : Env) (w : World) :
    ((apiMachine deps).exec e op w).2.responses = w.responses := by
  refine exec_frame deps e (f := World.responses) (fun w n => rfl) (fun w => ?_) (fun w r => ?_) w
  · cases op with
    | respond id r => cases hop
    | updateChallengeStatusActive id tx =>
        simp only [perform]
        split <;> rfl
    | _ => rfl
  · unfold World.enter
    split <;> rfl

/-- An operation that neither stores an id nor responds. -/
theorem Sound.exec (h : Sound memoOf w) {op : Op} (hset : op.setsId = false)
    (hop : op.responds = false) (e : Env) : Sound memoOf ((apiMachine deps).exec e op w).2 :=
  h.congr (exec_ids_of_not_setsId deps e hset w) (exec_responses hop e w)

/-- Storing an id logs it, and an id that is refused belongs to a delivery that ran to its
end. -/
theorem Sound.exec_setWebhookId (h : Sound memoOf w) {txHash rawBody : Text} {timestamp : Rat}
    {e : Env}
    (hspaced : Spaced memoOf w (.setWebhookId (depositWebhookId txHash) timestamp rawBody) e) :
    let done := (apiMachine deps).exec e
      (.setWebhookId (depositWebhookId txHash) timestamp rawBody) w
    Sound memoOf done.2 ∧ (done.1 = .ok false → RanToEnd done.2 (memoOf txHash) txHash) := by
  intro done
  have hresponses : done.2.responses = w.responses := exec_responses rfl e w
  have hack : Acknowledged memoOf done.2 := by
    intro tx r hr hid hok
    rw [hresponses] at hr
    exact (h.acknowledged tx r hr hid hok).congr hresponses
  have hstored : ∀ entered, done.2.ids = (w.webhookIds.store (w.clock + e.elapsed) webhookIdTtl
      (webhookKey (depositWebhookId txHash)), entered,
        w.idSets ++ [(depositWebhookId txHash, w.clock + e.elapsed)]) → Sound memoOf done.2 := by
    intro entered hids
    simp only [World.ids, Prod.mk.injEq] at hids
    obtain ⟨hkeys, -, hsets⟩ := hids
    refine ⟨hack, fun key last hlast => ?_⟩
    rw [hkeys] at hlast
    rw [hsets]
    by_cases hkey : key = webhookKey (depositWebhookId txHash)
    · rw [hkey, ExpiringKeys.store_self] at hlast
      cases hlast
      exact ⟨_, List.mem_append_right _ List.mem_cons_self, hkey, rfl⟩
    · rw [ExpiringKeys.store_of_ne hkey] at hlast
      obtain ⟨s, hs, hold⟩ := h.logged key last hlast
      exact ⟨s, List.mem_append_left _ hs, hold⟩
  rcases Deposit.exec_setWebhookId deps e (depositWebhookId txHash) timestamp rawBody w with
    ⟨hans, hheld, hids⟩ | ⟨hans, -, hids⟩ | ⟨⟨err, hans⟩, hids | ⟨-, hids⟩⟩
  · refine ⟨h.congr hids hresponses, fun _ => ?_⟩
    -- the id is there: it was stored less than its life ago
    obtain ⟨last, hlast, hnow⟩ := ExpiringKeys.exists_of_holds hheld
    obtain ⟨s, hs, hkey, hlife⟩ := h.logged _ _ hlast
    have hid : s.1 = depositWebhookId txHash := (List.append_cancel_left hkey).symm
    rcases hspaced with hran | hspaced
    · rw [webhookIdTx_depositWebhookId] at hran
      exact hran.congr hresponses
    · have := hspaced s hs hid
      omega
  · exact ⟨hstored _ hids, fun h => by cases hans.symm.trans h⟩
  · exact ⟨h.congr hids hresponses, fun h => by cases hans.symm.trans h⟩
  · exact ⟨hstored _ hids, fun h => by cases hans.symm.trans h⟩

end Steps

/-! ### One delivery -/

section Delivery

variable {deps : Deps} {memoOf : Text → Text} {w : World} {txHash : Text}

/-- An operation that leaves the ids, the responses and the tables alone. -/
theorem wp_read {op : Op} (hset : op.setsId = false) (hop : op.responds = false)
    (hwrite : op.writes = false) {Q : apiSig.Ans op → World → Prop} (h : Sound memoOf w)
    (hQ : ∀ e a w', Sound memoOf w' → w'.tables = w.tables →
      (perform deps e op { w with clock := w.clock + e.elapsed }).1 = .ok a → Q a w') :
    (Prog.call (S := apiSig) op).wp (apiMachine deps) (Spaced memoOf) (Sound memoOf)
      (Prog.Ends Q fun _ => Sound memoOf) w := by
  refine Prog.wp_call fun e _ => ⟨h.exec hset hop e, ?_⟩
  cases hans : ((apiMachine deps).exec e op w).1 with
  | ok a => exact hQ e a _ (h.exec hset hop e) (exec_tables deps e hwrite w) (exec_ok deps e hans).1
  | error err => exact h.exec hset hop e

/-- An operation of which only the invariant matters. -/
theorem wp_quiet {op : Op} (hset : op.setsId = false) (hop : op.responds = false)
    (h : Sound memoOf w) :
    (Prog.call (S := apiSig) op).wp (apiMachine deps) (Spaced memoOf) (Sound memoOf)
      (Prog.Ends (fun _ => Sound memoOf) fun _ => Sound memoOf) w :=
  Prog.wp_call_world fun e _ => ⟨h.exec hset hop e, h.exec hset hop e⟩

theorem readHeaders_error {req : Request} {r : Response} (h : readHeaders req = .error r) :
    r.ok = false := by
  unfold readHeaders at h
  repeat' split at h
  all_goals first | cases h; rfl | cases h

theorem readHeaders_webhookId {req : Request} {headers : Headers}
    (h : readHeaders req = .ok headers) : req.webhookId = some headers.webhookId := by
  unfold readHeaders at h
  repeat' split at h
  all_goals first | cases h; assumption | cases h

/-- The middleware answers 2xx only if a delivery has run to its end. -/
theorem wp_verifyWebhook {req : Request} (hid : req.webhookId = some (depositWebhookId txHash))
    (h : Sound memoOf w) :
    (verifyWebhook deps req).wp (apiMachine deps) (Spaced memoOf) (Sound memoOf)
      (Prog.Ends (fun v w' => Sound memoOf w' ∧ ∀ r, v = some r → r.ok = true →
        RanToEnd w' (memoOf txHash) txHash) fun _ => Sound memoOf) w := by
  have hrefuse : ∀ {w : World} {r : Response}, Sound memoOf w → r.ok = false →
      Sound memoOf w ∧ ∀ r', some r = some r' → r'.ok = true →
        RanToEnd w (memoOf txHash) txHash := by
    intro w r hw hnot
    refine ⟨hw, fun r' hr hok => ?_⟩
    cases hr
    rw [hnot] at hok
    cases hok
  unfold verifyWebhook
  refine Prog.wp_bind (P := fun _ => Sound memoOf) ?_ fun secrets w h => ?_
  · refine Prog.wp_bind (wp_quiet rfl rfl h) fun rows w h => ?_
    exact Prog.wp_bind (wp_quiet rfl rfl h) fun now w h => h
  split
  · exact hrefuse h rfl
  split
  · exact hrefuse h (readHeaders_error ‹_›)
  rename_i headers hheaders
  have hsame : headers.webhookId = depositWebhookId txHash :=
    Option.some.inj ((readHeaders_webhookId hheaders).symm.trans hid)
  refine Prog.wp_bind (wp_quiet rfl rfl h) fun millis w h => ?_
  split
  · exact hrefuse h rfl
  split
  · exact hrefuse h rfl
  split
  · exact hrefuse h rfl
  refine Prog.wp_bind (P := fun stored w' => Sound memoOf w' ∧
    (stored = false → RanToEnd w' (memoOf txHash) txHash)) ?_ fun stored w h => ?_
  · rw [hsame]
    refine Prog.wp_call fun e hspaced => ?_
    obtain ⟨hsound, hrefused⟩ := h.exec_setWebhookId hspaced
    refine ⟨hsound, ?_⟩
    cases hans : ((apiMachine deps).exec e (.setWebhookId (depositWebhookId txHash)
        headers.timestamp _) w).1 with
    | ok stored => exact ⟨hsound, fun hfalse => hrefused (by rw [hans, hfalse])⟩
    | error err => exact hsound
  · cases stored with
    | true => exact ⟨h.1, fun r hr => by cases hr⟩
    | false => exact ⟨h.1, fun r _ _ => h.2 rfl⟩

theorem wp_getAccountUsdcBalance {c : Challenge} (h : Sound memoOf w)
    (hmem : c ∈ w.challenges.rows) :
    (getAccountUsdcBalance deps).wp (apiMachine deps) (Spaced memoOf) (Sound memoOf)
      (Prog.Ends (fun _ w' => Sound memoOf w' ∧ c ∈ w'.challenges.rows) fun _ => Sound memoOf)
      w := by
  unfold getAccountUsdcBalance
  refine Prog.wp_bind (P := fun _ w' => Sound memoOf w' ∧ c ∈ w'.challenges.rows) ?_
    fun balances w h => ?_
  · refine wp_read rfl rfl rfl h fun e lines w' hw' htables _ => ⟨hw', ?_⟩
    rw [(Prod.mk.inj htables).1]
    exact hmem
  split
  · exact h
  · rename_i line _
    split
    · exact h
    · cases usdcTextToStroops line.balance with
      | ok n => exact h
      | error err => exact h.1

/-- Once the row is updated, the deposit is handled, whatever becomes of the brand's webhook. -/
theorem wp_updateChallengeStatus {c : Challenge} {memo : Text} (h : Sound memoOf w)
    (hmem : c ∈ w.challenges.rows) (hmemo : c.depositMemo = some memo) :
    (updateChallengeStatus c.id txHash).wp (apiMachine deps) (Spaced memoOf) (Sound memoOf)
      (Prog.Ends (fun _ w' => Sound memoOf w' ∧ Handled w'.challenges w'.payoutTx memo txHash)
        fun _ => Sound memoOf) w := by
  unfold updateChallengeStatus
  refine Prog.wp_bind (P := fun _ w' => Sound memoOf w' ∧
    Handled w'.challenges w'.payoutTx memo txHash) ?_ fun _ w h => ?_
  · refine Prog.wp_call fun e _ => ⟨h.exec rfl rfl e, ?_⟩
    cases hans : ((apiMachine deps).exec e (.updateChallengeStatusActive c.id txHash) w).1 with
    | error err => exact h.exec rfl rfl e
    | ok a =>
        refine ⟨h.exec rfl rfl e, .inl ⟨Challenges.activateRow c.id txHash c, ?_, ?_, ?_, ?_⟩⟩
        · obtain ⟨hperform, hworld⟩ := exec_ok deps e hans
          rw [hworld]
          simp only [perform] at hperform ⊢
          split at hperform
          · cases hperform
          · rename_i hfree
            rw [dif_neg hfree]
            exact List.mem_map_of_mem hmem
        · rw [Challenges.activateRow_depositMemo, hmemo]
        · simp [Challenges.activateRow]
        · simp [Challenges.activateRow]
  · refine Prog.wp_tryCatch (P := fun _ w' => Sound memoOf w' ∧
      Handled w'.challenges w'.payoutTx memo txHash) ?_ fun _ w h => h
    refine Prog.wp_call_world fun e _ => ⟨h.1.exec rfl rfl e, h.1.exec rfl rfl e, ?_⟩
    have htables : ((apiMachine deps).exec e (.selectBrandId c.id) w).2.tables = w.tables :=
      exec_tables deps e rfl w
    obtain ⟨hchallenges, hpayouts⟩ := Prod.mk.inj htables
    rw [hchallenges, hpayouts]
    exact h.2

/-- The handler's answers are 2xx only when the deposit is handled. -/
theorem wp_stellarDepositHandler {req : Request} {memo : Text} {amount : Option Text}
    (hbody : req.body = some ⟨memo, txHash, amount⟩) (h : Sound memoOf w) :
    (stellarDepositHandler deps req).wp (apiMachine deps) (Spaced memoOf) (Sound memoOf)
      (Prog.Ends (fun r w' => Sound memoOf w' ∧ (r.ok = true → r.completed = true ∧
        Handled w'.challenges w'.payoutTx memo txHash)) fun _ => Sound memoOf) w := by
  unfold stellarDepositHandler
  refine Prog.wp_bind (P := fun body w' => body = ⟨memo, txHash, amount⟩ ∧ Sound memoOf w') ?_
    fun body w h => ?_
  · rw [hbody, depositWebhookSchema]
    dsimp only
    split
    · exact ⟨rfl, h⟩
    · exact h
  obtain ⟨rfl, h⟩ := h
  dsimp only
  -- has the transaction been recorded?
  refine Prog.wp_bind (P := fun found w' => Sound memoOf w' ∧ (found.isSome = true →
    ∃ c ∈ w'.challenges.rows, c.depositTxHash = some txHash)) ?_ fun found w h => ?_
  · refine wp_read rfl rfl rfl h fun e found w' hw' htables hans => ⟨hw', fun hsome => ?_⟩
    obtain ⟨c, hc⟩ := Option.isSome_iff_exists.mp hsome
    have hfind : w.challenges.byDepositTxHash txHash = some c := by
      rw [← hc]
      exact Except.ok.inj hans
    rw [(Prod.mk.inj htables).1]
    exact ⟨c, Challenges.mem_of_byDepositTxHash hfind⟩
  refine Prog.wp_bind (P := fun duplicatePayout w' => Sound memoOf w' ∧ (found.isSome = true →
    ∃ c ∈ w'.challenges.rows, c.depositTxHash = some txHash) ∧ (duplicatePayout = true →
      w'.payoutTx txHash = true)) ?_ fun duplicatePayout w h => ?_
  · refine wp_read rfl rfl rfl h.1 fun e dup w' hw' htables hans =>
      ⟨hw', fun hsome => ?_, fun hdup => ?_⟩
    · rw [(Prod.mk.inj htables).1]
      exact h.2 hsome
    · rw [(Prod.mk.inj htables).2, ← hdup]
      exact Except.ok.inj hans
  split
  · rename_i hdup
    refine ⟨h.1, fun _ => ⟨rfl, .inr (.inr ?_)⟩⟩
    rcases (Bool.or_eq_true _ _).mp hdup with hsome | hpayout
    · exact .inl (h.2.1 hsome)
    · exact .inr (h.2.2 hpayout)
  -- the challenge with the memo
  refine Prog.wp_bind (P := fun challenge? w' => Sound memoOf w' ∧ ∀ c, challenge? = some c →
    c ∈ w'.challenges.rows ∧ c.depositMemo = some memo) ?_ fun challenge? w h => ?_
  · refine wp_read rfl rfl rfl h.1 fun e found w' hw' htables hans => ⟨hw', fun c hc => ?_⟩
    rw [(Prod.mk.inj htables).1]
    exact Challenges.mem_of_byMemo (hc ▸ Except.ok.inj hans)
  cases challenge? with
  | none => exact ⟨h.1, fun hok => by cases hok⟩
  | some c =>
      obtain ⟨h, hfound⟩ := h
      obtain ⟨hmem, hmemo⟩ := hfound c rfl
      dsimp only
      split
      · rename_i hstatus
        exact ⟨h, fun _ => ⟨rfl, .inr (.inl ⟨c, hmem, hmemo, hstatus⟩)⟩⟩
      refine Prog.wp_bind (P := fun _ w' => Sound memoOf w' ∧ c ∈ w'.challenges.rows) ?_
        fun requiredBalance w h => ?_
      · cases usdcTextToStroops c.poolAmountUsdc with
        | ok n => exact ⟨h, hmem⟩
        | error err => exact h
      refine Prog.wp_bind (P := fun _ w' => Sound memoOf w' ∧ c ∈ w'.challenges.rows) ?_
        fun currentBalance w h => ?_
      · exact wp_getAccountUsdcBalance h.1 h.2
      split
      · exact ⟨h.1, fun hok => by cases hok⟩
      refine Prog.wp_bind (P := fun _ w' => Sound memoOf w' ∧
        Handled w'.challenges w'.payoutTx memo txHash) ?_ fun _ w h => ⟨h.1, fun _ => ⟨rfl, h.2⟩⟩
      exact wp_updateChallengeStatus h.1 h.2 hmemo

theorem errorHandler_ok (err : Err) : (errorHandler err).ok = false := by
  unfold errorHandler
  split
  · rfl
  · split <;> rfl

/-- Sending a response keeps the invariant if the response tells the truth. -/
theorem Sound.respond (h : Sound memoOf w) {r : Response}
    (hr : r.ok = true → RanToEnd w (memoOf txHash) txHash ∨
      r.completed = true ∧ Handled w.challenges w.payoutTx (memoOf txHash) txHash) (e : Env) :
    Sound memoOf ((apiMachine deps).exec e (.respond (some (depositWebhookId txHash)) r) w).2 := by
  have hworld : ((apiMachine deps).exec e (.respond (some (depositWebhookId txHash)) r) w).2 =
      { w with
        clock := w.clock + e.elapsed
        responses := w.responses ++
          [⟨some (depositWebhookId txHash), r, w.challenges, w.payoutTx⟩] } := by
    simp only [apiMachine]
    split <;> rfl
  rw [hworld]
  have hran : ∀ memo tx, RanToEnd w memo tx → RanToEnd { w with
      clock := w.clock + e.elapsed
      responses := w.responses ++
        [⟨some (depositWebhookId txHash), r, w.challenges, w.payoutTx⟩] } memo tx := by
    intro memo tx hran
    obtain ⟨r', hr', hrest⟩ := hran
    exact ⟨r', List.mem_append_left _ hr', hrest⟩
  refine ⟨fun tx r' hr' hid hok => ?_, h.logged⟩
  rcases List.mem_append.mp hr' with hold | hnew
  · exact hran _ _ (h.acknowledged tx r' hold hid hok)
  · rw [List.mem_singleton.mp hnew] at hid hok
    obtain rfl : txHash = tx := List.append_cancel_left (Option.some.inj hid)
    rcases hr hok with hbefore | ⟨hcompleted, hhandled⟩
    · exact hran _ _ hbefore
    · exact ⟨_, List.mem_append_right _ List.mem_cons_self, rfl, hcompleted, hhandled⟩

/-- **One delivery** keeps the invariant. -/
theorem wp_depositEndpoint {req : Request} {amount : Option Text}
    (hid : req.webhookId = some (depositWebhookId txHash))
    (hbody : req.body = some ⟨memoOf txHash, txHash, amount⟩) (h : Sound memoOf w) :
    (depositEndpoint deps req).wp (apiMachine deps) (Spaced memoOf) (Sound memoOf)
      (fun _ => Sound memoOf) w := by
  have hrefuse : ∀ {w : World} {r : Response}, Sound memoOf w → r.ok = false →
      Sound memoOf w ∧ (r.ok = true → RanToEnd w (memoOf txHash) txHash ∨
        r.completed = true ∧ Handled w.challenges w.payoutTx (memoOf txHash) txHash) := by
    intro w r hw hnot
    refine ⟨hw, fun hok => ?_⟩
    rw [hnot] at hok
    cases hok
  unfold depositEndpoint
  refine Prog.wp_world (Prog.wp_bind (P := fun r w' => Sound memoOf w' ∧ (r.ok = true →
    RanToEnd w' (memoOf txHash) txHash ∨
      r.completed = true ∧ Handled w'.challenges w'.payoutTx (memoOf txHash) txHash)) ?_
    fun r w h => ?_)
  · refine Prog.wp_tryCatch (P := fun _ => Sound memoOf) ?_
      fun err w h => hrefuse h (errorHandler_ok err)
    unfold serveDeposit
    refine Prog.wp_bind (wp_quiet rfl rfl h) fun allowed w h => ?_
    split
    · exact hrefuse h rfl
    refine Prog.wp_bind (wp_verifyWebhook hid h) fun verdict w h => ?_
    cases verdict with
    | some response => exact ⟨h.1, fun hok => .inl (h.2 response rfl hok)⟩
    | none =>
        refine Prog.wp_weaken (wp_stellarDepositHandler hbody h.1) (fun r w' h => ?_)
          (fun _ _ h => h)
        exact ⟨h.1, fun hok => .inr (h.2 hok)⟩
  · rw [hid]
    exact Prog.wp_call_world fun e _ => ⟨h.1.respond h.2 e, h.1.respond h.2 e⟩

end Delivery

/-- **An acknowledged deposit was handled.** For every sequence of deliveries by the monitor,
where the handler may throw or refuse at any point and anything may happen between them, as
long as no delivery comes within the life of an earlier id of its transaction unless one of its
deliveries has run to its end: every transaction with a 2xx answer has a delivery that ran the
handler to its end. -/
theorem acknowledged_was_handled (deps : Deps) (memoOf : Text → Text) {w₀ w : World}
    {o : Option (Api Unit)} (hids : ∀ key, w₀.webhookIds key = none) (hnone : w₀.responses = [])
    (h : Seq (apiMachine deps) (Spaced memoOf) (Delivers deps memoOf) w₀ w o) :
    Acknowledged memoOf w := by
  have hstart : Sound memoOf w₀ := by
    refine ⟨fun txHash r hr => ?_, fun key last hlast => ?_⟩
    · rw [hnone] at hr
      cases hr
    · rw [hids key] at hlast
      cases hlast
  refine (Seq.sound (I := Sound memoOf) (J := Sound memoOf) hstart (fun _ h => h) ?_
    h).1.acknowledged
  intro w w' p hw hdelivers
  obtain ⟨houtside, hresponses, secret, seconds, event, hmemo, rfl⟩ := hdelivers
  have hw' : Sound memoOf w' := hw.congr houtside.1 hresponses
  exact ⟨hw', wp_depositEndpoint rfl (by rw [← hmemo]; rfl) hw'⟩

/-! A challenge of 100 USDC waits for its deposit, which has arrived. -/

def exampleEvent : DepositEvent :=
  ⟨exampleTxHash, "100".toList, exampleMemo, "GHOT".toList, 1000, "2023-11-14".toList⟩

def exampleDelivery : Api Unit :=
  depositEndpoint exampleDeps (depositRequest exampleDeps "whsec".toList 1700000000 exampleEvent)

def World.pending : World :=
  { World.atRest with
    challenges := ⟨[⟨"c1".toList, .pendingDeposit, 1000000000, some exampleMemo, none, false⟩],
      List.pairwise_singleton _ _, List.pairwise_singleton _ _, List.pairwise_singleton _ _⟩
    deposits := [⟨exampleTxHash, exampleMemo, 1000000000⟩] }

/-- Some time passes, and the deposit is delivered. -/
theorem delivers_example (w : World) (millis : Nat) :
    Delivers exampleDeps (fun _ => exampleMemo) w { w with clock := w.clock + millis }
      exampleDelivery :=
  ⟨⟨rfl, Nat.le_add_right _ _⟩, rfl, "whsec".toList, 1700000000, exampleEvent, rfl, rfl⟩

/-- Delivered once, and nothing fails. -/
def World.delivered : World := (exampleDelivery.run (apiMachine exampleDeps) (fun _ => calm)
  World.pending).2

theorem delivered_acknowledged :
    World.delivered.responses.map (·.response) = [⟨200, .activated "c1".toList⟩] ∧
      Acknowledged (fun _ => exampleMemo) World.delivered := by
  refine ⟨by decide +kernel, ?_⟩
  have hstart : Seq (apiMachine exampleDeps) (Spaced fun _ => exampleMemo)
      (Delivers exampleDeps fun _ => exampleMemo) World.pending World.pending
      (some exampleDelivery) :=
    Seq.init.start (delivers_example World.pending 0)
  exact acknowledged_was_handled exampleDeps (fun _ => exampleMemo) (fun _ => rfl) rfl
    (hstart.runOk (s := fun _ => calm) (by decide +kernel))

/-- The database is away when the handler makes its first query. -/
def lostConnection (n : Nat) : Env :=
  if n = 5 then { calm with fault := some ⟨Err.new "Connection terminated".toList, false⟩ }
  else calm

/-- The state after that delivery. -/
def World.failed : World :=
  (exampleDelivery.run (apiMachine exampleDeps) lostConnection World.pending).2

/-- Five seconds later the next poll delivers again. -/
def World.redelivered : World :=
  (exampleDelivery.run (apiMachine exampleDeps) (fun _ => calm)
    { World.failed with clock := World.failed.clock + 5000 }).2

theorem redelivered_history :
    Seq (apiMachine exampleDeps) (fun _ _ _ => True) (Delivers exampleDeps fun _ => exampleMemo)
      World.pending World.redelivered none := by
  have hfirst : Seq (apiMachine exampleDeps) (fun _ _ _ => True)
      (Delivers exampleDeps fun _ => exampleMemo) World.pending World.failed none :=
    (Seq.init.start (delivers_example World.pending 0)).run (s := lostConnection)
      fun _ _ _ => trivial
  exact (hfirst.start (delivers_example World.failed 5000)).run (s := fun _ => calm)
    fun _ _ _ => trivial

theorem redelivered_responses :
    World.redelivered.responses.map (fun r => (r.webhookId, r.response)) =
      [(some (depositWebhookId exampleTxHash), .error 500 "Internal Server Error"),
        (some (depositWebhookId exampleTxHash), ⟨200, .status "duplicate".toList⟩)] := by
  decide +kernel

/-- The second delivery is answered 200, and no delivery was handled. -/
theorem failed_delivery_acknowledged :
    ¬ ∀ w o, Seq (apiMachine exampleDeps) (fun _ _ _ => True)
      (Delivers exampleDeps fun _ => exampleMemo) World.pending w o →
        Acknowledged (fun _ => exampleMemo) w := by
  intro h
  have hack := h _ _ redelivered_history
  -- the second response is 2xx
  have hmem :
      (some (depositWebhookId exampleTxHash), Response.mk 200 (.status "duplicate".toList)) ∈
        World.redelivered.responses.map (fun r => (r.webhookId, r.response)) := by
    rw [redelivered_responses]
    exact List.mem_cons_of_mem _ List.mem_cons_self
  obtain ⟨r, hr, heq⟩ := List.mem_map.mp hmem
  obtain ⟨hid, hresponse⟩ := Prod.mk.inj heq
  obtain ⟨r', hr', -, hcompleted, -⟩ := hack exampleTxHash r hr hid (by rw [hresponse]; rfl)
  -- but neither is one of the handler's own
  have hmem' := List.mem_map_of_mem (f := fun r : Responded => (r.webhookId, r.response)) hr'
  rw [redelivered_responses] at hmem'
  rcases List.mem_pair.mp hmem' with heq | heq
  · rw [(Prod.mk.inj heq).2] at hcompleted
    cases hcompleted
  · rw [(Prod.mk.inj heq).2] at hcompleted
    revert hcompleted
    decide +kernel

end BrandBlitz.Deposit

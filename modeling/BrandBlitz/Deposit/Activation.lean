import BrandBlitz.Deposit.Monitor

/-!
# BrandBlitz.Deposit.Activation

**From memo to activation.** A generated memo goes through three components: the monitor's
validator, the monitor's delivery and the schema of the webhook. The first two pass it on
unchanged. The schema asks for a UUID, which has 36 characters, and a generated memo has 24; so
the handler refuses every delivery that carries one, before it looks at any row.
-/

namespace BrandBlitz.Deposit

open BrandBlitz.Lib BrandBlitz.Payout

/-- The memo reaches the webhook as it was generated. -/
structure MemoSurvives (deps : Deps) (randomBytes : Vector UInt8 18) : Prop where
  validated : validateDepositMemo (some (generateDepositMemo randomBytes)) =
    .valid (generateDepositMemo randomBytes)
  fetched : ∀ hotWalletAddress (t : Monitor.RpcEvent), t.hasDate = true →
    ∃ event, Monitor.depositEvent? hotWalletAddress t
      ⟨.success, some (generateDepositMemo randomBytes)⟩ = some event ∧
        event.memo = generateDepositMemo randomBytes
  sent : ∀ secret seconds (event : DepositEvent), event.memo = generateDepositMemo randomBytes →
    (depositRequest deps secret seconds event).body =
      some ⟨generateDepositMemo randomBytes, event.txHash, some event.amount⟩

/-- The memo reaches the webhook, the schema accepts it, and a deposit with it activates exactly
the pending challenge that has it, if the wallet covers the pool. -/
structure MemoActivates (deps : Deps) (randomBytes : Vector UInt8 18) : Prop
    extends MemoSurvives deps randomBytes where
  accepted : ∀ txHash amount, isHex64 txHash = true → isAmountText amount = true →
    depositWebhookSchema deps (some ⟨generateDepositMemo randomBytes, txHash, some amount⟩) =
      .ok ⟨generateDepositMemo randomBytes, txHash, some amount⟩
  activates : ∀ (w : World) (c : Challenge) (req : Request) txHash amount,
    w.challenges.byMemo (generateDepositMemo randomBytes) = some c → c.status = .pendingDeposit →
    c.poolAmountStroops ≤ w.balance → (∀ c ∈ w.challenges.rows, c.depositTxHash ≠ some txHash) →
    w.payoutTx txHash = false → isHex64 txHash = true → isAmountText amount = true →
    req.body = some ⟨generateDepositMemo randomBytes, txHash, some amount⟩ →
    ((stellarDepositHandler deps req).run (apiMachine deps) (fun _ => calm) w).2.challenges.rows =
      w.challenges.rows.map (Challenges.activateRow c.id txHash)

theorem generateDepositMemo_survives (deps : Deps) (randomBytes : Vector UInt8 18) :
    MemoSurvives deps randomBytes where
  validated := validate_generateDepositMemo randomBytes
  fetched hotWalletAddress t hdate := by
    have hmemo : Monitor.HasMemo (fun _ => some (generateDepositMemo randomBytes)) t :=
      ⟨_, validate_generateDepositMemo randomBytes⟩
    obtain ⟨event, hevent, hreports⟩ := Monitor.depositEvent?_reports hmemo hdate
    exact ⟨event, hevent, Option.some.inj hreports.2.1⟩
  sent secret seconds event hmemo := by
    rw [← hmemo]
    rfl

theorem length_of_hasUuidShape {text : Text} (h : hasUuidShape text = true) : text.length = 36 := by
  simp only [hasUuidShape, Bool.and_eq_true, decide_eq_true_eq] at h
  exact h.1

/-- A schema that asks for a UUID refuses every generated memo. -/
theorem depositWebhookSchema_generated {deps : Deps}
    (huuid : ∀ text, deps.uuid text = true → hasUuidShape text = true)
    (randomBytes : Vector UInt8 18) {body : DepositBody}
    (hmemo : body.memo = generateDepositMemo randomBytes) :
    depositWebhookSchema deps (some body) = .error zodError := by
  have hrefused : deps.uuid body.memo = false := by
    cases haccepted : deps.uuid body.memo with
    | false => rfl
    | true =>
        have hlength := length_of_hasUuidShape (huuid _ haccepted)
        rw [hmemo, length_generateDepositMemo] at hlength
        cases hlength
  simp [depositWebhookSchema, hrefused]

/-- **No generated memo can activate its challenge.** For all eighteen bytes: the memo is valid
and reaches the webhook unchanged, but the handler refuses every body that carries it. -/
theorem generated_memo_never_activates (deps : Deps)
    (huuid : ∀ text, deps.uuid text = true → hasUuidShape text = true)
    (randomBytes : Vector UInt8 18) :
    MemoSurvives deps randomBytes ∧ ¬ MemoActivates deps randomBytes ∧
      ∀ req body, req.body = some body → body.memo = generateDepositMemo randomBytes →
        stellarDepositHandler deps req = .raise zodError := by
  refine ⟨generateDepositMemo_survives deps randomBytes, fun h => ?_,
    fun req body hbody hmemo => ?_⟩
  · have haccepted := h.accepted exampleTxHash "100".toList (by decide +kernel) (by decide +kernel)
    rw [depositWebhookSchema_generated huuid randomBytes rfl] at haccepted
    cases haccepted
  · rw [stellarDepositHandler, hbody, depositWebhookSchema_generated huuid randomBytes hmemo]
    rfl

/-- The bytes `0, 1, …, 17`. -/
def countingBytes : Vector UInt8 18 := Vector.ofFn fun i => UInt8.ofNat i

example : generateDepositMemo countingBytes = "AAECAwQFBgcICQoLDA0ODxAR".toList := by decide +kernel

theorem counting_memo_survives :
    MemoSurvives exampleDeps countingBytes ∧ ¬ MemoActivates exampleDeps countingBytes :=
  have h := generated_memo_never_activates exampleDeps (fun _ h => h) countingBytes
  ⟨h.1, h.2.1⟩

theorem counting_memo_refused : ¬ MemoActivates exampleDeps countingBytes := by
  intro h
  have haccepted := h.accepted exampleTxHash "100".toList (by decide +kernel) (by decide +kernel)
  rw [depositWebhookSchema_generated (fun _ h => h) countingBytes rfl] at haccepted
  cases haccepted

end BrandBlitz.Deposit

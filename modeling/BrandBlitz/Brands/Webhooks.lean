import BrandBlitz.Lib.Attempts
import BrandBlitz.Paging.Cursor
import BrandBlitz.Stellar.Client

/-!
# BrandBlitz.Brands.Webhooks

**The delivery of a webhook**: `sendWebhookRequestWithRetry` of
`apps/api/src/services/brand-webhooks.ts`.

* A request and the reading of its body are one operation, which ends in one of three ways
  (`HttpOutcome`). The waits between the requests are not represented.
* A body is a list of UTF-16 code units. What is kept of it has no U+0000: PostgreSQL takes none
  into a `TEXT` (22021), the `UPDATE` would throw, and the row would stay `pending`.
* HMAC-SHA256, in hexadecimal, is a parameter.

Some of the four variables of the loop keep what an earlier request left in them
(`delivery_tells_truth_iff`).
-/

namespace BrandBlitz.Brands

open BrandBlitz.Lib
open BrandBlitz.Paging (Uuid Timestamp)

/-! ### Requests and rows -/

structure WebhookRequest where
  url : Text
  /-- `X-BrandBlitz-Signature` -/
  signature : Text
  /-- `X-BrandBlitz-Event` -/
  event : Text
  body : Text
deriving DecidableEq, Repr

/-- How a request ends. -/
inductive HttpOutcome where
  | answered (status : Nat) (body : List UInt16)
  /-- the response arrived, and `res.text()` threw -/
  | unreadable (status : Nat) (message : Text)
  | noResponse (message : Text)
deriving DecidableEq, Repr

inductive DeliveryStatus where
  | pending | success | failed
deriving DecidableEq, Repr

/-- What is written to a row of `brand_webhook_deliveries`. -/
structure DeliveryUpdate where
  responseStatus : Option Nat
  responseBody : Option (List UInt16)
  errorMessage : Option Text
  attempts : Nat
  status : DeliveryStatus
  deliveredAt : Option Timestamp
deriving DecidableEq, Repr

inductive WebhookOp where
  | request (req : WebhookRequest)
  | update (deliveryId : Uuid) (row : DeliveryUpdate)
deriving DecidableEq, Repr

abbrev webhookSig : Sig where
  Op := WebhookOp
  Ans
    | .request _ => HttpOutcome
    | .update .. => Unit

/-! ### The function -/

/-- `res.ok`. -/
def isOk (status : Nat) : Bool := 200 ≤ status && status ≤ 299

/-- The variables of the loop. -/
structure Progress where
  attempt : Nat
  success : Bool
  responseStatus : Option Nat
  responseBody : Option (List UInt16)
  errorMessage : Option Text
deriving DecidableEq, Repr

def Progress.initial : Progress := ⟨0, false, none, none, none⟩

/-- One round of the loop. -/
def Progress.after (p : Progress) : HttpOutcome → Progress
  | .answered status body =>
    let p := { p with
      attempt := p.attempt + 1
      responseStatus := some status
      responseBody := some (body.take 1000) }
    if isOk status then { p with success := true }
    else { p with errorMessage := some ("HTTP error status ".toList ++ Nat.toDigits 10 status) }
  | .unreadable status message =>
    { p with
      attempt := p.attempt + 1
      responseStatus := some status
      errorMessage := some message }
  | .noResponse message => { p with attempt := p.attempt + 1, errorMessage := some message }

def Progress.update (p : Progress) (now : Timestamp) : DeliveryUpdate where
  responseStatus := p.responseStatus
  responseBody := p.responseBody
  errorMessage := p.errorMessage
  attempts := p.attempt
  status := if p.success then .success else .failed
  deliveredAt := if p.success then some now else none

/-- The loop, while attempts are left, and the `UPDATE` after it. -/
def requestLoop (deliveryId : Uuid) (req : WebhookRequest) (now : Timestamp) :
    Nat → Progress → Prog webhookSig Err Unit
  | 0, p => Prog.call (S := webhookSig) (.update deliveryId (p.update now))
  | left + 1, p =>
    if p.success then Prog.call (S := webhookSig) (.update deliveryId (p.update now))
    else do
      let outcome ← Prog.call (S := webhookSig) (.request req)
      requestLoop deliveryId req now left (p.after outcome)

/-- What each attempt sends. -/
def webhookRequest (hmacSha256 : Text → Text → Text) (url secret eventType payloadStr : Text) :
    WebhookRequest where
  url := url
  signature := "sha256=".toList ++ hmacSha256 secret payloadStr
  event := eventType
  body := payloadStr

def sendWebhookRequestWithRetry (hmacSha256 : Text → Text → Text) (deliveryId : Uuid)
    (url secret eventType payloadStr : Text) (now : Timestamp) (maxAttempts : Nat := 3) :
    Prog webhookSig Err Unit :=
  requestLoop deliveryId (webhookRequest hmacSha256 url secret eventType payloadStr) now
    maxAttempts .initial

/-! ### The outside -/

/-- What was sent and what was written. -/
structure WebhookWorld where
  requests : List WebhookRequest
  updates : List (Uuid × DeliveryUpdate)
deriving DecidableEq, Repr

/-- The environment gives the outcomes of the requests. -/
def webhookMachine : Machine webhookSig Err WebhookWorld HttpOutcome where
  exec outcome op w :=
    match op with
    | .request req => (.ok outcome, { w with requests := w.requests ++ [req] })
    | .update deliveryId row => (.ok (), { w with updates := w.updates ++ [(deliveryId, row)] })

/-! ### What a request leaves -/

/-- A 2xx whose body was read. -/
def HttpOutcome.isSuccess : HttpOutcome → Bool
  | .answered status _ => isOk status
  | _ => false

def HttpOutcome.status : HttpOutcome → Option Nat
  | .answered status _ | .unreadable status _ => some status
  | .noResponse _ => none

/-- As much of the body as is kept. -/
def HttpOutcome.body : HttpOutcome → Option (List UInt16)
  | .answered _ body => some (body.take 1000)
  | _ => none

section
variable {p : Progress} {outcome : HttpOutcome}

theorem after_answered (status : Nat) (body : List UInt16) :
    p.after (.answered status body) =
      { attempt := p.attempt + 1
        success := isOk status || p.success
        responseStatus := some status
        responseBody := some (body.take 1000)
        errorMessage :=
          if isOk status then p.errorMessage
          else some ("HTTP error status ".toList ++ Nat.toDigits 10 status) } := by
  show (if isOk status = true then _ else _ : Progress) = _
  split
  next hok => simp [hok]
  next hok => simp [hok]

@[simp] theorem after_attempt : (p.after outcome).attempt = p.attempt + 1 := by
  cases outcome with
  | answered status body => rw [after_answered]
  | unreadable status message => rfl
  | noResponse message => rfl

theorem after_success (hp : p.success = false) :
    (p.after outcome).success = outcome.isSuccess := by
  cases outcome with
  | answered status body => rw [after_answered, hp, Bool.or_false, HttpOutcome.isSuccess]
  | unreadable status message => exact hp
  | noResponse message => exact hp

/-- A response that arrived is kept, else the one before. -/
theorem after_responseStatus :
    (p.after outcome).responseStatus = outcome.status.or p.responseStatus := by
  cases outcome with
  | answered status body => rw [after_answered]; rfl
  | unreadable status message => rfl
  | noResponse message => rfl

theorem after_responseBody :
    (p.after outcome).responseBody = outcome.body.or p.responseBody := by
  cases outcome with
  | answered status body => rw [after_answered]; rfl
  | unreadable status message => rfl
  | noResponse message => rfl

/-- A success leaves the message alone. -/
theorem after_errorMessage_eq_none : (p.after outcome).errorMessage = none ↔
    outcome.isSuccess = true ∧ p.errorMessage = none := by
  cases outcome with
  | answered status body =>
      rw [after_answered, HttpOutcome.isSuccess]
      simp only
      split
      next hok => simp [hok]
      next hok => simp only [hok, reduceCtorEq, false_and]
  | unreadable status message => simp [Progress.after, HttpOutcome.isSuccess]
  | noResponse message => simp [Progress.after, HttpOutcome.isSuccess]

end

/-! ### The variables after some requests -/

/-- The variables after the first `k` requests. -/
def progressAfter (p : Progress) (outcomes : Nat → HttpOutcome) : Nat → Progress
  | 0 => p
  | k + 1 => (progressAfter p outcomes k).after (outcomes k)

section
variable {p : Progress} {outcomes : Nat → HttpOutcome} {k : Nat}

theorem progressAfter_succ_left :
    progressAfter p outcomes (k + 1) =
      progressAfter (p.after (outcomes 0)) (fun n => outcomes (n + 1)) k := by
  induction k with
  | zero => rfl
  | succ k ih => exact congrArg (Progress.after · (outcomes (k + 1))) ih

theorem progressAfter_attempt : (progressAfter p outcomes k).attempt = p.attempt + k := by
  induction k with
  | zero => rfl
  | succ k ih => rw [progressAfter, after_attempt, ih, Nat.add_assoc]

theorem progressAfter_success (hp : p.success = false)
    (h : ∀ i < k, (outcomes i).isSuccess = false) :
    (progressAfter p outcomes k).success = false := by
  induction k with
  | zero => exact hp
  | succ k ih =>
      rw [progressAfter, after_success (ih fun i hi => h i (Nat.lt_succ_of_lt hi))]
      exact h k (Nat.lt_succ_self k)

/-- What some requests leave and others keep is empty if none of them left anything. -/
theorem progressAfter_eq_none {β : Type} {kept : Progress → Option β}
    {leaves : HttpOutcome → Option β}
    (hafter : ∀ p outcome, kept (p.after outcome) = (leaves outcome).or (kept p)) :
    kept (progressAfter p outcomes k) = none ↔
      kept p = none ∧ ∀ i < k, leaves (outcomes i) = none := by
  induction k with
  | zero => simp [progressAfter]
  | succ k ih =>
      rw [progressAfter, hafter, Option.or_eq_none_iff, ih, Nat.forall_lt_succ_right]
      tauto

theorem progressAfter_errorMessage :
    (progressAfter p outcomes k).errorMessage = none ↔
      p.errorMessage = none ∧ ∀ i < k, (outcomes i).isSuccess = true := by
  induction k with
  | zero => simp [progressAfter]
  | succ k ih =>
      rw [progressAfter, after_errorMessage_eq_none, ih, Nat.forall_lt_succ_right]
      tauto

end

/-! ### The loop -/

/-- Where the requests may end: with a success, or when there have been as many as there may be. -/
def lastRequests (maxAttempts : Nat) (outcomes : Nat → HttpOutcome) : Set Nat :=
  lastAttempts maxAttempts fun n => (outcomes n).isSuccess = true

section
variable {deliveryId : Uuid} {req : WebhookRequest} {now : Timestamp} {left k : Nat}
  {outcomes : Nat → HttpOutcome}

theorem run_requestLoop_succ {p : Progress} {w : WebhookWorld} (hp : p.success = false) :
    (requestLoop deliveryId req now (left + 1) p).run webhookMachine outcomes w =
      (requestLoop deliveryId req now left (p.after (outcomes 0))).run webhookMachine
        (fun n => outcomes (n + 1)) { w with requests := w.requests ++ [req] } := by
  rw [requestLoop, hp]
  rfl

theorem run_requestLoop_end {p : Progress} {w : WebhookWorld} (h : left = 0 ∨ p.success = true) :
    (requestLoop deliveryId req now left p).run webhookMachine outcomes w =
      (.ok (), { w with updates := w.updates ++ [(deliveryId, p.update now)] }) := by
  cases left with
  | zero => rfl
  | succ left =>
      rw [requestLoop, if_pos (h.resolve_left (Nat.succ_ne_zero left))]
      rfl

/-- What a run of the loop sends and writes. -/
theorem run_requestLoop (deliveryId : Uuid) (req : WebhookRequest) (now : Timestamp) (left : Nat) :
    ∀ (p : Progress) (outcomes : Nat → HttpOutcome) (w : WebhookWorld), p.success = false → ∃ k,
      IsLeast (lastRequests (left + 1) outcomes) k ∧
      (requestLoop deliveryId req now (left + 1) p).run webhookMachine outcomes w =
        (.ok (), ⟨w.requests ++ List.replicate k req,
          w.updates ++ [(deliveryId, (progressAfter p outcomes k).update now)]⟩) := by
  induction left with
  | zero =>
      intro p outcomes w hp
      refine ⟨1, isLeast_lastAttempts_one (.inl rfl), ?_⟩
      rw [run_requestLoop_succ hp, run_requestLoop_end (.inl rfl)]
      rfl
  | succ left ih =>
      intro p outcomes w hp
      have hsuccess : (p.after (outcomes 0)).success = (outcomes 0).isSuccess := after_success hp
      rw [run_requestLoop_succ hp]
      cases hfirst : (outcomes 0).isSuccess with
      | true =>
          refine ⟨1, isLeast_lastAttempts_one (.inr hfirst), ?_⟩
          rw [run_requestLoop_end (.inr (hsuccess.trans hfirst))]
          rfl
      | false =>
          obtain ⟨k, hleast, hrun⟩ := ih (p.after (outcomes 0)) (fun n => outcomes (n + 1))
            { w with requests := w.requests ++ [req] } (hsuccess.trans hfirst)
          have hfailed : ¬(outcomes 0).isSuccess = true := by
            rw [hfirst]
            exact Bool.false_ne_true
          refine ⟨k + 1, isLeast_lastAttempts_succ hfailed hleast, ?_⟩
          rw [hrun, List.append_assoc, progressAfter_succ_left]
          rfl

end

/-! ### What the row says -/

/-- The row is about the last of `k` requests. -/
structure TellsTruth (row : DeliveryUpdate) (k : Nat) (outcomes : Nat → HttpOutcome) : Prop where
  attempts : row.attempts = k
  success : row.status = .success ↔ (outcomes (k - 1)).isSuccess = true
  message : row.errorMessage = none ↔ row.status = .success
  responseStatus : row.responseStatus = (outcomes (k - 1)).status
  responseBody : row.responseBody = (outcomes (k - 1)).body

/-- The last of `k` requests leaves no variable as an earlier one left it. -/
def LeavesNothingOld (outcomes : Nat → HttpOutcome) (k : Nat) : Prop :=
  match outcomes (k - 1) with
  | .answered status _ => isOk status = true → k = 1
  | .unreadable _ _ => ∀ i < k - 1, (outcomes i).body = none
  | .noResponse _ => ∀ i < k - 1, (outcomes i).status = none

theorem body_eq_none_of_status {outcome : HttpOutcome} (h : outcome.status = none) :
    outcome.body = none := by
  cases outcome with
  | answered status body => cases h
  | unreadable status message => rfl
  | noResponse message => rfl

section
variable {outcomes : Nat → HttpOutcome} {n : Nat}

theorem update_status {p : Progress} {now : Timestamp} :
    (p.update now).status = .success ↔ p.success = true := by
  unfold Progress.update
  cases p.success with
  | true => simp
  | false => simp

/-- The attempts and the status are always right; the rest is, if nothing old is left. -/
theorem tellsTruth_iff (now : Timestamp) (hfail : ∀ i < n, (outcomes i).isSuccess = false) :
    TellsTruth ((progressAfter .initial outcomes (n + 1)).update now) (n + 1) outcomes ↔
      LeavesNothingOld outcomes (n + 1) := by
  have hattempt : (progressAfter .initial outcomes (n + 1)).attempt = n + 1 := by
    rw [progressAfter_attempt, Progress.initial, Nat.zero_add]
  have hsuccess : (progressAfter .initial outcomes (n + 1)).success = (outcomes n).isSuccess :=
    after_success (progressAfter_success rfl hfail)
  -- the message is that of an earlier request if there was one
  have hmessage : (progressAfter .initial outcomes (n + 1)).errorMessage = none ↔
      (outcomes n).isSuccess = true ∧ n = 0 := by
    rw [progressAfter, after_errorMessage_eq_none, progressAfter_errorMessage]
    refine and_congr_right fun _ => ⟨fun h => ?_, ?_⟩
    · by_contra hn
      have hfirst := hfail 0 (Nat.pos_of_ne_zero hn)
      rw [h.2 0 (Nat.pos_of_ne_zero hn)] at hfirst
      cases hfirst
    · rintro rfl
      exact ⟨rfl, by simp⟩
  have hstatus : (progressAfter .initial outcomes n).responseStatus = none ↔
      ∀ i < n, (outcomes i).status = none :=
    (progressAfter_eq_none fun _ _ => after_responseStatus).trans (and_iff_right rfl)
  have hbody : (progressAfter .initial outcomes n).responseBody = none ↔
      ∀ i < n, (outcomes i).body = none :=
    (progressAfter_eq_none fun _ _ => after_responseBody).trans (and_iff_right rfl)
  have htold : TellsTruth ((progressAfter .initial outcomes (n + 1)).update now) (n + 1) outcomes ↔
      ((outcomes n).isSuccess = true → n = 0) ∧
        (outcomes n).status.or (progressAfter .initial outcomes n).responseStatus =
          (outcomes n).status ∧
        (outcomes n).body.or (progressAfter .initial outcomes n).responseBody =
          (outcomes n).body := by
    rw [← after_responseStatus, ← after_responseBody]
    constructor
    · intro htruth
      have hmark := htruth.message
      rw [update_status, hsuccess] at hmark
      exact ⟨fun hok => (hmessage.mp (hmark.mpr hok)).2, htruth.responseStatus,
        htruth.responseBody⟩
    · rintro ⟨hfirst, hres, hread⟩
      refine ⟨hattempt, ?_, ?_, hres, hread⟩
      · rw [update_status, hsuccess]
        rfl
      · rw [update_status, hsuccess]
        exact hmessage.trans (and_iff_left_of_imp hfirst)
  rw [htold, LeavesNothingOld, Nat.add_sub_cancel]
  cases outcomes n with
  | answered status body => simp [HttpOutcome.isSuccess, HttpOutcome.status, HttpOutcome.body]
  | unreadable status message =>
      simp [HttpOutcome.isSuccess, HttpOutcome.status, HttpOutcome.body, hbody]
  | noResponse message =>
      simp only [HttpOutcome.isSuccess, HttpOutcome.status, HttpOutcome.body, Option.none_or,
        hstatus, hbody, Bool.false_eq_true, false_implies, true_and]
      exact and_iff_left_of_imp fun h i hi => body_eq_none_of_status (h i hi)

end

/-- What is to hold of a delivery: the requests stop with the first success, and the row that is
written is about the last of them. -/
def IsRecorded (delivery : Prog webhookSig Err Unit) (deliveryId : Uuid) (req : WebhookRequest)
    (maxAttempts : Nat) (outcomes : Nat → HttpOutcome) : Prop :=
  ∃ k row, IsLeast (lastRequests maxAttempts outcomes) k ∧
    delivery.run webhookMachine outcomes ⟨[], []⟩ =
      (.ok (), ⟨List.replicate k req, [(deliveryId, row)]⟩) ∧
    TellsTruth row k outcomes

/-- **A delivery is recorded as it went** just when the last request leaves nothing old: a success
is the only request; a request without response comes after no response; one whose body was not
read comes after none whose body was. -/
theorem delivery_recorded_iff (hmacSha256 : Text → Text → Text) (deliveryId : Uuid)
    (url secret eventType payloadStr : Text) (now : Timestamp) {maxAttempts : Nat}
    (h : 1 ≤ maxAttempts) (outcomes : Nat → HttpOutcome) :
    IsRecorded
        (sendWebhookRequestWithRetry hmacSha256 deliveryId url secret eventType payloadStr now
          maxAttempts)
        deliveryId (webhookRequest hmacSha256 url secret eventType payloadStr) maxAttempts
        outcomes ↔
      ∀ k, IsLeast (lastRequests maxAttempts outcomes) k → LeavesNothingOld outcomes k := by
  obtain ⟨left, rfl⟩ := Nat.exists_eq_add_of_le' h
  obtain ⟨k, hleast, hrun⟩ := run_requestLoop deliveryId
    (webhookRequest hmacSha256 url secret eventType payloadStr) now left .initial outcomes ⟨[], []⟩
    rfl
  obtain ⟨n, rfl⟩ := Nat.exists_eq_add_of_le' (pos_of_mem_lastAttempts hleast.1)
  have hfail : ∀ i < n, (outcomes i).isSuccess = false := fun i hi =>
    Bool.eq_false_of_not_eq_true (not_ends_of_lt hleast (Nat.succ_lt_succ hi))
  have htruth := tellsTruth_iff now hfail
  constructor
  · rintro ⟨k, row, -, hrow, htold⟩ k' hk'
    obtain rfl := hleast.unique hk'
    have hsame := hrun.symm.trans hrow
    simp only [Prod.mk.injEq, WebhookWorld.mk.injEq, List.nil_append, List.cons.injEq, and_true,
      true_and] at hsame
    obtain ⟨hrequests, rfl⟩ := hsame
    have hk := congrArg List.length hrequests
    rw [List.length_replicate, List.length_replicate] at hk
    exact htruth.mp (hk ▸ htold)
  · intro hall
    exact ⟨n + 1, _, hleast, hrun, htruth.mpr (hall _ hleast)⟩

/-- A server that answers 503, with another body each time. -/
def busy (n : Nat) : HttpOutcome := .answered 503 [n.toUInt16]

/-- Three requests are made, and the row is about the third. -/
theorem three_attempts_recorded :
    ((sendWebhookRequestWithRetry (fun _ _ => []) 1 [] [] [] [] 0 3).run webhookMachine busy
      ⟨[], []⟩).2.requests.length = 3 ∧
    IsRecorded (sendWebhookRequestWithRetry (fun _ _ => []) 1 [] [] [] [] 0 3) 1
      (webhookRequest (fun _ _ => []) [] [] [] []) 3 busy :=
  ⟨by decide, (delivery_recorded_iff _ 1 [] [] [] [] 0 (by decide) busy).mpr
    fun _ _ hok => absurd hok (by decide)⟩

/-- A server that fails once. -/
def failsOnce : Nat → HttpOutcome
  | 0 => .answered 500 []
  | _ + 1 => .answered 200 []

/-- The second request succeeds, and the row has the error of the first. -/
theorem success_with_error :
    ¬ ∀ (hmacSha256 : Text → Text → Text) deliveryId url secret eventType payloadStr now
        maxAttempts outcomes, 1 ≤ maxAttempts →
      IsRecorded
        (sendWebhookRequestWithRetry hmacSha256 deliveryId url secret eventType payloadStr now
          maxAttempts)
        deliveryId (webhookRequest hmacSha256 url secret eventType payloadStr) maxAttempts
        outcomes := by
  intro hall
  obtain ⟨k, row, -, hrun, htruth⟩ := hall (fun _ _ => []) 1 [] [] [] [] 0 3 failsOnce (by decide)
  have hwritten : (⟨some 200, some [], some "HTTP error status 500".toList, 2, .success, some 0⟩ :
      DeliveryUpdate) = row := by
    have hupdates := congrArg (fun r => r.2.updates.map Prod.snd) hrun
    exact (List.cons.inj hupdates).1
  subst hwritten
  exact absurd (htruth.message.mpr rfl) (by simp)

end BrandBlitz.Brands

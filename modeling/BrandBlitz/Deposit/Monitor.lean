import BrandBlitz.Deposit.Delivery

/-!
# BrandBlitz.Deposit.Monitor

**The deposit monitor** (`poll` of `apps/deposit-monitor/src/index.ts` and `fetchDepositEvents` of
`packages/stellar/src/deposit.ts`). It asks an RPC node for the transfers to the hot wallet since
a stored ledger, looks up the memo of each, delivers those with a valid memo to the webhook and
then moves the stored ledger to the node's latest one.

Deposits are expected not to get lost: the cursor moves only when everything was processed. But
a page holds 200 events at most, whatever the latest ledger is, and an event whose transaction
cannot be looked up is skipped; in both cases the cursor moves past deposits that were never
delivered. `Thorough` is the condition on a move of the cursor under which none is lost.

* The node's ledgers close one by one, at any await.
* The memo belongs to the transaction, so it is a function of the hash (`memoOf`).
* `first`, `page` and `found` are there to state properties; nothing reads them.
-/

namespace BrandBlitz.Deposit.Monitor

open BrandBlitz.Lib BrandBlitz.Deposit

/-! ### Operations -/

/-- A transfer event of the hot wallet, as the node reports it. -/
structure RpcEvent where
  txHash : Text
  ledger : Nat
  /-- missing, or a date that `Date` may be unable to read, otherwise in ISO format -/
  ledgerClosedAt : Option (Option Text)
  /-- `event.value?.toString()` -/
  value : Option Text
deriving DecidableEq, Repr

inductive TxStatus where
  | success | failed | notFound
deriving DecidableEq, Repr

/-- What `getTransaction` tells of a transaction. -/
structure TxMeta where
  status : TxStatus
  /-- `memo?.text ?? null` -/
  memo : Option Text

/-- The answer to `getEvents`. -/
structure EventsPage where
  events : List RpcEvent
  latestLedger : Nat

/-- What a poll awaits. -/
inductive Op where
  | redisGet
  | getEvents (startLedger : Nat)
  | getTransaction (event : RpcEvent)
  /-- the request of `sendDepositWebhook`; its answer is the response's status -/
  | fetch (event : DepositEvent)
  | responseText
  | responseJson
  | redisSet (ledger : Nat)

abbrev monitorSig : Sig where
  Op := Op
  Ans
    | .redisGet => Option Nat
    | .getEvents _ => EventsPage
    | .getTransaction _ => TxMeta
    | .fetch _ => Nat
    | .responseText => Text
    | .responseJson => Unit
    | .redisSet _ => Unit

abbrev Mon (α : Type) := Prog monitorSig Err α

/-! ### The monitor -/

/-- The event to deliver, or `none` where the loop of `fetchDepositEvents` goes on: the
transaction did not succeed, the closing time is missing or unreadable, the memo is invalid. -/
def depositEvent? (hotWalletAddress : Text) (event : RpcEvent) (txMeta : TxMeta) :
    Option DepositEvent :=
  if txMeta.status ≠ .success then none
  else match event.ledgerClosedAt with
  | none => none
  | some closedAt =>
    match validateDepositMemo txMeta.memo with
    | .missing | .invalidFormat => none
    | .valid memo =>
      match closedAt with
      | none => none
      | some createdAt => some ⟨event.txHash, event.value.getD ['0'], memo, hotWalletAddress,
          event.ledger, createdAt⟩

/-- One turn of the loop; whatever is thrown in it is logged and skipped. -/
def readEvent (hotWalletAddress : Text) (event : RpcEvent) : Mon (Option DepositEvent) :=
  Prog.tryCatch (do
    let txMeta ← withRetry (Prog.call (S := monitorSig) (.getTransaction event))
      retryableStatusCodes 3
    return depositEvent? hotWalletAddress event txMeta) fun _ => .ret none

def readEvents (hotWalletAddress : Text) : List RpcEvent → List DepositEvent →
    Mon (List DepositEvent)
  | [], events => .ret events
  | event :: rest, events => do
    let read ← readEvent hotWalletAddress event
    readEvents hotWalletAddress rest (events ++ read.toList)

def fetchDepositEvents (hotWalletAddress : Text) (fromLedger : Nat) :
    Mon (List DepositEvent × Nat) := do
  let response ← withRetry (Prog.call (S := monitorSig) (.getEvents fromLedger))
    retryableStatusCodes 5
  let events ← readEvents hotWalletAddress response.events []
  return (events, response.latestLedger)

/-- `sendDepositWebhook`: throws unless the answer is 2xx and its body is readable. -/
def sendDepositWebhook (event : DepositEvent) : Mon Unit :=
  Prog.tryCatch (do
    let status ← Prog.call (S := monitorSig) (.fetch event)
    if !(200 ≤ status && status < 300) then
      let errorText ← Prog.call (S := monitorSig) .responseText
      .raise (Err.new ("Webhook failed with status ".toList ++ Nat.toDigits 10 status ++
        ": ".toList ++ errorText))
    else Prog.call (S := monitorSig) .responseJson) fun err => .raise err

/-- The delivery loop of `poll`: did every delivery go through? -/
def sendDeposits : List DepositEvent → Mon Bool
  | [] => .ret true
  | event :: rest => do
    let sent ← Prog.tryCatch (do sendDepositWebhook event; return true) fun _ => .ret false
    if sent then sendDeposits rest else return false

def poll (hotWalletAddress : Text) : Mon Unit :=
  Prog.tryCatch (do
    let lastLedger ← Prog.call (S := monitorSig) .redisGet
    let fromLedger := lastLedger.getD 0
    let (events, latestLedger) ← fetchDepositEvents hotWalletAddress fromLedger
    if fromLedger = 0 then Prog.call (S := monitorSig) (.redisSet latestLedger)
    else
      let sent ← sendDeposits events
      if sent && fromLedger < latestLedger then Prog.call (S := monitorSig) (.redisSet latestLedger)
      else return ()) fun _ => .ret ()

/-! ### The world -/

/-- The last page a poll was given, and what the node had for it. -/
structure Page where
  fromLedger : Nat
  events : List RpcEvent
  latestLedger : Nat
  /-- nothing was cut off -/
  complete : Bool

structure World where
  /-- all transfers to the hot wallet, in ledger order -/
  transfers : List RpcEvent
  latestLedger : Nat
  /-- the cursor in Redis -/
  lastLedger : Option Nat
  /-- the deliveries that were answered 2xx -/
  delivered : List DepositEvent
  /-- where the first poll put the cursor -/
  first : Option Nat
  page : Page
  /-- the transactions that were looked up since that page -/
  found : List RpcEvent

/-- What the environment contributes to one operation. -/
structure Env where
  /-- the transfers of each ledger that closes meanwhile -/
  closes : List (List RpcEvent)
  fault : Option Err
  /-- for a fault of `redisSet`: was the cursor stored all the same? -/
  applied : Bool
  txStatus : TxStatus
  httpStatus : Nat

/-- The next ledger closes. -/
def World.closeLedger (w : World) (events : List RpcEvent) : World :=
  { w with
    transfers := w.transfers ++
      events.map fun event => { event with ledger := w.latestLedger + 1 }
    latestLedger := w.latestLedger + 1 }

/-- Ledgers close, one after the other. -/
def World.close (w : World) (closes : List (List RpcEvent)) : World :=
  closes.foldl World.closeLedger w

/-- `redis.set(LAST_LEDGER_KEY, ledger)`. -/
def World.setCursor (w : World) (ledger : Nat) : World :=
  { w with
    lastLedger := some ledger
    first := if w.lastLedger.getD 0 = 0 then some ledger else w.first }

def pageLimit : Nat := 200

/-- The transfers at or after a ledger. -/
def World.since (w : World) (startLedger : Nat) : List RpcEvent :=
  w.transfers.filter (startLedger ≤ ·.ledger)

variable (memoOf : Text → Option Text)

/-- An operation that does not throw. -/
def perform (e : Env) : (op : Op) → World → monitorSig.Ans op × World
  | .redisGet, w => (w.lastLedger, w)
  | .getEvents startLedger, w =>
      let events := (w.since startLedger).take pageLimit
      (⟨events, w.latestLedger⟩, { w with
        page := ⟨startLedger, events, w.latestLedger, (w.since startLedger).length ≤ pageLimit⟩
        found := [] })
  | .getTransaction event, w =>
      (⟨e.txStatus, memoOf event.txHash⟩,
        if e.txStatus = .success then { w with found := w.found ++ [event] } else w)
  | .fetch event, w =>
      (e.httpStatus, if 200 ≤ e.httpStatus && e.httpStatus < 300 then
        { w with delivered := w.delivered ++ [event] } else w)
  | .responseText, w => ([], w)
  | .responseJson, w => ((), w)
  | .redisSet ledger, w => ((), w.setCursor ledger)

/-- Ledgers may close, and the operation throws or is performed. A call over the network that
throws had no effect. -/
def monitorMachine : Machine monitorSig Err World Env where
  exec e op w :=
    let w := w.close e.closes
    match e.fault with
    | none => (.ok (perform memoOf e op w).1, (perform memoOf e op w).2)
    | some err =>
      (.error err, match op with
        | .redisSet ledger => if e.applied then w.setCursor ledger else w
        | _ => w)

/-! ### What is expected -/

/-- The transfer carries a valid memo. -/
def HasMemo (t : RpcEvent) : Prop := ∃ memo, validateDepositMemo (memoOf t.txHash) = .valid memo

/-- Its closing time is there and readable. -/
def RpcEvent.hasDate (t : RpcEvent) : Bool := t.ledgerClosedAt.join.isSome

/-- The event is about the transfer. -/
def Reports (event : DepositEvent) (t : RpcEvent) : Prop :=
  event.txHash = t.txHash ∧ some event.memo = memoOf t.txHash ∧ event.ledger = t.ledger ∧
    event.amount = t.value.getD ['0']

/-- Every transfer with a valid memo, after the ledger of the first poll and up to the cursor,
was delivered. -/
def NoneLost (w : World) : Prop :=
  ∀ first last, w.first = some first → w.lastLedger = some last →
    ∀ t ∈ w.transfers, first < t.ledger → t.ledger ≤ last → HasMemo memoOf t →
      ∃ event ∈ w.delivered, Reports memoOf event t

/-- When the cursor moves on, the page had not been cut off, and every transfer of it with a
valid memo was looked up and has a readable closing time. -/
def Thorough (w : World) : Op → Env → Prop
  | .redisSet _, e => w.lastLedger.getD 0 ≠ 0 → e.fault = none ∨ e.applied = true →
      w.page.complete = true ∧ ∀ t ∈ w.page.events, HasMemo memoOf t →
        t ∈ w.found ∧ t.hasDate = true
  | _, _ => True

instance (t : RpcEvent) : Decidable (HasMemo memoOf t) :=
  match h : validateDepositMemo (memoOf t.txHash) with
  | .valid memo => .isTrue ⟨memo, h⟩
  | .missing => .isFalse (by rintro ⟨memo, hmemo⟩; cases h.symm.trans hmemo)
  | .invalidFormat => .isFalse (by rintro ⟨memo, hmemo⟩; cases h.symm.trans hmemo)

instance (w : World) : ∀ (op : Op) (e : Env), Decidable (Thorough memoOf w op e)
  | .redisSet _, _ => inferInstanceAs (Decidable (_ → _ ∨ _ → _ ∧ ∀ t ∈ w.page.events, _ → _ ∧ _))
  | .redisGet, _ | .getEvents _, _ | .getTransaction _, _ | .fetch _, _ | .responseText, _
  | .responseJson, _ => .isTrue trivial

/-! ### The invariant -/

/-- What holds at every await. -/
structure Sound (w : World) : Prop where
  noneLost : NoneLost memoOf w
  cursor : ∀ last, w.lastLedger = some last → last ≤ w.latestLedger
  page : w.page.latestLedger ≤ w.latestLedger
  /-- a page that was not cut off has all transfers of its ledgers -/
  complete : w.page.complete = true → ∀ t ∈ w.transfers, w.page.fromLedger ≤ t.ledger →
    t.ledger ≤ w.page.latestLedger → t ∈ w.page.events

variable {memoOf} {w w' : World}

/-- New transfers are in a ledger beyond the cursor and the page. -/
theorem Sound.closeLedger (h : Sound memoOf w) (events : List RpcEvent) :
    Sound memoOf (w.closeLedger events) := by
  have hnew : ∀ t ∈ (w.closeLedger events).transfers, t ∈ w.transfers ∨
      t.ledger = w.latestLedger + 1 := by
    intro t ht
    rcases List.mem_append.mp ht with hold | hnew
    · exact .inl hold
    · obtain ⟨event, -, rfl⟩ := List.mem_map.mp hnew
      exact .inr rfl
  refine ⟨fun first last hfirst hlast t ht hafter hupto hmemo => ?_, fun last hlast => ?_,
    Nat.le_succ_of_le h.page, fun hcomplete t ht hfrom hupto => ?_⟩
  · rcases hnew t ht with hold | hledger
    · exact h.noneLost first last hfirst hlast t hold hafter hupto hmemo
    · have := h.cursor last hlast
      omega
  · exact Nat.le_succ_of_le (h.cursor last hlast)
  · rcases hnew t ht with hold | hledger
    · exact h.complete hcomplete t hold hfrom hupto
    · have hpage : t.ledger ≤ w.page.latestLedger := hupto
      have := h.page
      omega

theorem Sound.close (h : Sound memoOf w) (closes : List (List RpcEvent)) :
    Sound memoOf (w.close closes) := by
  induction closes generalizing w with
  | nil => exact h
  | cons events closes ih => exact ih (h.closeLedger events)

/-- What the monitor keeps does not change. -/
theorem close_rest (w : World) (closes : List (List RpcEvent)) :
    (w.close closes).lastLedger = w.lastLedger ∧ (w.close closes).page = w.page ∧
      (w.close closes).found = w.found ∧ (w.close closes).delivered = w.delivered := by
  induction closes generalizing w with
  | nil => exact ⟨rfl, rfl, rfl, rfl⟩
  | cons events closes ih => exact ih (w.closeLedger events)

/-- Does the operation store the cursor? -/
def Op.setsCursor : Op → Bool
  | .redisSet _ => true
  | _ => false

theorem Sound.perform (h : Sound memoOf w) {op : Op} (hop : op.setsCursor = false) (e : Env) :
    Sound memoOf (perform memoOf e op w).2 := by
  cases op with
  | redisSet ledger => cases hop
  | getEvents startLedger =>
      refine ⟨h.noneLost, h.cursor, Nat.le_refl _, fun hcomplete t ht hfrom _ => ?_⟩
      have hlength : (w.since startLedger).length ≤ pageLimit := of_decide_eq_true hcomplete
      have hall : (w.since startLedger).take pageLimit = w.since startLedger :=
        List.take_of_length_le hlength
      simp only [Monitor.perform, hall]
      exact List.mem_filter.mpr ⟨ht, decide_eq_true hfrom⟩
  | getTransaction event =>
      simp only [Monitor.perform]
      split
      · exact ⟨h.noneLost, h.cursor, h.page, h.complete⟩
      · exact h
  | fetch event =>
      simp only [Monitor.perform]
      split
      · refine ⟨fun first last hfirst hlast t ht hafter hupto hmemo => ?_, h.cursor, h.page,
          h.complete⟩
        obtain ⟨event', hmem, hreports⟩ :=
          h.noneLost first last hfirst hlast t ht hafter hupto hmemo
        exact ⟨event', List.mem_append_left _ hmem, hreports⟩
      · exact h
  | _ => exact h

theorem Sound.exec (h : Sound memoOf w) {op : Op} (hop : op.setsCursor = false) (e : Env) :
    Sound memoOf ((monitorMachine memoOf).exec e op w).2 := by
  simp only [monitorMachine]
  split
  · exact (h.close e.closes).perform hop e
  · cases op with
    | redisSet ledger => cases hop
    | _ => exact h.close e.closes

/-! ### One poll -/

/-- Where a poll stands that found the cursor `c` and was given the page `p`: it has read the
events `events`, and those in `sent` were delivered. -/
structure Polling (memoOf : Text → Option Text) (c : Option Nat) (p : Page)
    (events sent : List DepositEvent) (w : World) : Prop where
  sound : Sound memoOf w
  cursor : w.lastLedger = c
  page : w.page = p
  /-- whatever was looked up and can be delivered was read -/
  read : ∀ t ∈ w.found, HasMemo memoOf t → t.hasDate = true →
    ∃ event ∈ events, Reports memoOf event t
  sent : ∀ event ∈ sent, event ∈ w.delivered

section Poll

variable {c : Option Nat} {p : Page} {events sent : List DepositEvent} {hotWalletAddress : Text}
  {R : Err → World → Prop}

/-- A transfer with a valid memo and a readable closing time is reported. -/
theorem depositEvent?_reports {t : RpcEvent} (hmemo : HasMemo memoOf t)
    (hdate : t.hasDate = true) :
    ∃ event, depositEvent? hotWalletAddress t ⟨.success, memoOf t.txHash⟩ = some event ∧
      Reports memoOf event t := by
  obtain ⟨memo, hmemo⟩ := hmemo
  obtain ⟨closedAt, hclosed⟩ := Option.isSome_iff_exists.mp hdate
  rw [Option.join_eq_some_iff] at hclosed
  refine ⟨⟨t.txHash, t.value.getD ['0'], memo, hotWalletAddress, t.ledger, closedAt⟩, ?_, rfl, ?_,
    rfl, rfl⟩
  · simp [depositEvent?, hclosed, hmemo]
  · exact (validateDepositMemo_valid hmemo).symm

theorem Polling.close (h : Polling memoOf c p events sent w) (closes : List (List RpcEvent)) :
    Polling memoOf c p events sent (w.close closes) := by
  obtain ⟨hcursor, hpage, hfound, hdelivered⟩ := close_rest w closes
  refine ⟨h.sound.close closes, hcursor.trans h.cursor, hpage.trans h.page, ?_, ?_⟩
  · rw [hfound]
    exact h.read
  · rw [hdelivered]
    exact h.sent

/-- A look-up that answers adds the event it found; one that throws changes nothing. -/
theorem wp_getTransaction {t : RpcEvent} (h : Polling memoOf c p events sent w) :
    (Prog.call (S := monitorSig) (.getTransaction t)).wp (monitorMachine memoOf) (Thorough memoOf)
      (Sound memoOf) (Prog.Ends (fun txMeta => Polling memoOf c p
        (events ++ (depositEvent? hotWalletAddress t txMeta).toList) sent)
        fun _ => Polling memoOf c p events sent) w := by
  refine Prog.wp_call fun e _ => ⟨h.sound.exec rfl e, ?_⟩
  have hclosed := h.close e.closes
  cases hfault : e.fault with
  | some err =>
      simp only [monitorMachine, hfault, Prog.Ends]
      exact hclosed
  | none =>
      simp only [monitorMachine, hfault, Prog.Ends, Monitor.perform]
      split
      · rename_i hsuccess
        rw [hsuccess]
        refine ⟨⟨hclosed.sound.noneLost, hclosed.sound.cursor, hclosed.sound.page,
          hclosed.sound.complete⟩, hclosed.cursor, hclosed.page, fun t' ht' hmemo hdate => ?_,
          hclosed.sent⟩
        rcases List.mem_append.mp ht' with hold | hnew
        · obtain ⟨event, hevent, hreports⟩ := hclosed.read t' hold hmemo hdate
          exact ⟨event, List.mem_append_left _ hevent, hreports⟩
        · rw [List.mem_singleton.mp hnew] at hmemo hdate ⊢
          obtain ⟨event, hevent, hreports⟩ := depositEvent?_reports hmemo hdate
          exact ⟨event, List.mem_append_right _ (by rw [hevent]; exact List.mem_cons_self),
            hreports⟩
      · rename_i hother
        have hskip : depositEvent? hotWalletAddress t ⟨e.txStatus, memoOf t.txHash⟩ = none := by
          simp [depositEvent?, hother]
        rw [hskip, Option.toList_none, List.append_nil]
        exact hclosed

theorem wp_readEvent {t : RpcEvent} (h : Polling memoOf c p events sent w) :
    (readEvent hotWalletAddress t).wp (monitorMachine memoOf) (Thorough memoOf) (Sound memoOf)
      (Prog.Ends (fun read => Polling memoOf c p (events ++ read.toList) sent) R) w := by
  unfold readEvent
  refine Prog.wp_tryCatch (P := fun _ => Polling memoOf c p events sent) ?_ fun _ w h => ?_
  · exact Prog.wp_bind (wp_withRetry _ (fun w h => wp_getTransaction h) 3 w h) fun _ w h => h
  · show Polling memoOf c p (events ++ []) sent w
    rwa [List.append_nil]

theorem wp_readEvents : ∀ (ts : List RpcEvent) {events : List DepositEvent} {w : World},
    Polling memoOf c p events sent w →
    (readEvents hotWalletAddress ts events).wp (monitorMachine memoOf) (Thorough memoOf)
      (Sound memoOf) (Prog.Ends (fun events => Polling memoOf c p events sent) R) w
  | [], _, _, h => h
  | _ :: rest, _, _, h => Prog.wp_bind (wp_readEvent h) fun _ _ h => wp_readEvents rest h

/-- The events of a page are read; the page itself is remembered. -/
theorem wp_fetchDepositEvents {fromLedger : Nat} (h : Sound memoOf w) (hc : w.lastLedger = c) :
    (fetchDepositEvents hotWalletAddress fromLedger).wp (monitorMachine memoOf) (Thorough memoOf)
      (Sound memoOf) (Prog.Ends (fun r w' => ∃ p, Polling memoOf c p r.1 [] w' ∧
        p.fromLedger = fromLedger ∧ p.latestLedger = r.2) fun _ => Sound memoOf) w := by
  unfold fetchDepositEvents
  refine Prog.wp_bind (P := fun response w' => ∃ p, Polling memoOf c p [] [] w' ∧
    p.fromLedger = fromLedger ∧ p.latestLedger = response.latestLedger) ?_ fun response w h => ?_
  · refine Prog.wp_weaken (wp_withRetry (R := fun w => Sound memoOf w ∧ w.lastLedger = c) _ ?_ 5 w
      ⟨h, hc⟩) (fun _ _ h => h) fun _ _ h => h.1
    intro w h
    refine Prog.wp_call fun e _ => ⟨h.1.exec rfl e, ?_⟩
    have hcursor : (w.close e.closes).lastLedger = c := (close_rest w e.closes).1.trans h.2
    cases hfault : e.fault with
    | some err =>
        simp only [monitorMachine, hfault, Prog.Ends]
        exact ⟨h.1.close e.closes, hcursor⟩
    | none =>
        simp only [monitorMachine, hfault, Prog.Ends]
        refine ⟨_, ⟨(h.1.close e.closes).perform rfl e, hcursor, rfl, fun t ht => ?_,
          fun event hevent => ?_⟩, rfl, rfl⟩
        · cases ht
        · cases hevent
  · obtain ⟨p, h, hfrom, hlatest⟩ := h
    exact Prog.wp_bind (wp_readEvents response.events h) fun events w h => ⟨p, h, hfrom, hlatest⟩

/-- The operations of a delivery touch neither the cursor nor what was read. -/
theorem Polling.exec {op : Op} (h : Polling memoOf c p events sent w)
    (hop : op = .responseText ∨ op = .responseJson) (e : Env) :
    Polling memoOf c p events sent ((monitorMachine memoOf).exec e op w).2 := by
  have hclosed := h.close e.closes
  rcases hop with rfl | rfl
  all_goals
    simp only [monitorMachine]
    split <;> exact hclosed

/-- A delivery that does not throw was answered 2xx. -/
theorem wp_sendDepositWebhook {event : DepositEvent} (h : Polling memoOf c p events sent w) :
    (sendDepositWebhook event).wp (monitorMachine memoOf) (Thorough memoOf) (Sound memoOf)
      (Prog.Ends (fun _ => Polling memoOf c p events (sent ++ [event]))
        fun _ => Polling memoOf c p events sent) w := by
  unfold sendDepositWebhook
  refine Prog.wp_tryCatch (P := fun _ => Polling memoOf c p events sent) ?_ fun _ _ h => h
  refine Prog.wp_bind (P := fun status w' => Polling memoOf c p events sent w' ∧
    (200 ≤ status && status < 300 → event ∈ w'.delivered)) ?_ fun status w h => ?_
  · refine Prog.wp_call fun e _ => ⟨h.sound.exec rfl e, ?_⟩
    have hclosed := h.close e.closes
    cases hfault : e.fault with
    | some err =>
        simp only [monitorMachine, hfault, Prog.Ends]
        exact hclosed
    | none =>
        have hsound : Sound memoOf (Monitor.perform memoOf e (.fetch event)
            (w.close e.closes)).2 := hclosed.sound.perform rfl e
        simp only [monitorMachine, hfault, Prog.Ends, Monitor.perform] at hsound ⊢
        split
        · rename_i hok
          rw [if_pos hok] at hsound
          refine ⟨⟨hsound, hclosed.cursor, hclosed.page, hclosed.read, fun event' hevent' => ?_⟩,
            fun _ => List.mem_append_right _ List.mem_cons_self⟩
          exact List.mem_append_left _ (hclosed.sent event' hevent')
        · rename_i hbad
          exact ⟨hclosed, fun hok => absurd hok hbad⟩
  · split
    · exact Prog.wp_bind (Prog.wp_call_world fun e _ => ⟨(h.1.exec (.inl rfl) e).sound,
        h.1.exec (.inl rfl) e⟩) fun _ _ h => h
    · rename_i hok
      have hsent : event ∈ w.delivered := h.2 (by simpa using hok)
      refine Prog.wp_weaken (Prog.wp_call_world (K := Polling memoOf c p events (sent ++ [event]))
        fun e _ => ?_) (fun _ _ h => h) fun _ w' h' => ?_
      · have hmore : Polling memoOf c p events (sent ++ [event]) w := by
          refine ⟨h.1.sound, h.1.cursor, h.1.page, h.1.read, fun event' hevent' => ?_⟩
          rcases List.mem_append.mp hevent' with hold | hnew
          · exact h.1.sent event' hold
          · rw [List.mem_singleton.mp hnew]
            exact hsent
        exact ⟨(hmore.exec (.inr rfl) e).sound, hmore.exec (.inr rfl) e⟩
      · -- the answer was 2xx, but its body could not be read
        exact ⟨h'.sound, h'.cursor, h'.page, h'.read, fun event' hevent' =>
          h'.sent event' (List.mem_append_left _ hevent')⟩

/-- The loop goes through only if every event was delivered. -/
theorem wp_sendDeposits : ∀ (todo : List DepositEvent) {sent : List DepositEvent} {w : World},
    Polling memoOf c p events sent w →
    (sendDeposits todo).wp (monitorMachine memoOf) (Thorough memoOf) (Sound memoOf)
      (Prog.Ends (fun ok w' => Sound memoOf w' ∧
        (ok = true → Polling memoOf c p events (sent ++ todo) w')) R) w
  | [], sent, w, h => ⟨h.sound, fun _ => by rwa [List.append_nil]⟩
  | event :: rest, sent, w, h => by
      refine Prog.wp_bind (P := fun ok w' => Polling memoOf c p events sent w' ∧
        (ok = true → Polling memoOf c p events (sent ++ [event]) w')) ?_ fun ok w h => ?_
      · refine Prog.wp_tryCatch (P := fun _ => Polling memoOf c p events sent) ?_
          fun _ _ h => ⟨h, fun hfalse => by cases hfalse⟩
        refine Prog.wp_bind (wp_sendDepositWebhook h) fun _ w h => ⟨?_, fun _ => h⟩
        exact ⟨h.sound, h.cursor, h.page, h.read, fun event' hevent' =>
          h.sent event' (List.mem_append_left _ hevent')⟩
      · split
        · rename_i hok
          have hrest := wp_sendDeposits rest (h.2 hok)
          rwa [List.append_assoc] at hrest
        · exact ⟨h.1.sound, fun hok => by cases hok⟩

/-- The first poll puts the cursor where nothing lies before it. -/
theorem Sound.setCursor_first (h : Sound memoOf w) (hfirst : w.lastLedger.getD 0 = 0) {ledger : Nat}
    (hledger : ledger ≤ w.latestLedger) : Sound memoOf (w.setCursor ledger) := by
  refine ⟨fun first last hf hl t _ hafter hupto => ?_, fun last hl => ?_, h.page, h.complete⟩
  · simp only [World.setCursor, if_pos hfirst, Option.some.injEq] at hf hl
    omega
  · cases hl
    exact hledger

/-- **The cursor moves over a page.** Up to the old cursor nothing was lost; from there on the
page has everything, and everything of it was delivered. -/
theorem Polling.setCursor (h : Polling memoOf c p events events w) (hmore : c.getD 0 ≠ 0)
    (hfrom : p.fromLedger = c.getD 0) (hcomplete : p.complete = true)
    (hfound : ∀ t ∈ p.events, HasMemo memoOf t → t ∈ w.found ∧ t.hasDate = true) :
    Sound memoOf (w.setCursor p.latestLedger) := by
  have hcursor := h.cursor
  have hpage := h.page
  refine ⟨fun first last hf hl t ht hafter hupto hmemo => ?_, fun last hl => ?_, h.sound.page,
    h.sound.complete⟩
  · cases hl
    simp only [World.setCursor, hcursor, if_neg hmore] at hf
    by_cases hold : t.ledger ≤ c.getD 0
    · obtain ⟨old, hc⟩ : ∃ old, c = some old := by
        cases c with
        | none => exact absurd rfl hmore
        | some old => exact ⟨old, rfl⟩
      rw [hc] at hold
      exact h.sound.noneLost first old hf (hcursor.trans hc) t ht hafter hold hmemo
    · have hmem : t ∈ p.events := by
        rw [← hpage]
        refine h.sound.complete (by rw [hpage, hcomplete]) t ht ?_ (by rw [hpage]; exact hupto)
        rw [hpage, hfrom]
        omega
      obtain ⟨hlooked, hdate⟩ := hfound t hmem hmemo
      obtain ⟨event, hevent, hreports⟩ := h.read t hlooked hmemo hdate
      exact ⟨event, h.sent event hevent, hreports⟩
  · cases hl
    rw [← hpage]
    exact h.sound.page

/-- Storing a cursor: thrown without effect, or stored. -/
theorem exec_redisSet (e : Env) (ledger : Nat) (w : World) :
    let done := ((monitorMachine memoOf).exec e (.redisSet ledger) w).2
    done = w.close e.closes ∨
      (e.fault = none ∨ e.applied = true) ∧ done = (w.close e.closes).setCursor ledger := by
  simp only [monitorMachine]
  cases hfault : e.fault with
  | none => exact .inr ⟨.inl rfl, rfl⟩
  | some err =>
      cases happlied : e.applied with
      | true => exact .inr ⟨.inr rfl, by simp⟩
      | false => exact .inl (by simp)

/-- **One poll** keeps the invariant. -/
theorem wp_poll (h : Sound memoOf w) :
    (poll hotWalletAddress).wp (monitorMachine memoOf) (Thorough memoOf) (Sound memoOf)
      (fun _ => Sound memoOf) w := by
  unfold poll
  refine Prog.wp_world (Prog.wp_tryCatch (P := fun _ => Sound memoOf) ?_ fun _ _ h => h)
  refine Prog.wp_bind (P := fun c w' => Sound memoOf w' ∧ w'.lastLedger = c) ?_ fun c w h => ?_
  · refine Prog.wp_call fun e _ => ⟨h.exec rfl e, ?_⟩
    have hclosed := h.close e.closes
    cases hfault : e.fault with
    | some err =>
        simp only [monitorMachine, hfault, Prog.Ends]
        exact hclosed
    | none =>
        simp only [monitorMachine, hfault, Prog.Ends]
        exact ⟨hclosed, rfl⟩
  refine Prog.wp_bind (wp_fetchDepositEvents h.1 h.2) fun r w h => ?_
  obtain ⟨p, h, hfrom, hlatest⟩ := h
  dsimp only
  -- the first poll only stores the cursor, a later one sends before
  split
  · rename_i hfirst
    refine Prog.wp_call_world fun e _ => ?_
    have hclosed := h.close e.closes
    rcases exec_redisSet e r.2 w with hsame | ⟨-, hset⟩
    · rw [hsame]
      exact ⟨hclosed.sound, hclosed.sound⟩
    · have hsound : Sound memoOf ((w.close e.closes).setCursor r.2) := by
        refine hclosed.sound.setCursor_first (by rw [hclosed.cursor, hfirst]) ?_
        rw [← hlatest, ← hclosed.page]
        exact hclosed.sound.page
      rw [hset]
      exact ⟨hsound, hsound⟩
  · rename_i hmore
    refine Prog.wp_bind (wp_sendDeposits r.1 h) fun ok w h => ?_
    split
    · rename_i hok
      have hsent := h.2 ((Bool.and_eq_true _ _).mp hok).1
      rw [List.nil_append] at hsent
      refine Prog.wp_call_world fun e hthorough => ?_
      have hclosed := hsent.close e.closes
      rcases exec_redisSet e r.2 w with hsame | ⟨happlies, hset⟩
      · rw [hsame]
        exact ⟨hclosed.sound, hclosed.sound⟩
      · obtain ⟨hcomplete, hfound⟩ := hthorough (by rw [hsent.cursor]; exact hmore) happlies
        rw [hsent.page] at hcomplete hfound
        have hsound : Sound memoOf ((w.close e.closes).setCursor p.latestLedger) := by
          refine hclosed.setCursor hmore hfrom hcomplete fun t ht hmemo => ?_
          rw [(close_rest w e.closes).2.2.1]
          exact hfound t ht hmemo
        rw [hset, ← hlatest]
        exact ⟨hsound, hsound⟩
    · exact h.1

end Poll

/-- After any number of ledgers, the monitor polls. -/
def Polls (hotWalletAddress : Text) (w w' : World) (p : Mon Unit) : Prop :=
  (∃ closes, w' = w.close closes) ∧ p = poll hotWalletAddress

/-- **No deposit is lost.** For every sequence of polls, with ledgers closing at any time and
any call to the node, to Redis or to the webhook failing, as long as every move of the cursor
is thorough: each transfer with a valid memo between the first cursor and the present one was
delivered and answered 2xx. -/
theorem no_deposit_lost (memoOf : Text → Option Text) (hotWalletAddress : Text) {w₀ w : World}
    {o : Option (Mon Unit)} (hcursor : w₀.lastLedger = none) (hpage : w₀.page.complete = false)
    (hlatest : w₀.page.latestLedger ≤ w₀.latestLedger)
    (h : Seq (monitorMachine memoOf) (Thorough memoOf) (Polls hotWalletAddress) w₀ w o) :
    NoneLost memoOf w := by
  have hstart : Sound memoOf w₀ := by
    refine ⟨fun first last _ hlast => ?_, fun last hlast => ?_, hlatest, fun hcomplete => ?_⟩
    · cases hcursor.symm.trans hlast
    · cases hcursor.symm.trans hlast
    · cases hpage.symm.trans hcomplete
  refine (Seq.sound (I := Sound memoOf) (J := Sound memoOf) hstart (fun _ h => h) ?_ h).1.noneLost
  intro w w' p hw hpolls
  obtain ⟨⟨closes, rfl⟩, rfl⟩ := hpolls
  exact ⟨hw.close closes, wp_poll (hw.close closes)⟩

/-! The first poll sets the cursor to ledger 10, and a deposit arrives in ledger 11. -/

def depositMemo (_ : Text) : Option Text := some "AQIDBAUGBwgJCgsMDQ4PEBES".toList

def theDeposit : RpcEvent := ⟨exampleTxHash, 11, some (some "2023-11-14".toList), some "100".toList⟩

def World.fresh : World := ⟨[], 10, none, [], none, ⟨0, [], 0, false⟩, []⟩

/-- Nothing fails. -/
def calm : Env := ⟨[], none, false, .success, 200⟩

def World.polled (w : World) (tape : Nat → Env) : World :=
  ((poll "GHOT".toList).run (monitorMachine depositMemo) tape w).2

theorem polls_history {G : World → Op → Env → Prop} {w w' : World} {s : Nat → Env}
    (h : Seq (monitorMachine depositMemo) G (Polls "GHOT".toList) World.fresh w none)
    (hcloses : ∃ closes, w' = w.close closes)
    (hok : (poll "GHOT".toList).runOk (monitorMachine depositMemo) G s w') :
    Seq (monitorMachine depositMemo) G (Polls "GHOT".toList) World.fresh (w'.polled s) none :=
  (h.start ⟨hcloses, rfl⟩).runOk hok

/-- Ledger 11 closes with the deposit after the first poll. -/
def World.deposited : World := (World.fresh.polled fun _ => calm).close [[theDeposit]]

/-- The second poll delivers it. -/
theorem second_poll_delivers :
    ((World.deposited.polled fun _ => calm).lastLedger = some 11 ∧
      (World.deposited.polled fun _ => calm).delivered.length = 1) ∧
        NoneLost depositMemo (World.deposited.polled fun _ => calm) := by
  refine ⟨by decide +kernel, ?_⟩
  have hfirst := polls_history (G := Thorough depositMemo) Seq.init ⟨[], rfl⟩
    (by decide +kernel : (poll "GHOT".toList).runOk _ _ (fun _ => calm) _)
  have hsecond := polls_history hfirst ⟨[[theDeposit]], rfl⟩
    (by decide +kernel : (poll "GHOT".toList).runOk _ _ (fun _ => calm) _)
  exact no_deposit_lost depositMemo "GHOT".toList rfl rfl (Nat.zero_le _) hsecond

/-- In the second poll the look-up of the transaction is refused. -/
def refused (n : Nat) : Env :=
  if n = 2 then { calm with fault := some (Err.new "bad gateway".toList) } else calm

/-- The cursor moves past the deposit all the same. -/
theorem refused_lookup_loses_deposit :
    ¬ ∀ w o, Seq (monitorMachine depositMemo) (fun _ _ _ => True) (Polls "GHOT".toList)
      World.fresh w o → NoneLost depositMemo w := by
  intro h
  have hfirst := polls_history (G := fun _ _ _ => True) (s := fun _ => calm) Seq.init ⟨[], rfl⟩
    (Prog.runOk_of_forall fun _ _ _ => trivial)
  have hsecond := polls_history (s := refused) hfirst ⟨[[theDeposit]], rfl⟩
    (Prog.runOk_of_forall fun _ _ _ => trivial)
  have hlost := h _ _ hsecond 10 11 (by decide +kernel) (by decide +kernel) theDeposit
    (by decide +kernel) (by decide) (by decide) (by decide +kernel)
  obtain ⟨event, hevent, -⟩ := hlost
  have hnone : (World.deposited.polled refused).delivered = [] := by decide +kernel
  change event ∈ (World.deposited.polled refused).delivered at hevent
  rw [hnone] at hevent
  cases hevent

end BrandBlitz.Deposit.Monitor

import BrandBlitz.Escrow.Contract
import BrandBlitz.Payout.Emission
import BrandBlitz.Payout.FraudGuard
import BrandBlitz.Payout.PaidOnce

/-!
# BrandBlitz.Payout.Settlement

**What a settlement marked as paid is worth.** `sendTransaction` answers before the network has
run the transaction. It is run later or never, and the contract may reject it then.
`EscrowClient.settle` returns on any answer but `ERROR`, and `processPayout` marks the rows at
once.

* `processPayout` runs here in a world that has the contract in it. Its `settle` runs
  `EscrowClient.settle`; every other operation is that of `payoutMachine`.
* Before each operation, also those inside `settle`, the network may run queued transactions,
  and anybody may call the contract.
* `returned`, `direct` and an `execution` are there to state properties; nothing reads them.
-/

namespace BrandBlitz.Payout

open BrandBlitz.Lib BrandBlitz.Stellar

/-! ### The network -/

/-- The run of a call of `settle`: what the host contributed, and in which state. -/
structure Execution (contract : Text) where
  host : Escrow.Host Text contract
  before : Escrow.State Text

/-- A call of `settle` that the network has taken in. -/
structure QueuedTx (contract : Text) where
  hash : Hash
  args : List (Text × Escrow.I128)
  execution : Option (Execution contract)

/-- Was the call made, and did it succeed? -/
def QueuedTx.Applied {contract : Text} (tx : QueuedTx contract) : Prop :=
  ∃ run after, tx.execution = some run ∧ Escrow.settle run.host tx.args run.before = .ok after

structure EscrowWorld (contract : Text) where
  books : World
  escrow : Escrow.State Text
  queue : List (QueuedTx contract)
  /-- the calls of `EscrowClient.settle` that returned -/
  returned : List (SettleTx Entry)
  /-- has anything been prepared for a direct payout? -/
  direct : Bool

/-- What happens on the network by itself. -/
inductive LedgerMove (contract : Text) where
  /-- a queued transaction is run -/
  | execute (hash : Hash) (host : Escrow.Host Text contract)
  | act (action : Escrow.Action Text contract)

variable {contract : Text}

namespace EscrowWorld

def move (w : EscrowWorld contract) : LedgerMove contract → EscrowWorld contract
  | .act action => { w with escrow := (action.perform w.escrow).1 }
  | .execute hash host =>
    match w.queue.find? fun tx => tx.hash = hash && tx.execution.isNone with
    | none => w
    | some tx =>
      { w with
        escrow := ((Escrow.Action.call host (.settle tx.args)).perform w.escrow).1
        queue := w.queue.map fun other =>
          if other.hash = hash then { other with execution := some ⟨host, w.escrow⟩ }
          else other }

def moves (w : EscrowWorld contract) (list : List (LedgerMove contract)) : EscrowWorld contract :=
  list.foldl move w

end EscrowWorld

/-! ### The client and the service -/

/-- The recipients as the contract receives them, unless an amount is no `i128`. -/
def settlementArgs (recipients : List (EscrowRecipient Entry)) :
    Option (List (Text × Escrow.I128)) :=
  recipients.mapM fun r =>
    (Signed.ofInt? 128 (toNumber r.amountStroops)).map fun amount => (r.address, amount)

/-- The network takes a transaction in, once. -/
def EscrowWorld.enqueue (w : EscrowWorld contract) (tx : SettleTx Entry) : EscrowWorld contract :=
  match settlementArgs tx.recipients with
  | none => w
  | some args =>
    if w.queue.any fun other => other.hash = tx.hash then w
    else { w with queue := w.queue ++ [⟨tx.hash, args, none⟩] }

inductive SorobanAnswer where
  /-- possibly after the transaction was taken in -/
  | throws (err : Err) (accepted : Bool)
  /-- with the sequence or the hash that was asked for, or with a status -/
  | answers (number : Nat) (status : SendStatus) (details : Text)

/-- What the world contributes to one operation of the client. -/
structure SorobanEnv (contract : Text) where
  moves : List (LedgerMove contract)
  answer : SorobanAnswer

def sorobanMachine :
    Machine (escrowSig Entry) Err (EscrowWorld contract) (SorobanEnv contract) where
  exec e op w :=
    let w := w.moves e.moves
    match e.answer with
    | .throws err accepted =>
      (.error err,
        match op with
        | .sendTransaction tx => if accepted then w.enqueue tx else w
        | _ => w)
    | .answers number status details =>
      match op with
      | .loadAccount => (.ok number, w)
      | .buildTransaction _ recipients =>
        if (settlementArgs recipients).isSome then (.ok number, w)
        else (.error (Err.new "invalid ScInt".toList), w)
      | .sendTransaction tx =>
        (.ok ⟨status, tx.hash, details⟩, if status = .pending then w.enqueue tx else w)

/-- The hash of a new transaction is new. `DUPLICATE` is said of one that was taken in before. -/
def sorobanGuard (w : EscrowWorld contract) (op : EscrowOp Entry) (e : SorobanEnv contract) :
    Prop :=
  match op, e.answer with
  | .buildTransaction _ _, .answers hash _ _ =>
    (∀ u row, w.books.payouts u = some row → row.txHash ≠ some hash) ∧
      ∀ tx ∈ w.queue, tx.hash ≠ hash
  | .sendTransaction tx, .answers _ .duplicate _ =>
    ∃ other ∈ (w.moves e.moves).queue, other.hash = tx.hash
  | _, _ => True

/-- What the world contributes to one operation of the service. -/
structure EscrowEnv (contract : Text) where
  moves : List (LedgerMove contract)
  books : Env
  soroban : Nat → SorobanEnv contract

def Op.isStellar : Op → Bool
  | .stellar _ => true
  | _ => false

def escrowMachine : Machine payoutSig Err (EscrowWorld contract) (EscrowEnv contract) where
  exec e op w :=
    let w := w.moves e.moves
    match op with
    | .settle recipients =>
      let (answer, w) := (EscrowClient.settle recipients).run sorobanMachine e.soroban w
      (answer,
        match answer with
        | .ok hash => { w with returned := w.returned ++ [⟨hash, recipients⟩] }
        | .error _ => w)
    | op =>
      let (answer, books) := payoutMachine.exec e.books op w.books
      (answer, { w with books := books, direct := w.direct || op.isStellar })

def escrowGuard (w : EscrowWorld contract) (op : Op) (e : EscrowEnv contract) : Prop :=
  match op with
  | .settle recipients =>
    (EscrowClient.settle recipients).runOk sorobanMachine sorobanGuard e.soroban (w.moves e.moves)
  | _ => True

/-! ### What is to hold -/

/-- The settlement was made, and paid exactly the rows that are marked with it: each user once,
the amount of the row at its address. -/
def EscrowWorld.Paid (w : EscrowWorld contract) (s : SettleTx Entry) : Prop :=
  ∃ tx ∈ w.queue, tx.hash = s.hash ∧ tx.Applied ∧
    ∃ users : List UserId, users.Nodup ∧
      (∀ u, u ∈ users ↔ ∃ row, w.books.payouts u = some row ∧ row.status = .sent ∧
        row.txHash = some s.hash) ∧
      (tx.args.map fun p => some (p.1, p.2.val)) = users.map fun u =>
        (w.books.payouts u).map fun row => (row.stellarAddress, (row.amountStroops : Int))

/-- While the escrow is the way: once the challenge is marked, the settlement is paid. -/
def PaidWhenSettled (w : EscrowWorld contract) : Prop :=
  w.direct = false → w.books.challenge.status = .settled → ∀ s ∈ w.returned, w.Paid s

/-- When a run marks the challenge, the network has run the settlement by then, in a state in
which the contract accepts it, and no amount was changed by `Number`. -/
def SettledInTime (w : EscrowWorld contract) (op : Op) (e : EscrowEnv contract) : Prop :=
  match op with
  | .updateChallengeStatus .settled _ =>
    w.direct = false → (e.books.dbFault.all fun fault => fault.applied) = true →
      ∀ s ∈ w.returned, (∀ r ∈ s.recipients, toNumber r.amountStroops = r.amountStroops) ∧
        ∃ tx ∈ (w.moves e.moves).queue, tx.hash = s.hash ∧
          ∃ run, tx.execution = some run ∧ Escrow.Accepts run.host tx.args run.before
  | _ => True

/-! ### What the network leaves alone -/

/-- The rest of the world is as it was. -/
structure SameService (w w' : EscrowWorld contract) : Prop where
  books : w'.books = w.books
  returned : w'.returned = w.returned
  direct : w'.direct = w.direct

theorem SameService.refl (w : EscrowWorld contract) : SameService w w := ⟨rfl, rfl, rfl⟩

theorem SameService.trans {w w' w'' : EscrowWorld contract} (h : SameService w w')
    (h' : SameService w' w'') : SameService w w'' :=
  ⟨h'.books.trans h.books, h'.returned.trans h.returned, h'.direct.trans h.direct⟩

theorem sameService_move (w : EscrowWorld contract) (m : LedgerMove contract) :
    SameService w (w.move m) := by
  cases m with
  | act action => exact ⟨rfl, rfl, rfl⟩
  | execute hash host =>
      simp only [EscrowWorld.move]
      split <;> exact ⟨rfl, rfl, rfl⟩

theorem sameService_moves (list : List (LedgerMove contract)) :
    ∀ w : EscrowWorld contract, SameService w (w.moves list) := by
  induction list with
  | nil => intro w; exact .refl w
  | cons m list ih => intro w; exact (sameService_move w m).trans (ih (w.move m))

theorem sameService_enqueue (w : EscrowWorld contract) (tx : SettleTx Entry) :
    SameService w (w.enqueue tx) := by
  unfold EscrowWorld.enqueue
  split
  · exact .refl w
  · split <;> exact ⟨rfl, rfl, rfl⟩

/-- What the network has of this transaction has its arguments. -/
def EscrowWorld.Carries (w : EscrowWorld contract) (tx : SettleTx Entry) : Prop :=
  ∀ other ∈ w.queue, other.hash = tx.hash → settlementArgs tx.recipients = some other.args

variable {w : EscrowWorld contract} {tx : SettleTx Entry}

theorem carries_move (h : w.Carries tx) (m : LedgerMove contract) : (w.move m).Carries tx := by
  cases m with
  | act action => exact h
  | execute hash host =>
      simp only [EscrowWorld.move]
      split
      · exact h
      · intro other hother hhash
        obtain ⟨before, hbefore, rfl⟩ := List.mem_map.mp hother
        have hsame := h before hbefore
        split at hhash <;> split <;> simp_all

theorem carries_moves (list : List (LedgerMove contract)) :
    ∀ {w : EscrowWorld contract}, w.Carries tx → (w.moves list).Carries tx := by
  induction list with
  | nil => intro w h; exact h
  | cons m list ih => intro w h; exact ih (carries_move h m)

theorem carries_enqueue (h : w.Carries tx) : (w.enqueue tx).Carries tx := by
  unfold EscrowWorld.enqueue
  split
  · exact h
  · rename_i args hargs
    split
    · exact h
    · intro other hother hhash
      rcases List.mem_append.mp hother with hother | hother
      · exact h other hother hhash
      · rw [List.mem_singleton.mp hother]
        exact hargs

/-! ### One call of the client -/

/-- What holds after `EscrowClient.settle` has returned: nothing was written, and the hash is
new. -/
structure Submitted (w : EscrowWorld contract) (recipients : List (EscrowRecipient Entry))
    (hash : Hash) (w' : EscrowWorld contract) : Prop where
  same : SameService w w'
  fresh : ∀ u row, w.books.payouts u = some row → row.txHash ≠ some hash
  carries : w'.Carries ⟨hash, recipients⟩

/-- One attempt of `sendTransaction`. -/
theorem wp_sendTransaction {recipients : List (EscrowRecipient Entry)} {hash : Hash}
    {w w' : EscrowWorld contract} (h : Submitted w recipients hash w') :
    (Prog.call (S := escrowSig Entry) (.sendTransaction ⟨hash, recipients⟩) :
        Prog (escrowSig Entry) Err SendTransactionResult).wp sorobanMachine sorobanGuard
      (fun _ => True)
      (Prog.Ends (fun result w'' => result.hash = hash ∧ Submitted w recipients hash w'')
        fun _ => Submitted w recipients hash) w' := by
  refine Prog.wp_call fun e _ => ⟨trivial, ?_⟩
  have hmoved : Submitted w recipients hash (w'.moves e.moves) :=
    ⟨h.same.trans (sameService_moves _ _), h.fresh, carries_moves _ h.carries⟩
  have hqueued : Submitted w recipients hash
      ((w'.moves e.moves).enqueue ⟨hash, recipients⟩) :=
    ⟨hmoved.same.trans (sameService_enqueue _ _), h.fresh, carries_enqueue hmoved.carries⟩
  cases hanswer : e.answer with
  | throws err accepted =>
      simp only [sorobanMachine, hanswer, Prog.Ends]
      split
      · exact hqueued
      · exact hmoved
  | answers number status details =>
      simp only [sorobanMachine, hanswer, Prog.Ends, true_and]
      split
      · exact hqueued
      · exact hmoved

theorem wp_escrowSettle (recipients : List (EscrowRecipient Entry)) (w : EscrowWorld contract) :
    (EscrowClient.settle recipients).wp sorobanMachine sorobanGuard (fun _ => True)
      (Prog.Ends (Submitted w recipients) fun _ => SameService w) w := by
  refine Prog.wp_bind (P := fun _ => SameService w) (Prog.wp_call fun e _ => ⟨trivial, ?_⟩)
    fun sequence w₁ hw₁ => ?_
  · cases hanswer : e.answer <;> simp only [sorobanMachine, hanswer, Prog.Ends] <;>
      exact sameService_moves _ _
  refine Prog.wp_bind (P := Submitted w recipients) (Prog.wp_call fun e hguard => ⟨trivial, ?_⟩)
    fun hash w₂ hw₂ => ?_
  · have hmoved := hw₁.trans (sameService_moves e.moves w₁)
    cases hanswer : e.answer with
    | throws err accepted =>
        simp only [sorobanMachine, hanswer, Prog.Ends]
        exact hmoved
    | answers number status details =>
        simp only [sorobanGuard, hanswer] at hguard
        simp only [sorobanMachine, hanswer]
        split
        · refine ⟨hmoved, fun u row hrow => hguard.1 u row (hw₁.books ▸ hrow), ?_⟩
          have hnone : w₁.Carries ⟨number, recipients⟩ :=
            fun other hother hhash => absurd hhash (hguard.2 other hother)
          exact carries_moves _ hnone
        · exact hmoved
  refine Prog.wp_bind (Prog.wp_weaken (wp_withRetry retryableStatusCodes
    (fun _ h => wp_sendTransaction h) 5 _ hw₂) (fun _ _ h => h) fun _ _ h => h.same) ?_
  rintro result w₃ ⟨hhash, hw₃⟩
  split
  · exact hw₃.same
  · show Submitted w recipients result.hash w₃
    rw [hhash]
    exact hw₃

/-- Every answer but `ERROR` is taken for success. -/
theorem submitted_of_settle {recipients : List (EscrowRecipient Entry)}
    {w : EscrowWorld contract} {s : Nat → SorobanEnv contract}
    (hs : (EscrowClient.settle recipients).runOk sorobanMachine sorobanGuard s w) :
    Prog.Ends (Submitted w recipients) (fun _ => SameService w)
      ((EscrowClient.settle recipients).run sorobanMachine s w).1
      ((EscrowClient.settle recipients).run sorobanMachine s w).2 :=
  Prog.run_of_wp_runOk (wp_escrowSettle recipients w) hs

/-! ### One call of the service -/

def Op.isSettle : Op → Bool
  | .settle _ => true
  | _ => false

variable {op : Op} {e : EscrowEnv contract}

/-- Any call but `settle`: the network moves, and then the call is what it was. -/
theorem exec_service (h : op.isSettle = false) : escrowMachine.exec e op w =
    ((payoutMachine.exec e.books op w.books).1,
      { w.moves e.moves with
        books := (payoutMachine.exec e.books op w.books).2
        direct := w.direct || op.isStellar }) := by
  have hsame := sameService_moves e.moves w
  rw [← hsame.books, ← hsame.direct]
  cases op with
  | settle recipients => cases h
  | _ => rfl

/-! ### Marking the rows -/

/-- While the rows of the records are being marked with `hash`: `users` have theirs marked. -/
structure Marking (records : List PayoutRecord) (hash : Hash) (c : Challenge)
    (users : List UserId) (b : World) : Prop where
  challenge : b.challenge = c
  written : ∀ r ∈ records, Written r b
  only : ∀ u row, b.payouts u = some row → row.txHash = some hash → u ∈ users
  sent : ∀ u ∈ users, ∃ row, b.payouts u = some row ∧ row.status = .sent ∧
    row.txHash = some hash

section Marking
variable {records : List PayoutRecord} {hash : Hash} {c : Challenge} {users : List UserId}
  {b b' : World}

theorem Marking.congr (h : Marking records hash c users b) (hchallenge : b'.challenge = b.challenge)
    (hrows : b'.payouts = b.payouts) : Marking records hash c users b' where
  challenge := hchallenge.trans h.challenge
  written r hr := by
    rw [Written, hrows]
    exact h.written r hr
  only u row hrow := h.only u row (hrows ▸ hrow)
  sent u hu := by
    rw [hrows]
    exact h.sent u hu

theorem Marking.mark (h : Marking records hash c users b) {r : PayoutRecord} (hr : r ∈ records) :
    Marking records hash c (users ++ [r.userId])
      (b.updatePayoutStatus r.userId .sent (some hash) none) := by
  obtain ⟨row, hrow, hmatch⟩ := h.written r hr
  simp only [World.updatePayoutStatus, hrow]
  refine ⟨h.challenge, fun r' hr' => ?_, fun u row' hrow' hhash => ?_, fun u hu => ?_⟩
  · by_cases hu : r'.userId = r.userId
    · obtain ⟨row', hrow', hmatch'⟩ := h.written r' hr'
      obtain rfl := Option.some.inj ((hu ▸ hrow').symm.trans hrow)
      rw [Written, hu]
      exact ⟨_, Function.update_self .., hmatch'⟩
    · obtain ⟨row', hrow', hmatch'⟩ := h.written r' hr'
      exact ⟨row', by simp only [World.setPayout, Function.update_of_ne hu, hrow'], hmatch'⟩
  · by_cases hu : u = r.userId
    · rw [hu]
      exact List.mem_append_right _ (List.mem_singleton_self _)
    · simp only [World.setPayout, Function.update_of_ne hu] at hrow'
      exact List.mem_append_left _ (h.only u row' hrow' hhash)
  · by_cases heq : u = r.userId
    · subst heq
      exact ⟨_, Function.update_self .., rfl, rfl⟩
    · rcases List.mem_append.mp hu with hu | hu
      · obtain ⟨row', hrow', hsent⟩ := h.sent u hu
        exact ⟨row', by simp only [World.setPayout, Function.update_of_ne heq, hrow'], hsent⟩
      · exact absurd (List.mem_singleton.mp hu) heq

/-- The program marks no row, whatever throws. -/
def KeepsMarks {α : Type} (records : List PayoutRecord) (hash : Hash) (c : Challenge)
    (users : List UserId) (p : Service α) : Prop :=
  ∀ b, Marking records hash c users b →
    p.wp payoutMachine (fun _ _ _ => True) (fun b => b.challenge = c)
      (Prog.Ends (fun _ => Marking records hash c users) fun _ => Marking records hash c users) b

theorem keepsMarks_call {op : Op} (hchallenge : op.writesChallenge = false)
    (hrows : op.writesPayouts = false) : KeepsMarks records hash c users
      (Prog.call (S := payoutSig) op : Service (payoutSig.Ans op)) := by
  intro b hb
  refine Prog.wp_call_world fun e _ => ?_
  have hafter := hb.congr (exec_challenge (e := e) hchallenge) (exec_payouts hrows)
  exact ⟨hafter.challenge, hafter⟩

theorem KeepsMarks.bind {α β : Type} {p : Service α} {f : α → Service β}
    (hp : KeepsMarks records hash c users p) (hf : ∀ a, KeepsMarks records hash c users (f a)) :
    KeepsMarks records hash c users (p.bind f) :=
  fun b hb => Prog.wp_bind (hp b hb) fun a b' hb' => hf a b' hb'

theorem KeepsMarks.swallow {p : Service Unit} (hp : KeepsMarks records hash c users p) :
    KeepsMarks records hash c users (p.tryCatch fun _ => .ret ()) :=
  fun b hb => Prog.wp_tryCatch (hp b hb) fun _ _ hb' => hb'

theorem keepsMarks_bookkeeping : Bookkeeping fun p : Service Unit =>
    KeepsMarks records hash c users p where
  ret := fun _ hb => hb
  bind hp hf := hp.bind hf
  earnings _ _ := keepsMarks_call rfl rfl
  bonus _ _ := keepsMarks_call rfl rfl
  notification u := by
    refine KeepsMarks.bind (keepsMarks_call rfl rfl).swallow fun _ => KeepsMarks.swallow ?_
    refine KeepsMarks.bind (keepsMarks_call rfl rfl) fun enabled => ?_
    split
    · exact keepsMarks_call rfl rfl
    · exact fun _ hb => hb

/-- The loop marks the rows of its records, one by one. -/
theorem wp_recordsSettled :
    ∀ (rest : List PayoutRecord) {users : List UserId} {b : World}, (∀ r ∈ rest, r ∈ records) →
      Marking records hash c users b →
      (Prog.forEach rest (recordSettled hash)).wp payoutMachine (fun _ _ _ => True)
        (fun b => b.challenge = c)
        (Prog.Ends (fun _ => Marking records hash c (users ++ rest.map (·.userId)))
          fun _ _ => True) b := by
  intro rest
  induction rest with
  | nil =>
      intro users b _ hb
      show Marking records hash c (users ++ []) b
      rwa [List.append_nil]
  | cons r rest ih =>
      intro users b hmem hb
      have hmark : (updatePayoutStatus r.userId .sent (some hash) none).wp payoutMachine
          (fun _ _ _ => True) (fun b => b.challenge = c)
          (Prog.Ends (fun _ => Marking records hash c (users ++ [r.userId]))
            fun _ _ => True) b := by
        have hmarked := hb.mark (hmem r List.mem_cons_self)
        refine wp_db rfl (fun e _ _ => ⟨hmarked.challenge, hmarked⟩)
          fun e fault _ _ b' hb' => ?_
        rcases hb' with rfl | rfl
        · exact ⟨hb.challenge, trivial⟩
        · exact ⟨hmarked.challenge, trivial⟩
      have hquiet : ∀ {p : Service Unit}, KeepsMarks records hash c (users ++ [r.userId]) p →
          ∀ b, Marking records hash c (users ++ [r.userId]) b →
            p.wp payoutMachine (fun _ _ _ => True) (fun b => b.challenge = c)
              (Prog.Ends (fun _ => Marking records hash c (users ++ [r.userId]))
                fun _ _ => True) b :=
        fun hp b hb => Prog.wp_weaken (hp b hb) (fun _ _ h => h) fun _ _ _ => trivial
      refine Prog.wp_bind (P := fun _ => Marking records hash c (users ++ [r.userId])) ?_
        fun _ b' hb' => ?_
      · refine Prog.wp_bind hmark fun _ b hb => ?_
        refine hquiet (keepsMarks_bookkeeping.bind (keepsMarks_bookkeeping.earnings _ _)
          fun _ => ?_) b hb
        exact keepsMarks_bookkeeping.bind (keepsMarks_bookkeeping.bonus _ _) fun _ =>
          keepsMarks_bookkeeping.notification _
      · have hrest := ih (fun r' hr' => hmem r' (List.mem_cons_of_mem _ hr')) hb'
        rwa [List.append_assoc] at hrest

end Marking

/-! ### The direct way -/

/-- What the network does, in a run that marks only what has been settled by then. -/
def Timely (w : EscrowWorld contract) (op : Op) (e : EscrowEnv contract) : Prop :=
  escrowGuard w op e ∧ SettledInTime w op e

theorem exec_direct {w : EscrowWorld contract} {op : Op} {e : EscrowEnv contract}
    (hguard : Timely w op e) (hw : w.direct = true ∨ op.isStellar = true) :
    (escrowMachine.exec e op w).2.direct = true := by
  cases hop : op.isSettle with
  | false =>
      rw [exec_service hop]
      show (w.direct || op.isStellar) = true
      rcases hw with hw | hw <;> simp [hw]
  | true =>
      cases op with
      | settle recipients =>
          have hdirect : (w.moves e.moves).direct = true := by
            rw [(sameService_moves _ _).direct]
            simpa [Op.isStellar] using hw
          have hend := submitted_of_settle hguard.1
          simp only [escrowMachine]
          cases hanswer : ((EscrowClient.settle recipients).run sorobanMachine e.soroban
              (w.moves e.moves)).1 with
          | ok hash =>
              rw [hanswer] at hend
              exact hend.same.direct.trans hdirect
          | error err =>
              rw [hanswer] at hend
              exact hend.direct.trans hdirect
      | _ => cases hop

/-- Once something was prepared for a direct payout, the run is no longer on the way through
the escrow. -/
theorem paidWhenSettled_of_direct {w : EscrowWorld contract} (h : w.direct = true) :
    PaidWhenSettled w := fun hno => absurd (h.symm.trans hno) (by decide)

theorem wp_direct {α : Type} (p : Service α) {w : EscrowWorld contract} (hw : w.direct = true) :
    p.wp escrowMachine Timely PaidWhenSettled
      (Prog.Ends (fun _ w => w.direct = true) fun _ w => w.direct = true) w :=
  p.emits_any.wp (K := fun w : EscrowWorld contract => w.direct = true)
    (fun _ h => paidWhenSettled_of_direct h)
    (fun _ _ _ h _ hguard => ⟨exec_direct hguard (.inl h), trivial⟩) hw

/-- The operations of `submitBatchPayout` in this world. -/
abbrev stellarMachine :
    Machine (stellarSig Entry) Err (EscrowWorld contract) (EscrowEnv contract) :=
  Prog.Machine.comap stellarHom escrowMachine

theorem wp_stellar_direct {α : Type} (p : Prog (stellarSig Entry) Err α)
    {w : EscrowWorld contract} (hw : w.direct = true) :
    p.wp stellarMachine (fun w op e => Timely w (.stellar op) e) PaidWhenSettled
      (Prog.Ends (fun _ w => w.direct = true) fun _ w => w.direct = true) w :=
  Prog.Emits.wp (M := stellarMachine) (G := fun w op e => Timely w (.stellar op) e)
    (K := fun w : EscrowWorld contract => w.direct = true)
    (fun _ h => paidWhenSettled_of_direct h)
    (fun _ _ _ h _ hguard => ⟨exec_direct hguard (.inl h), trivial⟩) p.emits_any hw

/-- The first thing that the direct way does for a batch is to reserve a sequence number. -/
theorem wp_submitBatches_direct (challengeId : Text) {batch : List (PayoutRecipient Entry)}
    {rest : List (List (PayoutRecipient Entry))} (w : EscrowWorld contract) :
    (submitBatches batchOptions challengeId 0 (batch :: rest)).wp stellarMachine
      (fun w op e => Timely w (.stellar op) e) PaidWhenSettled
      (Prog.Ends (fun _ w => w.direct = true) fun _ w => w.direct = true) w := by
  refine Prog.wp_bind (P := fun _ w => w.direct = true) ?_ fun _ w hw => wp_stellar_direct _ hw
  refine Prog.wp_tryCatch (P := fun _ w => w.direct = true) ?_
    fun _ w hw => wp_stellar_direct _ hw
  refine Prog.wp_bind (P := fun _ w => w.direct = true) ?_ fun _ w hw => wp_stellar_direct _ hw
  refine Prog.wp_call_world fun e hguard => ?_
  have hdirect := exec_direct hguard (.inr rfl)
  exact ⟨paidWhenSettled_of_direct hdirect, hdirect⟩

theorem wp_payDirectly_direct (challengeId : Text) {basis : Basis} {records : List PayoutRecord}
    (hsome : records ≠ [])
    (hvalid : ∀ r ∈ records, (getInvalidRecipientReason (payoutRecipient basis r)).isNone)
    (w : EscrowWorld contract) :
    (payDirectly challengeId basis records).wp escrowMachine Timely PaidWhenSettled
      (Prog.Ends (fun _ _ => True) fun _ _ => True) w := by
  have hflatten := payoutBatches_flatten (records.map (payoutRecipient basis))
  have hall : (records.map (payoutRecipient basis)).filter
      (fun r => (getInvalidRecipientReason r).isNone) = records.map (payoutRecipient basis) :=
    List.filter_eq_self.mpr (List.forall_mem_map.mpr hvalid)
  refine Prog.wp_bind (P := fun _ w => w.direct = true) ?_ fun _ w hw =>
    Prog.wp_weaken (wp_direct _ hw) (fun _ _ _ => trivial) fun _ _ _ => trivial
  refine Prog.wp_embed ?_
  unfold submitBatchPayout
  cases hbatches : payoutBatches (records.map (payoutRecipient basis)) with
  | nil =>
      rw [hbatches, hall] at hflatten
      exact absurd (List.map_eq_nil_iff.mp hflatten.symm) hsome
  | cons batch rest =>
      exact Prog.wp_weaken (wp_submitBatches_direct challengeId w) (fun _ _ h => h)
        fun _ _ _ => trivial

/-! ### The way through the escrow -/

/-- Nothing has been submitted in this run. -/
structure Fresh (w : EscrowWorld contract) : Prop where
  returned : w.returned = []
  direct : w.direct = false

theorem Fresh.paidWhenSettled {w : EscrowWorld contract} (h : Fresh w) : PaidWhenSettled w := by
  intro _ _ s hs
  rw [h.returned] at hs
  cases hs

/-- An operation of the books that neither settles nor pays directly. -/
def Op.isPlain (op : Op) : Bool := !op.isSettle && !op.isStellar

theorem exec_plain {w : EscrowWorld contract} {op : Op} {e : EscrowEnv contract}
    (h : op.isPlain = true) : escrowMachine.exec e op w =
      ((payoutMachine.exec e.books op w.books).1,
        { w.moves e.moves with books := (payoutMachine.exec e.books op w.books).2 }) := by
  obtain ⟨hsettle, hstellar⟩ : op.isSettle = false ∧ op.isStellar = false := by
    simpa [Op.isPlain] using h
  rw [exec_service hsettle, hstellar, Bool.or_false, ← (sameService_moves e.moves w).direct]

/-- What is proved of the books holds in this world, with what the network does not touch. -/
theorem wp_books {α : Type} {p : Service α} {I : World → Prop} {Q : Except Err α → World → Prop}
    {F : EscrowWorld contract → Prop}
    (hp : p.Emits (fun op : Op => op.isPlain = true) (fun _ _ => True) fun _ => True)
    (hF : ∀ w (list : List (LedgerMove contract)) b, F w → F { w.moves list with books := b })
    (hI : ∀ w, F w → I w.books → PaidWhenSettled w) {w : EscrowWorld contract} (hw : F w)
    (h : p.wp payoutMachine (fun _ _ _ => True) I Q w.books) :
    p.wp escrowMachine Timely PaidWhenSettled (fun r w' => F w' ∧ Q r w'.books) w := by
  refine Prog.wp_view EscrowWorld.books EscrowEnv.books (fun w op e hop hw _ => ?_) hI hp hw h
  rw [show escrowMachine.exec e op w = _ from exec_plain hop]
  exact ⟨trivial, rfl, rfl, hF w e.moves _ hw⟩

theorem fresh_moves {w : EscrowWorld contract} (list : List (LedgerMove contract)) (b : World)
    (h : Fresh w) : Fresh { w.moves list with books := b } :=
  ⟨(sameService_moves list w).returned.trans h.returned,
    (sameService_moves list w).direct.trans h.direct⟩

/-- After `settle` has returned, while the rows are being marked. -/
structure Returned (tx : SettleTx Entry) (w : EscrowWorld contract) : Prop where
  returned : w.returned = [tx]
  direct : w.direct = false
  carries : w.Carries tx

theorem returned_moves {tx : SettleTx Entry} {w : EscrowWorld contract}
    (list : List (LedgerMove contract)) (b : World) (h : Returned tx w) :
    Returned tx { w.moves list with books := b } :=
  ⟨(sameService_moves list w).returned.trans h.returned,
    (sameService_moves list w).direct.trans h.direct, carries_moves list h.carries⟩

/-- The arguments are the recipients, with the amounts that `Number` leaves of theirs. -/
theorem settlementArgs_eq_some {recipients : List (EscrowRecipient Entry)} :
    ∀ {args : List (Text × Escrow.I128)}, settlementArgs recipients = some args →
      (args.map fun p => (p.1, p.2.val)) =
        recipients.map fun r => (r.address, (toNumber r.amountStroops : Int)) := by
  induction recipients with
  | nil =>
      intro args h
      obtain rfl := Option.some.inj h
      rfl
  | cons r rest ih =>
      intro args h
      simp only [settlementArgs, List.mapM_cons, Option.bind_eq_bind, Option.pure_def,
        Option.bind_eq_some_iff, Option.map_eq_some_iff, Option.some.injEq] at h
      obtain ⟨_, ⟨amount, hamount, rfl⟩, tail, htail, rfl⟩ := h
      simp only [List.map_cons, ih htail, Signed.ofInt?_eq_some.mp hamount]

section Escrow
variable {basis : Basis} {records : List PayoutRecord} {hash : Hash} {c : Challenge}

/-- The rows that are marked are those that the arguments pay. -/
theorem Marking.pays {args : List (Text × Escrow.I128)} {b : World}
    (h : Marking records hash c (records.map (·.userId)) b)
    (hargs : settlementArgs (records.map (escrowRecipient basis)) = some args)
    (hexact : ∀ r ∈ records.map (escrowRecipient basis),
      toNumber r.amountStroops = r.amountStroops) :
    (args.map fun p => some (p.1, p.2.val)) = (records.map (·.userId)).map fun u =>
      (b.payouts u).map fun row => (row.stellarAddress, (row.amountStroops : Int)) := by
  have hrecord : ∀ r ∈ records, some (r.address, (toNumber r.amountStroops : Int)) =
      (b.payouts r.userId).map fun row => (row.stellarAddress, (row.amountStroops : Int)) := by
    intro r hr
    obtain ⟨row, hrow, haddress, hamount⟩ := h.written r hr
    have hnumber : toNumber r.amountStroops = r.amountStroops :=
      hexact (escrowRecipient basis r) (List.mem_map_of_mem hr)
    rw [hrow, Option.map_some, haddress, hamount, hnumber]
  calc (args.map fun p => some (p.1, p.2.val))
      = (args.map fun p => (p.1, p.2.val)).map some := by rw [List.map_map]; rfl
    _ = records.map fun r => some (r.address, (toNumber r.amountStroops : Int)) := by
        rw [settlementArgs_eq_some hargs, List.map_map, List.map_map]
        rfl
    _ = records.map fun r => (b.payouts r.userId).map
          fun row => (row.stellarAddress, (row.amountStroops : Int)) :=
        List.map_congr_left hrecord
    _ = (records.map (·.userId)).map fun u => (b.payouts u).map
          fun row => (row.stellarAddress, (row.amountStroops : Int)) := by rw [List.map_map]; rfl

/-- Once all rows are marked, and the network has run the settlement as it should, it is paid. -/
theorem Marking.paid {w : EscrowWorld contract}
    (h : Marking records hash c (records.map (·.userId)) w.books)
    (hnodup : (records.map (·.userId)).Nodup)
    (hcarries : w.Carries ⟨hash, records.map (escrowRecipient basis)⟩)
    (hexact : ∀ r ∈ records.map (escrowRecipient basis),
      toNumber r.amountStroops = r.amountStroops)
    (hrun : ∃ tx ∈ w.queue, tx.hash = hash ∧
      ∃ run, tx.execution = some run ∧ Escrow.Accepts run.host tx.args run.before) :
    w.Paid ⟨hash, records.map (escrowRecipient basis)⟩ := by
  obtain ⟨tx, htx, hhash, run, hexecution, haccepts⟩ := hrun
  obtain ⟨after, hafter⟩ := Escrow.exists_settle_ok_iff.mpr haccepts
  refine ⟨tx, htx, hhash, ⟨run, after, hexecution, hafter⟩, records.map (·.userId), hnodup,
    fun u => ⟨h.sent u, ?_⟩, h.pays (hcarries tx htx hhash) hexact⟩
  rintro ⟨row, hrow, -, hmarked⟩
  exact h.only u row hrow hmarked

theorem isPlain_of_db {op : Op} (h : op.isNetwork = false) : op.isPlain = true := by
  cases op with
  | settle recipients => cases h
  | stellar o => cases h
  | _ => rfl

theorem plain_call {op : Op} (h : op.isPlain = true) :
    (Prog.call (S := payoutSig) op : Service (payoutSig.Ans op)).Emits
      (fun op : Op => op.isPlain = true) (fun _ _ => True) fun _ => True :=
  Prog.Emits.call h fun _ _ => trivial

/-- The call that marks the challenge. -/
theorem wp_markSettled {w : EscrowWorld contract} (hc : c.status = .ended)
    (hnodup : (records.map (·.userId)).Nodup)
    (hw : Returned ⟨hash, records.map (escrowRecipient basis)⟩ w)
    (hbooks : Marking records hash c (records.map (·.userId)) w.books) :
    (updateChallengeStatus .settled (some [hash])).wp escrowMachine Timely PaidWhenSettled
      (Prog.Ends (fun _ _ => True) fun _ _ => True) w := by
  refine Prog.wp_call fun e hguard => ⟨?_, ?_⟩
  · rw [exec_plain rfl]
    have hmoved := sameService_moves e.moves w
    intro hdirect hsettled s hs
    rw [show s = ⟨hash, records.map (escrowRecipient basis)⟩ from
      List.mem_singleton.mp (hw.returned ▸ hmoved.returned ▸ hs)]
    have hrows : (payoutMachine.exec e.books (.updateChallengeStatus .settled (some [hash]))
        w.books).2.payouts = w.books.payouts := exec_payouts rfl
    have htimely : (e.books.dbFault.all fun fault => fault.applied) = true := by
      cases hfault : e.books.dbFault with
      | none => rfl
      | some fault =>
          cases happlied : fault.applied with
          | true => exact happlied
          | false =>
              -- then the challenge is as it was
              rw [exec_fault rfl hfault, happlied] at hsettled
              have hended : w.books.challenge.status = .ended := hbooks.challenge ▸ hc
              exact absurd (hended.symm.trans hsettled) (by decide)
    obtain ⟨hexact, hrun⟩ := hguard.2 hw.direct htimely _
      (hw.returned ▸ List.mem_singleton_self _)
    have hpaid : (w.moves e.moves).Paid ⟨hash, records.map (escrowRecipient basis)⟩ :=
      (hmoved.books ▸ hbooks).paid hnodup (carries_moves _ hw.carries) hexact hrun
    obtain ⟨tx, htx, hhash, happlied, users, husers, hmarked, hpays⟩ := hpaid
    rw [hmoved.books] at hmarked hpays
    exact ⟨tx, htx, hhash, happlied, users, husers, by rwa [hrows], by rwa [hrows]⟩
  · cases (escrowMachine.exec e (.updateChallengeStatus .settled (some [hash])) w).1 <;> trivial

/-- The body of the `try`. -/
theorem wp_settleThroughEscrow_paid (hc : c.status = .ended)
    (hnodup : (records.map (·.userId)).Nodup) {w : EscrowWorld contract} (hw : Fresh w)
    (hchallenge : w.books.challenge = c) (hwritten : ∀ r ∈ records, Written r w.books) :
    (settleThroughEscrow basis records).wp escrowMachine Timely PaidWhenSettled
      (Prog.Ends (fun _ _ => True) fun _ _ => True) w := by
  have hended : ∀ w' : EscrowWorld contract, w'.books.challenge = c → PaidWhenSettled w' := by
    intro w' hsame _ hsettled
    rw [hsame, hc] at hsettled
    cases hsettled
  refine Prog.wp_bind (P := fun hash w' =>
    Returned ⟨hash, records.map (escrowRecipient basis)⟩ w' ∧
      Marking records hash c [] w'.books) (Prog.wp_call fun e hguard => ?_)
    fun hash w' ⟨hw', hmarking⟩ => ?_
  -- the submission, when no row is marked yet
  · have hend := submitted_of_settle hguard.1
    have hmoved := sameService_moves e.moves w
    simp only [escrowMachine]
    cases hanswer : ((EscrowClient.settle (records.map (escrowRecipient basis))).run
        sorobanMachine e.soroban (w.moves e.moves)).1 with
    | error err =>
        rw [hanswer] at hend
        have hsame : SameService (w.moves e.moves) _ := hend
        exact ⟨hended _ ((congrArg World.challenge (hsame.books.trans hmoved.books)).trans
          hchallenge), trivial⟩
    | ok hash =>
        rw [hanswer] at hend
        have hsubmitted : Submitted (w.moves e.moves) (records.map (escrowRecipient basis)) hash
          _ := hend
        have hbooks := hsubmitted.same.books.trans hmoved.books
        refine ⟨hended _ ((congrArg World.challenge hbooks).trans hchallenge), ⟨?_, ?_, ?_⟩, ?_⟩
        · show _ ++ _ = _
          rw [hsubmitted.same.returned, hmoved.returned, hw.returned, List.nil_append]
        · exact (hsubmitted.same.direct.trans hmoved.direct).trans hw.direct
        · exact hsubmitted.carries
        · show Marking records hash c [] _
          rw [hbooks]
          refine ⟨hchallenge, hwritten, fun u row hrow hmarked => ?_, fun u hu => by cases hu⟩
          exact absurd hmarked (hsubmitted.fresh u row (hmoved.books ▸ hrow))
  -- the loop over the records touches the books alone
  · refine Prog.wp_bind (P := fun _ w'' =>
      Returned ⟨hash, records.map (escrowRecipient basis)⟩ w'' ∧
        Marking records hash c (records.map (·.userId)) w''.books) ?_
      fun _ w'' ⟨hw'', hmarked⟩ => wp_markSettled hc hnodup hw'' hmarked
    have hplain : Bookkeeping fun p : Service Unit => p.Emits (fun op : Op => op.isPlain = true)
        (fun _ _ => True) fun _ => True := emits_bookkeeping fun _ hop _ => isPlain_of_db hop
    have hmark : ∀ r : PayoutRecord, (updatePayoutStatus r.userId .sent (some hash) none).Emits
        (fun op : Op => op.isPlain = true) (fun _ _ => True) fun _ => True :=
      fun r => plain_call rfl
    have hemits : (Prog.forEach records (recordSettled hash)).Emits
        (fun op : Op => op.isPlain = true) (fun _ _ => True) fun _ => True :=
      hplain.forEach fun r _ => hplain.recordSettled (hmark r)
    have hloop := wp_books hemits (fun _ => returned_moves) (fun w _ => hended w) hw'
      (wp_recordsSettled records (fun _ hr => hr) hmarking)
    refine Prog.wp_mono hloop fun r w'' hr => ?_
    cases r with
    | ok u => exact hr
    | error err => trivial

/-- Paying the records, whichever way is configured. -/
theorem wp_payRecords_paid (config : PayoutConfig) (challengeId : Text) (hsome : records ≠ [])
    (hvalid : ∀ r ∈ records, (getInvalidRecipientReason (payoutRecipient basis r)).isNone)
    (hc : c.status = .ended) (hnodup : (records.map (·.userId)).Nodup)
    {w : EscrowWorld contract} (hw : Fresh w) (hchallenge : w.books.challenge = c)
    (hwritten : ∀ r ∈ records, Written r w.books) :
    (payRecords config challengeId basis records).wp escrowMachine Timely PaidWhenSettled
      (Prog.Ends (fun _ _ => True) fun _ _ => True) w := by
  unfold payRecords
  split
  · exact Prog.wp_tryCatch (wp_settleThroughEscrow_paid hc hnodup hw hchallenge hwritten)
      fun _ w' _ => wp_payDirectly_direct challengeId hsome hvalid w'
  · exact wp_payDirectly_direct challengeId hsome hvalid w

end Escrow

/-! ### The whole run -/

/-- Before anything is submitted, an operation of the books keeps the run fresh. -/
theorem wp_fresh_call {op : Op} (h : op.isPlain = true) {w : EscrowWorld contract} (hw : Fresh w) :
    (Prog.call (S := payoutSig) op : Service (payoutSig.Ans op)).wp escrowMachine Timely
      PaidWhenSettled (Prog.Ends (fun _ _ => True) fun _ _ => True) w := by
  refine Prog.wp_call fun e _ => ?_
  rw [exec_plain h]
  refine ⟨(fresh_moves _ _ hw).paidWhenSettled, ?_⟩
  cases (payoutMachine.exec e.books op w.books).1 <;> trivial

/-- A read answers what the books hold, and changes nothing in them. -/
theorem wp_fresh_read {op : Op} (hop : op.isRead = true) (hdb : op.isNetwork = false) {b : World}
    {w : EscrowWorld contract} (hw : Fresh w ∧ w.books = b) :
    (Prog.call (S := payoutSig) op : Service (payoutSig.Ans op)).wp escrowMachine Timely
      PaidWhenSettled (Prog.Ends (fun a w' => (Fresh w' ∧ w'.books = b) ∧
        ∃ e, (perform e op b).1 = .ok a) fun _ _ => True) w := by
  obtain ⟨hfresh, rfl⟩ := hw
  refine Prog.wp_call fun e _ => ?_
  rw [exec_plain (isPlain_of_db hdb), exec_read hop]
  refine ⟨(fresh_moves _ _ hfresh).paidWhenSettled, ?_⟩
  cases hanswer : (payoutMachine.exec e.books op w.books).1 with
  | error err => trivial
  | ok a =>
      rw [exec_ok hanswer, record_of_db hdb] at hanswer
      exact ⟨⟨fresh_moves _ _ hfresh, rfl⟩, e.books, hanswer⟩

/-- While the rows are created, the challenge stays as it is. -/
theorem challenge_loopInvariant (c : Challenge) :
    LoopInvariant (fun b => b.challenge = c) fun _ b => b.challenge = c where
  holds _ _ h := h
  skip _ _ _ h := h
  upsert _ _ _ _ _ h := h
  audit _ _ _ h := h

theorem wp_processPayout_paid (config : PayoutConfig) (challengeId : Text)
    {w : EscrowWorld contract} (hw : Fresh w) :
    (processPayout config challengeId).wp escrowMachine Timely PaidWhenSettled
      (Prog.Ends (fun _ _ => True) fun _ _ => True) w := by
  refine wp_processPayout_reading (A := fun w' => Fresh w' ∧ w'.books = w.books)
    (fun hop hdb _ _ hA => wp_fresh_read hop hdb hA) (fun _ _ _ _ => trivial)
    (fun _ _ _ => trivial) (fun _ _ _ hA => wp_fresh_call rfl hA.1) ?_ ⟨hw, rfl⟩
  intro hallocates w' hA
  obtain ⟨hfresh, hbooks⟩ := hA
  have hnodup := payoutAllocations_users_nodup w.books.basis
  have hemits : (createPayoutRecords (payoutAllocations w.books.basis).values).Emits
      (fun op : Op => op.isPlain = true) (fun _ _ => True) fun _ => True :=
    (emits_createPayoutRecords (fun _ hop _ => isPlain_of_db hop) _).mono fun _ _ => trivial
  have hloop := wp_books hemits (fun _ => fresh_moves) (fun _ h _ => h.paidWhenSettled) hfresh
    (wp_createPayoutRecords_written (challenge_loopInvariant w.books.challenge) _ hnodup
      (congrArg World.challenge hbooks))
  refine Prog.wp_bind (P := fun records w' => Fresh w' ∧
    w'.books.challenge = w.books.challenge ∧ (∀ r ∈ records, Written r w'.books) ∧
      records.Sublist ((payoutAllocations w.books.basis).values.map recordOf))
    (Prog.wp_mono hloop fun r w'' h => ?_) fun records w'' h => ?_
  · obtain ⟨hfresh, hend⟩ := h
    cases r with
    | ok records =>
        obtain ⟨hchallenge, hwritten, -, hsub⟩ := hend
        exact ⟨hfresh, hchallenge, hwritten, hsub⟩
    | error err => trivial
  · obtain ⟨hfresh, hchallenge, hwritten, hsub⟩ := h
    split
    · exact wp_fresh_call rfl hfresh
    · rename_i hsome
      refine wp_payRecords_paid config challengeId (by simpa using hsome) (fun r hr => ?_)
        hallocates.1 ?_ hfresh hchallenge hwritten
      · obtain ⟨a, ha, rfl⟩ := List.mem_map.mp (hsub.subset hr)
        exact payoutRecipient_valid ha
      · refine (hsub.map (·.userId)).nodup ?_
        rw [List.map_map]
        exact hnodup

/-- A run of `processPayout` starts, with everything as it may be by then. -/
def startsProcessPayout (_ w' : EscrowWorld contract) (p : Service Unit) : Prop :=
  Fresh w' ∧ ∃ config challengeId, p = processPayout config challengeId

/-- **Marked as paid only when paid, if the network is in time.** In every history of runs of
`processPayout`, whatever `sendTransaction` answers and whenever the network runs what it has
taken in: once a run has marked its challenge through the escrow, its settlement was made, and
paid exactly the rows marked with it, as long as every run that marks the challenge does so
when the network has run its settlement, in a state in which the contract accepts it. -/
theorem settled_challenge_paid (w₀ : EscrowWorld contract) (h₀ : Fresh w₀)
    {w : EscrowWorld contract} {inProgress : Option (Service Unit)}
    (history : Seq escrowMachine Timely startsProcessPayout w₀ w inProgress) :
    PaidWhenSettled w := by
  refine (Seq.sound (J := PaidWhenSettled) h₀.paidWhenSettled (fun _ h => h) ?_ history).1
  intro _ w' p _ h
  obtain ⟨hfresh, config, challengeId, rfl⟩ := h
  exact ⟨hfresh.paidWhenSettled,
    Prog.wp_invariant (wp_processPayout_paid config challengeId hfresh) hfresh.paidWhenSettled⟩

/-! ### One settlement, in a contract with the money and in one without -/

def escrowAddress : Text := "C".toList

/-- The admin has signed. -/
def adminHost : Escrow.Host Text escrowAddress where
  auth a := a = "ADMIN".toList
  auth_self := by decide
  refuses _ _ _ _ := false

/-- One player is to be paid, by a contract that holds the money. -/
def beforeSettlement : EscrowWorld escrowAddress where
  books := World.ended 1000000000 [player 1 300]
  escrow :=
    { storage := ⟨some "ADMIN".toList, some "USDC".toList, Signed.ofInt? 128 1000000000, none, none, none⟩
      tokens := fun _ => ⟨fun a => if a = escrowAddress then 1000000000 else 0⟩
      events := [] }
  queue := []
  returned := []
  direct := false

/-- `PENDING`. Before call 12, which marks the challenge, the network may run what it has. -/
def pendingThen (moves : List (LedgerMove escrowAddress)) (n : Nat) : EscrowEnv escrowAddress :=
  ⟨if n = 12 then moves else [], calm, fun _ => ⟨[], .answers 7 .pending []⟩⟩

def inTime : List (LedgerMove escrowAddress) := [.execute 7 adminHost]

def afterSettlement (moves : List (LedgerMove escrowAddress)) : EscrowWorld escrowAddress :=
  ((processPayout escrowConfig "c1".toList).run escrowMachine (pendingThen moves)
    beforeSettlement).2

/-- The hash of the settlement is new. -/
theorem afterSettlement_runOk {moves : List (LedgerMove escrowAddress)}
    (hmoves : moves = [] ∨ moves = inTime) :
    (processPayout escrowConfig "c1".toList).runOk escrowMachine escrowGuard (pendingThen moves)
      beforeSettlement := by
  rcases hmoves with rfl | rfl
  all_goals
    refine ⟨trivial, trivial, trivial, trivial, trivial,
      ⟨trivial, ⟨fun u row h => ?_, fun tx htx => ?_⟩, trivial, trivial⟩, trivial, trivial,
      trivial, trivial, trivial, trivial, trivial, trivial⟩
    · by_cases hu : u = 1
      · subst hu
        obtain rfl := Option.some.inj h
        decide
      · have h' : Function.update (fun _ => none) 1 _ u = some row := h
        rw [Function.update_of_ne hu] at h'
        cases h'
    · cases htx

theorem afterSettlement_inTime :
    (processPayout escrowConfig "c1".toList).runOk escrowMachine SettledInTime
      (pendingThen inTime) beforeSettlement := by
  refine ⟨trivial, trivial, trivial, trivial, trivial, trivial, trivial, trivial, trivial,
    trivial, trivial, trivial, fun _ _ s hs => ?_, trivial⟩
  obtain rfl := List.mem_singleton.mp hs
  refine ⟨by decide, _, List.mem_singleton_self _, rfl, _, rfl,
    Escrow.exists_settle_ok_iff.mp ⟨_, rfl⟩⟩

/-- In time, the player is paid. -/
theorem settlement_in_time_paid : (afterSettlement inTime).books.challenge.status = .settled ∧
    (afterSettlement inTime).direct = false ∧ (afterSettlement inTime).returned ≠ [] ∧
      PaidWhenSettled (afterSettlement inTime) :=
  ⟨by decide +kernel, by decide +kernel, by decide +kernel,
    settled_challenge_paid beforeSettlement ⟨rfl, rfl⟩
      (Seq.runOk (Seq.start .init ⟨⟨rfl, rfl⟩, escrowConfig, "c1".toList, rfl⟩)
        (Prog.runOk_and (afterSettlement_runOk (.inr rfl)) afterSettlement_inTime))⟩

/-- If the network never runs what it has answered `PENDING` to, the player is marked as paid
all the same. -/
theorem pending_settlement_unpaid : ∃ w : EscrowWorld escrowAddress,
    Seq escrowMachine escrowGuard startsProcessPayout beforeSettlement w none ∧
      ¬ PaidWhenSettled w := by
  refine ⟨afterSettlement [], Seq.runOk
    (Seq.start .init ⟨⟨rfl, rfl⟩, escrowConfig, "c1".toList, rfl⟩)
    (afterSettlement_runOk (.inl rfl)), fun hpaid => ?_⟩
  have hreturned : (afterSettlement []).returned ≠ [] := by decide +kernel
  have hnever : ((afterSettlement []).queue.all fun tx => tx.execution.isNone) = true := by
    decide +kernel
  obtain ⟨s, hs⟩ := List.exists_mem_of_ne_nil _ hreturned
  obtain ⟨tx, htx, -, ⟨run, after, hrun, -⟩, -⟩ :=
    hpaid (by decide +kernel) (by decide +kernel) s hs
  have hnone := List.all_eq_true.mp hnever tx htx
  rw [hrun] at hnone
  cases hnone

end BrandBlitz.Payout

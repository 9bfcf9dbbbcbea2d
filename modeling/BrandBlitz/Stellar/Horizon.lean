import Mathlib.Data.List.Nodup
import Mathlib.Data.List.Pairwise
import BrandBlitz.Stellar.Payout

/-!
# BrandBlitz.Stellar.Horizon

**One `submitBatchPayout` call against an unreliable Horizon.** The ledger applies a
transaction only when its sequence number is the account's current one plus one;
but an answer can get lost on its way back, so a transaction may have been applied
although the caller saw a timeout. A transaction that is submitted again after it
was applied is answered with its result or with `tx_bad_seq`.

The two retry layers meet in that last case: `withRetry` resubmits an envelope whose
answer was lost, and a `tx_bad_seq` for it makes the outer loop rebuild the same
payments under a fresh sequence number. The main result says exactly when a call
nevertheless pays every entry at most once and reports what it paid: when the
ledger's success answer gets through for every transaction it applied.
-/

namespace BrandBlitz.Stellar

open BrandBlitz.Lib

/-! ### The ledger behind Horizon -/

/-- An error that does not speak of the sequence number: what a client sees when an
answer is lost, or when the ledger refuses a transaction for another reason. -/
abbrev OtherError := { err : Err // isBadSequenceError err = false }

/-- What the environment contributes to one call. -/
structure Reply where
  /-- transactions of other users of the account applied in the meantime -/
  elsewhere : Nat
  /-- the account sequence handed out by the shared store -/
  sequence : Nat
  /-- the clock, as the end of the time bounds -/
  maxTime : Nat
  /-- does a call that moves no money throw? -/
  fault : Option Err
  /-- does the ledger refuse a transaction whose sequence number is right? -/
  refused : Option OtherError
  /-- is a transaction that was applied before answered with its result? -/
  remembered : Bool
  /-- does the answer get lost? -/
  lost : Option OtherError

/-- What happened during the call, as far as the environment decided it. -/
inductive Event (ι : Type) where
  | answered (tx : Envelope ι) (answer : Except Err Hash)
  | resetFailed

/-- The hot wallet's account, and what was applied since the call began. -/
structure Horizon (ι : Type) where
  sequence : Nat
  applied : List (Envelope ι)
  log : List (Event ι)

variable {ι : Type}

/-- The account as the call finds it. -/
def Horizon.start (sequence : Nat) : Horizon ι := ⟨sequence, [], []⟩

/-- The answer to a wrong sequence number. -/
def txBadSeq : Err :=
  ⟨true, some "Request failed with status code 400".toList, some 400, none,
    some "tx_bad_seq".toList, none, false⟩

section Ledger

variable [DecidableEq ι]

/-- The ledger's verdict on a transaction. -/
def Horizon.judge (reply : Reply) (tx : Envelope ι) (h : Horizon ι) :
    Except Err Hash × Horizon ι :=
  -- the identical transaction again: its old result, or a stale sequence number
  if tx ∈ h.applied then
    (if reply.remembered then .ok (h.applied.idxOf tx) else .error txBadSeq, h)
  else if tx.sequence ≠ h.sequence + 1 then (.error txBadSeq, h)
  else match reply.refused with
    | some err => (.error err.val, h)
    | none => (.ok h.applied.length,
        { h with sequence := tx.sequence, applied := h.applied ++ [tx] })

/-- `horizon.submitTransaction(tx)`: the verdict, unless it gets lost. -/
def Horizon.submit (reply : Reply) (tx : Envelope ι) (h : Horizon ι) :
    Except Err Hash × Horizon ι :=
  let (verdict, h') := h.judge reply tx
  let answer := match reply.lost with
    | some err => .error err.val
    | none => verdict
  (answer, { h' with log := h'.log ++ [.answered tx answer] })

/-- A call that moves no money: its value, unless it throws. -/
def faulty {α : Type} (reply : Reply) (value : α) : Except Err α :=
  match reply.fault with
  | some err => .error err
  | none => .ok value

/-- Horizon and the sequence store, as `submitBatchPayout` meets them. -/
def horizon : Machine (stellarSig ι) Err (Horizon ι) Reply where
  exec reply op h :=
    let h := { h with sequence := h.sequence + reply.elsewhere }
    match op with
    | .reserveSequence => (faulty reply reply.sequence, h)
    | .loadAccount => (faulty reply h.sequence, h)
    | .buildTransaction .. => (faulty reply reply.maxTime, h)
    | .submitTransaction tx => h.submit reply tx
    | .resetSequence =>
        match reply.fault with
        | some err => (.error err, { h with log := h.log ++ [.resetFailed] })
        | none => (.ok (), h)

/-- Everything a submission can do: it is logged with its answer, it applies the
transaction once or not at all, and a success answer means that it is applied. -/
theorem Horizon.submit_spec (reply : Reply) (tx : Envelope ι) (h : Horizon ι) :
    (h.submit reply tx).2.log = h.log ++ [.answered tx (h.submit reply tx).1] ∧
      ((h.submit reply tx).2.applied = h.applied ∨
        tx ∉ h.applied ∧ (h.submit reply tx).2.applied = h.applied ++ [tx]) ∧
      ∀ hash, (h.submit reply tx).1 = .ok hash → tx ∈ (h.submit reply tx).2.applied := by
  have hjudge : (h.judge reply tx).2.log = h.log ∧
      ((h.judge reply tx).2.applied = h.applied ∨
        tx ∉ h.applied ∧ (h.judge reply tx).2.applied = h.applied ++ [tx]) ∧
      ∀ hash, (h.judge reply tx).1 = .ok hash → tx ∈ (h.judge reply tx).2.applied := by
    unfold Horizon.judge
    split
    · exact ⟨rfl, .inl rfl, fun _ _ => ‹_›⟩
    · split
      · exact ⟨rfl, .inl rfl, fun _ hok => by cases hok⟩
      · split
        · exact ⟨rfl, .inl rfl, fun _ hok => by cases hok⟩
        · exact ⟨rfl, .inr ⟨‹_›, rfl⟩, fun _ _ => by simp⟩
  obtain ⟨hlog, happlied, hok⟩ := hjudge
  refine ⟨by simp only [Horizon.submit, hlog], happlied, fun hash hans => ?_⟩
  cases hlost : reply.lost with
  | some err => simp [Horizon.submit, hlost] at hans
  | none => exact hok hash (by simpa [Horizon.submit, hlost] using hans)

end Ledger

/-! ### What is asked of a call, and of its environment -/

/-- The entries paid on the ledger, once per payment. -/
def Horizon.paidEntries (h : Horizon ι) : List ι :=
  h.applied.flatMap fun tx => tx.payments.map (·.entry)

/-- Is the entry in a result with `success = true`? -/
def reported (outcome : Except Err (List (PayoutBatchResult ι))) (entry : ι) : Prop :=
  ∃ results, outcome = .ok results ∧
    ∃ result ∈ results, result.success = true ∧ entry ∈ result.recipients.map (·.entry)

/-- Every entry is paid at most once, and reported when it was paid. -/
def PaysOnceAndReports (end_ : Except Err (List (PayoutBatchResult ι)) × Horizon ι) : Prop :=
  end_.2.paidEntries.Nodup ∧ ∀ entry ∈ end_.2.paidEntries, reported end_.1 entry

/-- Some submission of `tx` was answered with its success result. -/
def Horizon.Confirmed (h : Horizon ι) (tx : Envelope ι) : Prop :=
  ∃ hash, Event.answered tx (.ok hash) ∈ h.log

/-- For every transaction the ledger applied, the success answer got through at some
submission of it; and no `resetSequence` threw once something had been applied. -/
def AnswersGotThrough (h : Horizon ι) : Prop :=
  (∀ tx ∈ h.applied, h.Confirmed tx) ∧ (Event.resetFailed ∈ h.log → h.applied = [])

/-! ### The accounts of a call -/

/-- How the ledger and the results so far hang together, while `current` batches are
being worked on. -/
structure Accounts (done : List (PayoutBatchResult ι))
    (current : List (PayoutRecipient ι) → Prop) (h : Horizon ι) : Prop where
  nodup : h.applied.Nodup
  origin : ∀ tx ∈ h.applied, tx.payments ∈ done.map (·.recipients) ∨ current tx.payments
  applied : ∀ tx, h.Confirmed tx → tx ∈ h.applied
  success : ∀ tx, h.Confirmed tx → ∃ r ∈ done, r.success = true ∧ r.recipients = tx.payments
  unique : ∀ tx tx', h.Confirmed tx → h.Confirmed tx' → tx.payments = tx'.payments → tx = tx'
  backed : ∀ r ∈ done, r.success = true → ∃ tx, h.Confirmed tx ∧ tx.payments = r.recipients
  alive : Event.resetFailed ∉ h.log

section Accounts

variable {done : List (PayoutBatchResult ι)} {current : List (PayoutRecipient ι) → Prop}
  {batch : List (PayoutRecipient ι)} {tx : Envelope ι} {h h' : Horizon ι}

/-- The account's sequence number does not matter to the accounts. -/
theorem Accounts.congr (hA : Accounts done current h) (happlied : h'.applied = h.applied)
    (hlog : h'.log = h.log) : Accounts done current h' := by
  obtain ⟨sequence, applied, log⟩ := h'
  subst happlied hlog
  exact ⟨hA.nodup, hA.origin, hA.applied, hA.success, hA.unique, hA.backed, hA.alive⟩

/-- A new batch is taken up. -/
theorem Accounts.take_up (hA : Accounts done (fun _ => False) h) :
    Accounts done current h :=
  { hA with origin := fun tx htx => (hA.origin tx htx).imp_right False.elim }

/-- The batch is given up: whatever was applied of it stays unreported. -/
theorem Accounts.give_up (hA : Accounts done (· = batch) h) {r : PayoutBatchResult ι}
    (hr : r.recipients = batch) (hfailed : r.success = false) :
    Accounts (done ++ [r]) (fun _ => False) h where
  nodup := hA.nodup
  origin tx htx := by
    left
    rw [List.map_append, List.mem_append]
    rcases hA.origin tx htx with hdone | hcur
    · exact .inl hdone
    · exact .inr (by simp [hr, hcur])
  applied := hA.applied
  success tx htx := by
    obtain ⟨r', hr', hsuccess⟩ := hA.success tx htx
    exact ⟨r', List.mem_append_left _ hr', hsuccess⟩
  unique := hA.unique
  backed r' hr' hsuccess := by
    rcases List.mem_append.mp hr' with hr' | hr'
    · exact hA.backed r' hr' hsuccess
    · rw [List.mem_singleton.mp hr', hfailed] at hsuccess
      cases hsuccess
  alive := hA.alive

theorem confirmed_append {answer : Except Err Hash}
    (hlog : h'.log = h.log ++ [.answered tx answer]) (tx' : Envelope ι) :
    h'.Confirmed tx' ↔ h.Confirmed tx' ∨ (tx' = tx ∧ ∃ hash, answer = .ok hash) := by
  simp only [Horizon.Confirmed, hlog, List.mem_append, List.mem_singleton, Event.answered.injEq]
  constructor
  · intro h
    obtain ⟨hash, hmem | ⟨rfl, hans⟩⟩ := h
    · exact .inl ⟨hash, hmem⟩
    · exact .inr ⟨rfl, hash, hans.symm⟩
  · intro h
    rcases h with ⟨hash, hmem⟩ | ⟨rfl, hash, rfl⟩
    · exact ⟨hash, .inl hmem⟩
    · exact ⟨hash, .inr ⟨rfl, rfl⟩⟩

/-- What a submission does to the list of applied transactions. -/
theorem mem_applied_submit (happlied : h'.applied = h.applied ∨
    tx ∉ h.applied ∧ h'.applied = h.applied ++ [tx]) (hnodup : h.applied.Nodup) :
    h'.applied.Nodup ∧ (∀ tx' ∈ h'.applied, tx' ∈ h.applied ∨ tx' = tx) ∧
      ∀ tx' ∈ h.applied, tx' ∈ h'.applied := by
  rcases happlied with hsame | ⟨hnew, happ⟩
  · rw [hsame]
    exact ⟨hnodup, fun _ => .inl, fun _ => id⟩
  · rw [happ]
    refine ⟨hnodup.append (List.nodup_singleton tx) (by simpa using hnew), ?_, ?_⟩
    · intro tx' htx'
      simpa using htx'
    · intro tx' htx'
      exact List.mem_append_left _ htx'

/-- A submission whose success answer does not get through leaves the batch open. -/
theorem Accounts.unanswered (hA : Accounts done (· = batch) h) (htx : tx.payments = batch)
    {err : Err} (hlog : h'.log = h.log ++ [.answered tx (.error err)])
    (happlied : h'.applied = h.applied ∨ tx ∉ h.applied ∧ h'.applied = h.applied ++ [tx]) :
    Accounts done (· = batch) h' := by
  have hconf : ∀ tx', h'.Confirmed tx' ↔ h.Confirmed tx' := by
    intro tx'
    simp [confirmed_append hlog]
  obtain ⟨hnodup, hmem, hkeep⟩ := mem_applied_submit happlied hA.nodup
  refine ⟨hnodup, fun tx' htx' => ?_, fun tx' hc => hkeep _ (hA.applied tx' ((hconf tx').mp hc)),
    fun tx' hc => hA.success tx' ((hconf tx').mp hc),
    fun t t' hc hc' => hA.unique t t' ((hconf t).mp hc) ((hconf t').mp hc'),
    fun r hr hs => ?_, ?_⟩
  · rcases hmem tx' htx' with hold | rfl
    · exact hA.origin tx' hold
    · exact .inr htx
  · obtain ⟨t, ht, hpay⟩ := hA.backed r hr hs
    exact ⟨t, (hconf t).mpr ht, hpay⟩
  · rw [hlog]
    simpa using hA.alive

/-- A submission whose success answer gets through closes the batch. -/
theorem Accounts.answered (hA : Accounts done (· = batch) h) (htx : tx.payments = batch)
    (hfresh : batch ∉ done.map (·.recipients)) {hash : Hash}
    (hlog : h'.log = h.log ++ [.answered tx (.ok hash)])
    (happlied : h'.applied = h.applied ∨ tx ∉ h.applied ∧ h'.applied = h.applied ++ [tx])
    (hpaid : tx ∈ h'.applied) {r : PayoutBatchResult ι} (hr : r.recipients = batch)
    (hsuccess : r.success = true) : Accounts (done ++ [r]) (fun _ => False) h' := by
  have hconf : ∀ tx', h'.Confirmed tx' ↔ h.Confirmed tx' ∨ tx' = tx := by
    intro tx'
    simp [confirmed_append hlog]
  -- the transactions confirmed before belong to batches reported before
  have hother : ∀ tx', h.Confirmed tx' → tx'.payments ≠ batch := by
    intro tx' hc heq
    obtain ⟨r', hr', -, hpay⟩ := hA.success tx' hc
    exact hfresh (List.mem_map.mpr ⟨r', hr', hpay.trans heq⟩)
  obtain ⟨hnodup, hmem, hkeep⟩ := mem_applied_submit happlied hA.nodup
  refine ⟨hnodup, fun tx' htx' => .inl ?_, fun tx' hc => ?_, fun tx' hc => ?_,
    fun t t' hc hc' heq => ?_, fun r' hr' hs => ?_, ?_⟩
  · rw [List.map_append, List.mem_append, List.map_singleton, List.mem_singleton, hr]
    rcases hmem tx' htx' with hold | rfl
    · exact hA.origin tx' hold
    · exact .inr htx
  · rcases (hconf tx').mp hc with hc | rfl
    · exact hkeep _ (hA.applied tx' hc)
    · exact hpaid
  · rcases (hconf tx').mp hc with hc | rfl
    · obtain ⟨r', hr', hs⟩ := hA.success tx' hc
      exact ⟨r', List.mem_append_left _ hr', hs⟩
    · exact ⟨r, by simp, hsuccess, hr.trans htx.symm⟩
  · rcases (hconf t).mp hc with hc | rfl
    · rcases (hconf t').mp hc' with hc' | rfl
      · exact hA.unique t t' hc hc' heq
      · exact absurd (heq.trans htx) (hother t hc)
    · rcases (hconf t').mp hc' with hc' | rfl
      · exact absurd (heq.symm.trans htx) (hother t' hc')
      · rfl
  · rcases List.mem_append.mp hr' with hr' | hr'
    · obtain ⟨t, ht, hpay⟩ := hA.backed r' hr' hs
      exact ⟨t, (hconf t).mpr (.inl ht), hpay⟩
    · exact ⟨tx, (hconf tx).mpr (.inr rfl), by rw [List.mem_singleton.mp hr', hr, htx]⟩
  · rw [hlog]
    simpa using hA.alive

end Accounts

/-! ### A whole call -/

/-- Two elements of a list whose images share a member are the same element, when no
member occurs twice in all the images. -/
theorem eq_of_shared {α β : Type} {l : List α} {f : α → List β} (hnodup : (l.flatMap f).Nodup)
    {a b : α} (ha : a ∈ l) (hb : b ∈ l) {x : β} (hxa : x ∈ f a) (hxb : x ∈ f b) : a = b := by
  by_contra hne
  have hpair := (List.nodup_flatMap.mp hnodup).2
  have : Std.Symm (Function.onFun List.Disjoint f) := ⟨fun _ _ h _ hb ha => h ha hb⟩
  exact hpair.forall ha hb hne hxa hxb

section Call

variable [DecidableEq ι] {batches : List (List (PayoutRecipient ι))}

/-- Between two batches: the accounts are settled, and the batches are worked off in
order. -/
def Settled (batches : List (List (PayoutRecipient ι))) (done : List (PayoutBatchResult ι))
    (rest : List (List (PayoutRecipient ι))) (h : Horizon ι) : Prop :=
  done.map (·.recipients) ++ rest = batches ∧ Accounts done (fun _ => False) h

/-- The call was abandoned by a failed reset. -/
def Abandoned (batches : List (List (PayoutRecipient ι))) (h : Horizon ι) : Prop :=
  Event.resetFailed ∈ h.log ∧ ∀ tx ∈ h.applied, tx.payments ∈ batches

/-- One batch against Horizon. -/
theorem horizon_batchStep {done : List (PayoutBatchResult ι)}
    {batch : List (PayoutRecipient ι)} (hfresh : batch ∉ done.map (·.recipients))
    (hsub : ∀ b, b ∈ done.map (·.recipients) ∨ b = batch → b ∈ batches) :
    BatchStep horizon (fun _ _ _ => True) (fun _ => True) batch
      (Accounts done (· = batch))
      (fun _ h => ∀ r : PayoutBatchResult ι, r.recipients = batch → r.success = true →
        Accounts (done ++ [r]) (fun _ => False) h)
      (Abandoned batches) where
  prepare op hop h reply hA _ := by
    refine ⟨trivial, hA.congr ?_ ?_⟩
    all_goals rcases hop with rfl | rfl | ⟨seq, memo, rfl⟩ <;> rfl
  submit tx htx h reply hA _ := by
    refine ⟨trivial, ?_⟩
    obtain ⟨hlog, happlied, hok⟩ :=
      Horizon.submit_spec reply tx { h with sequence := h.sequence + reply.elsewhere }
    have hA' : Accounts done (· = batch)
        { h with sequence := h.sequence + reply.elsewhere } := hA.congr rfl rfl
    simp only [horizon]
    generalize Horizon.submit reply tx _ = out at hlog happlied hok ⊢
    obtain ⟨answer, h'⟩ := out
    cases answer with
    | error err => exact hA'.unanswered htx hlog happlied
    | ok hash => exact fun r hr hs => hA'.answered htx hfresh hlog happlied (hok hash rfl) hr hs
  reset h reply hA _ := by
    refine ⟨trivial, ?_⟩
    simp only [horizon]
    split
    · exact ⟨by simp, fun tx htx => hsub _ (hA.origin tx htx)⟩
    · exact hA.congr rfl rfl

/-- A whole call ends settled or abandoned. -/
theorem horizon_wp (options : SubmitBatchPayoutOptions) (challengeId : Text)
    {recipients : List (PayoutRecipient ι)} (hnodup : (payoutBatches recipients).Nodup)
    (sequence : Nat) :
    (submitBatchPayout options challengeId recipients).wp horizon (fun _ _ _ => True)
      (fun _ => True)
      (Prog.Ends (fun results => Settled (payoutBatches recipients) results [])
        fun _ => Abandoned (payoutBatches recipients))
      (Horizon.start sequence) := by
  refine wp_submitBatches options challengeId ?_ _ 0 [] ⟨rfl, ?_⟩
  · intro done batch rest memo h hK
    obtain ⟨hsplit, hA⟩ := hK
    rw [← hsplit] at hnodup
    -- the batches are distinct, so nothing was reported for this one yet
    have hfresh : batch ∉ done.map (·.recipients) := fun hmem =>
      (List.nodup_append.mp hnodup).2.2 _ hmem _ List.mem_cons_self rfl
    have hsub : ∀ b, b ∈ done.map (·.recipients) ∨ b = batch → b ∈ payoutBatches recipients := by
      rw [← hsplit]
      intro b h
      rcases h with hb | rfl
      · exact List.mem_append_left _ hb
      · exact List.mem_append_right _ List.mem_cons_self
    refine Prog.wp_weaken (wp_submitBatch (horizon_batchStep hfresh hsub) options memo _
      hA.take_up) (fun result h' hend => ?_) fun _ _ hC => hC
    obtain ⟨hr, hpaid | hfailed⟩ := hend
    · obtain ⟨hash, hs, -, hB⟩ := hpaid
      exact ⟨by rw [← hsplit, List.map_append, List.map_singleton, hr, List.append_assoc,
        List.singleton_append], hB result hr hs⟩
    · exact ⟨by rw [← hsplit, List.map_append, List.map_singleton, hr, List.append_assoc,
        List.singleton_append], hfailed.2.2.give_up hr hfailed.1⟩
  · exact ⟨List.nodup_nil, by simp [Horizon.start], by simp [Horizon.Confirmed, Horizon.start],
      by simp [Horizon.Confirmed, Horizon.start], by simp [Horizon.Confirmed, Horizon.start],
      by simp, by simp [Horizon.start]⟩

end Call

section Verdict

variable {batches : List (List (PayoutRecipient ι))} {h : Horizon ι}

/-- A settled call meets its purpose exactly when every applied transaction's success
answer got through. -/
theorem Settled.paysOnceAndReports_iff {results : List (PayoutBatchResult ι)}
    (hS : Settled batches results [] h) (hne : ∀ b ∈ batches, b ≠ [])
    (hentries : (batches.flatMap fun b => b.map (·.entry)).Nodup) :
    PaysOnceAndReports (.ok results, h) ↔ AnswersGotThrough h := by
  obtain ⟨hsplit, hA⟩ := hS
  rw [List.append_nil] at hsplit
  have hbatch : ∀ tx ∈ h.applied, tx.payments ∈ batches := by
    intro tx htx
    rw [← hsplit]
    exact (hA.origin tx htx).resolve_right id
  have hresult : ∀ r ∈ results, r.recipients ∈ batches := fun r hr =>
    hsplit ▸ List.mem_map_of_mem hr
  constructor
  · intro h
    obtain ⟨honce, hreport⟩ := h
    refine ⟨fun tx htx => ?_, fun hreset => absurd hreset hA.alive⟩
    -- an entry of the transaction is reported, so a transaction with it is confirmed
    obtain ⟨p, hp⟩ := List.exists_mem_of_ne_nil _ (hne _ (hbatch tx htx))
    have hentry : p.entry ∈ tx.payments.map (·.entry) := List.mem_map_of_mem hp
    obtain ⟨_, heq, r, hr, hs, hmem⟩ :=
      hreport p.entry (List.mem_flatMap.mpr ⟨tx, htx, hentry⟩)
    cases heq
    obtain ⟨tx', hconf, hpay⟩ := hA.backed r hr hs
    have hsame : tx = tx' :=
      eq_of_shared honce htx (hA.applied tx' hconf) hentry (hpay ▸ hmem)
    rwa [hsame]
  · intro h
    obtain ⟨hconf, -⟩ := h
    constructor
    · -- two transactions that share an entry pay the same batch, and only one is confirmed
      refine List.nodup_flatMap.mpr ⟨fun tx htx => ?_, ?_⟩
      · exact (List.nodup_flatMap.mp hentries).1 _ (hbatch tx htx)
      · refine hA.nodup.pairwise_of_forall_ne fun tx htx tx' htx' hne x hx hx' => hne ?_
        have hpay : tx.payments = tx'.payments :=
          eq_of_shared hentries (hbatch tx htx) (hbatch tx' htx') hx hx'
        exact hA.unique tx tx' (hconf tx htx) (hconf tx' htx') hpay
    · intro entry hmem
      obtain ⟨tx, htx, hentry⟩ := List.mem_flatMap.mp hmem
      obtain ⟨r, hr, hs, hpay⟩ := hA.success tx (hconf tx htx)
      exact ⟨results, rfl, r, hr, hs, hpay ▸ hentry⟩

/-- An abandoned call reports nothing, so it meets its purpose exactly when it had
paid nothing. -/
theorem Abandoned.paysOnceAndReports_iff (hC : Abandoned batches h)
    (hne : ∀ b ∈ batches, b ≠ []) (err : Err) :
    PaysOnceAndReports (.error err, h) ↔ AnswersGotThrough h := by
  obtain ⟨hreset, hbatch⟩ := hC
  constructor
  · intro h
    obtain ⟨-, hreport⟩ := h
    have hempty : h.applied = [] := by
      refine List.eq_nil_iff_forall_not_mem.mpr fun tx htx => ?_
      obtain ⟨p, hp⟩ := List.exists_mem_of_ne_nil _ (hne _ (hbatch tx htx))
      obtain ⟨_, hok, -⟩ := hreport p.entry
        (List.mem_flatMap.mpr ⟨tx, htx, List.mem_map_of_mem hp⟩)
      cases hok
    exact ⟨by simp [hempty], fun _ => hempty⟩
  · intro h
    obtain ⟨-, hnone⟩ := h
    simp [PaysOnceAndReports, Horizon.paidEntries, hnone hreset]

end Verdict

/-- A recipient list as its entries: each is named by its position. -/
def numbered (recipients : List (Text × Text)) : List (PayoutRecipient Nat) :=
  recipients.zipIdx.map fun r => ⟨r.1.1, r.1.2, r.2⟩

theorem numbered_entries_nodup (recipients : List (Text × Text)) :
    ((payoutBatches (numbered recipients)).flatMap fun b => b.map (·.entry)).Nodup := by
  have hflat : ((payoutBatches (numbered recipients)).flatMap fun b => b.map (·.entry)) =
      ((payoutBatches (numbered recipients)).flatten).map (·.entry) := by
    rw [List.map_flatten, List.flatMap]
  rw [hflat, payoutBatches_flatten]
  have hall : ((numbered recipients).map (·.entry)).Nodup := by
    simp only [numbered, List.map_map, Function.comp_def]
    rw [show (fun x : (Text × Text) × Nat => x.2) = Prod.snd from rfl, List.zipIdx_map_snd]
    exact List.nodup_range'
  exact hall.sublist (List.filter_sublist.map _)

/-- **When one call pays every entry at most once and reports what it paid.** For
every recipient list, every sequence of replies of an unreliable Horizon and every
configuration, this is the case if and only if the success answer got through for
every transaction the ledger applied, and no `resetSequence` threw after one was. -/
theorem submitBatchPayout_pays_once_iff (options : SubmitBatchPayoutOptions)
    (challengeId : Text) (recipients : List (Text × Text)) (replies : Nat → Reply)
    (sequence : Nat) :
    PaysOnceAndReports ((submitBatchPayout options challengeId (numbered recipients)).run
        horizon replies (Horizon.start sequence)) ↔
      AnswersGotThrough ((submitBatchPayout options challengeId (numbered recipients)).run
        horizon replies (Horizon.start sequence)).2 := by
  have hentries := numbered_entries_nodup recipients
  have hne : ∀ b ∈ payoutBatches (numbered recipients), b ≠ [] :=
    fun b => ne_nil_of_mem_payoutBatches
  have hnodup : (payoutBatches (numbered recipients)).Nodup := by
    refine (List.nodup_flatMap.mp hentries).2.imp_of_mem fun {b b'} hb _ hdisj heq => ?_
    obtain ⟨p, hp⟩ := List.exists_mem_of_ne_nil _ (hne b hb)
    have hentry : p.entry ∈ b.map (·.entry) := List.mem_map_of_mem hp
    exact hdisj hentry (heq ▸ hentry)
  have hend := Prog.run_of_wp (s := replies) (horizon_wp options challengeId hnodup sequence)
    fun _ _ _ => trivial
  generalize (submitBatchPayout options challengeId (numbered recipients)).run
    horizon replies (Horizon.start sequence) = out at hend ⊢
  obtain ⟨_ | _, h⟩ := out
  · exact Abandoned.paysOnceAndReports_iff hend hne _
  · exact Settled.paysOnceAndReports_iff hend hne hentries

/-! ### A payment made twice

One recipient is owed one USDC. The ledger applies the transaction but the answer
times out; the resubmission is answered `tx_bad_seq`; the sequence is reset and the
payment is built and applied again. -/

/-- A Horizon that answers. -/
def promptReply (sequence : Nat) : Reply := ⟨0, sequence, 180, none, none, true, none⟩

/-- The answer is lost to a timeout. -/
def timedOut : OtherError := ⟨Err.new "timeout of 60000ms exceeded".toList, by decide⟩

/-- Reserve, build, submit (lost), submit again (`tx_bad_seq`), reset, reserve, build,
submit. -/
def lostAnswer : Nat → Reply
  | 0 => promptReply 10
  | 2 => { promptReply 0 with lost := some timedOut }
  | 3 => { promptReply 0 with remembered := false }
  | 5 => promptReply 11
  | _ => promptReply 0

theorem lost_answer_pays_twice :
    ¬ PaysOnceAndReports ((submitBatchPayout ⟨true, 1⟩ "c1".toList
        (numbered [("GA".toList, "1.0000000".toList)])).run
      horizon lostAnswer (Horizon.start 10)) := by
  intro h
  obtain ⟨honce, -⟩ := h
  revert honce
  decide

end BrandBlitz.Stellar

import BrandBlitz.Payout.FraudGuard

/-!
# BrandBlitz.Payout.Evidence

**A row marked as sent is evidence of a payment**: its hash names a transaction on the
chain that pays its user, with the row's address and amount.

A row is marked right after its payment, so at that moment it is evidence. What spoils it
is a later run that gets past the status check, because the last write of the earlier run
was lost: `createPayout` upserts address and amount before anybody looks at the status, so
a paid row is rewritten with what the new leaderboard says. Two smaller gaps are on the
way there: the direct path finds a row by the address paid, which is ambiguous when two
users share one, and the escrow client sends amounts as doubles.

`Consistent` excludes exactly these, of the inputs with which a run starts. Under it paid
rows are evidence in every state of every history, with any call failing anywhere.
-/

namespace BrandBlitz.Payout

open BrandBlitz.Lib BrandBlitz.Stellar

/-! ### What is asked, and of which histories -/

/-- The payments of the transaction that the row names. -/
def PayoutRow.payments (row : PayoutRow) (chain : List Tx) : List Payment :=
  match row.txHash.bind fun hash => chain[hash]? with
  | some tx => tx.payments
  | none => []

/-- One of them pays the user what the row says, where the row says. -/
def Evidenced (chain : List Tx) (u : UserId) (row : PayoutRow) : Prop :=
  ∃ p ∈ row.payments chain, p.entry.user = u ∧ p.destination = row.stellarAddress ∧
    p.amountStroops = row.amountStroops

instance (chain : List Tx) (u : UserId) (row : PayoutRow) : Decidable (Evidenced chain u row) :=
  inferInstanceAs (Decidable (∃ p ∈ _, _))

/-- Every row marked as paid is evidence. -/
def SentRowsEvidenced (w : World) : Prop :=
  ∀ u row, w.payouts u = some row → row.isPaid = true → Evidenced w.chain u row

/-- Between two runs anything may change, but paid rows are not edited by hand. -/
def KeepsSentRows (w w' : World) : Prop :=
  w'.chain = w.chain ∧
    ∀ u row, w'.payouts u = some row → row.isPaid = true → w.payouts u = some row

/-- Each run is one of `processPayout`; if it finds the challenge `ended`, it starts from
inputs that satisfy `C`. -/
def startsPayoutWhen (C : World → Prop) (challengeId : Text) (w w' : World)
    (p : Service Unit) : Prop :=
  KeepsSentRows w w' ∧ (w'.challenge.status = .ended → C w') ∧
    ∃ config, p = processPayout config challengeId

/-- The inputs of a run agree with the rows that are paid already: those users, unless
flagged, are given the address and the amount of their rows. Nobody shares an address with
somebody of another batch, and no amount is changed by `Number`. -/
structure Consistent (w : World) : Prop where
  paid : ∀ a ∈ (payoutAllocations w.basis).values, ∀ row, w.payouts a.userId = some row →
    row.isPaid = true → w.flagged a.userId = false →
      row.stellarAddress = a.address ∧ row.amountStroops = a.amountStroops
  addresses : (payoutAllocations w.basis).values.length ≤ MAX_OPS_PER_TX ∨
    ((payoutAllocations w.basis).values.map (·.address)).Nodup
  exact : ∀ a ∈ (payoutAllocations w.basis).values, toNumber a.amountStroops = a.amountStroops

/-! ### Evidence lasts -/

/-- The transaction with this hash pays the record. -/
def Pays (chain : List Tx) (hash : Hash) (r : PayoutRecord) : Prop :=
  ∃ tx, chain[hash]? = some tx ∧ ∃ p ∈ tx.payments, p.entry.user = r.userId ∧
    p.destination = r.address ∧ p.amountStroops = r.amountStroops

theorem getElem?_of_prefix {α : Type} {l l' : List α} {i : Nat} {a : α} (h : l <+: l')
    (hget : l[i]? = some a) : l'[i]? = some a := by
  obtain ⟨t, rfl⟩ := h
  rw [List.getElem?_append_left (List.getElem?_eq_some_iff.mp hget).1]
  exact hget

theorem Evidenced.mono {chain chain' : List Tx} {u : UserId} {row : PayoutRow}
    (h : Evidenced chain u row) (hgrows : chain <+: chain') : Evidenced chain' u row := by
  obtain ⟨p, hp, hmatch⟩ := h
  refine ⟨p, ?_, hmatch⟩
  unfold PayoutRow.payments at hp ⊢
  cases htx : row.txHash.bind fun hash => chain[hash]? with
  | none => simp [htx] at hp
  | some tx =>
      obtain ⟨hash, hhash, hget⟩ := Option.bind_eq_some_iff.mp htx
      have htx' : (row.txHash.bind fun hash => chain'[hash]?) = some tx :=
        Option.bind_eq_some_iff.mpr ⟨hash, hhash, getElem?_of_prefix hgrows hget⟩
      simpa [htx, htx'] using hp

/-- A row with the record's address and amount, marked with the hash of a transaction that
pays the record, is evidence. -/
theorem Pays.evidenced {chain : List Tx} {hash : Hash} {r : PayoutRecord} {row : PayoutRow}
    (h : Pays chain hash r) (hhash : row.txHash = some hash)
    (haddress : row.stellarAddress = r.address) (hamount : row.amountStroops = r.amountStroops) :
    Evidenced chain r.userId row := by
  obtain ⟨tx, htx, p, hp, huser, hdestination, hpaid⟩ := h
  refine ⟨p, ?_, huser, haddress ▸ hdestination, hamount ▸ hpaid⟩
  simpa [PayoutRow.payments, hhash, htx] using hp

/-! ### Keeping the books -/

/-- While the records are being paid: paid rows are evidence, the rows of the records hold
their addresses and amounts, and the chain contains `c`. -/
structure Tracked (records : List PayoutRecord) (c : List Tx) (w : World) : Prop where
  evidenced : SentRowsEvidenced w
  written : ∀ r ∈ records, ∃ row, w.payouts r.userId = some row ∧
    row.stellarAddress = r.address ∧ row.amountStroops = r.amountStroops
  chain : c <+: w.chain

section Tracks

variable {records : List PayoutRecord} {c c' : List Tx} {w w' : World}

theorem Tracked.of_rows (h : Tracked records c w) (hrows : w'.payouts = w.payouts)
    (hgrows : w.chain <+: w'.chain) : Tracked records c w' where
  evidenced u row hrow hpaid := (h.evidenced u row (hrows ▸ hrow) hpaid).mono hgrows
  written r hr := hrows ▸ h.written r hr
  chain := h.chain.trans hgrows

/-- Marking the row of a record: as sent only with a hash that pays it. -/
theorem Tracked.updatePayoutStatus (h : Tracked records c w) {r : PayoutRecord}
    (hr : r ∈ records) {status : PayoutStatus} {hash : Option Hash} {message : Option Text}
    (hstatus : status = .failed ∨ (status = .sent ∧ ∃ n, hash = some n ∧ Pays c n r)) :
    Tracked records c (w.updatePayoutStatus r.userId status hash message) := by
  obtain ⟨row, hrow, haddress, hamount⟩ := h.written r hr
  simp only [World.updatePayoutStatus, hrow]
  -- the update touches status and hash only, and only in this user's row
  refine ⟨fun u row' hrow' hpaid => ?_, fun r' hr' => ?_, h.chain⟩
  · by_cases hu : u = r.userId
    · subst hu
      simp only [World.setPayout, Function.update_self, Option.some.injEq] at hrow'
      subst hrow'
      rcases hstatus with rfl | ⟨rfl, n, rfl, hpays⟩
      · simp [PayoutRow.isPaid] at hpaid
      · exact Evidenced.mono (hpays.evidenced rfl haddress hamount) h.chain
    · simp only [World.setPayout, Function.update_of_ne hu] at hrow'
      exact h.evidenced u row' hrow' hpaid
  · by_cases hu : r'.userId = r.userId
    · obtain ⟨row', hrow', hmatch⟩ := h.written r' hr'
      rw [hu, hrow] at hrow'
      obtain rfl := Option.some.inj hrow'
      rw [hu]
      exact ⟨_, Function.update_self .., hmatch⟩
    · obtain ⟨row', hrow', hmatch⟩ := h.written r' hr'
      exact ⟨row', by simp only [World.setPayout, Function.update_of_ne hu, hrow'], hmatch⟩

/-- The program keeps track, whatever throws. -/
def Tracks {α : Type} (records : List PayoutRecord) (c : List Tx) (p : Service α) : Prop :=
  ∀ w, Tracked records c w → p.wp payoutMachine (fun _ _ _ => True) SentRowsEvidenced
    (Prog.Ends (fun _ => Tracked records c) fun _ => Tracked records c) w

theorem tracks_of_exec {op : Op} (hexec : ∀ w e, Tracked records c w →
    Tracked records c (payoutMachine.exec e op w).2) :
    Tracks records c (Prog.call (S := payoutSig) op : Service (payoutSig.Ans op)) :=
  fun w hw => Prog.wp_call_world fun e _ => ⟨(hexec w e hw).evidenced, hexec w e hw⟩

theorem tracks_call {op : Op} (hop : op.writesPayouts = false) :
    Tracks records c (Prog.call (S := payoutSig) op : Service (payoutSig.Ans op)) :=
  tracks_of_exec fun w e hw => hw.of_rows (exec_payouts hop) (chain_prefix_exec e op w)

theorem tracks_updatePayoutStatus {r : PayoutRecord} (hr : r ∈ records)
    {status : PayoutStatus} {hash : Option Hash} {message : Option Text}
    (hstatus : status = .failed ∨ (status = .sent ∧ ∃ n, hash = some n ∧ Pays c n r)) :
    Tracks records c (updatePayoutStatus r.userId status hash message) :=
  tracks_of_exec fun _ _ hw => exec_world (P := Tracked records c) hw
    (hw.updatePayoutStatus hr hstatus)

theorem Tracks.bind {α β : Type} {p : Service α} {f : α → Service β} (hp : Tracks records c p)
    (hf : ∀ a, Tracks records c (f a)) : Tracks records c (p.bind f) :=
  fun w hw => Prog.wp_bind (hp w hw) fun a w' hw' => hf a w' hw'

theorem Tracks.swallow {p : Service Unit} (hp : Tracks records c p) :
    Tracks records c (p.tryCatch fun _ => .ret ()) :=
  fun w hw => Prog.wp_tryCatch (hp w hw) fun _ _ hw' => hw'

theorem tracks_bookkeeping : Bookkeeping fun p : Service Unit => Tracks records c p where
  ret := fun _ hw => hw
  bind hp hf := hp.bind hf
  earnings _ _ := tracks_call rfl
  bonus _ _ := tracks_call rfl
  notification u := by
    refine Tracks.bind (tracks_call rfl).swallow fun _ => Tracks.swallow ?_
    refine Tracks.bind (tracks_call rfl) fun enabled => ?_
    split
    · exact tracks_call rfl
    · exact fun _ hw => hw

end Tracks

/-! ### The two paths -/

section Paths

variable {basis : Basis} {records : List PayoutRecord} {c : List Tx}

/-- A settlement pays its records, as long as no amount is changed on the way. -/
theorem pays_settlement (hexact : ∀ r ∈ records, toNumber r.amountStroops = r.amountStroops)
    {chain : List Tx} {hash : Hash} (hget : chain[hash]? =
      some (.settlement (settlementPayments (records.map (escrowRecipient basis)))))
    {r : PayoutRecord} (hr : r ∈ records) : Pays chain hash r := by
  refine ⟨_, hget, ⟨⟨r.userId, basis⟩, r.address, toNumber r.amountStroops⟩, ?_, rfl, rfl,
    hexact r hr⟩
  simp only [Tx.payments, settlementPayments, List.map_map]
  exact List.mem_map.mpr ⟨r, hr, rfl⟩

theorem tracks_settleThroughEscrow
    (hexact : ∀ r ∈ records, toNumber r.amountStroops = r.amountStroops) {w : World}
    (hw : Tracked records c w) :
    (settleThroughEscrow basis records).wp payoutMachine (fun _ _ _ => True) SentRowsEvidenced
      (Prog.Ends (fun _ => Tracked records c) fun _ => Tracked records c) w := by
  refine Prog.wp_bind (P := fun hash w' => Tracked records c w' ∧ w'.chain[hash]? =
      some (.settlement (settlementPayments (records.map (escrowRecipient basis)))))
    (Prog.wp_call fun e _ => ?_) fun hash w' h => ?_
  · have htracked : Tracked records c (payoutMachine.exec e
        (.settle (records.map (escrowRecipient basis))) w).2 :=
      hw.of_rows (exec_payouts rfl) (chain_prefix_exec e _ w)
    refine ⟨htracked.evidenced, ?_⟩
    rcases exec_settle e (records.map (escrowRecipient basis)) w with ⟨err, hexec⟩ | hexec
    · rw [hexec] at htracked ⊢
      exact htracked
    · rw [hexec] at htracked ⊢
      exact ⟨htracked, by simp [World.broadcast]⟩
  · obtain ⟨htracked, hget⟩ := h
    -- the chain stands still now, and contains the transaction that the rows will name
    have hhere : Tracked records w'.chain w' :=
      ⟨htracked.evidenced, htracked.written, List.prefix_refl _⟩
    have hbooks : Tracks records w'.chain ((Prog.forEach records (recordSettled hash)).bind
        fun _ => updateChallengeStatus .settled (some [hash])) := by
      refine Tracks.bind (tracks_bookkeeping.forEach fun r hr => ?_) fun _ => tracks_call rfl
      exact tracks_bookkeeping.recordSettled (tracks_updatePayoutStatus hr
        (.inr ⟨rfl, hash, rfl, pays_settlement hexact hget hr⟩))
    have hback : ∀ w'', Tracked records w'.chain w'' → Tracked records c w'' := fun w'' h =>
      ⟨h.evidenced, h.written, htracked.chain.trans h.chain⟩
    exact Prog.wp_weaken (hbooks w' hhere) (fun _ w'' h => hback w'' h) fun _ w'' h =>
      hback w'' h

/-- A result speaks of one of the batches, and if successful of the transaction that paid
it. -/
def Reported (recipients : List (PayoutRecipient Entry)) (chain : List Tx)
    (result : PayoutBatchResult Entry) : Prop :=
  result.recipients ∈ payoutBatches recipients ∧
    (result.success = true → ∃ hash, result.txHash = some hash ∧
      chain[hash]? = some (.transfer (transferPayments result.recipients)))

theorem Reported.mono {recipients : List (PayoutRecipient Entry)} {chain chain' : List Tx}
    {result : PayoutBatchResult Entry} (h : Reported recipients chain result)
    (hgrows : chain <+: chain') : Reported recipients chain' result := by
  refine ⟨h.1, fun hsuccess => ?_⟩
  obtain ⟨hash, hhash, hget⟩ := h.2 hsuccess
  exact ⟨hash, hhash, getElem?_of_prefix hgrows hget⟩

/-- A call of the SDK keeps track of the records and of the results so far. -/
theorem tracked_stellar {recipients : List (PayoutRecipient Entry)}
    {done : List (PayoutBatchResult Entry)} {w : World} (e : Env) (op : StellarOp Entry)
    (hw : Tracked records c w ∧ ∀ result ∈ done, Reported recipients w.chain result) :
    Tracked records c (payoutMachine.exec e (.stellar op) w).2 ∧
      ∀ result ∈ done, Reported recipients (payoutMachine.exec e (.stellar op) w).2.chain
        result :=
  ⟨hw.1.of_rows (exec_payouts rfl) (chain_prefix_exec e _ w),
    fun result hmem => (hw.2 result hmem).mono (chain_prefix_exec e _ w)⟩

theorem batchStep_tracked (recipients : List (PayoutRecipient Entry))
    (done : List (PayoutBatchResult Entry)) (batch : List (PayoutRecipient Entry)) :
    BatchStep (Prog.Machine.comap stellarHom payoutMachine) (fun _ _ _ => True)
      SentRowsEvidenced batch
      (fun w => Tracked records c w ∧ ∀ result ∈ done, Reported recipients w.chain result)
      (fun hash w => (Tracked records c w ∧
        ∀ result ∈ done, Reported recipients w.chain result) ∧
          w.chain[hash]? = some (.transfer (transferPayments batch)))
      (Tracked records c) where
  prepare op _ w e hw _ :=
    have hkept := tracked_stellar e op hw
    ⟨hkept.1.evidenced, hkept⟩
  submit tx htx w e hw _ := by
    have hkept := tracked_stellar e (.submitTransaction tx) hw
    refine ⟨hkept.1.evidenced, ?_⟩
    simp only [Prog.Machine.comap, stellarHom]
    rcases exec_submitTransaction e tx w with ⟨err, hexec⟩ | hexec
    · rw [hexec] at hkept ⊢
      exact hkept
    · rw [hexec] at hkept ⊢
      exact ⟨hkept, by simp [World.broadcast, htx]⟩
  reset w e hw _ := by
    have hkept := tracked_stellar e .resetSequence hw
    refine ⟨hkept.1.evidenced, ?_⟩
    simp only [Prog.Machine.comap, stellarHom]
    cases (payoutMachine.exec e (.stellar .resetSequence) w).1 with
    | ok a => exact hkept
    | error err => exact hkept.1

/-- All batches: every result speaks of its batch. -/
theorem wp_submitBatchPayout_tracked (challengeId : Text)
    (recipients : List (PayoutRecipient Entry)) {w : World} (hw : Tracked records c w) :
    ((submitBatchPayout batchOptions challengeId recipients).embed stellarHom).wp payoutMachine
      (fun _ _ _ => True) SentRowsEvidenced
      (Prog.Ends (fun results w' => Tracked records c w' ∧
        ∀ result ∈ results, Reported recipients w'.chain result) fun _ => Tracked records c)
      w := by
  refine Prog.wp_embed (Prog.wp_weaken (wp_submitBatches
    (K := fun done rest w => (Tracked records c w ∧
      ∀ result ∈ done, Reported recipients w.chain result) ∧
        ∀ batch ∈ rest, batch ∈ payoutBatches recipients) batchOptions challengeId ?_ _ 0
    [] ⟨⟨hw, by simp⟩, fun _ h => h⟩) (fun _ _ h => h.1) fun _ _ h => h)
  intro done batch rest memo w h
  obtain ⟨hkept, hrest⟩ := h
  refine Prog.wp_weaken (wp_submitBatch (batchStep_tracked recipients done batch) batchOptions
    memo _ hkept) (fun result w' hend => ?_) fun _ _ h => h
  have hbatch := hrest batch List.mem_cons_self
  obtain ⟨hrecipients, hresult⟩ := hend
  have hsettled : (Tracked records c w' ∧ ∀ result ∈ done, Reported recipients w'.chain result) ∧
      Reported recipients w'.chain result := by
    rw [Reported, hrecipients]
    rcases hresult with ⟨hash, hsuccess, hhash, hkept', hget⟩ | ⟨hfailed, -, hkept'⟩
    · exact ⟨hkept', hbatch, fun _ => ⟨hash, hhash, hget⟩⟩
    · exact ⟨hkept', hbatch, fun hsuccess => by rw [hfailed] at hsuccess; cases hsuccess⟩
  obtain ⟨⟨htracked, hdone⟩, hreported⟩ := hsettled
  refine ⟨⟨htracked, fun result' hmem => ?_⟩,
    fun batch' hbatch' => hrest batch' (List.mem_cons_of_mem _ hbatch')⟩
  rcases List.mem_append.mp hmem with hmem | hmem
  · exact hdone result' hmem
  · rwa [List.mem_singleton.mp hmem]

/-- The row found for a recipient belongs to the recipient's own batch. -/
def FoundInBatch (basis : Basis) (records : List PayoutRecord) : Prop :=
  ∀ batch ∈ payoutBatches (records.map (payoutRecipient basis)), ∀ recipient ∈ batch,
    ∀ r, findRecord records recipient = some r → payoutRecipient basis r ∈ batch

theorem tracks_payDirectly (challengeId : Text) (hfound : FoundInBatch basis records)
    (hprinted : ∀ r ∈ records, r.amount = stroopsToUsdc r.amountStroops) {w : World}
    (hw : Tracked records c w) :
    (payDirectly challengeId basis records).wp payoutMachine (fun _ _ _ => True)
      SentRowsEvidenced
      (Prog.Ends (fun _ => SentRowsEvidenced) fun _ => SentRowsEvidenced) w := by
  refine Prog.wp_bind (Prog.wp_weaken (wp_submitBatchPayout_tracked challengeId _ hw)
    (fun _ _ h => h) fun _ _ h => h.evidenced) fun results w' h => ?_
  obtain ⟨htracked, hreported⟩ := h
  have hhere : Tracked records w'.chain w' :=
    ⟨htracked.evidenced, htracked.written, List.prefix_refl _⟩
  have hbooks : Tracks records w'.chain ((Prog.forEach results (recordResult records)).bind
      fun _ => updateChallengeStatus (if hasFailure results then .payoutFailed else .settled)
        (if (txHashes results).isEmpty then none else some (txHashes results))) := by
    refine Tracks.bind (tracks_bookkeeping.forEach fun result hresult => ?_)
      fun _ => tracks_call rfl
    refine tracks_bookkeeping.recordResult fun recipient hrecipient r hr => ?_
    have hmem : r ∈ records := List.mem_of_find?_eq_some hr
    refine tracks_updatePayoutStatus hmem ?_
    obtain ⟨hbatch, hpaid⟩ := hreported result hresult
    cases hsuccess : result.success with
    | false => exact .inl rfl
    | true =>
        obtain ⟨hash, hhash, hget⟩ := hpaid hsuccess
        refine .inr ⟨rfl, hash, hhash, _, hget, ⟨⟨r.userId, basis⟩, r.address,
          (usdcToStroops r.amount).toOption.getD 0⟩, ?_, rfl, rfl, ?_⟩
        · exact List.mem_map_of_mem (hfound _ hbatch recipient hrecipient r hr)
        · simp [hprinted r hmem, usdcToStroops_stroopsToUsdc, Except.toOption]
  exact Prog.wp_weaken (hbooks w' hhere) (fun _ _ h => h.evidenced) fun _ _ h => h.evidenced

/-- With distinct addresses the row found is the recipient's own; and a single batch has
them all. -/
theorem foundInBatch {w : World} (hconsistent : Consistent w)
    (hrecords : records.Sublist ((payoutAllocations w.basis).values.map recordOf)) :
    FoundInBatch w.basis records := by
  intro batch hbatch recipient hrecipient r hr
  have hmem : r ∈ records := List.mem_of_find?_eq_some hr
  rcases hconsistent.addresses with hfew | hdistinct
  · have hlength : (records.map (payoutRecipient w.basis)).length ≤ MAX_OPS_PER_TX := by
      have hle := hrecords.length_le
      rw [List.length_map] at hle ⊢
      exact Nat.le_trans hle hfew
    rw [eq_of_mem_payoutBatches hlength hbatch]
    refine List.mem_filter.mpr ⟨List.mem_map_of_mem hmem, ?_⟩
    obtain ⟨a, ha, rfl⟩ := List.mem_map.mp (hrecords.subset hmem)
    exact payoutRecipient_valid ha
  · obtain ⟨r', hr', rfl⟩ :=
      List.mem_map.mp ((sublist_of_mem_payoutBatches hbatch).subset hrecipient)
    have hfound := List.find?_some hr
    have hnodup : (records.map (·.address)).Nodup := by
      refine List.Nodup.sublist (hrecords.map _) ?_
      rwa [List.map_map]
    rwa [List.inj_on_of_nodup_map hnodup hmem hr' (of_decide_eq_true hfound)]

theorem wp_payRecords_evidence (config : PayoutConfig) (challengeId : Text) {w₀ : World}
    (hconsistent : Consistent w₀)
    (hrecords : records.Sublist ((payoutAllocations w₀.basis).values.map recordOf)) {w : World}
    (hw : Tracked records c w) :
    (payRecords config challengeId w₀.basis records).wp payoutMachine (fun _ _ _ => True)
      SentRowsEvidenced
      (Prog.Ends (fun _ => SentRowsEvidenced) fun _ => SentRowsEvidenced) w := by
  have hof : ∀ r ∈ records, ∃ a ∈ (payoutAllocations w₀.basis).values, recordOf a = r :=
    fun r hr => List.mem_map.mp (hrecords.subset hr)
  have hexact : ∀ r ∈ records, toNumber r.amountStroops = r.amountStroops := by
    intro r hr
    obtain ⟨a, ha, rfl⟩ := hof r hr
    exact hconsistent.exact a ha
  have hprinted : ∀ r ∈ records, r.amount = stroopsToUsdc r.amountStroops := by
    intro r hr
    obtain ⟨a, -, rfl⟩ := hof r hr
    rfl
  have hdirect := fun w' (hw' : Tracked records c w') =>
    tracks_payDirectly challengeId (foundInBatch hconsistent hrecords) hprinted hw'
  unfold payRecords
  split
  · exact Prog.wp_tryCatch (Prog.wp_weaken (tracks_settleThroughEscrow hexact hw)
      (fun _ _ h => h.evidenced) fun _ _ h => h) fun _ w' hw' => hdirect w' hw'
  · exact hdirect w hw

end Paths

/-! ### Creating the rows -/

section Loop

variable {w₀ : World}

/-- The upsert of a row that is paid already writes what is there. -/
theorem SentRowsEvidenced.upsert {w : World} (h : SentRowsEvidenced w) {a : PayoutAllocation}
    (hpaid : ∀ row, w.payouts a.userId = some row → row.isPaid = true →
      row.stellarAddress = a.address ∧ row.amountStroops = a.amountStroops) :
    SentRowsEvidenced (w.setPayout a.userId
      (w.upsertPayout a.userId a.address a.amountStroops)) := by
  intro u row' hrow' hpaid'
  by_cases hu : u = a.userId
  · subst hu
    simp only [World.setPayout, Function.update_self, Option.some.injEq] at hrow'
    rw [← hrow', isPaid_upsertPayout] at hpaid'
    obtain ⟨row, hrow, hrowPaid⟩ := (Option.any_eq_true _ _).mp hpaid'
    obtain ⟨haddress, hamount⟩ := hpaid row hrow hrowPaid
    obtain ⟨p, hp, huser, hdestination, hpays⟩ := h a.userId row hrow hrowPaid
    simp only [World.upsertPayout, hrow] at hrow'
    rw [← hrow']
    exact ⟨p, hp, huser, hdestination.trans haddress, hpays.trans hamount⟩
  · simp only [World.setPayout, Function.update_of_ne hu] at hrow'
    exact h u row' hrow' hpaid'

/-- The loop keeps paid rows evidence, from consistent inputs. -/
theorem evidence_loopInvariant (hconsistent : Consistent w₀) :
    LoopInvariant SentRowsEvidenced fun rest w => Pending w₀ rest w ∧ SentRowsEvidenced w ∧
      ∀ a ∈ rest, a ∈ (payoutAllocations w₀.basis).values where
  holds _ _ h := h.2.1
  skip _ _ _ h := ⟨h.1.tail, h.2.1, fun a' ha' => h.2.2 a' (List.mem_cons_of_mem _ ha')⟩
  upsert a rest w hfresh hclear h := by
    obtain ⟨hpending, hevidenced, hmem⟩ := h
    refine ⟨hpending.tail.setPayout hfresh _, hevidenced.upsert fun row hrow hpaid => ?_,
      fun a' ha' => hmem a' (List.mem_cons_of_mem _ ha')⟩
    rw [hpending.payouts a List.mem_cons_self] at hrow
    exact hconsistent.paid a (hmem a List.mem_cons_self) row hrow hpaid
      (hpending.flagged ▸ hclear)
  audit _ _ _ h := ⟨⟨h.1.unsubmitted, h.1.flagged, h.1.payouts⟩, h.2.1, h.2.2⟩

end Loop

/-! ### Whole runs -/

/-- **One run keeps paid rows evidence**, if it finds the challenge closed or its inputs
consistent. -/
theorem wp_processPayout_evidence (config : PayoutConfig) (challengeId : Text) {w : World}
    (hw : SentRowsEvidenced w) (hconsistent : w.challenge.status = .ended → Consistent w) :
    (processPayout config challengeId).wp payoutMachine (fun _ _ _ => True) SentRowsEvidenced
      (Prog.Ends (fun _ => SentRowsEvidenced) fun _ => SentRowsEvidenced) w := by
  have hstatus : ∀ {records : List PayoutRecord} {w' : World}, Tracked records [] w' →
      (updateChallengeStatus .settled none).wp payoutMachine (fun _ _ _ => True)
        SentRowsEvidenced
        (Prog.Ends (fun _ => SentRowsEvidenced) fun _ => SentRowsEvidenced) w' :=
    fun htracked => Prog.wp_weaken (tracks_call rfl _ htracked) (fun _ _ h => h.evidenced)
      fun _ _ h => h.evidenced
  have hnone : Tracked [] [] w := ⟨hw, by simp, List.nil_prefix⟩
  refine wp_processPayout hw (fun _ _ _ _ _ _ => hw) (fun _ _ => hw) (fun _ => hw)
    (fun _ _ => hstatus hnone) fun hallocates => ?_
  have hinputs := hconsistent hallocates.1
  refine Prog.wp_bind (wp_createPayoutRecords_written (evidence_loopInvariant hinputs) _
    (payoutAllocations_users_nodup _)
    ⟨⟨⟨rfl, rfl⟩, rfl, fun _ _ => rfl⟩, hw, fun _ ha => ha⟩) ?_
  intro records w' h
  obtain ⟨⟨-, hevidenced, -⟩, hwritten, -, hsub⟩ := h
  have htracked : Tracked records [] w' := ⟨hevidenced, hwritten, List.nil_prefix⟩
  split
  · exact hstatus htracked
  · exact wp_payRecords_evidence config challengeId hinputs hsub htracked

/-- **A sent row is evidence.** In every history of runs of `processPayout`, with any call
throwing anywhere and everything but paid rows changing between runs, every row marked as
paid names a transaction that pays its user the row's amount at the row's address, as long
as every run that finds the challenge `ended` starts from consistent inputs. -/
theorem sent_rows_are_evidence (challengeId : Text) (w₀ : World)
    (h₀ : ∀ u row, w₀.payouts u = some row → row.isPaid = false) {w : World}
    {inProgress : Option (Service Unit)}
    (history : Seq payoutMachine (fun _ _ _ => True) (startsPayoutWhen Consistent challengeId)
      w₀ w inProgress) : SentRowsEvidenced w := by
  have hstart : SentRowsEvidenced w₀ := fun u row hrow hpaid => by
    rw [h₀ u row hrow] at hpaid
    cases hpaid
  refine (Seq.sound (J := SentRowsEvidenced) hstart (fun _ h => h) ?_ history).1
  intro w w' p hw h
  obtain ⟨⟨hchain, hrows⟩, hconsistent, config, rfl⟩ := h
  have hw' : SentRowsEvidenced w' := fun u row hrow hpaid =>
    hchain ▸ hw u row (hrows u row hrow hpaid) hpaid
  exact ⟨hw', Prog.wp_world (wp_processPayout_evidence config challengeId hw' hconsistent)⟩

/-! ### Two histories

One player, no escrow. The run pays, but the update of the challenge's status is lost. -/

def onePlayer : World := World.ended 1000000000 [player 1 300]

def afterLostUpdate : World :=
  ((processPayout directConfig "c1".toList).run payoutMachine
    (fun n => if n = 14 then dbDown else calm) onePlayer).2

/-- The player moves to another address. -/
def afterMove : World :=
  { afterLostUpdate with
    sessions := [⟨1, 1, some "GNEW".toList, 300, some 0, 0, none⟩] }

/-- The job is run again. -/
def rerun (w : World) : World :=
  ((processPayout directConfig "c1".toList).run payoutMachine (fun _ => calm) w).2

theorem keepsSentRows_refl (w : World) : KeepsSentRows w w := ⟨rfl, fun _ _ h _ => h⟩

theorem onePlayer_consistent : Consistent onePlayer where
  paid _ _ _ hrow := by cases hrow
  addresses := .inl (by decide)
  exact := by decide

theorem afterLostUpdate_consistent : Consistent afterLostUpdate where
  paid a ha row hrow _ _ := by
    have hvalues : (payoutAllocations afterLostUpdate.basis).values =
        [⟨"G1".toList, 1, 1000000000⟩] := by decide
    have hone : afterLostUpdate.payouts 1 = some ⟨"G1".toList, 1000000000, .sent, some 0, none⟩ := by
      decide
    rw [hvalues] at ha
    obtain rfl := List.mem_singleton.mp ha
    cases hone.symm.trans hrow
    exact ⟨rfl, rfl⟩
  addresses := .inl (by decide)
  exact := by decide

/-- If the player stays, the second run writes the same row again. -/
theorem rerun_keeps_evidence :
    (rerun afterLostUpdate).payouts 1 = some ⟨"G1".toList, 1000000000, .sent, some 0, none⟩ ∧
      SentRowsEvidenced (rerun afterLostUpdate) := by
  refine ⟨by decide, ?_⟩
  have hfirst : Seq payoutMachine (fun _ _ _ => True)
      (startsPayoutWhen Consistent "c1".toList) onePlayer afterLostUpdate none :=
    Seq.run (Seq.start Seq.init ⟨keepsSentRows_refl _, fun _ => onePlayer_consistent,
      directConfig, rfl⟩) fun _ _ _ => trivial
  exact sent_rows_are_evidence "c1".toList onePlayer (fun _ _ hrow => by cases hrow)
    (Seq.run (Seq.start hfirst ⟨keepsSentRows_refl _, fun _ => afterLostUpdate_consistent,
      directConfig, rfl⟩) fun _ _ _ => trivial)

/-- If the player moves, the second run rewrites the address of a payment that was made. -/
theorem rerun_rewrites_sent_row :
    ¬ ∀ (w : World) (inProgress : Option (Service Unit)),
      Seq payoutMachine (fun _ _ _ => True) (startsPayoutWhen (fun _ => True) "c1".toList)
        onePlayer w inProgress → SentRowsEvidenced w := by
  intro hall
  have hfirst : Seq payoutMachine (fun _ _ _ => True)
      (startsPayoutWhen (fun _ => True) "c1".toList) onePlayer afterLostUpdate none :=
    Seq.run (Seq.start Seq.init ⟨keepsSentRows_refl _, fun _ => trivial, directConfig, rfl⟩)
      fun _ _ _ => trivial
  have hmove : KeepsSentRows afterLostUpdate afterMove := ⟨rfl, fun _ _ h _ => h⟩
  have hsecond : Seq payoutMachine (fun _ _ _ => True)
      (startsPayoutWhen (fun _ => True) "c1".toList) onePlayer (rerun afterMove) none :=
    Seq.run (Seq.start hfirst ⟨hmove, fun _ => trivial, directConfig, rfl⟩) fun _ _ _ => trivial
  have hevidenced := hall _ _ hsecond 1 ⟨"GNEW".toList, 1000000000, .sent, some 0, none⟩ (by decide) rfl
  revert hevidenced
  decide

end BrandBlitz.Payout

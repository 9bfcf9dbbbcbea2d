import BrandBlitz.Payout.Records

/-!
# BrandBlitz.Payout.Recording

**What the direct way writes down**: the loop of `processPayout` over the results of
`submitBatchPayout`, and the status the challenge gets after it.

The loop goes over the recipients of the results and looks up the record of each by its
address, so what it writes is a list of records (`writes`), the same for every run that
completes; notifications and referral bonuses are neither here nor there. One lemma says
what one recipient adds to the books (`wp_recordRecipient`), `BooksAfter` carries it
through both loops.

A record is found by its own recipient exactly when no earlier record has its address.
Then every valid recipient writes its own record, once. Otherwise some record is never
written at all: it is still `pending` although it was paid, and the first record with
its address is written twice.
-/

namespace BrandBlitz.Payout

open BrandBlitz.Lib BrandBlitz.Stellar

/-- `submitBatchPayout` can return these results for the recipients of the records. -/
def Returnable (basis : Basis) (records : List PayoutRecord)
    (results : List (PayoutBatchResult Entry)) : Prop :=
  ∃ challengeId s w, (((submitBatchPayout batchOptions challengeId
    (records.map (payoutRecipient basis))).embed stellarHom).run payoutMachine s w).1 =
      .ok results

/-- The recipient of the record is not dropped. -/
def payable (basis : Basis) (r : PayoutRecord) : Bool :=
  (getInvalidRecipientReason (payoutRecipient basis r)).isNone

/-- Whatever is returned reports on the batches, in order. -/
theorem Returnable.recipients {basis : Basis} {records : List PayoutRecord}
    {results : List (PayoutBatchResult Entry)} (h : Returnable basis records results) :
    results.map (·.recipients) = payoutBatches (records.map (payoutRecipient basis)) := by
  obtain ⟨challengeId, s, w, hrun⟩ := h
  have hemits : (submitBatchPayout batchOptions challengeId
      (records.map (payoutRecipient basis))).Emits (fun _ => True) (fun _ _ => True) _ :=
    submitBatchPayout_emits (fun _ _ => trivial) (fun _ _ => trivial) batchOptions challengeId
  have hembed : ((submitBatchPayout batchOptions challengeId
      (records.map (payoutRecipient basis))).embed stellarHom).Emits (fun _ => True)
        (fun _ _ => True) _ := hemits.embed fun _ _ _ => trivial
  have hends := Prog.run_of_wp (s := s) (hembed.wp_returns (M := payoutMachine)
    (G := fun _ _ _ => True) (I := fun _ => True) (K := fun _ => True) (fun _ _ => trivial)
    (fun _ _ _ _ _ _ => ⟨trivial, trivial⟩) (w := w) trivial) fun _ _ _ => trivial
  rw [hrun] at hends
  exact hends.1

/-! ### What is written -/

/-- The records that one result writes, each with the outcome of its batch. -/
def writesOf (records : List PayoutRecord) (result : PayoutBatchResult Entry) :
    List (PayoutRecord × Bool) :=
  result.recipients.flatMap fun recipient =>
    (findRecord records recipient).toList.map fun r => (r, result.success)

/-- The records that the loop writes, in order. -/
def writes (records : List PayoutRecord) (results : List (PayoutBatchResult Entry)) :
    List (PayoutRecord × Bool) :=
  results.flatMap (writesOf records)

/-- The status of a record whose batch went through, or did not. -/
def recordedStatus (success : Bool) : PayoutStatus := if success then .sent else .failed

/-- The books after the writes `done`: nobody else's row is touched, the last write of a
row stands, and every write of a success is an increment. -/
structure BooksAfter (records : List PayoutRecord) (w₀ : World)
    (done : List (PayoutRecord × Bool)) (w : World) : Prop where
  rows : ∀ r ∈ records, (w.payouts r.userId).isSome = true
  untouched : ∀ u, u ∉ done.map (·.1.userId) → w.payouts u = w₀.payouts u
  marked : (done.map (·.1.userId)).Nodup → ∀ t ∈ done,
    (w.payouts t.1.userId).map (·.status) = some (recordedStatus t.2)
  earnings : w.earnings =
    w₀.earnings ++ (done.filter (·.2)).map fun t => (t.1.userId, t.1.amount)

section BooksAfter

variable {records : List PayoutRecord} {w₀ w w' : World} {done : List (PayoutRecord × Bool)}

theorem BooksAfter.congr (h : BooksAfter records w₀ done w) (hrows : w'.payouts = w.payouts)
    (hearnings : w'.earnings = w.earnings) : BooksAfter records w₀ done w' where
  rows := hrows ▸ h.rows
  untouched := hrows ▸ h.untouched
  marked := hrows ▸ h.marked
  earnings := hearnings.trans h.earnings

/-- One write: the row is marked, and a success is an increment. -/
theorem BooksAfter.write (h : BooksAfter records w₀ done w) {r : PayoutRecord}
    (hr : r ∈ records) (success : Bool) {txHash : Option Hash} {message : Option Text}
    (hrows : w'.payouts =
      (w.updatePayoutStatus r.userId (recordedStatus success) txHash message).payouts)
    (hearnings : w'.earnings = w.earnings ++ if success then [(r.userId, r.amount)] else []) :
    BooksAfter records w₀ (done ++ [(r, success)]) w' := by
  obtain ⟨row, hrow⟩ := Option.isSome_iff_exists.mp (h.rows r hr)
  simp only [World.updatePayoutStatus, hrow, World.setPayout] at hrows
  have hself : (w'.payouts r.userId).map (·.status) = some (recordedStatus success) := by
    rw [hrows, Function.update_self]
    rfl
  have hother : ∀ u, u ≠ r.userId → w'.payouts u = w.payouts u := by
    intro u hu
    rw [hrows, Function.update_of_ne hu]
  refine ⟨?_, ?_, ?_, ?_⟩
  · intro r' hr'
    by_cases hu : r'.userId = r.userId
    · rw [hu, hrows, Function.update_self]
      rfl
    · rw [hother _ hu]
      exact h.rows r' hr'
  · intro u hu
    rw [List.map_append, List.mem_append, not_or] at hu
    rw [hother u fun heq => hu.2 (by simp [heq])]
    exact h.untouched u hu.1
  · intro hnodup t ht
    rw [List.map_append, List.map_singleton] at hnodup
    obtain ⟨hdone, -, hdisjoint⟩ := List.nodup_append.mp hnodup
    rcases List.mem_append.mp ht with ht | ht
    · have hne : t.1.userId ≠ r.userId :=
        hdisjoint _ (List.mem_map_of_mem ht) _ (List.mem_singleton_self _)
      rw [hother _ hne]
      exact h.marked hdone t ht
    · obtain rfl := List.mem_singleton.mp ht
      exact hself
  · rw [hearnings, h.earnings, List.append_assoc]
    cases success <;> simp [List.filter_append]

end BooksAfter

/-! ### The loops -/

section Loops

variable {records : List PayoutRecord} {w₀ : World}

/-- A program that, while it returns, writes `new`. -/
def Writes (records : List PayoutRecord) (w₀ : World) (new : List (PayoutRecord × Bool))
    (p : Service Unit) : Prop :=
  ∀ done w, BooksAfter records w₀ done w → p.wp payoutMachine (fun _ _ _ => True)
    (fun _ => True) (Prog.Ends (fun _ => BooksAfter records w₀ (done ++ new)) fun _ _ => True) w

theorem Writes.ret : Writes records w₀ [] (.ret ()) := by
  intro done w h
  show BooksAfter records w₀ (done ++ []) w
  rwa [List.append_nil]

theorem Writes.bind {new new' : List (PayoutRecord × Bool)} {p : Service Unit}
    {f : Unit → Service Unit} (hp : Writes records w₀ new p)
    (hf : ∀ u, Writes records w₀ new' (f u)) :
    Writes records w₀ (new ++ new') (p.bind f) := by
  intro done w h
  refine Prog.wp_bind (hp done w h) fun _ w' hw' => ?_
  rw [← List.append_assoc]
  exact hf _ (done ++ new) w' hw'

theorem Writes.forEach {α : Type} {body : α → Service Unit}
    (new : α → List (PayoutRecord × Bool)) :
    ∀ list : List α, (∀ a ∈ list, Writes records w₀ (new a) (body a)) →
      Writes records w₀ (list.flatMap new) (Prog.forEach list body) := by
  intro list
  induction list with
  | nil => intro _; exact Writes.ret
  | cons a rest ih =>
      intro hbody
      rw [List.flatMap_cons]
      exact (hbody a List.mem_cons_self).bind fun _ =>
        ih fun a' ha' => hbody a' (List.mem_cons_of_mem _ ha')

/-- Neither a row nor an increment is written. -/
def BooksKept (w w' : World) : Prop := w'.payouts = w.payouts ∧ w'.earnings = w.earnings

/-- A program that keeps no books, whether or not it throws. -/
def OffBooks (p : Service Unit) : Prop :=
  ∀ w₁ w, BooksKept w₁ w → p.wp payoutMachine (fun _ _ _ => True) (fun _ => True)
    (Prog.Ends (fun _ => BooksKept w₁) fun _ => BooksKept w₁) w

theorem OffBooks.writes {p : Service Unit} (h : OffBooks p) : Writes records w₀ [] p := by
  intro done w hw
  rw [List.append_nil]
  exact Prog.wp_weaken (h w w ⟨rfl, rfl⟩) (fun _ w' hw' => hw.congr hw'.1 hw'.2)
    fun _ _ _ => trivial

theorem offBooks_bonus (u : UserId) (amount : Nat) :
    OffBooks (queueReferralBonusForPayout u amount) :=
  fun _ _ h => Prog.wp_call_world fun _ _ => ⟨trivial, exec_world (P := BooksKept _) h h⟩

theorem offBooks_notification (u : UserId) : OffBooks (insertPayoutNotification u) := by
  have hinsert : OffBooks (Prog.call (S := payoutSig) (.insertNotification u)) :=
    fun _ _ h => Prog.wp_call_world fun _ _ => ⟨trivial, exec_world (P := BooksKept _) h h⟩
  intro w₁ w h
  refine Prog.wp_bind (P := fun _ => BooksKept w₁) ?_ fun _ w' h => ?_
  · exact Prog.wp_tryCatch (P := fun _ => BooksKept w₁) (hinsert w₁ w h) fun _ _ h => h
  · refine Prog.wp_tryCatch (P := fun _ => BooksKept w₁)
      (Prog.wp_bind (P := fun _ => BooksKept w₁) ?_ fun enabled w'' h => ?_) fun _ _ h => h
    · refine Prog.wp_call_world fun e _ => ⟨trivial, ?_⟩
      rw [exec_read rfl]
      exact h
    · split
      · exact hinsert w₁ w'' h
      · exact h

/-- One recipient: the record that the lookup finds is written, if it finds one. -/
theorem writes_recordRecipient (result : PayoutBatchResult Entry)
    (recipient : PayoutRecipient Entry) :
    Writes records w₀
      ((findRecord records recipient).toList.map fun r => (r, result.success))
      (recordRecipient records result recipient) := by
  unfold recordRecipient
  cases hfound : findRecord records recipient with
  | none => exact Writes.ret
  | some r =>
      have hr : r ∈ records := List.mem_of_find?_eq_some hfound
      intro done w h
      refine Prog.wp_bind (P := fun _ w' => w' = w.updatePayoutStatus r.userId
        (recordedStatus result.success) result.txHash (if result.success then none else
          some (result.error.getD "Stellar broadcast failed with no error detail".toList)))
        ?_ fun _ w' hw' => ?_
      · exact wp_db rfl (fun e _ _ => ⟨trivial, rfl⟩) fun _ _ _ _ _ _ => ⟨trivial, trivial⟩
      · obtain ⟨_, _, success, _⟩ := result
        subst hw'
        cases success with
        | true =>
            refine Prog.wp_bind (P := fun _ => BooksAfter records w₀ (done ++ [(r, true)])) ?_
              fun _ w'' hw'' => ?_
            · refine wp_db rfl (fun e _ _ => ⟨trivial, ?_⟩) fun _ _ _ _ _ _ => ⟨trivial, trivial⟩
              refine h.write hr true rfl ?_
              unfold World.updatePayoutStatus
              split <;> rfl
            · have hquiet := (offBooks_notification r.userId).writes _ _ hw''
              rwa [List.append_nil] at hquiet
        | false =>
            refine h.write hr false rfl ?_
            unfold World.updatePayoutStatus
            split <;> exact (List.append_nil _).symm

/-- One result: the bonuses of the second loop keep no books. -/
theorem writes_recordResult (result : PayoutBatchResult Entry) :
    Writes records w₀ (writesOf records result) (recordResult records result) := by
  have hbonuses : Writes records w₀ [] (if result.success then
      Prog.forEach result.recipients (queueReferralBonus records) else .ret ()) := by
    split
    · have hbonus : ∀ recipient, Writes records w₀ [] (queueReferralBonus records recipient) := by
        intro recipient
        unfold queueReferralBonus
        split
        · exact Writes.ret
        · exact (offBooks_bonus _ _).writes
      have hnone := Writes.forEach (fun _ => []) result.recipients fun recipient _ =>
        hbonus recipient
      rwa [List.flatMap_eq_nil_iff.mpr fun _ _ => rfl] at hnone
    · exact Writes.ret
  have hrecipients : Writes records w₀ (writesOf records result)
      (Prog.forEach result.recipients (recordRecipient records result)) :=
    Writes.forEach _ _ fun recipient _ => writes_recordRecipient result recipient
  have hall := hrecipients.bind fun _ => hbonuses
  rw [List.append_nil] at hall
  exact hall

/-- **A run that completes** has made the writes, and the challenge has the status. -/
theorem run_recordResults {results : List (PayoutBatchResult Entry)} {s : Nat → Env}
    (hrows : ∀ r ∈ records, (w₀.payouts r.userId).isSome = true)
    (hrun : ((recordResults records results).run payoutMachine s w₀).1 = .ok ()) :
    BooksAfter records w₀ (writes records results)
        ((recordResults records results).run payoutMachine s w₀).2 ∧
      ((recordResults records results).run payoutMachine s w₀).2.challenge.status =
        if hasFailure results then .payoutFailed else .settled := by
  have hstart : BooksAfter records w₀ [] w₀ := ⟨hrows, fun _ _ => rfl, by simp, by simp⟩
  have hloop := Writes.forEach (writesOf records) results
    (fun result _ => writes_recordResult result) [] w₀ hstart
  have hwp : (recordResults records results).wp payoutMachine (fun _ _ _ => True)
      (fun _ => True) (Prog.Ends (fun _ w => BooksAfter records w₀ (writes records results) w ∧
        w.challenge.status = if hasFailure results then .payoutFailed else .settled)
        fun _ _ => True) w₀ := by
    refine Prog.wp_bind hloop fun _ w hw => ?_
    refine wp_db rfl (fun e _ _ => ⟨trivial, ?_, rfl⟩) fun _ _ _ _ _ _ => ⟨trivial, trivial⟩
    exact hw.congr rfl rfl
  have hends := Prog.run_of_wp (s := s) hwp fun _ _ _ => trivial
  rwa [hrun] at hends

end Loops

/-! ### Whose record is found -/

/-- No record is paid under the address of an earlier one. -/
def OwnAddresses (basis : Basis) (records : List PayoutRecord) : Prop :=
  records.Pairwise fun earlier r => payable basis r = true → earlier.address ≠ r.address

section Lookup

variable {basis : Basis} {records : List PayoutRecord} {results : List (PayoutBatchResult Entry)}

theorem findRecord_cons (c : PayoutRecord) (recipient : PayoutRecipient Entry) :
    findRecord (c :: records) recipient =
      if c.address = recipient.address then some c else findRecord records recipient := by
  by_cases h : c.address = recipient.address <;> simp [findRecord, h]

theorem findRecord_own (hown : OwnAddresses basis records) {r : PayoutRecord} (hr : r ∈ records)
    (hpayable : payable basis r = true) :
    findRecord records (payoutRecipient basis r) = some r := by
  induction records with
  | nil => cases hr
  | cons c rest ih =>
      obtain ⟨hc, hrest⟩ := List.pairwise_cons.mp hown
      rcases List.mem_cons.mp hr with rfl | hr
      · exact (findRecord_cons _ _).trans (if_pos rfl)
      · have hne : c.address ≠ (payoutRecipient basis r).address := hc r hr hpayable
        rw [findRecord_cons, if_neg hne]
        exact ih hrest hr

/-- A payable record behind another one with its address is found by no recipient. -/
theorem exists_unfound (hids : (records.map (·.userId)).Nodup)
    (hshared : ¬ OwnAddresses basis records) : ∃ r ∈ records, payable basis r = true ∧
      ∀ recipient, findRecord records recipient ≠ some r := by
  induction records with
  | nil => exact absurd List.Pairwise.nil hshared
  | cons c rest ih =>
      obtain ⟨hc, hrest⟩ := List.nodup_cons.mp hids
      by_cases hown : OwnAddresses basis rest
      · -- then it is the first record that another one shares its address with
        obtain ⟨r, hr, hpayable, hsame⟩ : ∃ r ∈ rest, payable basis r = true ∧
            c.address = r.address := by
          by_contra hnone
          exact hshared (List.pairwise_cons.mpr ⟨fun r hr hpayable hsame =>
            hnone ⟨r, hr, hpayable, hsame⟩, hown⟩)
        refine ⟨r, List.mem_cons_of_mem _ hr, hpayable, fun recipient hfound => ?_⟩
        have haddress : r.address = recipient.address := by
          simpa using List.find?_some hfound
        rw [findRecord_cons, if_pos (hsame.trans haddress)] at hfound
        obtain rfl := Option.some.inj hfound
        exact hc (List.mem_map_of_mem hr)
      · obtain ⟨r, hr, hpayable, hnone⟩ := ih hrest hown
        refine ⟨r, List.mem_cons_of_mem _ hr, hpayable, fun recipient hfound => ?_⟩
        rw [findRecord_cons] at hfound
        split at hfound
        · obtain rfl := Option.some.inj hfound
          exact hc (List.mem_map_of_mem hr)
        · exact hnone recipient hfound

theorem mem_writes {t : PayoutRecord × Bool} : t ∈ writes records results ↔
    ∃ result ∈ results, t.2 = result.success ∧
      ∃ recipient ∈ result.recipients, findRecord records recipient = some t.1 := by
  simp only [writes, writesOf, List.mem_flatMap, List.mem_map, Option.mem_toList]
  constructor
  · rintro ⟨result, hresult, recipient, hrecipient, r, hfound, rfl⟩
    exact ⟨result, hresult, rfl, recipient, hrecipient, hfound⟩
  · rintro ⟨result, hresult, hsuccess, recipient, hrecipient, hfound⟩
    exact ⟨result, hresult, recipient, hrecipient, t.1, hfound, by rw [← hsuccess]⟩

variable (hresults : results.map (·.recipients) =
  payoutBatches (records.map (payoutRecipient basis)))

include hresults

/-- The recipients that are reported on are those of the payable records, in order. -/
theorem reported_recipients : results.flatMap (·.recipients) =
    (records.filter (payable basis)).map (payoutRecipient basis) := by
  rw [List.flatMap_def, hresults, payoutBatches_flatten, List.filter_map]
  rfl

/-- The recipient of a payable record is in a batch. -/
theorem exists_result {r : PayoutRecord} (hr : r ∈ records) (hpayable : payable basis r = true) :
    ∃ result ∈ results, payoutRecipient basis r ∈ result.recipients := by
  have hmem : payoutRecipient basis r ∈ results.flatMap (·.recipients) := by
    rw [reported_recipients hresults]
    exact List.mem_map_of_mem (List.mem_filter.mpr ⟨hr, hpayable⟩)
  exact List.mem_flatMap.mp hmem

/-- Every recipient of a batch is that of a payable record. -/
theorem exists_record {result : PayoutBatchResult Entry} (hresult : result ∈ results)
    {recipient : PayoutRecipient Entry} (hrecipient : recipient ∈ result.recipients) :
    ∃ r ∈ records, payable basis r = true ∧ payoutRecipient basis r = recipient := by
  have hmem : recipient ∈ results.flatMap (·.recipients) :=
    List.mem_flatMap.mpr ⟨result, hresult, hrecipient⟩
  rw [reported_recipients hresults] at hmem
  obtain ⟨r, hr, rfl⟩ := List.mem_map.mp hmem
  exact ⟨r, (List.mem_filter.mp hr).1, (List.mem_filter.mp hr).2, rfl⟩

theorem payable_of_mem {result : PayoutBatchResult Entry} (hresult : result ∈ results)
    {r : PayoutRecord} (hrecipient : payoutRecipient basis r ∈ result.recipients) :
    payable basis r = true := by
  obtain ⟨r', -, hpayable, heq⟩ := exists_record hresults hresult hrecipient
  rwa [payable, heq] at hpayable

/-- Under addresses of their own, the payable records are written once each, in order. -/
theorem writes_own (hown : OwnAddresses basis records) :
    (writes records results).map (·.1) = records.filter (payable basis) := by
  have hfst : (writes records results).map (·.1) = (results.flatMap (·.recipients)).flatMap
      fun recipient => (findRecord records recipient).toList := by
    simp only [writes, writesOf, List.map_flatMap, List.map_map, Function.comp_def, List.map_id',
      List.flatMap_assoc]
  rw [hfst, reported_recipients hresults, List.flatMap_map]
  have hself : ∀ r ∈ records.filter (payable basis),
      (findRecord records (payoutRecipient basis r)).toList = [r] := fun r hr => by
    obtain ⟨hr, hpayable⟩ := List.mem_filter.mp hr
    rw [findRecord_own hown hr hpayable]
    rfl
  rw [List.flatMap_congr hself, List.flatMap_singleton']

end Lookup

/-! ### The books and the chain -/

/-- The status of the record's row. -/
def statusOf (w : World) (r : PayoutRecord) : Option PayoutStatus :=
  (w.payouts r.userId).map (·.status)

/-- The row that the loop finds: `createPayout` leaves none failed, and no row is marked as
paid of which nothing was handed to the network. -/
def OpenRow (basis : Basis) (r : PayoutRecord) (w : World) : Prop :=
  ∃ row, w.payouts r.userId = some row ∧ row.status ≠ .failed ∧
    (payable basis r = false → row.isPaid = false)

/-- The increments of a user's earnings since `w`. -/
def increments (w w' : World) (u : UserId) : List (UserId × Text) :=
  (w'.earnings.drop w.earnings.length).filter (·.1 = u)

/-- What the books of the direct way are to say of the batch results. -/
structure Accurate (basis : Basis) (records : List PayoutRecord)
    (results : List (PayoutBatchResult Entry)) (w w' : World) : Prop where
  sent : ∀ result ∈ results, result.success = true → ∀ r ∈ records,
    payoutRecipient basis r ∈ result.recipients →
      statusOf w' r = some .sent ∧ increments w w' r.userId = [(r.userId, r.amount)]
  failed : ∀ result ∈ results, result.success = false → ∀ r ∈ records,
    payoutRecipient basis r ∈ result.recipients → statusOf w' r = some .failed
  dropped : ∀ r ∈ records, payable basis r = false →
    (w'.payouts r.userId).any (·.isPaid) = false
  settled : w'.challenge.status = .settled ↔ ∀ r ∈ records, statusOf w' r = some .sent

theorem filter_key_eq_singleton {α κ : Type} [DecidableEq κ] (key : α → κ) :
    ∀ {l : List α}, (l.map key).Nodup → ∀ {a : α}, a ∈ l →
      l.filter (fun b => key b = key a) = [a] := by
  intro l
  induction l with
  | nil => intro _ a ha; cases ha
  | cons b rest ih =>
      intro hkeys a ha
      obtain ⟨hb, hrest⟩ := List.nodup_cons.mp hkeys
      rcases List.mem_cons.mp ha with rfl | ha
      · have hnone : rest.filter (fun c => key c = key a) = [] :=
          List.filter_eq_nil_iff.mpr fun c hc hkey =>
            hb (of_decide_eq_true hkey ▸ List.mem_map_of_mem hc)
        rw [List.filter_cons_of_pos (by simp), hnone]
      · have hne : key b ≠ key a := fun heq => hb (heq ▸ List.mem_map_of_mem ha)
        rw [List.filter_cons_of_neg (by simpa using hne)]
        exact ih hrest ha

section Accuracy

variable {basis : Basis} {records : List PayoutRecord} {results : List (PayoutBatchResult Entry)}
  {w w' : World}

/-- Some batch failed. -/
theorem hasFailure_iff : hasFailure results = true ↔
    ∃ result ∈ results, result.success = false := by
  simp [hasFailure]

theorem challenge_settled_iff (hstatus : w'.challenge.status =
    if hasFailure results then .payoutFailed else .settled) :
    w'.challenge.status = .settled ↔ ∀ result ∈ results, result.success = true := by
  rw [hstatus]
  cases hfail : hasFailure results with
  | true =>
      obtain ⟨result, hresult, hfailed⟩ := hasFailure_iff.mp hfail
      simp only [if_true, reduceCtorEq, false_iff]
      exact fun hall => absurd ((hall result hresult).symm.trans hfailed) (by simp)
  | false =>
      simp only [Bool.false_eq_true, if_false, true_iff]
      intro result hresult
      by_contra hne
      have hfailed := hasFailure_iff.mpr ⟨result, hresult, eq_false_of_ne_true hne⟩
      exact absurd (hfail.symm.trans hfailed) (by simp)

variable (hids : (records.map (·.userId)).Nodup) (hrows : ∀ r ∈ records, OpenRow basis r w)
  (hresults : results.map (·.recipients) = payoutBatches (records.map (payoutRecipient basis)))
  (hrecorded : BooksAfter records w (writes records results) w')
  (hstatus : w'.challenge.status = if hasFailure results then .payoutFailed else .settled)

include hids hrecorded in
/-- A record that no recipient of a batch finds is as it was, and nothing was added. -/
theorem unchanged_of_unfound {r : PayoutRecord} (hr : r ∈ records)
    (hnone : ∀ result ∈ results, ∀ recipient ∈ result.recipients,
      findRecord records recipient ≠ some r) :
    w'.payouts r.userId = w.payouts r.userId ∧ increments w w' r.userId = [] := by
  have hunwritten : ∀ t ∈ writes records results, t.1.userId ≠ r.userId := by
    intro t ht hsame
    obtain ⟨result, hresult, -, recipient, hrecipient, hfound⟩ := mem_writes.mp ht
    have hwritten : t.1 ∈ records := List.mem_of_find?_eq_some hfound
    rw [List.inj_on_of_nodup_map hids hwritten hr hsame] at hfound
    exact hnone result hresult recipient hrecipient hfound
  refine ⟨hrecorded.untouched _ ?_, ?_⟩
  · intro hmem
    obtain ⟨t, ht, hsame⟩ := List.mem_map.mp hmem
    exact hunwritten t ht hsame
  · rw [increments, hrecorded.earnings, List.drop_left, List.filter_eq_nil_iff]
    intro e he
    obtain ⟨t, ht, rfl⟩ := List.mem_map.mp he
    simpa using hunwritten t (List.mem_filter.mp ht).1

variable (hown : OwnAddresses basis records)

include hids hresults hown in
/-- With addresses of their own, the records are written once each. -/
theorem writes_keys_nodup : ((writes records results).map (·.1.userId)).Nodup := by
  have hsub : ((records.filter (payable basis)).map (·.userId)).Nodup :=
    hids.sublist (List.filter_sublist.map _)
  rw [← writes_own hresults hown, List.map_map] at hsub
  exact hsub

variable {result : PayoutBatchResult Entry} {r : PayoutRecord}

include hresults hown in
theorem mem_writes_own (hresult : result ∈ results) (hr : r ∈ records)
    (hmem : payoutRecipient basis r ∈ result.recipients) :
    (r, result.success) ∈ writes records results :=
  mem_writes.mpr ⟨result, hresult, rfl, payoutRecipient basis r, hmem,
    findRecord_own hown hr (payable_of_mem hresults hresult hmem)⟩

include hids hresults hrecorded hown in
/-- A record whose recipient is in a batch is marked with its outcome. -/
theorem statusOf_own (hresult : result ∈ results) (hr : r ∈ records)
    (hmem : payoutRecipient basis r ∈ result.recipients) :
    statusOf w' r = some (recordedStatus result.success) :=
  hrecorded.marked (writes_keys_nodup hids hresults hown) _
    (mem_writes_own hresults hown hresult hr hmem)

include hids hresults hrecorded hown in
theorem increments_own (hresult : result ∈ results) (hsuccess : result.success = true)
    (hr : r ∈ records) (hmem : payoutRecipient basis r ∈ result.recipients) :
    increments w w' r.userId = [(r.userId, r.amount)] := by
  have hwritten := mem_writes_own hresults hown hresult hr hmem
  rw [hsuccess] at hwritten
  have hin : (r, true) ∈ (writes records results).filter (·.2) :=
    List.mem_filter.mpr ⟨hwritten, rfl⟩
  have honly := filter_key_eq_singleton (fun t : PayoutRecord × Bool => t.1.userId)
    ((writes_keys_nodup hids hresults hown).sublist (List.filter_sublist.map _)) hin
  rw [increments, hrecorded.earnings, List.drop_left, List.filter_map]
  exact congrArg (List.map _) honly

include hids hrows hresults hrecorded hown in
/-- The record of a recipient that is dropped is found by nobody else. -/
theorem unpaid_of_dropped (hr : r ∈ records) (hdropped : payable basis r = false) :
    (w'.payouts r.userId).any (·.isPaid) = false := by
  obtain ⟨hsame, -⟩ := unchanged_of_unfound hids hrecorded hr
    fun result hresult recipient hrecipient hfound => by
      obtain ⟨r', hr', hpayable, rfl⟩ := exists_record hresults hresult hrecipient
      obtain rfl := Option.some.inj ((findRecord_own hown hr' hpayable).symm.trans hfound)
      exact absurd (hpayable.symm.trans hdropped) (by simp)
  obtain ⟨row, hrow, -, hunpaid⟩ := hrows r hr
  rw [hsame, hrow]
  exact hunpaid hdropped

include hids hresults hrecorded hown in
/-- No batch is empty, so all of them went through if every record is `sent`. -/
theorem all_sent_iff (hpaid : (∀ r ∈ records, payable basis r = true) ∨
      ∃ result ∈ results, result.success = false) :
    (∀ result ∈ results, result.success = true) ↔
      ∀ r ∈ records, statusOf w' r = some .sent := by
  constructor
  · intro hall r hr
    have hpayable : payable basis r = true := by
      rcases hpaid with hpaid | ⟨result, hresult, hfailed⟩
      · exact hpaid r hr
      · exact absurd ((hall result hresult).symm.trans hfailed) (by simp)
    obtain ⟨result, hresult, hmem⟩ := exists_result hresults hr hpayable
    rw [statusOf_own hids hresults hrecorded hown hresult hr hmem, hall result hresult]
    rfl
  · intro hall result hresult
    obtain ⟨recipient, hrecipient⟩ := List.exists_mem_of_ne_nil _
      (ne_nil_of_mem_payoutBatches (hresults ▸ List.mem_map_of_mem hresult))
    obtain ⟨r, hr, -, rfl⟩ := exists_record hresults hresult hrecipient
    have hmarked := statusOf_own hids hresults hrecorded hown hresult hr hrecipient
    have hsent := hmarked.symm.trans (hall r hr)
    cases hsuccess : result.success with
    | true => rfl
    | false => simp [hsuccess, recordedStatus] at hsent

include hids hrows hresults hrecorded hstatus hown in
/-- With addresses of their own, the records say what became of their batches. -/
theorem accurate_of_own (hpaid : (∀ r ∈ records, payable basis r = true) ∨
      ∃ result ∈ results, result.success = false) :
    Accurate basis records results w w' where
  sent result hresult hsuccess r hr hmem := by
    have hmarked := statusOf_own hids hresults hrecorded hown hresult hr hmem
    rw [hsuccess] at hmarked
    exact ⟨hmarked, increments_own hids hresults hrecorded hown hresult hsuccess hr hmem⟩
  failed result hresult hfailed r hr hmem := by
    have hmarked := statusOf_own hids hresults hrecorded hown hresult hr hmem
    rw [hfailed] at hmarked
    exact hmarked
  dropped _ hr hdropped := unpaid_of_dropped hids hrows hresults hrecorded hown hr hdropped
  settled := (challenge_settled_iff hstatus).trans
    (all_sent_iff hids hresults hrecorded hown hpaid)

include hids hrows hresults hrecorded in
theorem own_of_accurate (haccurate : Accurate basis records results w w') :
    OwnAddresses basis records := by
  by_contra hshared
  obtain ⟨r, hr, hpayable, hnone⟩ := exists_unfound hids hshared
  obtain ⟨hsame, hnothing⟩ := unchanged_of_unfound hids hrecorded hr
    fun _ _ recipient _ => hnone recipient
  obtain ⟨result, hresult, hmem⟩ := exists_result hresults hr hpayable
  cases hsuccess : result.success with
  | true =>
      have honce := (haccurate.sent result hresult hsuccess r hr hmem).2
      exact absurd (hnothing.symm.trans honce) (by simp)
  | false =>
      have hfailed := haccurate.failed result hresult hsuccess r hr hmem
      obtain ⟨row, hrow, hnotFailed, -⟩ := hrows r hr
      rw [statusOf, hsame, hrow] at hfailed
      exact hnotFailed (Option.some.inj hfailed)

include hstatus in
/-- Where no batch failed the challenge is settled, so nobody may have been dropped. -/
theorem paid_of_accurate (haccurate : Accurate basis records results w w') :
    (∀ r ∈ records, payable basis r = true) ∨ ∃ result ∈ results, result.success = false := by
  by_contra hnot
  simp only [not_or, not_exists, not_and] at hnot
  obtain ⟨hdropped, hall⟩ := hnot
  have hsettled := (challenge_settled_iff hstatus).mpr fun result hresult =>
    eq_true_of_ne_false (hall result hresult)
  refine hdropped fun r hr => ?_
  by_contra hpayable
  have hsent := haccurate.settled.mp hsettled r hr
  have hunpaid := haccurate.dropped r hr (eq_false_of_ne_true hpayable)
  obtain ⟨row, hrow, hrowSent⟩ := Option.map_eq_some_iff.mp hsent
  simp [hrow, PayoutRow.isPaid, hrowSent] at hunpaid

end Accuracy

/-- **The books of the direct way are right** exactly when no record is paid under the
address of an earlier one, and nobody is dropped unless some batch fails: for all records,
all results that `submitBatchPayout` can return for them, and all runs of the recording
loop that complete. -/
theorem books_accurate_iff (basis : Basis) (records : List PayoutRecord)
    (results : List (PayoutBatchResult Entry)) (s : Nat → Env) (w : World)
    (hids : (records.map (·.userId)).Nodup)
    (hrows : ∀ r ∈ records, OpenRow basis r w)
    (hreturned : Returnable basis records results)
    (hrun : ((recordResults records results).run payoutMachine s w).1 = .ok ()) :
    Accurate basis records results w ((recordResults records results).run payoutMachine s w).2 ↔
      OwnAddresses basis records ∧ ((∀ r ∈ records, payable basis r = true) ∨
        ∃ result ∈ results, result.success = false) := by
  have hthere : ∀ r ∈ records, (w.payouts r.userId).isSome = true := by
    intro r hr
    obtain ⟨row, hrow, -⟩ := hrows r hr
    rw [hrow]
    rfl
  have hresults := hreturned.recipients
  obtain ⟨hrecorded, hstatus⟩ := run_recordResults hthere hrun
  constructor
  · intro haccurate
    exact ⟨own_of_accurate hids hrows hresults hrecorded haccurate,
      paid_of_accurate hstatus haccurate⟩
  · rintro ⟨hown, hpaid⟩
    exact accurate_of_own hids hrows hresults hrecorded hstatus hown hpaid

/-! ### Two winners, one address

Users `11` and `12` are paid one and two USDC in one batch, to addresses of their own or to
the same one. -/

def twoRecords (first second : Char) : List PayoutRecord :=
  [⟨11, ['G', first], "1.0000000".toList, 10000000⟩,
    ⟨12, ['G', second], "2.0000000".toList, 20000000⟩]

/-- Both have a row that waits to be paid. -/
def awaitingPayment : World :=
  { World.ended 30000000 [player 11 1, player 12 2] with
    payouts := fun u =>
      if u = 11 || u = 12 then some ⟨['G'], u, .pending, none, none⟩ else none }

/-- The batch went through. -/
def paidBatch (records : List PayoutRecord) : List (PayoutBatchResult Entry) :=
  [⟨some 0, records.map (payoutRecipient awaitingPayment.basis), true, none⟩]

theorem awaitingPayment_open (first second : Char) :
    ∀ r ∈ twoRecords first second, OpenRow awaitingPayment.basis r awaitingPayment := by
  intro r hr
  simp only [twoRecords, List.mem_cons, List.not_mem_nil, or_false] at hr
  rcases hr with rfl | rfl
  · exact ⟨_, rfl, by simp, fun _ => rfl⟩
  · exact ⟨_, rfl, by simp, fun _ => rfl⟩

/-- With addresses of their own both are marked as paid. -/
theorem own_addresses_recorded :
    Accurate awaitingPayment.basis (twoRecords 'A' 'B') (paidBatch (twoRecords 'A' 'B'))
      awaitingPayment ((recordResults (twoRecords 'A' 'B') (paidBatch (twoRecords 'A' 'B'))).run
        payoutMachine (fun _ => calm) awaitingPayment).2 :=
  (books_accurate_iff awaitingPayment.basis (twoRecords 'A' 'B') (paidBatch (twoRecords 'A' 'B'))
    (fun _ => calm) awaitingPayment (by decide) (awaitingPayment_open 'A' 'B')
    ⟨"c1".toList, fun _ => calm, awaitingPayment, rfl⟩ rfl).mpr
      ⟨by unfold OwnAddresses; decide, .inl (by decide)⟩

/-- With one address the second is still pending after both were paid. -/
theorem shared_address_misrecorded :
    (∀ r ∈ twoRecords 'A' 'A', OpenRow awaitingPayment.basis r awaitingPayment) ∧
    Returnable awaitingPayment.basis (twoRecords 'A' 'A') (paidBatch (twoRecords 'A' 'A')) ∧
    ((recordResults (twoRecords 'A' 'A') (paidBatch (twoRecords 'A' 'A'))).run payoutMachine
      (fun _ => calm) awaitingPayment).1 = .ok () ∧
    ¬ Accurate awaitingPayment.basis (twoRecords 'A' 'A') (paidBatch (twoRecords 'A' 'A'))
      awaitingPayment ((recordResults (twoRecords 'A' 'A') (paidBatch (twoRecords 'A' 'A'))).run
        payoutMachine (fun _ => calm) awaitingPayment).2 := by
  refine ⟨awaitingPayment_open 'A' 'A', ⟨"c1".toList, fun _ => calm, awaitingPayment, rfl⟩, rfl,
    fun h => ?_⟩
  have hsent := (h.sent _ (List.mem_singleton_self _) rfl
    ⟨12, ['G', 'A'], "2.0000000".toList, 20000000⟩ (by decide) (by decide)).1
  exact absurd hsent (by decide)

end BrandBlitz.Payout

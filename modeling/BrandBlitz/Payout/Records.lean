import BrandBlitz.Payout.Steps

/-!
# BrandBlitz.Payout.Records

**Which allocations a run pays.** Between the reading of the leaderboard and the first
payment, `processPayout` creates a row for every allocation and keeps a record of those
that remain to be paid. A flagged user is stopped by the database's trigger, whose
exception the loop recognises by its text; a user whose row is already `sent` or
`confirmed` is passed over by the loop itself.

Two rules are for the later modules: `wp_processPayout` says what a run comes down to once
its inputs are read, and `wp_processPayout_records` that a run that gets as far as paying
does so with exactly `World.dueRecords`, and has paid nothing before.
-/

namespace BrandBlitz.Payout

open BrandBlitz.Lib BrandBlitz.Stellar

/-- What a run started now reads before it allocates. -/
def World.basis (w : World) : Basis :=
  ⟨w.challenge.poolAmountStroops, w.sessions, w.tiers, w.licenseTerms⟩

/-- Is the user passed over, because flagged or paid already? -/
def World.skips (w : World) (u : UserId) : Bool :=
  w.flagged u || (w.payouts u).any (·.isPaid)

/-- The allocations a run started now pays. -/
def World.dueAllocations (w : World) : List PayoutAllocation :=
  (payoutAllocations w.basis).values.filter fun a => !w.skips a.userId

/-- The records it keeps of them. -/
def World.dueRecords (w : World) : List PayoutRecord := w.dueAllocations.map recordOf

/-- Does a run started now get as far as allocating? -/
def World.Allocates (w : World) (config : PayoutConfig) : Prop :=
  w.challenge.status = .ended ∧ w.challenge.deleted = false ∧ w.sessions ≠ [] ∧
    ∀ s ∈ w.sessions, config.verifySessionHmac s = true

instance (w : World) (config : PayoutConfig) : Decidable (w.Allocates config) :=
  inferInstanceAs (Decidable (_ ∧ _))

/-! ### Reading the inputs -/

/-- **The rule for a run**, in any world whose reads answer what `w₀` holds for as long as `A`
is true. What has to be shown is: that an error thrown so far may be thrown; that a run may end
here when the challenge is not `ended`; and how it goes on with an empty leaderboard, and with
the allocations. -/
theorem wp_processPayout_reading {W E : Type} {M : Machine payoutSig Err W E}
    {G : W → Op → E → Prop} {I A : W → Prop} {Q : Unit → W → Prop} {R : Err → W → Prop}
    {config : PayoutConfig} {challengeId : Text} {w₀ : World}
    (hread : ∀ {op : Op}, op.isRead = true → op.isNetwork = false → op.mayRefuse = false →
      ∀ w, A w → (Prog.call (S := payoutSig) op : Service (payoutSig.Ans op)).wp M G I
        (Prog.Ends (fun a w' => A w' ∧ ∃ e, (perform e op w₀).1 = .ok a) R) w)
    (hthrow : (w₀.challenge.deleted = true ∨
      ∃ s ∈ w₀.sessions, config.verifySessionHmac s = false) → ∀ err w, A w → R err w)
    (hclosed : w₀.challenge.status ≠ .ended → ∀ w, A w → Q () w)
    (hempty : w₀.challenge.status = .ended → w₀.sessions = [] → ∀ w, A w →
      (updateChallengeStatus .settled none).wp M G I (Prog.Ends Q R) w)
    (hpay : w₀.Allocates config → ∀ w, A w →
      ((createPayoutRecords (payoutAllocations w₀.basis).values).bind fun records =>
        if records.isEmpty then updateChallengeStatus .settled none
        else payRecords config challengeId w₀.basis records).wp M G I (Prog.Ends Q R) w)
    {w : W} (hw : A w) : (processPayout config challengeId).wp M G I (Prog.Ends Q R) w := by
  -- what is read is what `w₀` holds, so the branches are those of `w₀`
  refine Prog.wp_bind (hread rfl rfl rfl w hw) fun found w h => ?_
  obtain ⟨hw, _, hfound⟩ := h
  replace hfound := Except.ok.inj hfound
  cases found with
  | none =>
      refine hthrow (.inl ?_) _ w hw
      by_contra hpresent
      rw [if_neg hpresent] at hfound
      cases hfound
  | some challenge =>
      obtain ⟨hpresent, hchallenge⟩ := Option.ite_none_left_eq_some.mp hfound
      obtain rfl := Option.some.inj hchallenge
      dsimp only
      split
      · rename_i hnot
        exact hclosed hnot w hw
      rename_i hended
      refine Prog.wp_bind (hread rfl rfl rfl w hw) fun sessions w h => ?_
      obtain ⟨hw, _, hsessions⟩ := h
      obtain rfl := Except.ok.inj hsessions
      unfold afterLeaderboard
      split
      · rename_i session hinvalid
        refine hthrow (.inr ⟨session, List.mem_of_find?_eq_some hinvalid, ?_⟩) _ w hw
        simpa using List.find?_some hinvalid
      rename_i hvalid
      split
      · rename_i hnone
        exact hempty (by simpa using hended) (by simpa using hnone) w hw
      rename_i hsome
      refine Prog.wp_bind (hread rfl rfl rfl w hw) fun tiers w h => ?_
      obtain ⟨hw, _, htiers⟩ := h
      obtain rfl := Except.ok.inj htiers
      refine Prog.wp_bind (hread rfl rfl rfl w hw) fun terms w h => ?_
      obtain ⟨hw, _, hterms⟩ := h
      obtain rfl := Except.ok.inj hterms
      exact hpay ⟨by simpa using hended, by simpa using hpresent, by simpa using hsome,
        by simpa using hvalid⟩ w hw

/-- The rule where nobody else moves: the reads leave the world alone. -/
theorem wp_processPayout {G : World → Op → Env → Prop} {I : World → Prop} {Q : Unit → World → Prop}
    {R : Err → World → Prop} {config : PayoutConfig} {challengeId : Text} {w : World} (hI : I w)
    (hfault : ∀ op e fault err, G w op e → e.dbFault = some fault → R err w)
    (hthrow : (w.challenge.deleted = true ∨ ∃ s ∈ w.sessions, config.verifySessionHmac s = false) →
      ∀ err, R err w)
    (hclosed : w.challenge.status ≠ .ended → Q () w)
    (hempty : w.challenge.status = .ended → w.sessions = [] →
      (updateChallengeStatus .settled none).wp payoutMachine G I (Prog.Ends Q R) w)
    (hpay : w.Allocates config →
      ((createPayoutRecords (payoutAllocations w.basis).values).bind fun records =>
        if records.isEmpty then updateChallengeStatus .settled none
        else payRecords config challengeId w.basis records).wp payoutMachine G I
          (Prog.Ends Q R) w) :
    (processPayout config challengeId).wp payoutMachine G I (Prog.Ends Q R) w := by
  refine wp_processPayout_reading (A := fun w' => w = w') ?_
    (fun hbad err w' h => h ▸ hthrow hbad err) (fun hnot w' h => h ▸ hclosed hnot)
    (fun hended hnone w' h => h ▸ hempty hended hnone) (fun hallocates w' h => h ▸ hpay hallocates)
    rfl
  rintro op hop hdb hrefuse _ rfl
  refine wp_read hop hI (fun e a ha => ⟨rfl, e, ha⟩) fun e err he herror => ?_
  obtain ⟨fault, hdbFault⟩ := dbFault_of_error hdb hrefuse herror
  exact hfault op e fault err he hdbFault

/-! ### The rows that the loop writes -/

/-- The row of a record holds its address and amount. -/
def Written (r : PayoutRecord) (w : World) : Prop :=
  ∃ row, w.payouts r.userId = some row ∧ row.stellarAddress = r.address ∧
    row.amountStroops = r.amountStroops

section Rows

variable {G : World → Op → Env → Prop} {I : World → Prop} {J : List PayoutAllocation → World → Prop}

/-- What the loop keeps: `J` of the allocations that are left. -/
structure LoopInvariant (I : World → Prop) (J : List PayoutAllocation → World → Prop) : Prop where
  holds : ∀ rest w, J rest w → I w
  skip : ∀ a rest w, J (a :: rest) w → J rest w
  upsert : ∀ a rest w, a.userId ∉ rest.map (·.userId) → w.flagged a.userId = false →
    J (a :: rest) w → J rest (w.setPayout a.userId (w.upsertPayout a.userId a.address
      a.amountStroops))
  audit : ∀ rest w log, J rest w → J rest { w with auditLog := log }

variable (hJ : LoopInvariant I J)

include hJ

/-- One turn: only the row of this user is written. -/
theorem wp_createPayoutRecord_written {a : PayoutAllocation} {rest : List PayoutAllocation}
    (hfresh : a.userId ∉ rest.map (·.userId)) {w : World} (hw : J (a :: rest) w) :
    (createPayoutRecord a).wp payoutMachine G I
      (Prog.Ends (fun record w' => (J rest w' ∧ ∀ u, u ≠ a.userId → w'.payouts u = w.payouts u) ∧
        (record = none ∨ (record = some (recordOf a) ∧ Written (recordOf a) w')))
        fun _ => I) w := by
  let T : World → Prop := fun w' => J rest w' ∧ ∀ u, u ≠ a.userId → w'.payouts u = w.payouts u
  have hTI : ∀ w', T w' → I w' := fun w' h => hJ.holds _ _ h.1
  have hsame : T w := ⟨hJ.skip _ _ _ hw, fun _ _ => rfl⟩
  refine wp_createPayoutRecord (F := T) (fun e _ => ?_) fun w' hT => ?_
  · rcases exec_createPayout e w a.userId a.address a.amountStroops with
      ⟨heq, err, herror⟩ | ⟨hclear, hupsert, -⟩
    · rw [heq, herror]
      refine ⟨hTI _ hsame, ?_⟩
      dsimp only [Prog.Ends]
      split
      · exact hsame
      · exact hTI _ hsame
    · have hT :
          T (payoutMachine.exec e (.createPayout a.userId a.address a.amountStroops) w).2 := by
        rw [hupsert]
        refine ⟨hJ.upsert a rest w hfresh hclear hw, fun u hu => ?_⟩
        simp only [World.setPayout, Function.update_of_ne hu]
      have hwritten : Written (recordOf a)
          (payoutMachine.exec e (.createPayout a.userId a.address a.amountStroops) w).2 := by
        rw [hupsert]
        refine ⟨_, Function.update_self .., ?_⟩
        unfold World.upsertPayout
        split <;> exact ⟨rfl, rfl⟩
      refine ⟨hTI _ hT, ?_⟩
      cases (payoutMachine.exec e (.createPayout a.userId a.address a.amountStroops) w).1 with
      | error err =>
          dsimp only [Prog.Ends]
          split
          · exact hT
          · exact hTI _ hT
      | ok row =>
          dsimp only [Prog.Ends]
          split
          · exact ⟨hT, .inl rfl⟩
          · exact ⟨hT, .inr ⟨rfl, hwritten⟩⟩
  · refine Prog.wp_weaken (Prog.wp_call_world (K := T) fun e _ => ?_)
      (fun _ _ h => ⟨h, .inl rfl⟩) fun _ w'' h => hTI w'' h
    have hT' : T (payoutMachine.exec e (.insertAuditLog (.payoutBlockedFraud a.userId)) w').2 :=
      exec_world (P := T) hT ⟨hJ.audit _ _ _ hT.1, hT.2⟩
    exact ⟨hTI _ hT', hT'⟩

/-- The loop: the rows of all records are written, and nobody else's. -/
theorem wp_createPayoutRecords_written :
    ∀ (allocations : List PayoutAllocation) {w : World}, (allocations.map (·.userId)).Nodup →
      J allocations w →
      (createPayoutRecords allocations).wp payoutMachine G I
        (Prog.Ends (fun records w' => J [] w' ∧ (∀ r ∈ records, Written r w') ∧
          (∀ u, u ∉ allocations.map (·.userId) → w'.payouts u = w.payouts u) ∧
          records.Sublist (allocations.map recordOf)) fun _ => I) w := by
  intro allocations
  induction allocations with
  | nil => intro w _ hw; exact ⟨hw, by simp, fun _ _ => rfl, List.Sublist.refl _⟩
  | cons a rest ih =>
      intro w hnodup hw
      obtain ⟨hfresh, hnodup⟩ := List.nodup_cons.mp hnodup
      refine Prog.wp_bind (wp_createPayoutRecord_written hJ hfresh hw) fun record w' h => ?_
      obtain ⟨⟨hw', hturn⟩, hrecord⟩ := h
      refine Prog.wp_bind (ih hnodup hw') fun records w'' h => ?_
      obtain ⟨hend, hwritten, hframe, hsub⟩ := h
      refine ⟨hend, fun r hr => ?_, fun u hu => ?_, ?_⟩
      · rcases List.mem_append.mp hr with hr | hr
        · rcases hrecord with rfl | ⟨rfl, hrow⟩
          · cases hr
          · -- the rest of the loop writes other users' rows
            obtain rfl := List.mem_singleton.mp hr
            have hsame : w''.payouts (recordOf a).userId = w'.payouts (recordOf a).userId :=
              hframe _ hfresh
            rwa [Written, hsame]
        · exact hwritten r hr
      · rw [List.map_cons, List.mem_cons, not_or] at hu
        exact (hframe u hu.2).trans (hturn u hu.1)
      · rcases hrecord with rfl | ⟨rfl, -⟩
        · exact hsub.cons _
        · exact hsub.cons_cons _

end Rows

/-! ### The rows that a run pays -/

/-- No database call but the trigger's own throws an error with the sentinel in it. -/
def Honest (e : Env) : Prop :=
  ∀ fault, e.dbFault = some fault → isFraudBlockError fault.err = false

/-- Nothing was paid or handed to the network since. -/
def Unsubmitted (w w' : World) : Prop :=
  w'.chain = w.chain ∧ w'.submissions = w.submissions

/-- The loop recognises the trigger's exception. -/
theorem isFraudBlockError_fraudBlockedPayout (challengeId : Text) (u : UserId) :
    isFraudBlockError (fraudBlockedPayout challengeId u) = true := by
  have hsplit : "FRAUD_BLOCKED_PAYOUT: session flagged for challenge ".toList =
      FRAUD_BLOCK_SENTINEL ++ ": session flagged for challenge ".toList := by decide
  simp only [isFraudBlockError, fraudBlockedPayout, Err.new, Err.text, Option.getD_some,
    Bool.true_and, includes, decide_eq_true_eq, hsplit, List.append_assoc]
  exact (List.prefix_append _ _).isInfix

section Loop

variable {G : World → Op → Env → Prop} {I : World → Prop} {R : Err → World → Prop} {w₀ : World}

/-- The world between two turns of the loop: the rows still to come are as they were. -/
structure Pending (w₀ : World) (allocations : List PayoutAllocation) (w : World) : Prop where
  unsubmitted : Unsubmitted w₀ w
  flagged : w.flagged = w₀.flagged
  payouts : ∀ a ∈ allocations, w.payouts a.userId = w₀.payouts a.userId

theorem Pending.tail {a : PayoutAllocation} {rest : List PayoutAllocation} {w : World}
    (h : Pending w₀ (a :: rest) w) : Pending w₀ rest w :=
  ⟨h.unsubmitted, h.flagged, fun a' ha' => h.payouts a' (List.mem_cons_of_mem _ ha')⟩

/-- Writing one row leaves the rows of the others alone. -/
theorem Pending.setPayout {a : PayoutAllocation} {rest : List PayoutAllocation} {w : World}
    (h : Pending w₀ rest w) (hfresh : a.userId ∉ rest.map (·.userId)) (row : PayoutRow) :
    Pending w₀ rest (w.setPayout a.userId row) where
  unsubmitted := h.unsubmitted
  flagged := h.flagged
  payouts a' ha' := by
    have hne : a'.userId ≠ a.userId := fun heq => hfresh (heq ▸ List.mem_map_of_mem ha')
    simp only [World.setPayout, Function.update_of_ne hne]
    exact h.payouts a' ha'

variable (hhonest : ∀ w op e, G w op e → Honest e) (hI : ∀ w, Unsubmitted w₀ w → I w)
  (hR : ∀ w op e fault err w', G w op e → e.dbFault = some fault → Unsubmitted w₀ w' → R err w')

include hhonest hI hR

/-- One turn: a record unless the user is passed over. -/
theorem wp_createPayoutRecord_due {a : PayoutAllocation} {rest : List PayoutAllocation}
    (hfresh : a.userId ∉ rest.map (·.userId)) {w : World} (hw : Pending w₀ (a :: rest) w) :
    (createPayoutRecord a).wp payoutMachine G I
      (Prog.Ends (fun record w' => Pending w₀ rest w' ∧
        record = if w₀.skips a.userId then none else some (recordOf a)) R) w := by
  have hflagged : w.flagged a.userId = w₀.flagged a.userId := by rw [hw.flagged]
  have hrow := hw.payouts a List.mem_cons_self
  refine wp_createPayoutRecord
    (F := fun w' => Pending w₀ rest w' ∧ w₀.flagged a.userId = true) (fun e he => ?_)
    fun w' h => ?_
  · cases hdb : e.dbFault with
    | none =>
        rw [exec_db rfl hdb]
        cases hflag : w.flagged a.userId with
        | true =>
            rw [perform_createPayout_flagged hflag]
            refine ⟨hI w hw.unsubmitted, ?_⟩
            dsimp only [Prog.Ends]
            rw [if_pos (isFraudBlockError_fraudBlockedPayout _ _)]
            exact ⟨hw.tail, hflagged ▸ hflag⟩
        | false =>
            rw [perform_createPayout_clear hflag]
            refine ⟨hI _ hw.unsubmitted, hw.tail.setPayout hfresh _, ?_⟩
            rw [isPaid_upsertPayout, hrow, World.skips, ← hflagged, hflag, Bool.false_or]
    | some fault =>
        -- any other error ends the run, with or without the row written
        have hpending : Pending w₀ rest (payoutMachine.exec e
            (.createPayout a.userId a.address a.amountStroops) w).2 := by
          rcases exec_createPayout e w a.userId a.address a.amountStroops with
            ⟨hsame, -⟩ | ⟨-, hupsert, -⟩
          · rw [hsame]
            exact hw.tail
          · rw [hupsert]
            exact hw.tail.setPayout hfresh _
        have hans : (payoutMachine.exec e
            (.createPayout a.userId a.address a.amountStroops) w).1 = .error fault.err := by
          rw [exec_fault rfl hdb]
        refine ⟨hI _ hpending.unsubmitted, ?_⟩
        rw [hans]
        dsimp only [Prog.Ends]
        rw [if_neg (by simp [hhonest _ _ _ he fault hdb])]
        exact hR _ _ _ _ _ _ he hdb hpending.unsubmitted
  · obtain ⟨hpending, hflag⟩ := h
    refine wp_db rfl (fun e he hdb => ?_) fun e fault he hdb w'' hw'' => ?_
    · exact ⟨hI _ hpending.unsubmitted, ⟨hpending.unsubmitted, hpending.flagged,
        hpending.payouts⟩, by simp [World.skips, hflag]⟩
    · have hsame : Unsubmitted w₀ w'' := by
        rcases hw'' with rfl | rfl <;> exact hpending.unsubmitted
      exact ⟨hI w'' hsame, hR _ _ _ _ _ w'' he hdb hsame⟩

/-- The loop keeps the records of those that are not passed over, in order. -/
theorem wp_createPayoutRecords_due :
    ∀ (allocations : List PayoutAllocation) {w : World}, (allocations.map (·.userId)).Nodup →
      Pending w₀ allocations w →
      (createPayoutRecords allocations).wp payoutMachine G I
        (Prog.Ends (fun records w' => Unsubmitted w₀ w' ∧
          records = (allocations.filter fun a => !w₀.skips a.userId).map recordOf) R) w := by
  intro allocations
  induction allocations with
  | nil => intro w _ hw; exact ⟨hw.unsubmitted, rfl⟩
  | cons a rest ih =>
      intro w hnodup hw
      obtain ⟨hfresh, hnodup⟩ := List.nodup_cons.mp hnodup
      refine Prog.wp_bind (wp_createPayoutRecord_due hhonest hI hR hfresh hw)
        fun record w' h => ?_
      refine Prog.wp_bind (ih hnodup h.1) fun records w'' h' => ⟨h'.1, ?_⟩
      rw [h.2, h'.2]
      cases hskips : w₀.skips a.userId <;> simp [hskips]

/-- **When a run comes to pay**, it pays the due records. -/
theorem wp_processPayout_records {config : PayoutConfig} {challengeId : Text}
    (hallocates : w₀.Allocates config) {Q : Unit → World → Prop}
    (hpay : ∀ w, Unsubmitted w₀ w →
      (if w₀.dueRecords.isEmpty then updateChallengeStatus .settled none
        else payRecords config challengeId w₀.basis w₀.dueRecords).wp payoutMachine G I
          (Prog.Ends Q R) w) :
    (processPayout config challengeId).wp payoutMachine G I (Prog.Ends Q R) w₀ := by
  refine wp_processPayout (hI w₀ ⟨rfl, rfl⟩)
    (fun op e fault err he hfault => hR _ _ _ _ _ _ he hfault ⟨rfl, rfl⟩) (fun hbad => ?_)
    (fun hnot => absurd hallocates.1 hnot) (fun _ hnone => absurd hnone hallocates.2.2.1)
    fun _ => ?_
  · rcases hbad with hdeleted | ⟨s, hs, hinvalid⟩
    · rw [hallocates.2.1] at hdeleted
      cases hdeleted
    · rw [hallocates.2.2.2 s hs] at hinvalid
      cases hinvalid
  · refine Prog.wp_bind (wp_createPayoutRecords_due hhonest hI hR _
      (payoutAllocations_users_nodup _) ⟨⟨rfl, rfl⟩, rfl, fun _ _ => rfl⟩) ?_
    intro records w h
    obtain ⟨hsame, rfl⟩ := h
    exact hpay w hsame

end Loop

end BrandBlitz.Payout

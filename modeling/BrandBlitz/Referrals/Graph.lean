import BrandBlitz.Lib.Acyclic
import BrandBlitz.Referrals.Attribution

/-!
# BrandBlitz.Referrals.Graph

**The graph of referrals**, over histories of calls executed one after another. No user ever
gets a second referrer. That the graph has no cycle rests on the one check the calls make,
for a referral the other way round, and this is not enough: a user may still name the code of
somebody they referred through others. The graph is acyclic exactly as long as no call that
passes the checks does so.
-/

namespace BrandBlitz.Referrals.Attribution

open BrandBlitz.Lib Relation

variable {sha256 : Text → Text} {w : World} {userId referrerId : Id} {req : Request}

/-- `referrer → referred`. -/
def World.Refers (w : World) (a b : Id) : Prop :=
  ∃ r ∈ w.referrals, r.referrerId = a ∧ r.referredId = b

/-- Every user has at most one referrer. -/
def World.OneReferrer (w : World) : Prop :=
  ∀ a b u, w.Refers a u → w.Refers b u → a = b

/-! ### Histories -/

/-- What happens, one thing after the other: a call, with what the environment contributes to
it, or a change of users, codes and keys. -/
inductive Event where
  | call (userId : Id) (req : Request) (s : Nat → Env)
  | outside (codeOwner : Text → Option Id) (pending : Text → Option Text)
      (fingerprintOwner : Text → Option Id)

def World.step (sha256 : Text → Text) (w : World) : Event → World
  | .call userId req s =>
      ((consumePendingReferralAttribution sha256 userId req).run attributionMachine s w).2
  | .outside codeOwner pending fingerprintOwner =>
      { w with
        codeOwner := codeOwner, pending := pending, fingerprintOwner := fingerprintOwner }

/-- The world after a history. -/
def World.after (sha256 : Text → Text) : World → List Event → World
  | w, [] => w
  | w, event :: rest => (w.step sha256 event).after sha256 rest

/-- Does nothing throw by the environment's doing? -/
def Event.Calm : Event → Prop
  | .call _ _ s => ∀ n, (s n).fault = none
  | .outside .. => True

/-! ### The condition -/

/-- The code a request stands for, given what is pending for its device. -/
def World.offeredCode (sha256 : Text → Text) (w : World) (req : Request) : Text :=
  normalizeCode ((readReferralCode req <|> w.pending (deviceFingerprint sha256 req)).getD [])

/-- The checks of the code: a valid code of another user, a device that is free or the
caller's, no referral the other way round, and no referrer yet. -/
structure Passes (sha256 : Text → Text) (w : World) (userId : Id) (req : Request)
    (referrerId : Id) : Prop where
  valid : isValidCode (w.offeredCode sha256 req) = true
  owner : w.codeOwner (w.offeredCode sha256 req) = some referrerId
  other : referrerId ≠ userId
  device : ∀ user, w.fingerprintOwner (deviceFingerprint sha256 req) = some user → user = userId
  noReverse : ¬ w.Refers userId referrerId
  noReferrer : ∀ a, ¬ w.Refers a userId

/-- A call that passes the checks does not name a referrer whom the caller has referred,
directly or through others. -/
def World.Meets (sha256 : Text → Text) (w : World) : Event → Prop
  | .call userId req _ => ∀ referrerId, Passes sha256 w userId req referrerId →
      ¬ ReflTransGen w.Refers userId referrerId
  | .outside .. => True

/-- Every call of the history meets the condition. -/
def World.AllMeet (sha256 : Text → Text) : World → List Event → Prop
  | _, [] => True
  | w, event :: rest => w.Meets sha256 event ∧ (w.step sha256 event).AllMeet sha256 rest

/-! ### One call -/

/-- A read changes nothing, and its answer is that of the world. -/
def Op.isRead : Op → Bool
  | .getPending _ | .getFingerprintOwner _ | .findUserByReferralCode _
  | .findReferralByReferrerAndReferred .. | .findReferralByReferredId _ => true
  | _ => false

section Wp

variable {G : World → Op → Env → Prop} {R : ApiError → World → Prop}

/-- The rule for a read: if it throws, the world is as before. -/
theorem wp_read {op : Op} (hop : op.isRead = true)
    {Q : attributionSig.Ans op → World → Prop} (hok : ∀ e, Q (perform e op w).1 w)
    (herror : ∀ e err, G w op e → e.fault ≠ none → R err w) :
    (Prog.call (S := attributionSig) op : Service (attributionSig.Ans op)).wp attributionMachine G
      (fun _ => True) (Prog.Ends Q R) w := by
  refine Prog.wp_call fun e he => ⟨trivial, ?_⟩
  have hsame : (perform e op w).2 = w := by
    cases op with
    | delPending _ | setFingerprintOwner _ _ | createReferral _ _ => cases hop
    | _ => rfl
  simp only [attributionMachine]
  split
  · rename_i fault hfault
    rw [hsame, ite_self]
    exact herror e _ he (by rw [hfault]; simp)
  · rw [hsame]
    exact hok e

/-- The last writes leave the referrals alone. -/
theorem wp_redisWrite {op : Op}
    (hop : (∃ f, op = .delPending f) ∨ ∃ f u, op = .setFingerprintOwner f u)
    {rows : List Referral} (hw : w.referrals = rows) :
    (Prog.call (S := attributionSig) op : Service (attributionSig.Ans op)).wp attributionMachine G
      (fun _ => True) (Prog.Ends (fun _ w' => w'.referrals = rows) fun _ w' =>
        w'.referrals = rows) w := by
  refine Prog.wp_call_world fun e _ => ⟨trivial, ?_⟩
  have hsame : (perform e op w).2.referrals = w.referrals := by
    rcases hop with ⟨f, rfl⟩ | ⟨f, u, rfl⟩ <;> rfl
  simp only [attributionMachine]
  split
  · split
    · rw [hsame, hw]
    · exact hw
  · rw [hsame, hw]

end Wp

/-- How a call ends: it adds no referral, which if it is `calm` means that it does not pass
the checks, or it adds one for a referrer that passes them. -/
def Outcome (sha256 : Text → Text) (calm : Prop) (w : World) (userId : Id) (req : Request)
    (w' : World) : Prop :=
  (w'.referrals = w.referrals ∧ (calm → ∀ referrerId, ¬ Passes sha256 w userId req referrerId)) ∨
    ∃ referrerId id, Passes sha256 w userId req referrerId ∧
      w'.referrals = w.referrals ++ [⟨id, referrerId, userId, false⟩]

section Call

variable {calm : Prop}

/-- The guard of a call that is calm, if it is. -/
def CalmIf (calm : Prop) (_ : World) (_ : Op) (e : Env) : Prop := calm → e.fault = none

/-- A call that ends as its outcome says, also if it throws. -/
abbrev EndsAs (sha256 : Text → Text) (calm : Prop) (w : World) (userId : Id) (req : Request)
    (p : Service Unit) (w' : World) : Prop :=
  p.wp attributionMachine (CalmIf calm) (fun _ => True)
    (Prog.Ends (fun _ => Outcome sha256 calm w userId req) fun _ =>
      Outcome sha256 calm w userId req) w'

/-- A read that throws was not calm. -/
theorem outcome_of_fault {op : Op} {e : Env} (hG : CalmIf calm w op e) (hfault : e.fault ≠ none) :
    Outcome sha256 calm w userId req w := .inl ⟨rfl, fun hcalm => absurd (hG hcalm) hfault⟩

theorem endsAs_recordReferralFingerprint
    (hnone : ∀ referrerId, ¬ Passes sha256 w userId req referrerId) :
    EndsAs sha256 calm w userId req (recordReferralFingerprint sha256 userId req) w :=
  Prog.wp_weaken (wp_redisWrite (.inr ⟨_, _, rfl⟩) rfl)
    (fun _ _ hrows => .inl ⟨hrows, fun _ => hnone⟩)
    fun _ _ hrows => .inl ⟨hrows, fun _ => hnone⟩

/-- The insertion, and what comes after it. -/
theorem endsAs_create (hpasses : Passes sha256 w userId req referrerId) :
    EndsAs sha256 calm w userId req (do
      let _ ← Prog.call (S := attributionSig) (.createReferral referrerId userId)
      Prog.call (S := attributionSig) (.delPending (deviceFingerprint sha256 req))
      recordReferralFingerprint sha256 userId req) w := by
  have hfind : w.referrals.find? (fun r => r.referredId = userId) = none := by
    refine List.find?_eq_none.mpr fun r hr hreferred => ?_
    exact hpasses.noReferrer r.referrerId ⟨r, hr, rfl, by simpa using hreferred⟩
  have hadded : ∀ e : Env, (perform e (.createReferral referrerId userId) w).2.referrals =
      w.referrals ++ [⟨e.number, referrerId, userId, false⟩] := by
    intro e
    simp [perform, World.createReferral, hfind]
  refine Prog.wp_bind (P := fun _ w' => ∃ id,
    w'.referrals = w.referrals ++ [⟨id, referrerId, userId, false⟩]) ?_ fun _ w' hcreated => ?_
  · refine Prog.wp_call fun e hG => ⟨trivial, ?_⟩
    simp only [attributionMachine]
    split
    · rename_i fault hfault
      split
      · exact .inr ⟨referrerId, e.number, hpasses, hadded e⟩
      · exact outcome_of_fault hG (by rw [hfault]; simp)
    · exact ⟨e.number, hadded e⟩
  · obtain ⟨id, hrows⟩ := hcreated
    have hdone : ∀ w' : World, w'.referrals = w.referrals ++ [⟨id, referrerId, userId, false⟩] →
        Outcome sha256 calm w userId req w' := fun w' hrows => .inr ⟨referrerId, id, hpasses, hrows⟩
    refine Prog.wp_bind (Prog.wp_weaken (wp_redisWrite (.inl ⟨_, rfl⟩) hrows) (fun _ _ h => h)
      fun _ w' hrows => hdone w' hrows) fun _ w' hrows => ?_
    exact Prog.wp_weaken (wp_redisWrite (.inr ⟨_, _, rfl⟩) hrows) (fun _ w' h => hdone w' h)
      fun _ w' h => hdone w' h

theorem endsAs_attributeReferral (hvalid : isValidCode (w.offeredCode sha256 req) = true)
    (howner : w.codeOwner (w.offeredCode sha256 req) = some referrerId)
    (hother : referrerId ≠ userId)
    (hdevice : ∀ user, w.fingerprintOwner (deviceFingerprint sha256 req) = some user →
      user = userId) :
    EndsAs sha256 calm w userId req (attributeReferral sha256 userId req referrerId) w := by
  have honly : ∀ r, Passes sha256 w userId req r → r = referrerId := by
    intro r hr
    exact Option.some.inj (hr.owner.symm.trans howner)
  refine Prog.wp_bind (P := fun found w' => found = w.referrals.find? (fun r =>
      r.referrerId = userId ∧ r.referredId = referrerId) ∧ w' = w)
    (wp_read rfl (fun _ => ⟨rfl, rfl⟩) fun _ _ => outcome_of_fault) fun reverse w' hreverse => ?_
  obtain ⟨rfl, rfl⟩ := hreverse
  split
  · rename_i hreverse
    refine .inl ⟨rfl, fun _ r hr => ?_⟩
    obtain rfl := honly r hr
    obtain ⟨row, hrow⟩ := Option.isSome_iff_exists.mp hreverse
    have hmatch := List.find?_some hrow
    simp only [decide_eq_true_eq] at hmatch
    exact hr.noReverse ⟨row, List.mem_of_find?_eq_some hrow, hmatch⟩
  rename_i hreverse
  have hnoReverse : ¬ w'.Refers userId referrerId := by
    have hnone : ∀ r ∈ w'.referrals, r.referrerId = userId → ¬ r.referredId = referrerId := by
      simpa using hreverse
    rintro ⟨r, hr, hreferrer, hreferred⟩
    exact hnone r hr hreferrer hreferred
  refine Prog.wp_bind (P := fun found w'' => found = w'.referrals.find? (fun r =>
      r.referredId = userId) ∧ w'' = w')
    (wp_read rfl (fun _ => ⟨rfl, rfl⟩) fun _ _ => outcome_of_fault) fun existing w'' hexisting => ?_
  obtain ⟨rfl, rfl⟩ := hexisting
  split
  · rename_i hexisting
    refine endsAs_recordReferralFingerprint fun r hr => ?_
    obtain ⟨row, hrow⟩ := Option.isSome_iff_exists.mp hexisting
    have hmatch := List.find?_some hrow
    simp only [decide_eq_true_eq] at hmatch
    exact hr.noReferrer row.referrerId ⟨row, List.mem_of_find?_eq_some hrow, rfl, hmatch⟩
  · rename_i hexisting
    have hnone : ∀ r ∈ w''.referrals, ¬ r.referredId = userId := by simpa using hexisting
    refine endsAs_create ⟨hvalid, howner, hother, hdevice, hnoReverse, ?_⟩
    rintro a ⟨r, hr, -, hreferred⟩
    exact hnone r hr hreferred

/-- **One call** adds the referral that passes the checks, if one does and nothing throws
before, and no other. -/
theorem endsAs_consumePendingReferralAttribution (sha256 : Text → Text) (calm : Prop) (w : World)
    (userId : Id) (req : Request) :
    EndsAs sha256 calm w userId req (consumePendingReferralAttribution sha256 userId req) w := by
  have hfound : (findCode sha256 req).wp attributionMachine (CalmIf calm) (fun _ => True)
      (Prog.Ends (fun found w' => normalizeCode (found.getD []) = w.offeredCode sha256 req ∧ w' = w)
        fun _ => Outcome sha256 calm w userId req) w := by
    unfold findCode World.offeredCode
    split
    · rename_i code hcode
      rw [hcode]
      exact ⟨rfl, rfl⟩
    · rename_i hcode
      rw [hcode]
      exact wp_read rfl (fun _ => ⟨rfl, rfl⟩) fun _ _ => outcome_of_fault
  -- a check that turns the call away leaves no referral that would pass
  refine Prog.wp_bind hfound fun found w' hcode => ?_
  obtain ⟨hcode, rfl⟩ := hcode
  generalize normalizeCode (found.getD []) = code at hcode
  subst hcode
  dsimp only
  split
  · rename_i hinvalid
    refine endsAs_recordReferralFingerprint fun r hr => ?_
    have hvalid := hr.valid
    rw [hvalid, Bool.not_true, Bool.or_false, List.isEmpty_iff] at hinvalid
    rw [hinvalid] at hvalid
    exact absurd hvalid (by decide)
  rename_i hvalid
  replace hvalid : isValidCode (w'.offeredCode sha256 req) = true := by
    simp only [Bool.or_eq_true, Bool.not_eq_true', not_or, Bool.not_eq_false] at hvalid
    exact hvalid.2
  refine Prog.wp_bind (P := fun owner w'' =>
      owner = w'.codeOwner (w'.offeredCode sha256 req) ∧ w'' = w')
    (wp_read rfl (fun _ => ⟨rfl, rfl⟩) fun _ _ => outcome_of_fault) fun owner w'' howner => ?_
  obtain ⟨howner, rfl⟩ := howner
  cases owner with
  | none =>
      refine endsAs_recordReferralFingerprint fun r hr => ?_
      rw [hr.owner] at howner
      cases howner
  | some referrerId =>
      dsimp only
      split
      · rename_i hself
        refine .inl ⟨rfl, fun _ r hr => hr.other ?_⟩
        rw [← hself]
        exact Option.some.inj (hr.owner.symm.trans howner.symm)
      rename_i hother
      refine Prog.wp_bind (P := fun device w' =>
          device = w''.fingerprintOwner (deviceFingerprint sha256 req) ∧ w' = w'')
        (wp_read rfl (fun _ => ⟨rfl, rfl⟩) fun _ _ => outcome_of_fault) fun device w' hdevice => ?_
      obtain ⟨rfl, rfl⟩ := hdevice
      split
      · rename_i htaken
        refine .inl ⟨rfl, fun _ r hr => ?_⟩
        obtain ⟨user, huser, hne⟩ := (Option.any_eq_true _ _).mp htaken
        exact absurd (hr.device user huser) (by simpa using hne)
      · rename_i hfree
        refine endsAs_attributeReferral hvalid howner.symm hother fun user huser => ?_
        rw [huser] at hfree
        simpa using hfree

end Call

/-! ### The graph -/

/-- A new referral is a new edge. -/
theorem refers_addEdge {w w' : World} {id : Id}
    (h : w'.referrals = w.referrals ++ [⟨id, referrerId, userId, false⟩]) :
    w'.Refers = AddEdge w.Refers referrerId userId := by
  funext a b
  simp only [World.Refers, AddEdge, h, List.mem_append, List.mem_singleton, eq_iff_iff]
  constructor
  · rintro ⟨r, hr | rfl, ha, hb⟩
    · exact .inl ⟨r, hr, ha, hb⟩
    · exact .inr ⟨ha.symm, hb.symm⟩
  · rintro (⟨r, hr, ha, hb⟩ | ⟨rfl, rfl⟩)
    · exact ⟨r, .inl hr, ha, hb⟩
    · exact ⟨_, .inr rfl, rfl, rfl⟩

theorem refers_eq {w w' : World} (h : w'.referrals = w.referrals) : w'.Refers = w.Refers := by
  funext a b
  rw [World.Refers, World.Refers, h]

/-- The outcome of a call in a history. -/
theorem step_call (sha256 : Text → Text) (w : World) (userId : Id) (req : Request)
    (s : Nat → Env) :
    Outcome sha256 (∀ n, (s n).fault = none) w userId req
      (w.step sha256 (.call userId req s)) :=
  Prog.run_world_of_wp (endsAs_consumePendingReferralAttribution sha256 _ w userId req)
    fun _ _ n hcalm => hcalm n

/-- No event takes an edge away. -/
theorem refers_le_step (event : Event) : w.Refers ≤ (w.step sha256 event).Refers := by
  cases event with
  | call userId req s =>
      obtain ⟨hrows, -⟩ | ⟨_, _, -, hrows⟩ := step_call sha256 w userId req s
      · rw [refers_eq hrows]
      · rw [refers_addEdge hrows]
        exact le_addEdge
  | outside _ _ _ => exact fun _ _ h => h

theorem refers_le_after (events : List Event) :
    ∀ w : World, w.Refers ≤ (w.after sha256 events).Refers := by
  induction events with
  | nil => exact fun w _ _ h => h
  | cons event rest ih =>
      intro w
      exact le_trans (refers_le_step event) (ih (w.step sha256 event))

/-- **One event and the graph.** A call that meets the condition keeps the graph acyclic; a
calm one that does not closes a cycle. -/
theorem acyclic_step (hacyclic : Acyclic w.Refers) (event : Event) :
    (w.Meets sha256 event → Acyclic (w.step sha256 event).Refers) ∧
      (event.Calm → Acyclic (w.step sha256 event).Refers → w.Meets sha256 event) := by
  cases event with
  | call userId req s =>
      obtain ⟨hrows, hnone⟩ | ⟨referrerId, id, hpasses, hrows⟩ := step_call sha256 w userId req s
      · rw [refers_eq hrows]
        exact ⟨fun _ => hacyclic, fun hcalm _ r hr => absurd hr (hnone hcalm r)⟩
      · rw [refers_addEdge hrows, acyclic_addEdge_iff]
        refine ⟨fun hmeets => ⟨hacyclic, hmeets referrerId hpasses⟩, fun _ hedge r hr => ?_⟩
        obtain rfl := Option.some.inj (hr.owner.symm.trans hpasses.owner)
        exact hedge.2
  | outside _ _ _ => exact ⟨fun _ => hacyclic, fun _ _ => trivial⟩

theorem oneReferrer_step (hone : w.OneReferrer) (event : Event) :
    (w.step sha256 event).OneReferrer := by
  cases event with
  | call userId req s =>
      obtain ⟨hrows, -⟩ | ⟨referrerId, id, hpasses, hrows⟩ := step_call sha256 w userId req s
      · rw [World.OneReferrer, refers_eq hrows]
        exact hone
      · rw [World.OneReferrer, refers_addEdge hrows]
        rintro a b u (ha | ⟨rfl, rfl⟩) (hb | ⟨rfl, hu⟩)
        · exact hone a b u ha hb
        · exact absurd (hu ▸ ha) (hpasses.noReferrer a)
        · exact absurd hb (hpasses.noReferrer b)
        · rfl
  | outside _ _ _ => exact hone

theorem acyclic_nil (h : w.referrals = []) : Acyclic w.Refers := by
  have hnone : ∀ a b, ¬ w.Refers a b := by
    rintro a b ⟨r, hr, -⟩
    rw [h] at hr
    cases hr
  intro u hu
  obtain ⟨v, hv, -⟩ := TransGen.head'_iff.mp hu
  exact hnone u v hv

theorem oneReferrer_after (events : List Event) :
    ∀ w : World, w.OneReferrer → (w.after sha256 events).OneReferrer := by
  induction events with
  | nil => exact fun _ hone => hone
  | cons event rest ih => exact fun w hone => ih _ (oneReferrer_step hone event)

theorem acyclic_after (events : List Event) :
    ∀ w : World, Acyclic w.Refers → w.AllMeet sha256 events →
      Acyclic (w.after sha256 events).Refers := by
  induction events with
  | nil => exact fun _ hacyclic _ => hacyclic
  | cons event rest ih =>
      intro w hacyclic hmeet
      exact ih _ ((acyclic_step hacyclic event).1 hmeet.1) hmeet.2

theorem allMeet_of_acyclic (events : List Event) :
    ∀ w : World, Acyclic w.Refers → (∀ event ∈ events, event.Calm) →
      Acyclic (w.after sha256 events).Refers → w.AllMeet sha256 events := by
  induction events with
  | nil => exact fun _ _ _ _ => trivial
  | cons event rest ih =>
      intro w hacyclic hcalm hafter
      -- a cycle after the first event would still be there at the end
      have hfirst : Acyclic (w.step sha256 event).Refers := fun u hu =>
        hafter u (TransGen.mono (refers_le_after rest _) _ _ hu)
      exact ⟨(acyclic_step hacyclic event).2 (hcalm event List.mem_cons_self) hfirst,
        ih _ hfirst (fun e he => hcalm e (List.mem_cons_of_mem _ he)) hafter⟩

/-- **The graph of referrals.** Whatever calls are made one after another, every user has at
most one referrer. If every call meets the condition the graph is acyclic; and if nothing
throws, it is acyclic only then. -/
theorem referral_graph_acyclic_iff (sha256 : Text → Text) (w₀ : World)
    (h₀ : w₀.referrals = []) (events : List Event) :
    (w₀.after sha256 events).OneReferrer ∧
      (w₀.AllMeet sha256 events → Acyclic (w₀.after sha256 events).Refers) ∧
      ((∀ event ∈ events, event.Calm) → Acyclic (w₀.after sha256 events).Refers →
        w₀.AllMeet sha256 events) := by
  have hone : w₀.OneReferrer := by
    rintro a b u ⟨r, hr, -⟩
    rw [h₀] at hr
    cases hr
  exact ⟨oneReferrer_after events w₀ hone, acyclic_after events w₀ (acyclic_nil h₀),
    allMeet_of_acyclic events w₀ (acyclic_nil h₀)⟩

/-! ### Three users

Users 1, 2 and 3 have the codes `AAAAAA`, `BBBBBB` and `CCCCCC`, and a device each. -/

/-- SHA-256 on what is hashed here, in hexadecimal. -/
def sampleSha256 (text : Text) : Text :=
  if text = [] then
    "e3b0c44298fc1c149afbf4c8996fb92427ae41e4649b934ca495991b7852b855".toList
  else if text = "|d1::e3b0c442".toList then
    "ca2bd3f74ef7bcccde328bcae2c0b0358146452180ed55be582054d50f48c29f".toList
  else if text = "|d2::e3b0c442".toList then
    "ebbbc96ce9a2f0f4ed5989fe80ec7e31e3753379c42486ceb6973b9bd5406fe1".toList
  else
    "314b6d5052d7101fe461fcf31f9c0d3a2bbf2164544772f4ab1120380e6b8f75".toList

/-- A login from a device, with a referral code in the query. -/
def loginFrom (deviceId code : String) : Request :=
  ⟨some code.toList, none, .absent, .single deviceId.toList, none, none⟩

def World.threeUsers : World where
  referrals := []
  codeOwner code :=
    if code = "AAAAAA".toList then some 1
    else if code = "BBBBBB".toList then some 2
    else if code = "CCCCCC".toList then some 3
    else none
  pending _ := none
  fingerprintOwner _ := none

/-- User 2 names the code of user 1, and user 3 that of user 2. -/
def twoLogins : List Event :=
  [.call 2 (loginFrom "d2" "aaaaaa") fun _ => ⟨none, 7⟩,
    .call 3 (loginFrom "d3" "bbbbbb") fun _ => ⟨none, 8⟩]

/-- Who has referred nobody leads nowhere. -/
theorem meets_of_newcomer {s : Nat → Env} (h : ∀ r ∈ w.referrals, r.referrerId ≠ userId) :
    w.Meets sha256 (.call userId req s) := by
  intro referrerId hpasses hpath
  rcases ReflTransGen.cases_head hpath with rfl | ⟨_, ⟨r, hr, hreferrer, -⟩, -⟩
  · exact hpasses.other rfl
  · exact h r hr hreferrer

theorem twoLogins_referrals : (World.threeUsers.after sampleSha256 twoLogins).referrals =
    [⟨7, 1, 2, false⟩, ⟨8, 2, 3, false⟩] := by decide +kernel

/-- A chain of two referrals is no cycle. -/
theorem chain_acyclic :
    (World.threeUsers.after sampleSha256 twoLogins).Refers 1 2 ∧
      (World.threeUsers.after sampleSha256 twoLogins).Refers 2 3 ∧
      Acyclic (World.threeUsers.after sampleSha256 twoLogins).Refers := by
  refine ⟨?_, ?_, (referral_graph_acyclic_iff sampleSha256 World.threeUsers rfl twoLogins).2.1 ?_⟩
  · simp [World.Refers, twoLogins_referrals]
  · simp [World.Refers, twoLogins_referrals]
  refine ⟨meets_of_newcomer (by decide), meets_of_newcomer ?_, trivial⟩
  decide +kernel

/-- User 1 logs in again with the code of user 3, and the graph has a cycle of three. -/
theorem three_logins_cyclic :
    ¬ ∀ (sha256 : Text → Text) (w₀ : World) (events : List Event), w₀.referrals = [] →
      (∀ event ∈ events, event.Calm) →
      Acyclic (w₀.after sha256 events).Refers ∧ (w₀.after sha256 events).OneReferrer := by
  intro hall
  let events := twoLogins ++ [.call 1 (loginFrom "d1" "CCCCCC") fun _ => ⟨none, 9⟩]
  have hcalm : ∀ event ∈ events, event.Calm := by
    intro event hevent
    simp only [events, twoLogins, List.cons_append, List.nil_append, List.mem_cons,
      List.not_mem_nil, or_false] at hevent
    rcases hevent with rfl | rfl | rfl <;> exact fun _ => rfl
  have hacyclic := (hall sampleSha256 World.threeUsers events rfl hcalm).1
  have hrows : (World.threeUsers.after sampleSha256 events).referrals =
      [⟨7, 1, 2, false⟩, ⟨8, 2, 3, false⟩, ⟨9, 3, 1, false⟩] := by decide +kernel
  have hfirst : (World.threeUsers.after sampleSha256 events).Refers 1 2 := by
    simp [World.Refers, hrows]
  have hsecond : (World.threeUsers.after sampleSha256 events).Refers 2 3 := by
    simp [World.Refers, hrows]
  have hthird : (World.threeUsers.after sampleSha256 events).Refers 3 1 := by
    simp [World.Refers, hrows]
  exact hacyclic 1 (((TransGen.single hfirst).tail hsecond).tail hthird)

end BrandBlitz.Referrals.Attribution

import BrandBlitz.Stellar.Sequence

/-!
# BrandBlitz.Stellar.SequenceReset

**Reservations around a reset** (`packages/stellar/src/sequence.ts`). After `tx_bad_seq` a
worker reloads the account's sequence number, overwrites the base and deletes the counter.
Other workers go on reserving meanwhile, and they take the base and the offset in two
separate store operations as well.

Two things are expected of this: reservations on one base never share a number, and the
first reservation begun after a reset gets the number after the reset's base. Both fail when
a reservation has read the old base before the reset and counts after it: it is given a
number of the old base a second time, and the fresh counter is off by one from then on.

`Orderly` is the condition on the moves of a reset under which both hold, in every
interleaving of any number of calls and resets.
-/

namespace BrandBlitz.Stellar

/-- The base a call has taken up and not yet counted on. -/
def CallPhase.base? : CallPhase → Option Int
  | .read existing => existing
  | .counting b => some b
  | _ => none

/-- Has the call returned or thrown? -/
def CallPhase.isOver : CallPhase → Bool
  | .reserved _ | .threw => true
  | _ => false

/-- Has the call found no base, so that a load will hand it one? -/
def CallPhase.joins : CallPhase → Bool
  | .read none | .waiting _ => true
  | _ => false

/-- The base a load resolves to. -/
def LoadPhase.result? : LoadPhase → Option Int
  | .ending result | .ended result => result
  | _ => none

namespace SequenceState

variable {P : Type} [DecidableEq P]

/-! ### What is asked of resets, and of which runs -/

omit [DecidableEq P] in
/-- Of two reservations on one base, the numbers differ. -/
def DistinctPerBase (s : SequenceState P) : Prop :=
  s.reservations.Pairwise fun r r' =>
    r.baseSequence = r'.baseSequence → r.transactionSequence ≠ r'.transactionSequence

/-- The call at index `c`, which awaits its counter step, began after the state `s` and no
other call begun after `s` has a number yet. -/
structure NextAfter (s s' : SequenceState P) (c : Nat) (base : Int) : Prop where
  waits : ∃ p, s'.calls[c]? = some ⟨p, .counting base⟩
  begun : s.calls.length ≤ c
  first : ∀ d ∈ s'.calls.drop s.calls.length, d.phase.reservation? = none

/-- Once the last reset, which stored `base`, has deleted the counter, the next reservation
begun afterwards is given `base + 1`. -/
def RestartsAfterReset (s₀ : SequenceState P) (moves : List (Move P)) : Prop :=
  ∀ before i between after base,
    moves = before ++ .resetBase i :: (between ++ .resetOffset i :: after) →
    (s₀.run true before).resets[i]? = some (.writing base) →
    (∀ m ∈ between, m ≠ .resetOffset i) →
    (∀ m ∈ after, m.isReset = false) →
    ∀ s, s = s₀.run true (before ++ .resetBase i :: (between ++ [.resetOffset i])) →
      (∀ r ∈ s.resets, r = .over) →
      ∀ c b, NextAfter s (s.run true after) c b →
        (reservation b ((s.run true after).offset + 1)).transactionSequence = base + 1

/-- The two expectations together, of every state of a run. -/
def ResetSafe (s₀ : SequenceState P) (moves : List (Move P)) : Prop :=
  DistinctPerBase (s₀.run true moves) ∧ RestartsAfterReset s₀ moves

/-- When a reset stores its base, no reservation was made on that base and no other reset
is between its two writes; when it deletes the counter, no reservation was made on the
stored base and no reservation is in flight. -/
def Orderly (s : SequenceState P) : Move P → Prop
  | .resetBase i => ∀ base, s.resets[i]? = some (.writing base) →
      (∀ r ∈ s.reservations, r.baseSequence ≠ base) ∧ ∀ r ∈ s.resets, r ≠ .deleting
  | .resetOffset i => s.resets[i]? = some .deleting →
      (∀ r ∈ s.reservations, s.base ≠ some r.baseSequence) ∧
        ∀ c ∈ s.calls, c.phase.isOver = true
  | _ => True

/-- Every move of the run is orderly. -/
def OrderlyRun : SequenceState P → List (Move P) → Prop
  | _, [] => True
  | s, m :: rest => Orderly s m ∧ OrderlyRun (s.step true m) rest

theorem run_append (s : SequenceState P) (moves more : List (Move P)) :
    s.run true (moves ++ more) = (s.run true moves).run true more := by
  simp [run]

theorem orderlyRun_append {moves more : List (Move P)} :
    ∀ {s : SequenceState P}, OrderlyRun s (moves ++ more) ↔
      OrderlyRun s moves ∧ OrderlyRun (s.run true moves) more := by
  induction moves with
  | nil => intro s; simp [OrderlyRun, run]
  | cons m rest ih =>
      intro s
      rw [List.cons_append, OrderlyRun, OrderlyRun, ih, and_assoc]
      rfl

/-! ### Numbers on one base

On every base that somebody can still count on, all offsets handed out lie below the
counter. So the next one is new there. -/

/-- No offset above the counter was handed out on the base. -/
def Below (s : SequenceState P) (b : Int) : Prop :=
  ∀ r ∈ s.reservations, r.baseSequence = b → r.offset ≤ s.offset

omit [DecidableEq P] in
/-- The invariant of orderly runs. -/
structure Apart (s : SequenceState P) : Prop where
  shape : ∀ r ∈ s.reservations, r = reservation r.baseSequence r.offset
  nodup : (s.reservations.map fun r => (r.baseSequence, r.offset)).Nodup
  base : ∀ b, s.base = some b → s.Below b
  calls : ∀ c ∈ s.calls, ∀ b, c.phase.base? = some b → s.Below b
  /-- a load's result matters as long as somebody may be handed it -/
  loads : ∀ c ∈ s.calls, c.phase.joins = true →
    ∀ l ∈ s.loads, ∀ b, l.phase.result? = some b → s.Below b
  /-- before the first base is stored nobody has one -/
  cold : s.base = none → s.reservations = [] ∧ (∀ c ∈ s.calls, c.phase.base? = none) ∧
    ∀ l ∈ s.loads, LoadOk none l.phase

section Apart

variable {s s' : SequenceState P}

omit [DecidableEq P]

theorem Below.congr {b : Int} (h : s.Below b) (hres : s'.reservations.Perm s.reservations)
    (hoffset : s'.offset = s.offset) : s'.Below b := by
  intro r hr hb
  rw [hoffset]
  exact h r (hres.mem_iff.mp hr) hb

theorem Below.of_nil {b : Int} (h : s.reservations = []) : s.Below b := by
  intro r hr
  rw [h] at hr
  cases hr

/-- A move that neither counts nor stores: whoever has a base afterwards had it before, or
was handed one that is not above the counter. -/
theorem Apart.quiet (h : Apart s) (hres : s'.reservations.Perm s.reservations)
    (hoffset : s'.offset = s.offset) (hbase : s'.base = s.base)
    (hcalls : ∀ c ∈ s'.calls, c ∈ s.calls ∨ (∀ b, c.phase.base? = some b → s.Below b) ∧
      (c.phase.joins = true → (∃ d ∈ s.calls, d.phase.joins = true) ∨ s.base = none) ∧
      (s.base = none → c.phase.base? = none))
    (hloads : ∀ l ∈ s'.loads, l ∈ s.loads ∨ (∀ b, l.phase.result? = some b → s.base = some b ∨
      ∃ l' ∈ s.loads, l'.phase.result? = some b) ∧ (s.base = none → LoadOk none l.phase)) :
    Apart s' where
  shape r hr := h.shape r (hres.mem_iff.mp hr)
  nodup := ((hres.map _).nodup_iff).mpr h.nodup
  base b hb := (h.base b (hbase ▸ hb)).congr hres hoffset
  calls c hc b hb := by
    rcases hcalls c hc with hold | hnew
    · exact (h.calls c hold b hb).congr hres hoffset
    · exact (hnew.1 b hb).congr hres hoffset
  loads c hc hjoins l hl b hb := by
    refine Below.congr ?_ hres hoffset
    by_cases hcold : s.base = none
    · exact Below.of_nil (h.cold hcold).1
    · obtain ⟨d, hd, hdjoins⟩ : ∃ d ∈ s.calls, d.phase.joins = true := by
        rcases hcalls c hc with hold | hnew
        · exact ⟨c, hold, hjoins⟩
        · exact (hnew.2.1 hjoins).resolve_right hcold
      rcases hloads l hl with hold | hnew
      · exact h.loads d hd hdjoins l hold b hb
      · rcases hnew.1 b hb with hstored | ⟨l', hl', hb'⟩
        · exact h.base b hstored
        · exact h.loads d hd hdjoins l' hl' b hb'
  cold hnone := by
    rw [hbase] at hnone
    obtain ⟨hnil, hnobase, hnoresult⟩ := h.cold hnone
    refine ⟨by rwa [hnil, List.perm_nil] at hres, fun c hc => ?_, fun l hl => ?_⟩
    · rcases hcalls c hc with hold | hnew
      · exact hnobase c hold
      · exact hnew.2.2 hnone
    · rcases hloads l hl with hold | hnew
      · exact hnoresult l hold
      · exact hnew.2 hnone

/-- A call goes on without a counter step. -/
theorem Apart.setCall (h : Apart s) {i : Nat} {c : Call P} (hi : s.calls[i]? = some c)
    (hc : c.phase.reservation? = none) {phase : CallPhase} (hnone : phase.reservation? = none)
    (hbase : ∀ b, phase.base? = some b → s.base ≠ none ∧ s.Below b)
    (hjoins : phase.joins = true → (∃ d ∈ s.calls, d.phase.joins = true) ∨ s.base = none) :
    Apart (s.setCall i c phase) := by
  have hres := reservations_setCall hi hc phase
  rw [hnone] at hres
  refine h.quiet hres rfl rfl (fun d hd => ?_) fun l hl => .inl hl
  rcases List.mem_or_eq_of_mem_set hd with hold | rfl
  · exact .inl hold
  · refine .inr ⟨fun b hb => (hbase b hb).2, hjoins, fun hcold => ?_⟩
    cases hphase : phase.base? with
    | none => rfl
    | some b => exact absurd hcold (hbase b hphase).1

/-- A load goes on without storing. -/
theorem Apart.setLoad (h : Apart s) {i : Nat} {l : Load P} {phase : LoadPhase}
    (hresult : ∀ b, phase.result? = some b → s.base = some b ∨
      ∃ l' ∈ s.loads, l'.phase.result? = some b) (hcold : s.base = none → LoadOk none phase) :
    Apart (s.setLoad i l phase) := by
  refine h.quiet (List.Perm.refl _) rfl rfl (fun c hc => .inl hc) fun l' hl' => ?_
  rcases List.mem_or_eq_of_mem_set hl' with hold | rfl
  · exact .inl hold
  · exact .inr ⟨hresult, hcold⟩

/-- The counter step: the offset handed out is above all others on its base. -/
theorem Apart.count (h : Apart s) {i : Nat} {p : P} {base : Int}
    (hi : s.calls[i]? = some ⟨p, .counting base⟩) :
    Apart { s.setCall i ⟨p, .counting base⟩ (.reserved (reservation base (s.offset + 1))) with
      offset := s.offset + 1 } := by
  have hres := reservations_setCall hi rfl (.reserved (reservation base (s.offset + 1)))
  have hbelow : s.Below base := h.calls _ (List.mem_of_getElem? hi) base rfl
  have hgrow : ∀ b, s.Below b → ({ s.setCall i ⟨p, .counting base⟩
      (.reserved (reservation base (s.offset + 1))) with
        offset := s.offset + 1 } : SequenceState P).Below b := by
    intro b hb r hr hrb
    rcases List.mem_cons.mp (hres.mem_iff.mp hr) with rfl | hr
    · exact Nat.le_refl _
    · exact Nat.le_succ_of_le (hb r hr hrb)
  have hold : ∀ c ∈ (s.setCall i ⟨p, .counting base⟩
      (.reserved (reservation base (s.offset + 1)))).calls, c ∈ s.calls ∨
        (c.phase.base? = none ∧ c.phase.joins = false) := by
    intro c hc
    rcases List.mem_or_eq_of_mem_set hc with hold | rfl
    · exact .inl hold
    · exact .inr ⟨rfl, rfl⟩
  constructor
  · intro r hr
    rcases List.mem_cons.mp (hres.mem_iff.mp hr) with rfl | hr
    · rfl
    · exact h.shape r hr
  · refine ((hres.map _).nodup_iff).mpr (List.nodup_cons.mpr ⟨fun hmem => ?_, h.nodup⟩)
    obtain ⟨r, hr, heq⟩ := List.mem_map.mp hmem
    obtain ⟨hrb, hro⟩ := Prod.mk.inj heq
    have hle := hbelow r hr hrb
    simp only [reservation] at hro
    omega
  · intro b hb
    exact hgrow b (h.base b hb)
  · intro c hc b hb
    rcases hold c hc with hc | ⟨hnone, -⟩
    · exact hgrow b (h.calls c hc b hb)
    · rw [hnone] at hb
      cases hb
  · intro c hc hjoins l hl b hb
    rcases hold c hc with hc | ⟨-, hnot⟩
    · exact hgrow b (h.loads c hc hjoins l hl b hb)
    · rw [hnot] at hjoins
      cases hjoins
  · intro hcold
    have hnobase := (h.cold hcold).2.1 _ (List.mem_of_getElem? hi)
    cases hnobase

/-- A base is stored, with the counter as it is: nothing was handed out on it. -/
theorem Apart.store (h : Apart s) {b : Int} (hfresh : ∀ r ∈ s.reservations, r.baseSequence ≠ b)
    (hbase : s'.base = some b) (hcalls : s'.calls = s.calls) (hoffset : s'.offset = s.offset)
    (hloads : ∀ l ∈ s'.loads, l ∈ s.loads ∨ l.phase.result? = some b) : Apart s' := by
  have hres : s'.reservations = s.reservations := by rw [reservations, hcalls, reservations]
  have hsame : ∀ b', s.Below b' → s'.Below b' := fun b' hb' =>
    hb'.congr (List.Perm.of_eq hres) hoffset
  have hnew : s'.Below b := fun r hr hrb => absurd hrb (hfresh r (hres ▸ hr))
  constructor
  · intro r hr
    exact h.shape r (hres ▸ hr)
  · rw [hres]
    exact h.nodup
  · intro b' hb'
    cases hbase.symm.trans hb'
    exact hnew
  · intro c hc b' hb'
    exact hsame b' (h.calls c (hcalls ▸ hc) b' hb')
  · intro c hc hjoins l hl b' hb'
    rcases hloads l hl with hold | hresult
    · exact hsame b' (h.loads c (hcalls ▸ hc) hjoins l hold b' hb')
    · cases hresult.symm.trans hb'
      exact hnew
  · intro hcold
    cases hbase.symm.trans hcold

/-- Whoever has a base has it from a store that held one. -/
theorem Apart.base_ne_none (h : Apart s) {c : Call P} (hc : c ∈ s.calls) {b : Int}
    (hb : c.phase.base? = some b) : s.base ≠ none := by
  intro hcold
  have hnone := (h.cold hcold).2.1 c hc
  rw [hb] at hnone
  cases hnone

/-- The counter is deleted while nobody is in flight. -/
theorem Apart.restart (h : Apart s) {resets : List ResetPhase}
    (hfresh : ∀ r ∈ s.reservations, s.base ≠ some r.baseSequence)
    (hover : ∀ c ∈ s.calls, c.phase.isOver = true) :
    Apart { s with offset := 0, resets := resets } := by
  refine ⟨h.shape, h.nodup, fun b hb r hr hrb => ?_, fun c hc b hb => ?_, fun c hc hjoins => ?_,
    h.cold⟩
  · exact absurd (hrb ▸ hb) (hfresh r hr)
  · have := hover c hc
    cases hphase : c.phase <;> simp_all [CallPhase.base?, CallPhase.isOver]
  · have := hover c hc
    cases hphase : c.phase <;> simp_all [CallPhase.joins, CallPhase.isOver]

end Apart

theorem Apart.resume {s : SequenceState P} (h : Apart s) {i : Nat} {p : P}
    {existing : Option Int} (hi : s.calls[i]? = some ⟨p, .read existing⟩) :
    Apart (s.resume i ⟨p, .read existing⟩ existing) := by
  have hmem := List.mem_of_getElem? hi
  cases existing with
  | some b =>
      refine h.setCall hi rfl rfl (fun b' hb' => ?_) (fun hjoins => by cases hjoins)
      exact ⟨h.base_ne_none hmem hb', h.calls _ hmem b' hb'⟩
  | none =>
      have hcall : ∀ load, Apart (s.setCall i ⟨p, .read none⟩ (.waiting load)) := fun load =>
        h.setCall hi rfl rfl (fun b hb => by cases hb) fun _ => .inl ⟨_, hmem, rfl⟩
      simp only [SequenceState.resume]
      split
      · exact hcall _
      · refine (hcall s.loads.length).quiet (List.Perm.refl _) rfl rfl (fun c hc => .inl hc)
          fun l hl => ?_
        rcases List.mem_append.mp hl with hold | hnew
        · exact .inl hold
        · rw [List.mem_singleton.mp hnew]
          exact .inr ⟨fun b hb => (by cases hb), fun _ => trivial⟩

theorem Apart.moved {s s' : SequenceState P} {m : Move P} (h : Apart s) (hm : Orderly s m)
    (hmoved : s.Moved m s') : Apart s' := by
  cases hmoved with
  | idle => exact h
  | reserve p =>
      refine h.quiet (List.Perm.of_eq ?_) rfl rfl (fun c hc => ?_) fun l hl => .inl hl
      · simp [reservations, CallPhase.reservation?]
      · rcases List.mem_append.mp hc with hold | hnew
        · exact .inl hold
        · rw [List.mem_singleton.mp hnew]
          exact .inr ⟨fun b hb => (by cases hb), fun hjoins => (by cases hjoins), fun _ => rfl⟩
  | read hi =>
      refine h.setCall hi rfl rfl (fun b hb => ?_) fun hjoins => ?_
      · exact ⟨fun hcold => (by rw [CallPhase.base?, hcold] at hb; cases hb), h.base b hb⟩
      · cases hbase : s.base with
        | none => exact .inr rfl
        | some b => rw [hbase] at hjoins; cases hjoins
  | resume hi => exact h.resume hi
  | joined hi hl =>
      have hload := List.mem_of_getElem? hl
      refine h.setCall hi rfl rfl (fun b hb => ⟨fun hcold => ?_, ?_⟩)
        (fun hjoins => by cases hjoins)
      · -- a load has no result before the first base is stored
        cases (h.cold hcold).2.2 _ hload
      · exact h.loads _ (List.mem_of_getElem? hi) rfl _ hload b hb
  | joinedThrown hi hl =>
      exact h.setCall hi rfl rfl (fun b hb => by cases hb) (fun hjoins => by cases hjoins)
  | count hi => exact h.count hi
  | loaded value hi => exact h.setLoad (fun b hb => by cases hb) fun _ => trivial
  | loadThrew hi => exact h.setLoad (fun b hb => by cases hb) fun _ => trivial
  | @stored i p loaded hi hcold =>
      refine h.store (b := loaded) (fun r hr => ?_) rfl rfl rfl fun l hl => ?_
      · rw [(h.cold hcold).1] at hr
        cases hr
      · rcases List.mem_or_eq_of_mem_set hl with hold | rfl
        · exact .inl hold
        · exact .inr rfl
  | lost hi hbase =>
      refine h.setLoad (fun b hb => by cases hb) fun hcold => ?_
      cases hcold.symm.trans hbase
  | reread hi =>
      cases hbase : s.base with
      | none => exact absurd rfl ((h.cold hbase).2.2 _ (List.mem_of_getElem? hi))
      | some b =>
          refine h.setLoad (fun b' hb' => .inl ?_) fun hcold => ?_
          · rw [hbase]
            exact hb'
          · cases hcold.symm.trans hbase
  | @release i p result hi =>
      have hmem := List.mem_of_getElem? hi
      have hended : Apart (s.setLoad i ⟨p, .ending result⟩ (.ended result)) := by
        refine h.setLoad (fun b hb => .inr ⟨_, hmem, hb⟩) fun hcold => ?_
        have hok := (h.cold hcold).2.2 _ hmem
        cases result with
        | none => trivial
        | some b => cases hok
      exact hended.quiet (List.Perm.refl _) rfl rfl (fun c hc => .inl hc) fun l hl => .inl hl
  | reset p => exact h.quiet (List.Perm.refl _) rfl rfl (fun c hc => .inl hc) fun l hl => .inl hl
  | resetLoaded value phase hi =>
      exact h.quiet (List.Perm.refl _) rfl rfl (fun c hc => .inl hc) fun l hl => .inl hl
  | resetBase hi => exact h.store (hm _ hi).1 rfl rfl rfl fun l hl => .inl hl
  | resetOffset hi => exact h.restart (hm hi).1 (hm hi).2

/-- **One orderly move keeps the invariant.** -/
theorem Apart.step {s : SequenceState P} (h : Apart s) (m : Move P) (hm : Orderly s m) :
    Apart (s.step true m) := h.moved hm (step_moved s m)

theorem run_apart (moves : List (Move P)) :
    ∀ {s : SequenceState P}, OrderlyRun s moves → Apart s → Apart (s.run true moves) := by
  induction moves with
  | nil => intro s _ h; exact h
  | cons m rest ih =>
      intro s hmoves h
      exact ih hmoves.2 (h.step m hmoves.1)

omit [DecidableEq P] in
theorem start_apart (base : Option Int) (k : Nat) : Apart (start base k : SequenceState P) := by
  constructor <;> simp [start, reservations, Below]

omit [DecidableEq P] in
theorem Apart.distinctPerBase {s : SequenceState P} (h : Apart s) : DistinctPerBase s := by
  refine (List.pairwise_map.mp h.nodup).imp_of_mem fun {r r'} hr hr' hne hbase hseq => hne ?_
  have hr := h.shape r hr
  have hr' := h.shape r' hr'
  rw [hr, hr'] at hseq
  simp only [reservation] at hseq
  rw [hbase]
  congr 1
  omega

/-! ### The first number after a reset -/

/-- Reset `i` has stored `b` and not yet deleted the counter. -/
def Held (i : Nat) (b : Int) (s : SequenceState P) : Prop :=
  s.base = some b ∧ s.resets[i]? = some .deleting

omit [DecidableEq P] in
theorem getElem?_set_of_ne {rs : List ResetPhase} {i j : Nat} {r old new : ResetPhase}
    (hj : rs[j]? = some old) (hi : rs[i]? = some r) (hne : r ≠ old) :
    (rs.set j new)[i]? = some r := by
  have hij : j ≠ i := by
    intro h
    rw [h, hi] at hj
    exact hne (Option.some.inj hj)
  rw [List.getElem?_set_ne hij, hi]

theorem resume_resets (s : SequenceState P) (i : Nat) (c : Call P) (existing : Option Int) :
    (s.resume i c existing).resets = s.resets := by
  unfold SequenceState.resume
  repeat' split
  all_goals rfl

theorem Held.moved {i : Nat} {b : Int} {s s' : SequenceState P} {m : Move P} (h : Held i b s)
    (hm : Orderly s m) (hne : m ≠ .resetOffset i) (hmoved : s.Moved m s') : Held i b s' := by
  obtain ⟨hbase, hi⟩ := h
  cases hmoved with
  | resume hj =>
      exact ⟨(resume_base ..).trans hbase, by rw [resume_resets]; exact hi⟩
  | stored hj hcold => cases hcold.symm.trans hbase
  | reset p =>
      have hlt := (List.getElem?_eq_some_iff.mp hi).1
      exact ⟨hbase, (List.getElem?_append_left hlt).trans hi⟩
  | resetLoaded value phase hj => exact ⟨hbase, getElem?_set_of_ne hj hi (by decide)⟩
  | resetBase hj => exact absurd rfl ((hm _ hj).2 _ (List.mem_of_getElem? hi))
  | @resetOffset j hj =>
      have hij : j ≠ i := fun h => hne (h ▸ rfl)
      exact ⟨hbase, (List.getElem?_set_ne hij).trans hi⟩
  | _ => exact ⟨hbase, hi⟩

/-- Between its two writes nobody else stores a base. -/
theorem Held.step {i : Nat} {b : Int} {s : SequenceState P} (h : Held i b s) (m : Move P)
    (hm : Orderly s m) (hne : m ≠ .resetOffset i) : Held i b (s.step true m) :=
  h.moved hm hne (step_moved s m)

theorem run_held {i : Nat} {b : Int} (moves : List (Move P)) :
    ∀ {s : SequenceState P}, OrderlyRun s moves → (∀ m ∈ moves, m ≠ .resetOffset i) →
      Held i b s → Held i b (s.run true moves) := by
  induction moves with
  | nil => intro s _ _ h; exact h
  | cons m rest ih =>
      intro s hmoves hne h
      exact ih hmoves.2 (fun m' hm' => hne m' (List.mem_cons_of_mem _ hm'))
        (h.step m hmoves.1 (hne m List.mem_cons_self))

/-- A call begun on the base `b`: it finds that base and counts on it. -/
def OnBase (b : Int) : CallPhase → Prop
  | .reading | .reserved _ => True
  | .read existing => existing = some b
  | .counting b' => b' = b
  | .waiting _ | .threw => False

omit [DecidableEq P] in
/-- What holds after the last reset, which stored `b` and found `n` calls, all over. -/
structure Restarted (n : Nat) (b : Int) (s : SequenceState P) : Prop where
  base : s.base = some b
  length : n ≤ s.calls.length
  old : ∀ i c, i < n → s.calls[i]? = some c → c.phase.isOver = true
  new : ∀ i c, n ≤ i → s.calls[i]? = some c → OnBase b c.phase
  /-- the counter is untouched, or a new call was served -/
  counter : s.offset = 0 ∨ ∃ i c, n ≤ i ∧ s.calls[i]? = some c ∧ c.phase.reservation? ≠ none

section Restarted

variable {n : Nat} {b : Int} {s : SequenceState P}

omit [DecidableEq P] in
/-- A call in flight was begun after the reset. -/
theorem Restarted.begun (h : Restarted n b s) {i : Nat} {c : Call P}
    (hi : s.calls[i]? = some c) (hc : c.phase.isOver = false) : n ≤ i := by
  refine Nat.le_of_not_lt fun hlt => ?_
  rw [h.old i c hlt hi] at hc
  cases hc

omit [DecidableEq P] in
/-- A call begun after the reset goes on. -/
theorem Restarted.setCall (h : Restarted n b s) {i : Nat} {c : Call P}
    (hi : s.calls[i]? = some c) (hc : c.phase.isOver = false) {phase : CallPhase}
    (hphase : OnBase b phase) {offset : Nat}
    (hoffset : offset = s.offset ∨ phase.reservation? ≠ none) :
    Restarted n b { s.setCall i c phase with offset := offset } := by
  have hni := h.begun hi hc
  have hlt := (List.getElem?_eq_some_iff.mp hi).1
  have hset : ∀ j d, (s.calls.set i { c with phase := phase })[j]? = some d →
      j = i ∧ d.phase = phase ∨ j ≠ i ∧ s.calls[j]? = some d := by
    intro j d hj
    by_cases hij : i = j
    · subst hij
      rw [List.getElem?_set_self hlt] at hj
      cases hj
      exact .inl ⟨rfl, rfl⟩
    · rw [List.getElem?_set_ne hij] at hj
      exact .inr ⟨Ne.symm hij, hj⟩
  refine ⟨h.base, by simpa [SequenceState.setCall] using h.length, fun j d hj hd => ?_,
    fun j d hj hd => ?_, ?_⟩
  · rcases hset j d hd with ⟨rfl, -⟩ | ⟨-, hold⟩
    · omega
    · exact h.old j d hj hold
  · rcases hset j d hd with ⟨-, hp⟩ | ⟨-, hold⟩
    · rw [hp]
      exact hphase
    · exact h.new j d hj hold
  · rcases hoffset with hsame | hserved
    · rcases h.counter with hzero | ⟨j, d, hj, hd, hres⟩
      · exact .inl (hsame.trans hzero)
      · refine .inr ⟨j, d, hj, ?_, hres⟩
        have hij : i ≠ j := by
          intro hij
          subst hij
          cases hi.symm.trans hd
          cases hp : c.phase <;> simp_all [CallPhase.isOver, CallPhase.reservation?]
        exact (List.getElem?_set_ne hij).trans hd
    · exact .inr ⟨i, _, hni, List.getElem?_set_self hlt, hserved⟩

omit [DecidableEq P] in
/-- A call is added. -/
theorem Restarted.reserve (h : Restarted n b s) (p : P) :
    Restarted n b { s with calls := s.calls ++ [⟨p, .reading⟩] } := by
  have hget : ∀ j d, (s.calls ++ [⟨p, .reading⟩])[j]? = some d →
      s.calls[j]? = some d ∨ j = s.calls.length ∧ d.phase = .reading := by
    intro j d hd
    rcases Nat.lt_or_ge j s.calls.length with hlt | hge
    · exact .inl (by rwa [List.getElem?_append_left hlt] at hd)
    · rw [List.getElem?_append_right hge, List.getElem?_singleton] at hd
      split at hd
      · cases hd
        exact .inr ⟨by omega, rfl⟩
      · cases hd
  refine ⟨h.base, ?_, fun j d hj hd => ?_, fun j d hj hd => ?_, ?_⟩
  · simp only [List.length_append]
    exact Nat.le_add_right_of_le h.length
  · rcases hget j d hd with hold | ⟨hj', -⟩
    · exact h.old j d hj hold
    · have hlen := h.length
      omega
  · rcases hget j d hd with hold | ⟨-, hphase⟩
    · exact h.new j d hj hold
    · rw [hphase]
      trivial
  · rcases h.counter with hzero | ⟨j, d, hj, hd, hres⟩
    · exact .inl hzero
    · have hlt := (List.getElem?_eq_some_iff.mp hd).1
      exact .inr ⟨j, d, hj, (List.getElem?_append_left hlt).trans hd, hres⟩

theorem Restarted.moved {m : Move P} {s' : SequenceState P} (h : Restarted n b s)
    (hm : m.isReset = false) (hmoved : s.Moved m s') : Restarted n b s' := by
  cases hmoved with
  | idle => exact h
  | reserve p => exact h.reserve p
  | read hi =>
      have hon : OnBase b (.read s.base) := h.base
      exact h.setCall hi rfl hon (.inl rfl)
  | @resume i p existing hi =>
      have hon : existing = some b := h.new i _ (h.begun hi rfl) hi
      subst hon
      have hon : OnBase b (.counting b) := rfl
      exact h.setCall hi rfl hon (.inl rfl)
  | @joined i load p q base hi hl => exact (h.new i _ (h.begun hi rfl) hi).elim
  | @joinedThrown i load p q hi hl => exact (h.new i _ (h.begun hi rfl) hi).elim
  | @count i p base hi =>
      have hon : OnBase b (.reserved (reservation base (s.offset + 1))) := trivial
      exact h.setCall hi rfl hon (.inr (by simp [CallPhase.reservation?]))
  | stored hi hcold => cases hcold.symm.trans h.base
  | reset p => cases hm
  | resetLoaded value phase hi => cases hm
  | resetBase hi => cases hm
  | resetOffset hi => cases hm
  -- what is left only moves a load
  | _ => exact ⟨h.base, h.length, h.old, h.new, h.counter⟩

theorem Restarted.step (h : Restarted n b s) (m : Move P) (hm : m.isReset = false) :
    Restarted n b (s.step true m) := h.moved hm (step_moved s m)

theorem run_restarted (moves : List (Move P)) (hmoves : ∀ m ∈ moves, m.isReset = false)
    (h : Restarted n b s) : Restarted n b (s.run true moves) :=
  run_keeps (fun m h hm => h.step m hm) moves hmoves h

omit [DecidableEq P] in
/-- The next call begun after the reset counts from its base. -/
theorem Restarted.next {s₁ : SequenceState P} (h : Restarted s₁.calls.length b s) {c : Nat}
    {b' : Int} (hnext : NextAfter s₁ s c b') :
    (reservation b' (s.offset + 1)).transactionSequence = b + 1 := by
  obtain ⟨p, hc⟩ := hnext.waits
  have hb : b' = b := h.new c _ hnext.begun hc
  have hzero : s.offset = 0 := by
    rcases h.counter with hzero | ⟨i, d, hi, hd, hres⟩
    · exact hzero
    · refine absurd (hnext.first d (List.mem_of_getElem? (i := i - s₁.calls.length) ?_)) hres
      rw [List.getElem?_drop, Nat.add_sub_cancel' hi, hd]
  simp only [reservation, hzero, hb]
  omega

end Restarted

theorem restartsAfterReset_of_orderly {s₀ : SequenceState P} {moves : List (Move P)}
    (h : OrderlyRun s₀ moves) : RestartsAfterReset s₀ moves := by
  intro before i between after b hsplit hwriting hbetween hafter s hs hover c b' hnext
  subst hsplit
  rw [orderlyRun_append] at h
  obtain ⟨-, hstore, h⟩ := h
  rw [orderlyRun_append] at h
  obtain ⟨hbetweenRun, hdelete, -⟩ := h
  -- the reset stores its base, which stays until it deletes the counter
  have hheld : Held i b ((s₀.run true before).step true (.resetBase i)) := by
    have hlt := (List.getElem?_eq_some_iff.mp hwriting).1
    simp only [SequenceState.step, hwriting]
    exact ⟨rfl, List.getElem?_set_self hlt⟩
  obtain ⟨hbase, hdeleting⟩ := run_held between hbetweenRun hbetween hheld
  have hstate : s = (((s₀.run true before).step true (.resetBase i)).run true between).step true
      (.resetOffset i) := by
    rw [hs]
    simp [run]
  generalize ((s₀.run true before).step true (.resetBase i)).run true between = s₁ at *
  have hrestarted : Restarted s.calls.length b s := by
    simp only [SequenceState.step, hdeleting] at hstate
    subst hstate
    refine ⟨hbase, Nat.le_refl _, fun j d _ hd => ?_, fun j d hj hd => ?_, .inl rfl⟩
    · exact (hdelete hdeleting).2 d (List.mem_of_getElem? hd)
    · have hlt := (List.getElem?_eq_some_iff.mp hd).1
      omega
  exact (run_restarted after hafter hrestarted).next hnext

/-- **Resets are safe in orderly runs.** For any number of processes, calls and resets over
one store, in every interleaving whose reset moves are orderly: reservations on one base have
different numbers, and the first reservation begun after the last reset has the number after
that reset's base. -/
theorem resets_safe_of_orderly (base : Option Int) (k : Nat) (moves : List (Move P))
    (h : OrderlyRun (start base k) moves) : ResetSafe (start base k) moves :=
  ⟨(run_apart moves h (start_apart base k)).distinctPerBase, restartsAfterReset_of_orderly h⟩

/-- A reservation, a reset that reloads the base, and a second reservation. -/
def quietReset : List (Move Nat) :=
  [.reserve 0, .read 0, .resume 0, .count 0, .reset 1, .resetLoaded 0 (some 11), .resetBase 0,
    .resetOffset 0, .reserve 0, .read 1, .resume 1]

theorem quietReset_safe :
    OrderlyRun (start (some 10) 0) quietReset ∧ ResetSafe (start (some 10) 0) quietReset := by
  have h : OrderlyRun (start (some 10) 0) quietReset := by
    refine ⟨trivial, trivial, trivial, trivial, trivial, trivial, ?_, ?_, trivial, trivial,
      trivial, trivial⟩
    · intro base hbase
      obtain rfl : base = 11 := by
        have : some (ResetPhase.writing 11) = some (.writing base) := hbase
        cases this
        rfl
      decide
    · intro _
      decide
  exact ⟨h, resets_safe_of_orderly (some 10) 0 quietReset h⟩

/-- The first call has number 11 and its transaction went through; the second has read the
base 10 when the reset reloads it as 11, and counts after the reset. A third call begins. -/
def resetRace : List (Move Nat) :=
  [.reserve 0, .read 0, .resume 0, .count 0, .reserve 0, .read 1, .resume 1, .reset 1,
    .resetLoaded 0 (some 11), .resetBase 0, .resetOffset 0, .count 1, .reserve 0, .read 2,
    .resume 2]

/-- The second call is given number 11 as well, and the third call gets 13, not 12. -/
theorem resetRace_unsafe :
    ¬ DistinctPerBase ((start (some 10) 0).run true resetRace) ∧
      ¬ RestartsAfterReset (start (some 10) 0) resetRace := by
  refine ⟨by unfold DistinctPerBase; decide, fun h => ?_⟩
  have hthird := h
    [.reserve 0, .read 0, .resume 0, .count 0, .reserve 0, .read 1, .resume 1, .reset 1,
      .resetLoaded 0 (some 11)] 0 [] [.count 1, .reserve 0, .read 2, .resume 2] 11 rfl rfl
    (by simp) (by decide) _ rfl (by decide) 2 11 ⟨⟨0, rfl⟩, by decide, by decide⟩
  revert hthird
  decide

end SequenceState

end BrandBlitz.Stellar

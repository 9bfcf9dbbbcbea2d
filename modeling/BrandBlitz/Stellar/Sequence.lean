import Mathlib.Data.List.Nodup
import Mathlib.Data.List.Perm.Basic
import Mathlib.Data.List.Range
import Mathlib.Logic.Function.Basic
import BrandBlitz.Stellar.Client

/-!
# BrandBlitz.Stellar.Sequence

**Sequence numbers for one hot wallet** (`packages/stellar/src/sequence.ts`), reserved
by any number of processes over one shared store. The store holds two keys for a
wallet: a `base` and an `offset` that counts the reservations made on it.

The base is filled on first use. Within one process the callers that find it missing
share one pending load (`pendingBaseLoads`); between processes `setIfAbsent` decides
whose load counts, and the loser reads the winner's value back.

Every await is a place where another continuation may run, so the model is a state
machine whose moves are single store operations and single resumptions:

* a call of `reserveSequence` reads the base (`read`), goes on (`resume`) to its
  counter or to a load, is handed the load's value (`join`) and counts (`count`);
* a load gets the account's sequence (`loaded`), offers it to the store (`offer`),
  reads the base back when it lost (`reread`), and leaves the map (`release`);
* `resetSequence` drops the map's entry (`reset`), loads (`resetLoaded`), overwrites
  the base (`resetBase`) and deletes the counter (`resetOffset`).

A move of something that is not waiting for it changes nothing, so every list of
moves is a run.
-/

namespace BrandBlitz.Stellar

/-- `SequenceReservation`, without the key prefix that all of them share. -/
structure SequenceReservation where
  baseSequence : Int
  offset : Nat
  accountSequence : Int
  transactionSequence : Int
deriving DecidableEq, Repr

/-- What `reserveSequence` returns once it has a base and an offset. -/
def reservation (baseSequence : Int) (offset : Nat) : SequenceReservation :=
  let accountSequence := baseSequence + ((offset : Int) - 1)
  ⟨baseSequence, offset, accountSequence, accountSequence + 1⟩

/-- Where a call of `reserveSequence` stands. -/
inductive CallPhase where
  /-- awaits `store.get(baseKey)` -/
  | reading
  /-- the answer is there, the caller has not run on yet -/
  | read (existing : Option Int)
  /-- awaits a load, its own or a pending one -/
  | waiting (load : Nat)
  /-- awaits `store.incr(offsetKey)` -/
  | counting (base : Int)
  /-- the counter was incremented for this call -/
  | reserved (r : SequenceReservation)
  | threw
deriving DecidableEq, Repr

/-- The reservation a call was given, once its counter step has happened. -/
def CallPhase.reservation? : CallPhase → Option SequenceReservation
  | .reserved r => some r
  | _ => none

/-- Where a load of the base stands. -/
inductive LoadPhase where
  /-- awaits `loadBaseSequence()` -/
  | loading
  /-- awaits the store's answer to the loaded value -/
  | offering (loaded : Int)
  /-- lost the race, awaits `store.get(baseKey)` -/
  | rereading (loaded : Int)
  /-- the body is through (`none`: it threw), the `finally` is not -/
  | ending (result : Option Int)
  | ended (result : Option Int)
deriving DecidableEq, Repr

/-- Where a call of `resetSequence` stands. -/
inductive ResetPhase where
  | loading
  | writing (loaded : Int)
  | deleting
  | over
deriving DecidableEq, Repr

structure Call (P : Type) where
  process : P
  phase : CallPhase

structure Load (P : Type) where
  process : P
  phase : LoadPhase

/-- The shared store, the processes' maps and everything in flight. -/
structure SequenceState (P : Type) where
  base : Option Int
  offset : Nat
  /-- `pendingBaseLoads`, one map per process -/
  pendingBaseLoads : P → Option Nat
  calls : List (Call P)
  loads : List (Load P)
  resets : List ResetPhase

/-- One store operation or one resumption. -/
inductive Move (P : Type) where
  | reserve (p : P)
  | read (call : Nat)
  | resume (call : Nat)
  | join (call : Nat)
  | count (call : Nat)
  | loaded (load : Nat) (value : Option Int)
  | offer (load : Nat)
  | reread (load : Nat)
  | release (load : Nat)
  | reset (p : P)
  | resetLoaded (i : Nat) (value : Option Int)
  | resetBase (i : Nat)
  | resetOffset (i : Nat)

/-- Does the move belong to `resetSequence`? -/
def Move.isReset {P : Type} : Move P → Bool
  | .reset _ | .resetLoaded .. | .resetBase _ | .resetOffset _ => true
  | _ => false

namespace SequenceState

variable {P : Type} [DecidableEq P]

/-- Nothing is in flight; the store is as it was left. -/
def start (base : Option Int) (offset : Nat) : SequenceState P :=
  ⟨base, offset, fun _ => none, [], [], []⟩

/-- The call goes on to a new phase. -/
def setCall (s : SequenceState P) (i : Nat) (c : Call P) (phase : CallPhase) :
    SequenceState P :=
  { s with calls := s.calls.set i { c with phase := phase } }

/-- The load goes on to a new phase. -/
def setLoad (s : SequenceState P) (i : Nat) (l : Load P) (phase : LoadPhase) :
    SequenceState P :=
  { s with loads := s.loads.set i { l with phase := phase } }

/-- `ensureBaseSequence` after its `get`: take the value, join the pending load, or
start one and put it into the map. -/
def resume (s : SequenceState P) (i : Nat) (c : Call P) : Option Int → SequenceState P
  | some existing => s.setCall i c (.counting existing)
  | none =>
    match s.pendingBaseLoads c.process with
    | some load => s.setCall i c (.waiting load)
    | none =>
      { s.setCall i c (.waiting s.loads.length) with
        loads := s.loads ++ [⟨c.process, .loading⟩]
        pendingBaseLoads :=
          Function.update s.pendingBaseLoads c.process (some s.loads.length) }

/-- `setIfAbsent(baseKey, loaded)`, or a plain `set` where the store has none. -/
def offer (hasSetIfAbsent : Bool) (s : SequenceState P) (i : Nat) (l : Load P) (loaded : Int) :
    SequenceState P :=
  if hasSetIfAbsent then
    match s.base with
    | none => { s.setLoad i l (.ending (some loaded)) with base := some loaded }
    | some _ => s.setLoad i l (.rereading loaded)
  else { s.setLoad i l (.ending (some loaded)) with base := some loaded }

/-- One move. `hasSetIfAbsent`: does the store offer `setIfAbsent`? -/
def step (hasSetIfAbsent : Bool) (s : SequenceState P) : Move P → SequenceState P
  | .reserve p => { s with calls := s.calls ++ [⟨p, .reading⟩] }
  | .read i =>
    match s.calls[i]? with
    | some ⟨p, .reading⟩ => s.setCall i ⟨p, .reading⟩ (.read s.base)
    | _ => s
  | .resume i =>
    match s.calls[i]? with
    | some ⟨p, .read existing⟩ => s.resume i ⟨p, .read existing⟩ existing
    | _ => s
  | .join i =>
    match s.calls[i]? with
    | some ⟨p, .waiting load⟩ =>
      match s.loads[load]? with
      | some ⟨_, .ended (some base)⟩ => s.setCall i ⟨p, .waiting load⟩ (.counting base)
      | some ⟨_, .ended none⟩ => s.setCall i ⟨p, .waiting load⟩ .threw
      | _ => s
    | _ => s
  | .count i =>
    match s.calls[i]? with
    | some ⟨p, .counting base⟩ =>
      { s.setCall i ⟨p, .counting base⟩ (.reserved (reservation base (s.offset + 1))) with
        offset := s.offset + 1 }
    | _ => s
  | .loaded i value =>
    match s.loads[i]? with
    | some ⟨p, .loading⟩ =>
      s.setLoad i ⟨p, .loading⟩ (match value with
        | some loaded => .offering loaded
        | none => .ending none)
    | _ => s
  | .offer i =>
    match s.loads[i]? with
    | some ⟨p, .offering loaded⟩ => s.offer hasSetIfAbsent i ⟨p, .offering loaded⟩ loaded
    | _ => s
  | .reread i =>
    match s.loads[i]? with
    | some ⟨p, .rereading loaded⟩ =>
      s.setLoad i ⟨p, .rereading loaded⟩ (.ending (some (s.base.getD loaded)))
    | _ => s
  | .release i =>
    match s.loads[i]? with
    | some ⟨p, .ending result⟩ =>
      -- the `finally` deletes by key, even if a later load has taken the entry over
      { s.setLoad i ⟨p, .ending result⟩ (.ended result) with
        pendingBaseLoads := Function.update s.pendingBaseLoads p none }
    | _ => s
  | .reset p =>
    { s with
      pendingBaseLoads := Function.update s.pendingBaseLoads p none
      resets := s.resets ++ [.loading] }
  | .resetLoaded i value =>
    match s.resets[i]? with
    | some .loading => { s with resets := s.resets.set i (match value with
        | some loaded => .writing loaded
        | none => .over) }
    | _ => s
  | .resetBase i =>
    match s.resets[i]? with
    | some (.writing loaded) =>
      { s with base := some loaded, resets := s.resets.set i .deleting }
    | _ => s
  | .resetOffset i =>
    match s.resets[i]? with
    | some .deleting => { s with offset := 0, resets := s.resets.set i .over }
    | _ => s

/-- A run. -/
def run (hasSetIfAbsent : Bool) (s : SequenceState P) (moves : List (Move P)) :
    SequenceState P :=
  moves.foldl (step hasSetIfAbsent) s

/-- The reservations whose counter step has happened, completed or in flight. -/
def reservations (s : SequenceState P) : List SequenceReservation :=
  s.calls.filterMap (·.phase.reservation?)

/-! ### What a move can do -/

/-- A move on a store with `setIfAbsent`: it is idle where nobody is at that point. -/
inductive Moved (s : SequenceState P) : Move P → SequenceState P → Prop
  | idle (m : Move P) : Moved s m s
  | reserve (p : P) : Moved s (.reserve p) { s with calls := s.calls ++ [⟨p, .reading⟩] }
  | read {i : Nat} {p : P} : s.calls[i]? = some ⟨p, .reading⟩ →
      Moved s (.read i) (s.setCall i ⟨p, .reading⟩ (.read s.base))
  | resume {i : Nat} {p : P} {existing : Option Int} : s.calls[i]? = some ⟨p, .read existing⟩ →
      Moved s (.resume i) (s.resume i ⟨p, .read existing⟩ existing)
  | joined {i load : Nat} {p q : P} {base : Int} : s.calls[i]? = some ⟨p, .waiting load⟩ →
      s.loads[load]? = some ⟨q, .ended (some base)⟩ →
      Moved s (.join i) (s.setCall i ⟨p, .waiting load⟩ (.counting base))
  | joinedThrown {i load : Nat} {p q : P} : s.calls[i]? = some ⟨p, .waiting load⟩ →
      s.loads[load]? = some ⟨q, .ended none⟩ →
      Moved s (.join i) (s.setCall i ⟨p, .waiting load⟩ .threw)
  | count {i : Nat} {p : P} {base : Int} : s.calls[i]? = some ⟨p, .counting base⟩ →
      Moved s (.count i)
        { s.setCall i ⟨p, .counting base⟩ (.reserved (reservation base (s.offset + 1))) with
          offset := s.offset + 1 }
  | loaded {i : Nat} {p : P} (value : Int) : s.loads[i]? = some ⟨p, .loading⟩ →
      Moved s (.loaded i (some value)) (s.setLoad i ⟨p, .loading⟩ (.offering value))
  | loadThrew {i : Nat} {p : P} : s.loads[i]? = some ⟨p, .loading⟩ →
      Moved s (.loaded i none) (s.setLoad i ⟨p, .loading⟩ (.ending none))
  | stored {i : Nat} {p : P} {loaded : Int} : s.loads[i]? = some ⟨p, .offering loaded⟩ →
      s.base = none → Moved s (.offer i)
        { s.setLoad i ⟨p, .offering loaded⟩ (.ending (some loaded)) with base := some loaded }
  | lost {i : Nat} {p : P} {loaded b : Int} : s.loads[i]? = some ⟨p, .offering loaded⟩ →
      s.base = some b →
      Moved s (.offer i) (s.setLoad i ⟨p, .offering loaded⟩ (.rereading loaded))
  | reread {i : Nat} {p : P} {loaded : Int} : s.loads[i]? = some ⟨p, .rereading loaded⟩ →
      Moved s (.reread i)
        (s.setLoad i ⟨p, .rereading loaded⟩ (.ending (some (s.base.getD loaded))))
  | release {i : Nat} {p : P} {result : Option Int} : s.loads[i]? = some ⟨p, .ending result⟩ →
      Moved s (.release i)
        { s.setLoad i ⟨p, .ending result⟩ (.ended result) with
          pendingBaseLoads := Function.update s.pendingBaseLoads p none }
  | reset (p : P) : Moved s (.reset p)
      { s with
        pendingBaseLoads := Function.update s.pendingBaseLoads p none
        resets := s.resets ++ [.loading] }
  | resetLoaded {i : Nat} (value : Option Int) (phase : ResetPhase) :
      s.resets[i]? = some .loading →
      Moved s (.resetLoaded i value) { s with resets := s.resets.set i phase }
  | resetBase {i : Nat} {loaded : Int} : s.resets[i]? = some (.writing loaded) →
      Moved s (.resetBase i) { s with base := some loaded, resets := s.resets.set i .deleting }
  | resetOffset {i : Nat} : s.resets[i]? = some .deleting →
      Moved s (.resetOffset i) { s with offset := 0, resets := s.resets.set i .over }

theorem step_moved (s : SequenceState P) (m : Move P) : s.Moved m (s.step true m) := by
  -- where a guard does not let a move through, it is idle
  cases m with
  | reserve p => exact .reserve p
  | reset p => exact .reset p
  | join i =>
      simp only [step]
      split
      · split
        · exact .joined ‹_› ‹_›
        · exact .joinedThrown ‹_› ‹_›
        · exact .idle _
      · exact .idle _
  | loaded i value =>
      simp only [step]
      split
      · cases value with
        | some value => exact .loaded value ‹_›
        | none => exact .loadThrew ‹_›
      · exact .idle _
  | offer i =>
      simp only [step, offer, if_true]
      split
      · split
        · exact .stored ‹_› ‹_›
        · exact .lost ‹_› ‹_›
      · exact .idle _
  | read i =>
      simp only [step]
      split
      · exact .read ‹_›
      · exact .idle _
  | resume i =>
      simp only [step]
      split
      · exact .resume ‹_›
      · exact .idle _
  | count i =>
      simp only [step]
      split
      · exact .count ‹_›
      · exact .idle _
  | reread i =>
      simp only [step]
      split
      · exact .reread ‹_›
      · exact .idle _
  | release i =>
      simp only [step]
      split
      · exact .release ‹_›
      · exact .idle _
  | resetLoaded i value =>
      simp only [step]
      split
      · exact .resetLoaded value _ ‹_›
      · exact .idle _
  | resetBase i =>
      simp only [step]
      split
      · exact .resetBase ‹_›
      · exact .idle _
  | resetOffset i =>
      simp only [step]
      split
      · exact .resetOffset ‹_›
      · exact .idle _

/-! ### What the moves preserve -/

/-- What a call in flight knows of the stored base. -/
def CallOk (base : Option Int) : CallPhase → Prop
  | .read (some existing) => base = some existing
  | .counting b => base = some b
  | .reserved r => base = some r.baseSequence ∧ r = reservation r.baseSequence r.offset
  | _ => True

/-- What a load in flight knows of the stored base. -/
def LoadOk (base : Option Int) : LoadPhase → Prop
  | .rereading _ => base ≠ none
  | .ending (some b) => base = some b
  | .ended (some b) => base = some b
  | _ => True

omit [DecidableEq P] in
/-- The invariant of runs without a reset that start at offset `k`: everybody who has a
base has the stored one, and the counter has handed out the offsets above `k` one by
one. -/
structure Inv (k : Nat) (s : SequenceState P) : Prop where
  calls : ∀ c ∈ s.calls, CallOk s.base c.phase
  loads : ∀ l ∈ s.loads, LoadOk s.base l.phase
  offsets : ∃ n, s.offset = k + n ∧
    (s.reservations.map (·.offset)).Perm (List.range' (k + 1) n)

theorem CallOk.stored {loaded : Int} {phase : CallPhase} (h : CallOk none phase) :
    CallOk (some loaded) phase := by
  unfold CallOk at h ⊢
  split
  · cases h
  · cases h
  · cases h.1
  · trivial

theorem LoadOk.stored {loaded : Int} {phase : LoadPhase} (h : LoadOk none phase) :
    LoadOk (some loaded) phase := by
  unfold LoadOk at h ⊢
  split
  · exact absurd rfl h
  · cases h
  · cases h
  · trivial

/-- Replacing an element without an image adds the image of the new one. -/
theorem filterMap_set_perm {α β : Type} {f : α → Option β} {a : α} (b : α) (ha : f a = none) :
    ∀ {l : List α} {i : Nat}, l[i]? = some a →
      ((l.set i b).filterMap f).Perm ((f b).toList ++ l.filterMap f) := by
  intro l
  induction l with
  | nil => intro i hi; simp at hi
  | cons x xs ih =>
      intro i hi
      cases i with
      | zero =>
          obtain rfl : x = a := by simpa using hi
          cases hb : f b with
          | none => simp [hb, ha]
          | some y => simp [hb, ha]
      | succ i =>
          have htail := ih (i := i) (by simpa using hi)
          cases hx : f x with
          | none => simpa [hx] using htail
          | some y =>
              simp only [List.set_cons_succ, List.filterMap_cons, hx]
              exact (htail.cons y).trans List.perm_middle.symm

section Preservation

variable {k : Nat} {s : SequenceState P}

omit [DecidableEq P]

theorem reservations_setCall {i : Nat} {c : Call P} (hi : s.calls[i]? = some c)
    (hc : c.phase.reservation? = none) (phase : CallPhase) :
    (s.setCall i c phase).reservations.Perm (phase.reservation?.toList ++ s.reservations) :=
  filterMap_set_perm (f := fun c : Call P => c.phase.reservation?) { c with phase := phase }
    hc hi

/-- A call that gets no number by its move. -/
theorem Inv.setCall (h : Inv k s) {i : Nat} {c : Call P} (hi : s.calls[i]? = some c)
    (hc : c.phase.reservation? = none) {phase : CallPhase} (hok : CallOk s.base phase)
    (hnone : phase.reservation? = none) : Inv k (s.setCall i c phase) where
  calls c' hc' := by
    rcases List.mem_or_eq_of_mem_set hc' with hmem | rfl
    · exact h.calls c' hmem
    · exact hok
  loads := h.loads
  offsets := by
    obtain ⟨n, hn, hperm⟩ := h.offsets
    have hres := reservations_setCall hi hc phase
    rw [hnone] at hres
    exact ⟨n, hn, (hres.map _).trans hperm⟩

/-- A load that does not touch the store by its move. -/
theorem Inv.setLoad (h : Inv k s) {i : Nat} {l : Load P} {phase : LoadPhase}
    (hok : LoadOk s.base phase) : Inv k (s.setLoad i l phase) where
  calls := h.calls
  loads l' hl' := by
    rcases List.mem_or_eq_of_mem_set hl' with hmem | rfl
    · exact h.loads l' hmem
    · exact hok
  offsets := h.offsets

/-- The counter step: the next offset is handed out. -/
theorem Inv.count (h : Inv k s) {i : Nat} {p : P} {base : Int}
    (hi : s.calls[i]? = some ⟨p, .counting base⟩) :
    Inv k { s.setCall i ⟨p, .counting base⟩ (.reserved (reservation base (s.offset + 1))) with
      offset := s.offset + 1 } where
  calls c' hc' := by
    rcases List.mem_or_eq_of_mem_set hc' with hmem | rfl
    · exact h.calls c' hmem
    · exact ⟨h.calls _ (List.mem_of_getElem? hi), rfl⟩
  loads := h.loads
  offsets := by
    obtain ⟨n, hn, hperm⟩ := h.offsets
    refine ⟨n + 1, by simp only [hn, Nat.add_assoc], ?_⟩
    have hres := (reservations_setCall hi rfl
      (.reserved (reservation base (s.offset + 1)))).map (·.offset)
    refine hres.trans ?_
    have hlast : k + 1 + n = s.offset + 1 := by omega
    rw [List.range'_1_concat, hlast]
    exact (hperm.cons _).trans (List.perm_append_singleton _ _).symm

/-- The first base to reach the store. -/
theorem Inv.store (h : Inv k s) (hbase : s.base = none) {i : Nat} {l : Load P} (loaded : Int) :
    Inv k { s.setLoad i l (.ending (some loaded)) with base := some loaded } where
  calls c' hc' := (hbase ▸ h.calls c' hc' : CallOk none c'.phase).stored
  loads l' hl' := by
    rcases List.mem_or_eq_of_mem_set hl' with hmem | rfl
    · exact (hbase ▸ h.loads l' hmem : LoadOk none l'.phase).stored
    · exact rfl
  offsets := h.offsets

end Preservation

section Runs

variable {k : Nat} {s : SequenceState P}

theorem Inv.resume (h : Inv k s) {i : Nat} {p : P} {existing : Option Int}
    (hi : s.calls[i]? = some ⟨p, .read existing⟩) :
    Inv k (s.resume i ⟨p, .read existing⟩ existing) := by
  cases existing with
  | some b => exact h.setCall hi rfl (h.calls _ (List.mem_of_getElem? hi)) rfl
  | none =>
      simp only [SequenceState.resume]
      split
      · exact h.setCall hi rfl trivial rfl
      · have hcall : Inv k (s.setCall i ⟨p, .read none⟩ (.waiting s.loads.length)) :=
          h.setCall hi rfl trivial rfl
        refine ⟨hcall.calls, fun l hl => ?_, hcall.offsets⟩
        rcases List.mem_append.mp hl with hmem | hnew
        · exact h.loads l hmem
        · rw [List.mem_singleton.mp hnew]
          trivial

theorem Inv.moved {m : Move P} {s' : SequenceState P} (h : Inv k s) (hm : m.isReset = false)
    (hmoved : s.Moved m s') : Inv k s' := by
  cases hmoved with
  | idle => exact h
  | reserve p =>
      refine ⟨fun c hc => ?_, h.loads, ?_⟩
      · rcases List.mem_append.mp hc with hmem | hnew
        · exact h.calls c hmem
        · rw [List.mem_singleton.mp hnew]
          trivial
      · obtain ⟨n, hn, hperm⟩ := h.offsets
        refine ⟨n, hn, ?_⟩
        simpa [reservations, CallPhase.reservation?] using hperm
  | read hi =>
      refine h.setCall hi rfl ?_ rfl
      cases hbase : s.base with
      | none => trivial
      | some b => exact rfl
  | resume hi => exact h.resume hi
  | joined hi hl => exact h.setCall hi rfl (h.loads _ (List.mem_of_getElem? hl)) rfl
  | joinedThrown hi hl => exact h.setCall hi rfl trivial rfl
  | count hi => exact h.count hi
  | loaded value hi => exact h.setLoad trivial
  | loadThrew hi => exact h.setLoad trivial
  | stored hi hcold => exact h.store hcold _
  | lost hi hbase => exact h.setLoad (by simp [LoadOk, hbase])
  | reread hi =>
      -- the store already held a base when this load lost its race
      have hbase : s.base ≠ none := h.loads _ (List.mem_of_getElem? hi)
      obtain ⟨b, hb⟩ := Option.ne_none_iff_exists'.mp hbase
      exact h.setLoad (by simp [LoadOk, hb])
  | @release i p result hi =>
      have hok : LoadOk s.base (.ended result) := by
        cases result with
        | none => trivial
        | some b => exact h.loads _ (List.mem_of_getElem? hi)
      have hended := h.setLoad (i := i) (l := ⟨p, .ending result⟩) hok
      exact ⟨hended.calls, hended.loads, hended.offsets⟩
  | reset p => cases hm
  | resetLoaded value phase hi => cases hm
  | resetBase hi => cases hm
  | resetOffset hi => cases hm

/-- **One move keeps the invariant**, as long as it is no reset. -/
theorem Inv.step (h : Inv k s) (m : Move P) (hm : m.isReset = false) :
    Inv k (s.step true m) := h.moved hm (step_moved s m)

theorem resume_base (i : Nat) (c : Call P) (existing : Option Int) :
    (s.resume i c existing).base = s.base := by
  unfold SequenceState.resume
  repeat' split
  all_goals rfl

/-- A base that is stored stays. -/
theorem moved_base {b : Int} {m : Move P} {s' : SequenceState P} (hb : s.base = some b)
    (hm : m.isReset = false) (hmoved : s.Moved m s') : s'.base = some b := by
  cases hmoved with
  | resume hi => exact (resume_base ..).trans hb
  | stored hi hcold => cases hcold.symm.trans hb
  | resetBase hi => cases hm
  | _ => exact hb

theorem step_base {b : Int} (hb : s.base = some b) (m : Move P) (hm : m.isReset = false) :
    (s.step true m).base = some b := moved_base hb hm (step_moved s m)

/-- What every move but a reset keeps, a run without resets keeps. -/
theorem run_keeps {K : SequenceState P → Prop}
    (hstep : ∀ {s : SequenceState P} (m : Move P), K s → m.isReset = false → K (s.step true m))
    (moves : List (Move P)) (hmoves : ∀ m ∈ moves, m.isReset = false) :
    ∀ {s : SequenceState P}, K s → K (s.run true moves) := by
  induction moves with
  | nil => intro s h; exact h
  | cons m rest ih =>
      intro s h
      exact ih (fun m' hm' => hmoves m' (List.mem_cons_of_mem _ hm'))
        (hstep m h (hmoves m List.mem_cons_self))

theorem run_inv (moves : List (Move P)) (hmoves : ∀ m ∈ moves, m.isReset = false)
    {s : SequenceState P} (h : Inv k s) : Inv k (s.run true moves) :=
  run_keeps (fun m h hm => h.step m hm) moves hmoves h

theorem run_base (moves : List (Move P)) (hmoves : ∀ m ∈ moves, m.isReset = false) {b : Int}
    {s : SequenceState P} (h : s.base = some b) : (s.run true moves).base = some b :=
  run_keeps (K := fun s => s.base = some b) (fun m h hm => step_base h m hm) moves hmoves h

omit [DecidableEq P] in
theorem start_inv (base : Option Int) : Inv k (start base k : SequenceState P) :=
  ⟨by simp [start], by simp [start], 0, rfl, by simp [start, reservations]⟩

end Runs

omit [DecidableEq P] in
/-- A call that was given a number was given it on the stored base. -/
theorem Inv.reservation_eq {k : Nat} {s : SequenceState P} (h : Inv k s)
    {r : SequenceReservation} (hr : r ∈ s.reservations) :
    s.base = some r.baseSequence ∧ r.transactionSequence = r.baseSequence + r.offset := by
  obtain ⟨c, hc, hphase⟩ := List.mem_filterMap.mp hr
  have hok := h.calls c hc
  cases hcp : c.phase with
  | reserved r' =>
      obtain rfl : r' = r := by simpa [hcp, CallPhase.reservation?] using hphase
      rw [hcp] at hok
      refine ⟨hok.1, ?_⟩
      rw [hok.2]
      simp only [reservation]
      omega
  | _ => simp [hcp, CallPhase.reservation?] at hphase

/-- **Reservations are distinct and gapless.** For any number of processes over one
store, any interleaving of any number of `reserveSequence` calls without a reset, and
whatever the loads of the base return or throw: all reservations use one base, the
stored one, and the sequence numbers of their transactions are the numbers after
`base + k`, each exactly once. -/
theorem reservations_distinct_gapless (base : Option Int) (k : Nat)
    (moves : List (Move P)) (hmoves : ∀ m ∈ moves, m.isReset = false) :
    ∃ B, (∀ b, base = some b → B = b) ∧
      (∀ r ∈ ((start base k).run true moves).reservations, r.baseSequence = B) ∧
      (((start base k).run true moves).reservations.map (·.transactionSequence)).Nodup ∧
      ((start base k).run true moves).offset =
        k + ((start base k).run true moves).reservations.length ∧
      (((start base k).run true moves).reservations.map (·.transactionSequence)).Perm
        ((List.range ((start base k).run true moves).reservations.length).map
          fun i : Nat => B + k + 1 + i) := by
  have hinv : Inv k ((start base k).run true moves) := run_inv moves hmoves (start_inv base)
  have hkeep : ∀ b, base = some b → ((start base k).run true moves).base = some b :=
    fun b hb => run_base moves hmoves (s := start base k) hb
  generalize (start base k).run true moves = s at hinv hkeep ⊢
  obtain ⟨n, hoffset, hperm⟩ := hinv.offsets
  have hlen : s.reservations.length = n := by simpa using hperm.length_eq
  -- the numbers of the transactions are the offsets, shifted by the common base
  have hnumbers : s.reservations.map (·.transactionSequence) =
      (s.reservations.map (·.offset)).map fun o : Nat => s.base.getD 0 + o := by
    rw [List.map_map]
    refine List.map_congr_left fun r hr => ?_
    obtain ⟨hbase, hnumber⟩ := hinv.reservation_eq hr
    simp only [Function.comp_apply, hbase, Option.getD_some, hnumber]
  have hrange : (s.reservations.map (·.transactionSequence)).Perm
      ((List.range n).map fun i : Nat => s.base.getD 0 + k + 1 + i) := by
    rw [hnumbers]
    refine (hperm.map _).trans (List.Perm.of_eq ?_)
    rw [List.range'_eq_map_range, List.map_map]
    refine List.map_congr_left fun i _ => ?_
    simp only [Function.comp_apply]
    push_cast
    omega
  refine ⟨s.base.getD 0, fun b hb => by rw [hkeep b hb]; rfl, fun r hr => ?_, ?_,
    by rw [hlen, hoffset], by rw [hlen]; exact hrange⟩
  · rw [(hinv.reservation_eq hr).1]
    rfl
  · rw [hrange.nodup_iff]
    refine List.Nodup.map (fun i j heq => ?_) List.nodup_range
    omega

/-- A cold start: two callers of process `0` and one of process `1` all find the base
missing, the two loads return different values, and process `1` wins. -/
def coldStart : List (Move Nat) :=
  [.reserve 0, .reserve 1, .reserve 0, .read 0, .read 1, .read 2, .resume 0, .resume 1,
    .resume 2, .loaded 0 (some 100), .loaded 1 (some 101), .offer 1, .offer 0, .reread 0,
    .release 0, .release 1, .join 0, .join 1, .join 2, .count 2, .count 0, .count 1]

theorem coldStart_distinct :
    ((start none 0).run true coldStart).reservations.map (·.transactionSequence) =
        [103, 104, 102] ∧
      (((start none 0).run true coldStart).reservations.map (·.transactionSequence)).Nodup := by
  refine ⟨by decide, ?_⟩
  obtain ⟨B, -, -, hnodup, -⟩ := reservations_distinct_gapless none 0 coldStart (by decide)
  exact hnodup

end SequenceState

end BrandBlitz.Stellar

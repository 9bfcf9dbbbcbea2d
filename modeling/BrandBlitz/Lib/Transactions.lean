import Mathlib.Logic.Function.Basic

/-!
# BrandBlitz.Lib.Transactions

**Transactions with row locks**, at the isolation level READ COMMITTED.

* A connection with an open transaction collects its writes. Its statements see what is
  committed at that moment, with its own writes on top (`view`); nobody else sees them.
* Committing applies the writes at once, aborting drops them. Either way the connection's row
  locks end.
* A row lock has at most one holder. Who may take a lock is for the user of this module to
  say: `lock` does not ask.
-/

namespace BrandBlitz.Lib

/-- A store of type `D`, with writes of type `Ω` and locks on rows of type `R`. -/
structure TxStore (D Ω R : Type) where
  committed : D
  /-- the writes of a connection with an open transaction -/
  writes : Nat → Option (List Ω)
  /-- the connection that has locked a row -/
  holder : R → Option Nat

namespace TxStore

variable {D Ω R : Type} [DecidableEq R]

/-- A store nobody is working on. -/
def idle (committed : D) : TxStore D Ω R := ⟨committed, fun _ => none, fun _ => none⟩

/-- What the statements of a connection see. -/
def view (apply : D → Ω → D) (store : TxStore D Ω R) (i : Nat) : D :=
  ((store.writes i).getD []).foldl apply store.committed

def start (store : TxStore D Ω R) (i : Nat) : TxStore D Ω R :=
  { store with writes := Function.update store.writes i (some []) }

def write (store : TxStore D Ω R) (i : Nat) (ws : List Ω) : TxStore D Ω R :=
  { store with writes := Function.update store.writes i ((store.writes i).map (· ++ ws)) }

def lock (store : TxStore D Ω R) (i : Nat) (r : R) : TxStore D Ω R :=
  { store with holder := Function.update store.holder r (some i) }

/-- The end of a transaction, with what is committed then. -/
def finish (store : TxStore D Ω R) (i : Nat) (committed : D) : TxStore D Ω R where
  committed := committed
  writes := Function.update store.writes i none
  holder r := (store.holder r).filter (· ≠ i)

def commit (apply : D → Ω → D) (store : TxStore D Ω R) (i : Nat) : TxStore D Ω R :=
  store.finish i (store.view apply i)

def abort (store : TxStore D Ω R) (i : Nat) : TxStore D Ω R := store.finish i store.committed

section
variable (store : TxStore D Ω R) (i j : Nat) (r r' : R) (ws : List Ω) (d : D)

omit [DecidableEq R]

@[simp] theorem start_committed : (store.start i).committed = store.committed := rfl
@[simp] theorem start_holder : (store.start i).holder = store.holder := rfl
@[simp] theorem start_writes_self : (store.start i).writes i = some [] := by simp [start]
@[simp] theorem write_committed : (store.write i ws).committed = store.committed := rfl
@[simp] theorem write_holder : (store.write i ws).holder = store.holder := rfl
@[simp] theorem write_writes_self :
    (store.write i ws).writes i = (store.writes i).map (· ++ ws) := by simp [write]

theorem write_nil : store.write i [] = store := by
  have hsame : (store.writes i).map (· ++ ([] : List Ω)) = store.writes i := by simp
  rw [write, hsame, Function.update_eq_self]

@[simp] theorem finish_committed : (store.finish i d).committed = d := rfl
@[simp] theorem finish_writes_self : (store.finish i d).writes i = none := by simp [finish]

variable {i j}

theorem start_writes_of_ne (h : j ≠ i) : (store.start i).writes j = store.writes j := by
  simp [start, h]

theorem write_writes_of_ne (h : j ≠ i) : (store.write i ws).writes j = store.writes j := by
  simp [write, h]

theorem finish_writes_of_ne (h : j ≠ i) : (store.finish i d).writes j = store.writes j := by
  simp [finish, h]

/-- The end of a transaction ends its own locks and no others. -/
theorem finish_holder_eq_some_iff :
    (store.finish i d).holder r = some j ↔ store.holder r = some j ∧ j ≠ i := by
  simp [finish, Option.filter_eq_some_iff]

end

section
variable (store : TxStore D Ω R) (i : Nat) (r r' : R)

@[simp] theorem lock_committed : (store.lock i r).committed = store.committed := rfl
@[simp] theorem lock_writes : (store.lock i r).writes = store.writes := rfl
@[simp] theorem lock_holder_self : (store.lock i r).holder r = some i := by simp [lock]

theorem lock_of_holder {i : Nat} {r : R} (h : store.holder r = some i) :
    store.lock i r = store := by
  rw [lock, ← h, Function.update_eq_self]

theorem lock_holder_of_ne {r' : R} (h : r' ≠ r) :
    (store.lock i r).holder r' = store.holder r' := by simp [lock, h]

end

/-! ### Writes in flight -/

omit [DecidableEq R]

section
variable (store : TxStore D Ω R) {i j : Nat} {ω : Ω} {ws news : List Ω} {d : D}

/-- Is this among the uncommitted writes of connection `i`? -/
def Pending (i : Nat) (ω : Ω) : Prop := ∃ ws, store.writes i = some ws ∧ ω ∈ ws

/-- What a commit or an abort would go through. -/
theorem mem_getD_writes : ω ∈ (store.writes i).getD [] ↔ store.Pending i ω := by
  cases hwrites : store.writes i with
  | none => simp [Pending, hwrites]
  | some ws => simp [Pending, hwrites]

theorem pending_finish : (store.finish i d).Pending j ω ↔ j ≠ i ∧ store.Pending j ω := by
  by_cases hj : j = i
  · subst hj
    simp [Pending]
  · simp [Pending, finish_writes_of_ne _ _ hj, hj]

/-- A transaction that begins has written nothing. -/
theorem pending_start : (store.start i).Pending j ω ↔ j ≠ i ∧ store.Pending j ω := by
  by_cases hj : j = i
  · subst hj
    simp [Pending]
  · simp [Pending, start_writes_of_ne _ hj, hj]

theorem pending_write (hws : store.writes i = some ws) :
    (store.write i news).Pending j ω ↔ store.Pending j ω ∨ j = i ∧ ω ∈ news := by
  by_cases hj : j = i
  · subst hj
    simp [Pending, hws]
  · simp [Pending, write_writes_of_ne _ _ hj, hj]

end

/-! ### What other connections leave alone -/

/-- The writes and the locks of connection `i` are as they were. -/
structure Alone (i : Nat) (store store' : TxStore D Ω R) : Prop where
  writes : store'.writes i = store.writes i
  holder : ∀ r, store'.holder r = some i ↔ store.holder r = some i

section
variable {store store' store'' : TxStore D Ω R} {i j : Nat} {r : R} {ws : List Ω} {d : D}

theorem Alone.refl : Alone i store store := ⟨rfl, fun _ => Iff.rfl⟩

theorem Alone.trans (h : Alone i store store') (h' : Alone i store' store'') :
    Alone i store store'' :=
  ⟨h'.writes.trans h.writes, fun r => (h'.holder r).trans (h.holder r)⟩

theorem alone_finish (hne : i ≠ j) : Alone i store (store.finish j d) :=
  ⟨finish_writes_of_ne _ _ hne, fun _ => by
    rw [finish_holder_eq_some_iff]
    exact and_iff_left hne⟩

theorem alone_start (hne : i ≠ j) : Alone i store (store.start j) :=
  ⟨start_writes_of_ne _ hne, fun _ => Iff.rfl⟩

theorem alone_write (hne : i ≠ j) : Alone i store (store.write j ws) :=
  ⟨write_writes_of_ne _ _ hne, fun _ => Iff.rfl⟩

variable [DecidableEq R]

/-- Locking a row that nobody else has locked. -/
theorem alone_lock (hne : i ≠ j) (hfree : (store.holder r).filter (· ≠ j) = none) :
    Alone i store (store.lock j r) := by
  refine ⟨rfl, fun r' => ?_⟩
  by_cases hr : r' = r
  · subst hr
    rw [lock_holder_self]
    refine iff_of_false (fun h => hne (Option.some.inj h).symm) fun h => ?_
    rw [h, Option.filter_some, if_pos (by simpa using hne)] at hfree
    cases hfree
  · rw [lock_holder_of_ne _ _ _ hr]

/-- Nobody loses a lock to a connection that locks what is free. -/
theorem lock_holder_of_holder {r' : R} (hfree : (store.holder r).filter (· ≠ i) = none)
    (h : store.holder r' = some j) : (store.lock i r).holder r' = some j := by
  by_cases hr : r' = r
  · subst hr
    have hj : j = i := by simpa [h] using hfree
    rw [hj]
    exact lock_holder_self _ _ _
  · exact (lock_holder_of_ne _ _ _ hr).trans h

end

end TxStore

end BrandBlitz.Lib

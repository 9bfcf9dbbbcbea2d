import BrandBlitz.Lib.ExpiringKeys

/-!
# BrandBlitz.Lib.ExpiringLock

**A lock that is an expiring key**, and nothing more: `SET key 1 EX ttl NX` takes it, `DEL key`
gives it back. The key runs out although its holder goes on, and `DEL` asks nobody whose key it
deletes.

So what the lock is worth depends on its users. `Sound` says that every deletion so far was the
holder's, and that whoever is still going to delete the key holds it if it is there. Giving
back keeps it; taking keeps it if everybody who took the lock before has given it back.
-/

namespace BrandBlitz.Lib

/-- A lock. All but the key is there to state properties. -/
structure ExpiringLock where
  key : ExpiringKeys Unit
  /-- who stored the key last -/
  holder : Option Nat
  /-- who stored the key, and has yet to delete it -/
  running : List Nat
  /-- who deleted the key when it was there, and who had stored it -/
  deletions : List (Nat × Option Nat)

namespace ExpiringLock

/-- `SET key 1 EX ttl NX`, by `i`. -/
def acquire (l : ExpiringLock) (now ttl i : Nat) : Bool × ExpiringLock :=
  let (stored, key) := l.key.setNX now ttl ()
  (stored,
    if stored then { l with key := key, holder := some i, running := i :: l.running } else l)

/-- `i` is not going to delete the key any more. -/
def forget (l : ExpiringLock) (i : Nat) : ExpiringLock :=
  { l with running := l.running.filter (· ≠ i) }

/-- `DEL key`, by `i`. -/
def release (l : ExpiringLock) (now i : Nat) : ExpiringLock :=
  { l.forget i with
    key := ExpiringKeys.delete l.key ()
    deletions := if l.key.holds now () then l.deletions ++ [(i, l.holder)] else l.deletions }

/-- The lock of which nobody has taken anything yet. -/
def free : ExpiringLock := ⟨fun _ => none, none, [], []⟩

structure Sound (l : ExpiringLock) (now : Nat) : Prop where
  holder : ∀ i ∈ l.running, l.key.holds now () = true → l.holder = some i
  deletions : ∀ d ∈ l.deletions, d.2 = some d.1

variable {l : ExpiringLock} {now ttl i j : Nat}

/-- A lock that nobody has used. -/
theorem sound_of_unused (hrunning : l.running = []) (hdeletions : l.deletions = []) :
    l.Sound now where
  holder _ h := by
    rw [hrunning] at h
    cases h
  deletions _ h := by
    rw [hdeletions] at h
    cases h

theorem acquire_of_holds (h : l.key.holds now () = true) : l.acquire now ttl i = (false, l) := by
  simp [acquire, ExpiringKeys.setNX_of_holds h]

theorem acquire_of_not_holds (h : l.key.holds now () = false) : l.acquire now ttl i =
    (true, { l with
      key := l.key.store now ttl ()
      holder := some i
      running := i :: l.running }) := by
  simp [acquire, ExpiringKeys.setNX_of_not_holds h]

/-- Time alone harms nothing: the key may run out. -/
theorem Sound.later (h : l.Sound now) {now' : Nat} (hle : now ≤ now') : l.Sound now' where
  holder i hi hkey := h.holder i hi (ExpiringKeys.holds_earlier hkey hle)
  deletions := h.deletions

theorem Sound.forget (h : l.Sound now) (i : Nat) : (l.forget i).Sound now where
  holder j hj hkey := h.holder j (List.mem_filter.mp hj).1 hkey
  deletions := h.deletions

/-- Taking the lock, when whoever took it before has given it back. -/
theorem Sound.acquire (h : l.Sound now) (hfree : (l.acquire now ttl i).1 = true → l.running = []) :
    (l.acquire now ttl i).2.Sound now := by
  cases hkey : l.key.holds now () with
  | true =>
      rw [acquire_of_holds hkey]
      exact h
  | false =>
      rw [acquire_of_not_holds hkey] at hfree ⊢
      refine ⟨fun j hj _ => ?_, h.deletions⟩
      simp only [hfree rfl, List.mem_singleton] at hj
      rw [hj]

/-- Giving it back, by somebody who took it. -/
theorem Sound.release (h : l.Sound now) (hi : i ∈ l.running) : (l.release now i).Sound now where
  holder j _ hkey := by
    rw [show (l.release now i).key = ExpiringKeys.delete l.key () from rfl,
      ExpiringKeys.not_holds_delete] at hkey
    cases hkey
  deletions d hd := by
    simp only [ExpiringLock.release] at hd
    split at hd
    · rename_i hkey
      rcases List.mem_append.mp hd with hd | hd
      · exact h.deletions d hd
      · rw [List.mem_singleton.mp hd]
        exact h.holder i hi hkey
    · exact h.deletions d hd

/-- What the others do with the lock does not end anybody's turn. -/
theorem mem_running_acquire (h : i ∈ l.running) : i ∈ (l.acquire now ttl j).2.running := by
  cases hkey : l.key.holds now () with
  | true => rwa [acquire_of_holds hkey]
  | false =>
      rw [acquire_of_not_holds hkey]
      exact List.mem_cons_of_mem _ h

theorem mem_running_forget (h : i ∈ l.running) (hne : i ≠ j) : i ∈ (l.forget j).running :=
  List.mem_filter.mpr ⟨h, by simpa using hne⟩

theorem mem_running_release (h : i ∈ l.running) (hne : i ≠ j) :
    i ∈ (l.release now j).running := mem_running_forget h hne

/-- Who took the lock has to give it back. -/
theorem mem_running_of_acquire (h : (l.acquire now ttl i).1 = true) :
    i ∈ (l.acquire now ttl i).2.running := by
  cases hkey : l.key.holds now () with
  | true =>
      rw [acquire_of_holds hkey] at h
      cases h
  | false =>
      rw [acquire_of_not_holds hkey]
      exact List.mem_cons_self

end ExpiringLock

end BrandBlitz.Lib

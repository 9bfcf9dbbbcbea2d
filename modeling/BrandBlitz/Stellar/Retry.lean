import BrandBlitz.Lib.Attempts
import BrandBlitz.Stellar.Client

/-!
# BrandBlitz.Stellar.Retry

**When `withRetry` stops** (`packages/stellar/src/client.ts`).

What is retried is here one awaited operation, and the world counts its calls. Whatever the calls
come to, the last one is the first that succeeds or fails with an error that is not worth another
attempt, or the last there may be (`withRetry_run`).
-/

namespace BrandBlitz.Stellar

open BrandBlitz.Lib

variable {α : Type}

/-! ### Calls of a function -/

/-- A function without arguments that is awaited. -/
abbrev fnSig (α : Type) : Sig where
  Op := Unit
  Ans _ := α

/-- The environment gives the outcomes, the world counts the calls. -/
def fnMachine : Machine (fnSig α) Err Nat (Except Err α) where
  exec outcome _ calls := (outcome, calls + 1)

/-- An outcome after which there is no other call: a value, or an error that is not worth another
attempt. -/
def Ends (codes : List Nat) (outcome : Except Err α) : Prop :=
  (∃ a, outcome = .ok a) ∨ ∃ err, outcome = .error err ∧ isRetryableError err codes = false

/-- What is returned or thrown if the `k`-th call is the last. -/
def finalOutcome (maxAttempts k : Nat) (outcomes : Nat → Except Err α) : Except Err α :=
  match outcomes (k - 1) with
  | .ok a => .ok a
  | .error err => .error (if k = maxAttempts then { err with retryExhausted := true } else err)

/-! ### One call -/

section
variable {codes : List Nat} {left calls k : Nat} {outcomes : Nat → Except Err α}

theorem finalOutcome_succ (hk : 1 ≤ k) :
    finalOutcome (left + 1) k (fun n => outcomes (n + 1)) =
      finalOutcome (left + 2) (k + 1) outcomes := by
  obtain ⟨n, rfl⟩ := Nat.exists_eq_add_of_le' hk
  simp [finalOutcome]

/-- The first call, when more may follow. -/
theorem run_withRetry_succ :
    (withRetry (Prog.call ()) codes (left + 2)).run fnMachine outcomes calls =
      match outcomes 0 with
      | .ok a => (.ok a, calls + 1)
      | .error err =>
        if isRetryableError err codes then
          (withRetry (Prog.call ()) codes (left + 1)).run fnMachine (fun n => outcomes (n + 1))
            (calls + 1)
        else (.error err, calls + 1) := by
  show (((Prog.ofExcept (outcomes 0)).tryCatch _).run _ _ _ : Except Err α × Nat) = _
  cases outcomes 0 with
  | ok a => rfl
  | error err =>
      show (if isRetryableError err codes then _ else _ : Prog (fnSig α) Err α).run _ _ _ =
        if isRetryableError err codes then _ else _
      split
      · rfl
      · rfl

end

/-! ### All calls -/

theorem run_withRetry (codes : List Nat) (left : Nat) :
    ∀ (outcomes : Nat → Except Err α) (calls : Nat), ∃ k,
      IsLeast (lastAttempts (left + 1) fun n => Ends codes (outcomes n)) k ∧
      (withRetry (Prog.call ()) codes (left + 1)).run fnMachine outcomes calls =
        (finalOutcome (left + 1) k outcomes, calls + k) := by
  induction left with
  | zero =>
      intro outcomes calls
      refine ⟨1, isLeast_lastAttempts_one (.inl rfl), ?_⟩
      show (((Prog.ofExcept (outcomes 0)).tryCatch _).run _ _ _ : Except Err α × Nat) = _
      unfold finalOutcome
      cases outcomes (1 - 1) with
      | ok a => rfl
      | error err => rfl
  | succ left ih =>
      intro outcomes calls
      rw [run_withRetry_succ]
      cases h : outcomes 0 with
      | ok a =>
          refine ⟨1, isLeast_lastAttempts_one (.inr (.inl ⟨a, h⟩)), ?_⟩
          simp [finalOutcome, h]
      | error err =>
          cases hretry : isRetryableError err codes with
          | false =>
              refine ⟨1, isLeast_lastAttempts_one (.inr (.inr ⟨err, h, hretry⟩)), ?_⟩
              simp [finalOutcome, h, hretry]
          | true =>
              have hfirst : ¬Ends codes (outcomes 0) := by simp [Ends, h, hretry]
              obtain ⟨k, hleast, hrun⟩ := ih (fun n => outcomes (n + 1)) (calls + 1)
              refine ⟨k + 1, isLeast_lastAttempts_succ hfirst hleast, ?_⟩
              simp only [hretry, if_true, hrun,
                finalOutcome_succ (pos_of_mem_lastAttempts hleast.1)]
              rw [Nat.add_assoc, Nat.add_comm 1 k]

/-- **`withRetry` stops at the right moment**: with the first call that succeeds or fails with an
error that is not worth another attempt, and with the last one at the latest, whose error it
marks. -/
theorem withRetry_stops (codes : List Nat) {maxAttempts : Nat} (h : 1 ≤ maxAttempts)
    (outcomes : Nat → Except Err α) :
    ∃ k, IsLeast ({maxAttempts} ∪ {k | 1 ≤ k ∧ ∃ a, outcomes (k - 1) = .ok a} ∪
        {k | 1 ≤ k ∧ ∃ err, outcomes (k - 1) = .error err ∧
          isRetryableError err codes = false}) k ∧
      ((withRetry (Prog.call ()) codes maxAttempts).run fnMachine outcomes 0).2 = k ∧
      ((withRetry (Prog.call ()) codes maxAttempts).run fnMachine outcomes 0).1 =
        match outcomes (k - 1) with
        | .ok a => .ok a
        | .error err =>
          .error (if k = maxAttempts then { err with retryExhausted := true } else err) := by
  obtain ⟨left, rfl⟩ := Nat.exists_eq_add_of_le' h
  obtain ⟨k, hleast, hrun⟩ := run_withRetry codes left outcomes 0
  refine ⟨k, ?_, ?_, ?_⟩
  · rw [Set.union_assoc, ← Set.ofPred_or]
    simp only [← and_or_left]
    exact hleast
  · rw [hrun, Nat.zero_add]
  · rw [hrun]
    rfl

/-- The error of a server that is overloaded. -/
def overloaded : Err := ⟨true, none, some 503, none, none, none, false⟩

theorem withRetry_stops_overloaded :
    ∃ k, IsLeast ({3} ∪ {k | 1 ≤ k ∧ ∃ a : Nat, Except.error overloaded = .ok a} ∪
        {k | 1 ≤ k ∧ ∃ err, (Except.error overloaded : Except Err Nat) = .error err ∧
          isRetryableError err retryableStatusCodes = false}) k ∧
      ((withRetry (Prog.call ()) retryableStatusCodes 3).run fnMachine
        (fun _ => (Except.error overloaded : Except Err Nat)) 0).2 = k ∧
      ((withRetry (Prog.call ()) retryableStatusCodes 3).run fnMachine
        (fun _ => (Except.error overloaded : Except Err Nat)) 0).1 =
        .error (if k = 3 then { overloaded with retryExhausted := true } else overloaded) :=
  withRetry_stops retryableStatusCodes (by decide) fun _ => .error overloaded

end BrandBlitz.Stellar

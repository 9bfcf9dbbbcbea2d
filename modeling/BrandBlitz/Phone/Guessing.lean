import BrandBlitz.Lib.ExpiringKeys
import BrandBlitz.Lib.Windows
import BrandBlitz.Phone.Verify

/-!
# BrandBlitz.Phone.Guessing

**At most five wrong codes in an hour, and no lock for longer than an hour**, in every
interleaving in which

* a call that reads its counter finds every wrong code of the last hour counted there, or is
  refused;
* no other wrong code comes between this and its own;
* a counter that comes to the limit is one that runs out, and one that has come there is not
  renewed.

A code is counted after the provider has answered, and an answer may be lost. The hour of a
counter begins with its first wrong code, so that the last ones are forgotten too early. And the
counter of a process that stops before `EXPIRE` never runs out.
-/

namespace BrandBlitz.Phone

open BrandBlitz.Lib

/-! ### The property -/

/-- An hour, in milliseconds. -/
def hour : Nat := 1000 * OTP_WINDOW_SECONDS

structure GuessingBounded (w : World) : Prop where
  /-- the codes of an hour without a right one -/
  windows : ∀ number start,
    (∀ check ∈ Windows.window Check.time hour start (w.checksOf number), check.approved = false) →
      (Windows.window Check.time hour start (w.checksOf number)).length ≤ OTP_MAX_ATTEMPTS
  unlocks : ∀ number, OTP_MAX_ATTEMPTS ≤ w.value number →
    ∃ since, w.reached number = some since ∧ w.now ≤ since + hour

/-- The wrong codes of the last hour, since the last right one. -/
def World.recent (w : World) (number : Text) : List Check :=
  Windows.recent Check.time Check.approved hour w.now (w.checksOf number)

/-- What no call of program `i` checks. -/
def Undisturbed (i : Nat) (w : World) (op : OtpOp) (verdict : Verdict) : Prop :=
  match op with
  | .get number =>
    OTP_MAX_ATTEMPTS ≤ w.value number ∨ (w.recent number).length ≤ w.value number
  | .check number _ => verdict.isWrong = true →
    ∀ got ∈ w.gets, got.program = i → got.number = number → got.wrongs = w.wrongs number
  | .incr number =>
    w.value number + 1 = OTP_MAX_ATTEMPTS → ((w.live number).bind (·.last)).isSome = true
  | .expire number _ => w.value number < OTP_MAX_ATTEMPTS
  | _ => True

instance (i : Nat) (w : World) (op : OtpOp) (verdict : Verdict) :
    Decidable (Undisturbed i w op verdict) :=
  match op with
  | .get _ => inferInstanceAs (Decidable (_ ∨ _))
  | .check _ _ => inferInstanceAs (Decidable (_ → _))
  | .incr _ => inferInstanceAs (Decidable (_ → _))
  | .expire _ _ => inferInstanceAs (Decidable (_ < _))
  | .ttl _ | .del _ => .isTrue trivial

/-! ### What the provider is asked -/

section Checks

variable {w : World} {number other : Text} {approved : Bool}

theorem checksOf_asked : (w.asked number approved).checksOf other =
    if number = other then ⟨number, w.now, approved⟩ :: w.checksOf other else w.checksOf other := by
  by_cases h : number = other <;> simp [World.checksOf, World.asked, h]

theorem wrongs_asked_wrong (h : number = other) :
    (w.asked number false).wrongs other = w.wrongs other + 1 := by
  simp [World.wrongs, checksOf_asked, h]

theorem wrongs_asked_of_ne (h : number ≠ other) :
    (w.asked number approved).wrongs other = w.wrongs other := by
  rw [World.wrongs, checksOf_asked, if_neg h, World.wrongs]

theorem wrongs_asked_approved : (w.asked number true).wrongs other = w.wrongs other := by
  by_cases h : number = other
  · simp [World.wrongs, checksOf_asked, h]
  · exact wrongs_asked_of_ne h

theorem recent_asked_of_ne (h : number ≠ other) :
    (w.asked number approved).recent other = w.recent other := by
  rw [World.recent, checksOf_asked, if_neg h]
  rfl

theorem recent_asked_approved :
    ((w.asked number true).recent other).length ≤ (w.recent other).length := by
  by_cases h : number = other
  · rw [World.recent, checksOf_asked, if_pos h, Windows.recent_cons_of_resets rfl]
    exact Nat.zero_le _
  · rw [recent_asked_of_ne h]

theorem value_of_live {counter : Counter} (h : w.live number = some counter) :
    w.value number = counter.value := by
  rw [World.value, h]
  rfl

/-- A counter that has not run out is stored. -/
theorem live_cases {counter : Counter} (h : w.live number = some counter) :
    w.counters number = some counter ∧ ∀ last ∈ counter.last, w.now ≤ last := by
  obtain ⟨hstored, hlast⟩ := Option.filter_eq_some_iff.mp h
  refine ⟨hstored, fun last heq => ?_⟩
  rw [Option.mem_def.mp heq] at hlast
  exact of_decide_eq_true hlast

end Checks

/-! ### The invariant -/

structure Inv (w : World) : Prop where
  sorted : Windows.Sorted Check.time w.checks
  past : ∀ check ∈ w.checks, check.time ≤ w.now
  limited : ∀ number,
    Windows.Limited Check.time Check.approved hour OTP_MAX_ATTEMPTS (w.checksOf number)
  lasts : ∀ number counter last, w.counters number = some counter → counter.last = some last →
    last ≤ w.now + hour
  locked : ∀ number counter, w.counters number = some counter →
    OTP_MAX_ATTEMPTS ≤ counter.value →
      ∃ since last, w.reached number = some since ∧ counter.last = some last ∧ last ≤ since + hour

theorem start_inv (now : Nat) : Inv (.start now) where
  sorted := List.Pairwise.nil
  past check h := absurd h List.not_mem_nil
  limited number := trivial
  lasts number counter last h := by cases h
  locked number counter h := by cases h

section Steps

variable {w : World} {number : Text}

theorem Inv.bounded (h : Inv w) : GuessingBounded w where
  windows number start hnone :=
    Windows.length_window_le (h.limited number) (h.sorted.filter _) hnone
  unlocks number hfull := by
    cases hlive : w.live number with
    | none =>
        rw [World.value, hlive] at hfull
        exact absurd hfull (by decide)
    | some counter =>
        rw [value_of_live hlive] at hfull
        obtain ⟨hstored, hlast⟩ := live_cases hlive
        obtain ⟨since, last, hreached, heq, hle⟩ := h.locked number counter hstored hfull
        exact ⟨since, hreached, Nat.le_trans (hlast last heq) hle⟩

theorem Inv.later (h : Inv w) {t : Nat} (ht : w.now ≤ t) : Inv { w with now := t } where
  sorted := h.sorted
  past check hcheck := Nat.le_trans (h.past check hcheck) ht
  limited := h.limited
  lasts number counter last hcounter hlast :=
    Nat.le_trans (h.lasts number counter last hcounter hlast) (Nat.add_le_add_right ht _)
  locked := h.locked

theorem Inv.got (h : Inv w) (got : Got) : Inv { w with gets := got :: w.gets } :=
  ⟨h.sorted, h.past, h.limited, h.lasts, h.locked⟩

/-- One more code, if fewer than five wrong ones are recent. -/
theorem Inv.asked (h : Inv w) {approved : Bool}
    (hroom : approved = false → (w.recent number).length < OTP_MAX_ATTEMPTS) :
    Inv (w.asked number approved) where
  sorted := List.pairwise_cons.mpr ⟨h.past, h.sorted⟩
  past check hcheck := by
    rcases List.mem_cons.mp hcheck with rfl | hcheck
    · exact Nat.le_refl _
    · exact h.past check hcheck
  limited other := by
    rw [checksOf_asked]
    by_cases heq : number = other
    · subst heq
      rw [if_pos rfl]
      exact ⟨fun hwrong => Nat.le_trans Windows.length_recent_cons_le (hroom hwrong),
        h.limited number⟩
    · rw [if_neg heq]
      exact h.limited other
  lasts := h.lasts
  locked := h.locked

theorem Inv.deleted (h : Inv w) :
    Inv { w with counters := Function.update w.counters number none } where
  sorted := h.sorted
  past := h.past
  limited := h.limited
  lasts other counter last hcounter hlast := by
    rcases some_of_update hcounter with ⟨-, hvalue⟩ | ⟨-, hold⟩
    · cases hvalue
    · exact h.lasts other counter last hold hlast
  locked other counter hcounter hfull := by
    rcases some_of_update hcounter with ⟨-, hvalue⟩ | ⟨-, hold⟩
    · cases hvalue
    · exact h.locked other counter hold hfull

theorem Inv.expire (h : Inv w) (hroom : w.value number < OTP_MAX_ATTEMPTS) :
    Inv (w.expire number OTP_WINDOW_SECONDS) := by
  unfold World.expire
  split
  · exact h
  · rename_i counter hlive
    rw [value_of_live hlive] at hroom
    refine ⟨h.sorted, h.past, h.limited, fun other counter' last hcounter hlast => ?_,
      fun other counter' hcounter hfull => ?_⟩
    · rcases some_of_update hcounter with ⟨-, hvalue⟩ | ⟨-, hold⟩
      · rw [← Option.some.inj hvalue] at hlast
        exact Nat.le_of_eq (Option.some.inj hlast).symm
      · exact h.lasts other counter' last hold hlast
    · rcases some_of_update hcounter with ⟨-, hvalue⟩ | ⟨-, hold⟩
      · rw [← Option.some.inj hvalue] at hfull
        exact absurd hroom (Nat.not_lt.mpr hfull)
      · exact h.locked other counter' hold hfull

/-- A counter that runs out may come to the limit. -/
theorem Inv.incr (h : Inv w)
    (hlast : w.value number + 1 = OTP_MAX_ATTEMPTS →
      ((w.live number).bind (·.last)).isSome = true) : Inv (w.incr number) := by
  refine ⟨h.sorted, h.past, h.limited, fun other counter last hcounter heq => ?_,
    fun other counter hcounter hfull => ?_⟩
  · rcases some_of_update hcounter with ⟨-, hvalue⟩ | ⟨-, hold⟩
    · rw [← Option.some.inj hvalue] at heq
      obtain ⟨old, hlive, hold⟩ := Option.bind_eq_some_iff.mp heq
      exact h.lasts number old last (live_cases hlive).1 hold
    · exact h.lasts other counter last hold heq
  · rcases some_of_update hcounter with ⟨rfl, hvalue⟩ | ⟨hne, hold⟩
    · obtain rfl := Option.some.inj hvalue
      unfold World.incr
      dsimp only at hfull ⊢
      by_cases hnow : w.value other + 1 = OTP_MAX_ATTEMPTS
      · obtain ⟨last, heq⟩ := Option.isSome_iff_exists.mp (hlast hnow)
        obtain ⟨old, hlive, hold⟩ := Option.bind_eq_some_iff.mp heq
        rw [if_pos hnow, Function.update_self]
        exact ⟨w.now, last, rfl, heq, h.lasts other old last (live_cases hlive).1 hold⟩
      · -- it has been there before
        have hbefore : OTP_MAX_ATTEMPTS ≤ w.value other := by omega
        rw [if_neg hnow]
        cases hlive : w.live other with
        | none =>
            rw [World.value, hlive] at hbefore
            exact absurd hbefore (by decide)
        | some old =>
            rw [value_of_live hlive] at hbefore
            exact h.locked other old (live_cases hlive).1 hbefore
    · obtain ⟨since, last, hreached, hrest⟩ := h.locked other counter hold hfull
      refine ⟨since, last, ?_, hrest⟩
      unfold World.incr
      dsimp only
      split
      · rw [Function.update_of_ne hne]
        exact hreached
      · exact hreached

/-- What is true of the world where a call is made. -/
def Ready (w : World) (op : OtpOp) (verdict : Verdict) : Prop :=
  match op with
  | .check number _ =>
    verdict.isWrong = true → (w.recent number).length < OTP_MAX_ATTEMPTS
  | .expire _ seconds => seconds = OTP_WINDOW_SECONDS
  | _ => True

variable {i : Nat} {op : OtpOp} {verdict : Verdict}

theorem perform_inv (h : Inv w) (hready : Ready w op verdict)
    (hguard : Undisturbed i w op verdict) : Inv (perform i verdict w op).2 := by
  cases op with
  | get number => exact h.got _
  | ttl number => exact h
  | incr number => exact h.incr hguard
  | expire number seconds =>
      obtain rfl : seconds = OTP_WINDOW_SECONDS := hready
      exact h.expire hguard
  | del number => exact h.deleted
  | check number code =>
      cases verdict with
      | approved => exact h.asked fun hwrong => by cases hwrong
      | wrong => exact h.asked fun _ => hready rfl
      | lost => exact h.asked fun _ => hready rfl
      | fails => exact h

/-! ### What a call can count on -/

/-- What the others, and time, leave as it is. -/
structure Rely (w w' : World) : Prop where
  inv : Inv w'
  kept : ∀ got ∈ w.gets, got ∈ w'.gets
  wrongs : ∀ number, w.wrongs number ≤ w'.wrongs number
  /-- only a wrong code adds to what is recent -/
  recent : ∀ number, w.wrongs number = w'.wrongs number →
    (w'.recent number).length ≤ (w.recent number).length

theorem Rely.refl (h : Inv w) : Rely w w :=
  ⟨h, fun _ h => h, fun _ => Nat.le_refl _, fun _ _ => Nat.le_refl _⟩

theorem Rely.trans {w w' w'' : World} (h : Rely w w') (h' : Rely w' w'') : Rely w w'' where
  inv := h'.inv
  kept got hgot := h'.kept got (h.kept got hgot)
  wrongs number := Nat.le_trans (h.wrongs number) (h'.wrongs number)
  recent number heq := by
    have hmiddle : w.wrongs number = w'.wrongs number :=
      Nat.le_antisymm (h.wrongs number) (heq ▸ h'.wrongs number)
    exact Nat.le_trans (h'.recent number (hmiddle.symm.trans heq)) (h.recent number hmiddle)

theorem rely_asked {approved : Bool} (hinv : Inv (w.asked number approved)) :
    Rely w (w.asked number approved) where
  inv := hinv
  kept _ h := h
  wrongs other := by
    by_cases heq : number = other
    · cases approved with
      | true => exact Nat.le_of_eq wrongs_asked_approved.symm
      | false => rw [wrongs_asked_wrong heq]; exact Nat.le_succ _
    · rw [wrongs_asked_of_ne heq]
  recent other hwrongs := by
    by_cases heq : number = other
    · cases approved with
      | true => exact recent_asked_approved
      | false =>
          rw [wrongs_asked_wrong heq] at hwrongs
          exact absurd hwrongs (Nat.ne_of_lt (Nat.lt_succ_self _))
    · rw [recent_asked_of_ne heq]

theorem perform_rely (hinv : Inv (perform i verdict w op).2) :
    Rely w (perform i verdict w op).2 := by
  cases op with
  | get number =>
      exact ⟨hinv, fun got hgot => List.mem_cons_of_mem _ hgot, fun _ => Nat.le_refl _,
        fun _ _ => Nat.le_refl _⟩
  | check number code =>
      cases verdict with
      | approved => exact rely_asked hinv
      | wrong => exact rely_asked hinv
      | lost => exact rely_asked hinv
      | fails => exact Rely.refl hinv
  | expire number seconds =>
      have hsame : (w.expire number seconds).checks = w.checks ∧
          (w.expire number seconds).gets = w.gets ∧ (w.expire number seconds).now = w.now := by
        unfold World.expire
        split <;> exact ⟨rfl, rfl, rfl⟩
      obtain ⟨hchecks, hgets, hnow⟩ := hsame
      refine ⟨hinv, fun got hgot => ?_, fun other => ?_, fun other _ => ?_⟩
      · rwa [← hgets] at hgot
      · exact Nat.le_of_eq (by simp only [World.wrongs, World.checksOf, perform, hchecks])
      · exact Nat.le_of_eq
          (by simp only [World.recent, World.checksOf, perform, hchecks, hnow])
  | _ => exact ⟨hinv, fun _ h => h, fun _ => Nat.le_refl _, fun _ _ => Nat.le_refl _⟩

theorem Rely.later (h : Inv w) {t : Nat} (ht : w.now ≤ t) : Rely w { w with now := t } :=
  ⟨h.later ht, fun _ h => h, fun _ => Nat.le_refl _, fun _ _ => Windows.length_recent_le ht⟩

end Steps

/-! ### A call -/

section Calls

variable {i : Nat} {w : World} {number : Text}

/-- Program `i` may ask about one more code, if none has come since. -/
def Cleared (i : Nat) (number : Text) (w : World) : Prop :=
  ∃ got ∈ w.gets, got.program = i ∧ got.number = number ∧ got.wrongs ≤ w.wrongs number ∧
    (got.wrongs = w.wrongs number → (w.recent number).length < OTP_MAX_ATTEMPTS)

theorem Cleared.stable {w' : World} (h : Cleared i number w) (hrely : Rely w w') :
    Cleared i number w' := by
  obtain ⟨got, hgot, hprogram, hnumber, hle, hroom⟩ := h
  refine ⟨got, hrely.kept got hgot, hprogram, hnumber, Nat.le_trans hle (hrely.wrongs number),
    fun heq => ?_⟩
  have hsame : got.wrongs = w.wrongs number :=
    Nat.le_antisymm hle (heq ▸ hrely.wrongs number)
  exact Nat.lt_of_le_of_lt (hrely.recent number (hsame.symm.trans heq)) (hroom hsame)

/-- Program `i` keeps the invariant while the others move. -/
def Keeps (i : Nat) {α : Type} (p : Otp α) (Q : α → World → Prop) (w : World) : Prop :=
  p.wp (machine i).among (Among (Rely) (Undisturbed i)) Inv (Prog.Ends Q fun _ _ => True) w

theorem keeps_call {op : OtpOp} {A : World → Prop} {Q : otpSig.Ans op → World → Prop}
    (hstable : ∀ w w', A w → Rely w w' → A w') (hw : A w)
    (hready : ∀ w' verdict, A w' → Undisturbed i w' op verdict → Ready w' op verdict)
    (h : ∀ w' verdict, A w' → Undisturbed i w' op verdict →
      Prog.Ends Q (fun _ _ => True) (perform i verdict w' op).1 (perform i verdict w' op).2) :
    Keeps i (call op) Q w :=
  Prog.wp_call_among hstable hw fun w' verdict hrely hw' hguard =>
    ⟨perform_inv hrely.inv (hready w' verdict hw' hguard) hguard, h w' verdict hw' hguard⟩

/-- A call of which nothing needs to be known. -/
theorem keeps_plain {op : OtpOp} (hready : ∀ w' verdict, Ready w' op verdict) :
    Keeps i (call op) (fun _ _ => True) w := by
  refine keeps_call (A := fun _ => True) (fun _ _ _ _ => trivial) trivial
    (fun w' verdict _ _ => hready w' verdict) fun w' verdict _ _ => ?_
  cases (perform i verdict w' op).1 <;> trivial

theorem countFailure_keeps : Keeps i (countFailure number) (fun _ _ => True) w := by
  refine Prog.wp_bind (P := fun _ _ => True) (keeps_plain fun _ _ => trivial) fun attempts w _ => ?_
  split
  · exact Prog.wp_bind (P := fun _ _ => True) (keeps_plain fun _ _ => rfl) fun _ _ _ => trivial
  · trivial

/-- **A code is asked about where fewer than five wrong ones are recent.** -/
theorem check_keeps {code : Text} (hself : normalizePhoneNumber number = .ok number)
    (h : Cleared i number w) :
    Keeps i (checkVerificationCode number code) (fun _ _ => True) w := by
  unfold checkVerificationCode
  rw [hself]
  refine keeps_call (fun _ _ h hrely => h.stable hrely) h (fun w' verdict h hguard hwrong => ?_)
    fun w' verdict _ _ => ?_
  · obtain ⟨got, hgot, hprogram, hnumber, -, hroom⟩ := h
    exact hroom (hguard hwrong got hgot hprogram hnumber)
  · cases verdict <;> trivial

theorem verifyNumber_keeps {code : Text} (hself : normalizePhoneNumber number = .ok number) :
    Keeps i (verifyNumber number code) (fun _ _ => True) w := by
  refine Prog.wp_bind
    (P := fun current w => current.getD 0 < OTP_MAX_ATTEMPTS → Cleared i number w)
    (keeps_call (A := fun _ => True) (fun _ _ _ _ => trivial) trivial (fun _ _ _ _ => trivial)
      fun w' verdict _ hguard hroom => ?_) fun current w h => ?_
  · have hvalue : ((w'.live number).map (·.value)).getD 0 = w'.value number := by
      rw [World.value]
      cases w'.live number <;> rfl
    rw [hvalue] at hroom
    refine ⟨⟨i, number, w'.wrongs number⟩, List.mem_cons_self, rfl, rfl, Nat.le_refl _, fun _ => ?_⟩
    exact Nat.lt_of_le_of_lt (hguard.resolve_left (Nat.not_le.mpr hroom)) hroom
  · split
    · exact Prog.wp_bind (P := fun _ _ => True) (keeps_plain fun _ _ => trivial)
        fun _ _ _ => trivial
    · rename_i hroom
      refine Prog.wp_bind (P := fun _ _ => True) (check_keeps hself (h (Nat.not_le.mp hroom)))
        fun approved w _ => ?_
      split
      · exact countFailure_keeps
      · exact keeps_plain fun _ _ => trivial

theorem IsVerify.keeps {p : Otp Unit} (hp : IsVerify p) : Keeps i p (fun _ _ => True) w := by
  obtain ⟨phoneNumber, code, rfl⟩ := hp
  unfold verifyOtpWithBruteForceProtection
  split
  · trivial
  · exact verifyNumber_keeps (normalizePhoneNumber_self ‹_›)

end Calls

/-! ### Every interleaving -/

theorem verify_verified :
    Crew.Verified machine Undisturbed IsVerify Later Inv (fun _ => Rely) fun _ _ => True where
  refl _ _ h := Rely.refl h
  trans _ _ _ _ h h' := h.trans h'
  stays _ _ _ _ _ := trivial
  spawned _ _ _ hp _ _ := Prog.wp_mono hp.keeps fun _ _ _ => trivial
  others _ _ _ _ _ _ _ _ hinv := perform_rely hinv
  drifted _ _ _ h hlater := by
    obtain ⟨t, ht, rfl⟩ := hlater
    exact ⟨h.later ht, Rely.later h ht⟩

/-- **Guessing is bounded** in every interleaving of calls, of which each may stop after any
of its steps, if every step is `Undisturbed`. -/
theorem otp_guessing_bounded {now : Nat} {w : World} {ps : List (Otp Unit)}
    (h : Crew machine Undisturbed IsVerify Later (.start now) w ps) : GuessingBounded w :=
  (verify_verified.sound (start_inv now) (fun _ => trivial) h).1.bounded

/-! ### Guessing -/

def someNumber : Text := "+15550001111".toList

/-- Calls for one number, in another spelling. -/
def guesses (n : Nat) : List (Otp Unit) :=
  List.replicate n (verifyOtpWithBruteForceProtection "+1 (555) 000-1111".toList "000000".toList)

theorem spawn_guesses {G : Nat → World → OtpOp → Verdict → Prop} (now n : Nat) :
    Crew machine G IsVerify Later (.start now) (.start now) (guesses n) := by
  induction n with
  | zero => exact .init
  | succ n ih =>
      rw [guesses, List.replicate_succ']
      exact ih.spawn ⟨_, _, rfl⟩

/-- `n` steps of program `i`. -/
def steps (i n : Nat) : List (Nat × Verdict) := List.replicate n (i, .wrong)

/-- A step of each of six programs. -/
def atOnce : List (Nat × Verdict) := (List.range 6).map (·, .wrong)

/-- One after the other. -/
def inTurn (programs : List Nat) : List (Nat × Verdict) := programs.flatMap fun i => steps i 4

/-- Five guesses, and a sixth that is refused. -/
theorem guesses_bounded :
    (playCrew machine (inTurn [0, 1, 2, 3, 4, 5]) (.start 0) (guesses 6)).1.checks.length = 5 ∧
      GuessingBounded (playCrew machine (inTurn [0, 1, 2, 3, 4, 5]) (.start 0) (guesses 6)).1 :=
  ⟨by decide +kernel, otp_guessing_bounded (Crew.play _ (spawn_guesses 0 6) (by decide +kernel))⟩

/-- Any steps. -/
def Anything (_ : Nat) (_ : World) (_ : OtpOp) (_ : Verdict) : Prop := True

instance (i : Nat) (w : World) (op : OtpOp) (verdict : Verdict) :
    Decidable (Anything i w op verdict) := .isTrue trivial

/-- Calls that violate the property. -/
def Violates (violated : World → Prop) : Prop :=
  ∃ w ps, Crew machine Anything IsVerify Later (.start 0) w ps ∧ violated w ∧ ¬ GuessingBounded w

/-- Wrong codes only, and more than five of them in the hour from `start`. -/
def Overrun (w : World) (start : Nat) : Prop :=
  (w.checksOf someNumber).all (!·.approved) = true ∧
    OTP_MAX_ATTEMPTS < (Windows.window Check.time hour start (w.checksOf someNumber)).length

instance (w : World) (start : Nat) : Decidable (Overrun w start) :=
  inferInstanceAs (Decidable (_ ∧ _))

theorem Overrun.not_bounded {w : World} {start : Nat} (h : Overrun w start) :
    ¬ GuessingBounded w := by
  obtain ⟨hwrong, hmany⟩ := h
  refine fun hbounded =>
    Nat.not_le.mpr hmany (hbounded.windows someNumber start fun check hcheck => ?_)
  have hmem := (List.mem_filter.mp hcheck).1
  simpa using List.all_eq_true.mp hwrong check hmem

/-- Play schedules, each after a time. -/
def playLater : List (Nat × List (Nat × Verdict)) → World → List (Otp Unit) →
    World × List (Otp Unit)
  | [], w, ps => (w, ps)
  | (delay, schedule) :: rest, w, ps =>
    playLater rest (playCrew machine schedule { w with now := w.now + delay } ps).1
      (playCrew machine schedule { w with now := w.now + delay } ps).2

theorem crew_playLater (schedules : List (Nat × List (Nat × Verdict))) :
    ∀ {w : World} {ps : List (Otp Unit)}, Crew machine Anything IsVerify Later (.start 0) w ps →
      Crew machine Anything IsVerify Later (.start 0) (playLater schedules w ps).1
        (playLater schedules w ps).2 := by
  induction schedules with
  | nil => intro w ps h; exact h
  | cons schedule rest ih =>
      intro w ps h
      exact ih (Crew.play _ (h.drift ⟨_, Nat.le_add_right _ _, rfl⟩)
        (playCrewOk_of_forall _ fun _ _ _ _ => trivial))

theorem violates_playLater {violated : World → Prop} (n : Nat)
    (schedules : List (Nat × List (Nat × Verdict)))
    (h : violated (playLater schedules (.start 0) (guesses n)).1)
    (hnot : ∀ w, violated w → ¬ GuessingBounded w) : Violates violated :=
  ⟨_, _, crew_playLater schedules (spawn_guesses 0 n), h, hnot _ h⟩

/-- Six calls at once; four guesses shortly before a counter runs out, and five shortly after;
and a process that stops between `INCR` and `EXPIRE`. -/
theorem guessing_unbounded :
    Violates (fun w => Overrun w 0 ∧ w.now = 0) ∧ Violates (fun w => Overrun w (hour - 10)) ∧
      Violates fun w => OTP_MAX_ATTEMPTS ≤ w.value someNumber ∧
        w.reached someNumber = some 0 ∧ hour < w.now := by
  refine ⟨violates_playLater 6 [(0, atOnce ++ atOnce)] (by decide +kernel)
      fun w h => h.1.not_bounded,
    violates_playLater 10 [(0, inTurn [0]), (hour - 10, inTurn [1, 2, 3, 4]),
      (11, inTurn [5, 6, 7, 8, 9])] (by decide +kernel) fun w h => h.not_bounded,
    violates_playLater 5 [(0, steps 0 3 ++ inTurn [1, 2, 3, 4]), (hour + 1, [])]
      (by decide +kernel) ?_⟩
  rintro w ⟨hlocked, hreached, hlate⟩ h
  obtain ⟨since, hsince, hle⟩ := h.unlocks someNumber hlocked
  rw [hreached] at hsince
  obtain rfl := Option.some.inj hsince
  omega

end BrandBlitz.Phone

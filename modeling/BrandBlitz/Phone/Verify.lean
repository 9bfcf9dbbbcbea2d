import Mathlib.Logic.Function.Basic
import BrandBlitz.Lib.Crew
import BrandBlitz.Stellar.Client
import BrandBlitz.Paging.Cursor

/-!
# BrandBlitz.Phone.Verify

**One-time codes by text message**: `verifyOtpWithBruteForceProtection` and
`normalizePhoneNumber` of `apps/api/src/services/phone.ts`.

* The counter of a number is a key of Redis, which runs out at its last instant, if it has one.
  Time is in milliseconds.
* Which codes are right is up to the provider. It may also fail to answer, before it has looked
  at a code or after.
* A process that stops takes its calls no further. So a call may stop after any of its awaits.
* The history has what the provider was asked (`checks`, the newest first), when each call read
  its counter (`gets`), and when a counter came to the limit (`reached`).
-/

namespace BrandBlitz.Phone

open BrandBlitz.Lib

/-! ### Numbers -/

def isE164 : Text → Bool
  | '+' :: digits => digits.all Char.isDigit && 10 ≤ digits.length && digits.length ≤ 15
  | _ => false

/-- Of a trimmed number. -/
def normalized : Text → Text
  | '+' :: rest => '+' :: rest.filter Char.isDigit
  | trimmed => '+' :: trimmed.filter Char.isDigit

def normalizePhoneNumber (phoneNumber : Text) : Except ApiError Text :=
  if isE164 (normalized (trim phoneNumber)) then .ok (normalized (trim phoneNumber))
  else .error (createError "Phone number must be a valid E.164 number" 400 "INVALID_PHONE")

/-! ### The world -/

/-- A counter, and the last instant at which it is there. -/
structure Counter where
  value : Nat
  last : Option Nat
deriving DecidableEq, Repr

/-- A code that the provider was asked about. -/
structure Check where
  number : Text
  time : Nat
  approved : Bool
deriving DecidableEq, Repr

/-- A call reads its counter. -/
structure Got where
  program : Nat
  number : Text
  /-- how many wrong codes had reached the provider by then -/
  wrongs : Nat
deriving DecidableEq, Repr

structure World where
  /-- `otp_attempts:…` -/
  counters : Text → Option Counter
  now : Nat
  checks : List Check
  gets : List Got
  reached : Text → Option Nat

def World.start (now : Nat) : World := ⟨fun _ => none, now, [], [], fun _ => none⟩

namespace World

variable (w : World) (number : Text)

/-- The counter, if it has not run out. -/
def live : Option Counter := (w.counters number).filter fun counter => counter.last.all (w.now ≤ ·)

def value : Nat := (w.live number).elim 0 (·.value)

def checksOf : List Check := w.checks.filter fun check => check.number = number

/-- How many wrong codes have reached the provider. -/
def wrongs : Nat := ((w.checksOf number).filter fun check => !check.approved).length

end World

def OTP_MAX_ATTEMPTS : Nat := 5

def OTP_WINDOW_SECONDS : Nat := 3600

/-! ### Calls -/

inductive OtpOp where
  | get (number : Text)
  | ttl (number : Text)
  | incr (number : Text)
  | expire (number : Text) (seconds : Nat)
  | del (number : Text)
  /-- `verificationChecks.create` -/
  | check (number code : Text)
deriving DecidableEq, Repr

abbrev otpSig : Sig where
  Op := OtpOp
  Ans
    | .get _ => Option Nat
    | .ttl _ => Int
    | .incr _ => Nat
    | .check _ _ => Bool
    | _ => Unit

/-- What the provider does. -/
inductive Verdict where
  | approved
  | wrong
  /-- The code is wrong, and the answer is lost. -/
  | lost
  | fails
deriving DecidableEq, Repr

/-- A wrong code reaches the provider. -/
def Verdict.isWrong : Verdict → Bool
  | .wrong | .lost => true
  | .approved | .fails => false

def providerDown : ApiError := ⟨"Twilio is unavailable".toList, none, none⟩

namespace World

variable (w : World) (number : Text)

def asked (approved : Bool) : World := { w with checks := ⟨number, w.now, approved⟩ :: w.checks }

/-- `INCR`, which keeps the last instant of a counter that is there. -/
def incr : World :=
  let value := w.value number + 1
  { w with
    counters := Function.update w.counters number (some ⟨value, (w.live number).bind (·.last)⟩)
    reached :=
      if value = OTP_MAX_ATTEMPTS then Function.update w.reached number (some w.now)
      else w.reached }

def expire (seconds : Nat) : World :=
  match w.live number with
  | none => w
  | some counter =>
    { w with
      counters := Function.update w.counters number
        (some { counter with last := some (w.now + 1000 * seconds) }) }

/-- `TTL`, in seconds. -/
def ttl : Int :=
  match w.live number with
  | none => -2
  | some counter => counter.last.elim (-1) fun last => (last - w.now : Int) / 1000

end World

/-- The answer to program `i`, and the effect. -/
def perform (i : Nat) (verdict : Verdict) (w : World) :
    (op : OtpOp) → Except ApiError (otpSig.Ans op) × World
  | .get number =>
    (.ok ((w.live number).map (·.value)), { w with gets := ⟨i, number, w.wrongs number⟩ :: w.gets })
  | .ttl number => (.ok (w.ttl number), w)
  | .incr number => (.ok (w.value number + 1), w.incr number)
  | .expire number seconds => (.ok (), w.expire number seconds)
  | .del number => (.ok (), { w with counters := Function.update w.counters number none })
  | .check number _ =>
    match verdict with
    | .approved => (.ok true, w.asked number true)
    | .wrong => (.ok false, w.asked number false)
    | .lost => (.error providerDown, w.asked number false)
    | .fails => (.error providerDown, w)

def machine (i : Nat) : Machine otpSig ApiError World Verdict where
  exec verdict op w := perform i verdict w op

/-- Time passes. -/
def Later (w w' : World) : Prop := ∃ t, w.now ≤ t ∧ w' = { w with now := t }

/-! ### The function -/

abbrev Otp := Prog otpSig ApiError

def call (op : OtpOp) : Otp (otpSig.Ans op) := Prog.call (S := otpSig) op

def checkVerificationCode (phoneNumber code : Text) : Otp Bool :=
  match normalizePhoneNumber phoneNumber with
  | .error err => .raise err
  | .ok number => call (.check number code)

/-- The code was wrong. -/
def countFailure (number : Text) : Otp Unit := do
  let attempts ← call (.incr number)
  if attempts = 1 then
    call (.expire number OTP_WINDOW_SECONDS)
    .raise (createError "Invalid verification code" 400 "INVALID_OTP")
  else .raise (createError "Invalid verification code" 400 "INVALID_OTP")

/-- For a number in its normal form. -/
def verifyNumber (normalized code : Text) : Otp Unit := do
  let currentStr ← call (.get normalized)
  if OTP_MAX_ATTEMPTS ≤ currentStr.getD 0 then
    let _ ← call (.ttl normalized)
    .raise (createError "Too many verification attempts" 429 "OTP_RATE_LIMITED")
  else
    let approved ← checkVerificationCode normalized code
    if !approved then countFailure normalized
    else call (.del normalized)

def verifyOtpWithBruteForceProtection (phoneNumber code : Text) : Otp Unit :=
  match normalizePhoneNumber phoneNumber with
  | .error err => .raise err
  | .ok normalized => verifyNumber normalized code

/-- Any call, with any spelling of any number. -/
def IsVerify (p : Otp Unit) : Prop :=
  ∃ phoneNumber code, p = verifyOtpWithBruteForceProtection phoneNumber code

/-! ### Normal forms -/

theorem trim_of_isE164 {number : Text} (h : isE164 number = true) : trim number = number := by
  unfold isE164 at h
  split at h
  · rename_i digits
    simp only [Bool.and_eq_true, decide_eq_true_eq] at h
    obtain ⟨⟨hdigits, hlong⟩, -⟩ := h
    rw [trim, List.dropWhile_cons_of_neg (by decide)]
    -- the last character is a digit
    have hlast : ∀ text : Text, text.reverse.dropWhile isJsSpace = text.reverse →
        (text.reverse.dropWhile isJsSpace).reverse = text := fun text heq => by
      rw [heq, List.reverse_reverse]
    refine hlast _ ?_
    rw [List.reverse_cons]
    cases hreverse : digits.reverse with
    | nil =>
        have hnil : digits = [] := List.reverse_eq_nil_iff.mp hreverse
        rw [hnil] at hlong
        exact absurd hlong (by decide)
    | cons c rest =>
        have hmem : c ∈ digits := List.mem_reverse.mp (hreverse ▸ List.mem_cons_self)
        rw [List.cons_append, List.dropWhile_cons_of_neg]
        rw [isJsSpace_of_isDigit (List.all_eq_true.mp hdigits c hmem)]
        exact Bool.false_ne_true
  · cases h

/-- **A normal form is its own normal form.** -/
theorem normalizePhoneNumber_self {phoneNumber number : Text}
    (h : normalizePhoneNumber phoneNumber = .ok number) :
    normalizePhoneNumber number = .ok number := by
  have hnormal : isE164 number = true := by
    unfold normalizePhoneNumber at h
    split at h
    · rename_i hnormal
      rwa [← Except.ok.inj h]
    · cases h
  have hself : normalized number = number := by
    have hshape := hnormal
    unfold isE164 at hshape
    split at hshape
    · rename_i digits
      simp only [Bool.and_eq_true] at hshape
      show '+' :: digits.filter Char.isDigit = '+' :: digits
      rw [List.filter_eq_self.mpr (List.all_eq_true.mp hshape.1.1)]
    · cases hshape
  rw [normalizePhoneNumber, trim_of_isE164 hnormal, hself, if_pos hnormal]

end BrandBlitz.Phone

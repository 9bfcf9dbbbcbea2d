import Mathlib.Data.List.Infix
import BrandBlitz.Lib.Async
import BrandBlitz.Lib.NumberText

/-!
# BrandBlitz.Stellar.Client

The error objects that cross the network and the **retry combinator** of
`packages/stellar/src/client.ts`.

Errors are read by duck typing everywhere in the source (`err?.response?.status`,
`err?.message`), so an error is the record of the fields that some modelled
function reads. Two design points:

* text is a list of characters, so that `includes` is the decidable infix relation;
* `withRetry` recurses on the attempts that are left instead of counting up to
  `maxAttempts`; the backoff delay between two attempts awaits nothing that the
  rest of the system could notice and is not represented.
-/

namespace BrandBlitz

open BrandBlitz.Lib

/-- A JavaScript string. -/
abbrev Text := List Char

/-- `text.includes(part)`. -/
def includes (text part : Text) : Bool := decide (part <:+: text)

/-- `toLowerCase` on one character. Besides the ASCII letters, the Kelvin sign is the
only character whose lower case is an ASCII letter by itself. -/
def lowerChar (c : Char) : Char := if c = '\u212A' then 'k' else c.toLower

/-- Whitespace, as `trim` removes it. -/
def isJsSpace (c : Char) : Bool :=
  c.toNat ∈ [0x09, 0x0A, 0x0B, 0x0C, 0x0D, 0x20, 0xA0, 0x1680, 0x2028, 0x2029, 0x202F, 0x205F,
    0x3000, 0xFEFF] || (0x2000 ≤ c.toNat && c.toNat ≤ 0x200A)

theorem isJsSpace_of_isDigit {c : Char} (h : c.isDigit = true) : isJsSpace c = false := by
  obtain ⟨hlow, hhigh⟩ := Lib.NumberText.isDigit_range h
  simp only [isJsSpace, List.mem_cons, List.not_mem_nil, or_false, Bool.or_eq_false_iff,
    decide_eq_false_iff_not, Bool.and_eq_false_iff]
  omega

/-- `text.trim()`. -/
def trim (text : Text) : Text :=
  ((text.dropWhile isJsSpace).reverse.dropWhile isJsSpace).reverse

/-- What a `catch` clause can receive. -/
structure Err where
  /-- `err instanceof Error` -/
  isError : Bool
  message : Option Text
  /-- `err.response.status` -/
  responseStatus : Option Nat
  status : Option Nat
  /-- `err.response.data.extras.result_codes.transaction` -/
  responseTxCode : Option Text
  /-- `err.data.extras.result_codes.transaction` -/
  txCode : Option Text
  retryExhausted : Bool
deriving DecidableEq, Repr

/-- `new Error(message)`. -/
def Err.new (message : Text) : Err := ⟨true, some message, none, none, none, none, false⟩

/-- An error of an API route (`createError`): the status and the code are for the response. -/
structure ApiError where
  message : Text
  statusCode : Option Nat
  code : Option Text
deriving DecidableEq, Repr

def createError (message : String) (statusCode : Nat) (code : Option String := none) : ApiError :=
  ⟨message.toList, some statusCode, code.map String.toList⟩

/-- `String(err?.message ?? "")`. -/
def Err.text (err : Err) : Text := err.message.getD []

/-- The status codes `withRetry` retries unless told otherwise. -/
def retryableStatusCodes : List Nat := [429, 503, 504]

/-- Is the error worth another attempt: by its HTTP status, or by its message? -/
def isRetryableError (err : Err) (codes : List Nat) : Bool :=
  let statusCode := err.responseStatus <|> err.status
  let byStatus := match statusCode with
    | some code => code != 0 && codes.contains code
    | none => false
  let message := err.text.map lowerChar
  byStatus ||
    includes message "econnrefused".toList ||
    includes message "econnreset".toList ||
    includes message "enotfound".toList ||
    includes message "timeout".toList ||
    includes message "timed out".toList ||
    includes message "networkconnection".toList

/-- Does the error say that the transaction's sequence number was wrong? -/
def isBadSequenceError (err : Err) : Bool :=
  (err.responseTxCode <|> err.txCode) = some "tx_bad_seq".toList ||
    includes err.text "tx_bad_seq".toList

variable {S : Sig} {α : Type}

/-- `withRetry(fn, { maxAttempts, retryableStatusCodes })`. With no attempt at all the
source marks `undefined` as exhausted, which is itself an error. -/
def withRetry (fn : Prog S Err α) (codes : List Nat) : Nat → Prog S Err α
  | 0 => .raise (Err.new "Cannot set properties of undefined".toList)
  | 1 => fn.tryCatch fun err => .raise { err with retryExhausted := true }
  | left + 2 => fn.tryCatch fun err =>
      if isRetryableError err codes then withRetry fn codes (left + 1) else .raise err

/-- What `fn` can emit, `withRetry` can emit. -/
theorem withRetry_emits {ok : S.Op → Prop}
    {good : (op : S.Op) → Except Err (S.Ans op) → Prop} {P : α → Prop} {fn : Prog S Err α}
    (h : fn.Emits ok good P) (codes : List Nat) :
    ∀ attempts, (withRetry fn codes attempts).Emits ok good P
  | 0 => trivial
  | 1 => h.tryCatch fun _ => trivial
  | left + 2 => by
      refine h.tryCatch fun err => ?_
      split
      · exact withRetry_emits h codes (left + 1)
      · trivial

section Wp

variable {W E : Type} {M : Machine S Err W E} {G : W → S.Op → E → Prop} {I : W → Prop}

/-- **The rule for retries.** An assertion `R` that holds at first and that every
failed attempt restores holds when the last error is thrown; `Q` holds after the
attempt that succeeded. -/
theorem wp_withRetry {fn : Prog S Err α} {R : W → Prop} {Q : α → W → Prop} (codes : List Nat)
    (h : ∀ w, R w → fn.wp M G I (Prog.Ends Q fun _ => R) w) :
    ∀ attempts w, R w → (withRetry fn codes attempts).wp M G I (Prog.Ends Q fun _ => R) w
  | 0, _, hw => hw
  | 1, w, hw => Prog.wp_tryCatch (h w hw) fun _ _ hR => hR
  | left + 2, w, hw => by
      refine Prog.wp_tryCatch (h w hw) fun err w' hR => ?_
      split
      · exact wp_withRetry codes h (left + 1) w' hR
      · exact hR

end Wp

end BrandBlitz

import Mathlib.Algebra.Order.Ring.Nat
import BrandBlitz.Stellar.Client

/-!
# BrandBlitz.Deposit.Memo

**Deposit memos** (`packages/stellar/src/deposit.ts`). A memo tells which challenge a payment to
the hot wallet is for. It is generated as eighteen random bytes in base64url, and the monitor
checks that a payment's memo is a text that Stellar can carry: at most 28 bytes, no control
characters, not blank. Every generated memo passes that check.
-/

namespace BrandBlitz.Deposit

/-! ### Generated memos -/

/-- The base64url alphabet. -/
def base64Char (n : Nat) : Char :=
  if n < 26 then Char.ofNat ('A'.toNat + n)
  else if n < 52 then Char.ofNat ('a'.toNat + (n - 26))
  else if n < 62 then Char.ofNat ('0'.toNat + (n - 52))
  else if n = 62 then '-'
  else '_'

/-- `toString("base64url")`, which does not pad. -/
def base64url : List UInt8 → Text
  | a :: b :: c :: rest =>
    base64Char (a.toNat / 4) :: base64Char (a.toNat % 4 * 16 + b.toNat / 16) ::
      base64Char (b.toNat % 16 * 4 + c.toNat / 64) :: base64Char (c.toNat % 64) :: base64url rest
  | [a, b] =>
    [base64Char (a.toNat / 4), base64Char (a.toNat % 4 * 16 + b.toNat / 16),
      base64Char (b.toNat % 16 * 4)]
  | [a] => [base64Char (a.toNat / 4), base64Char (a.toNat % 4 * 16)]
  | [] => []

/-- `generateDepositMemo`, by the eighteen bytes it draws. -/
def generateDepositMemo (randomBytes : Vector UInt8 18) : Text := base64url randomBytes.toList

/-! ### Valid memos -/

/-- `text.trim() === ""`. -/
def isBlank (text : Text) : Bool := text.all isJsSpace

/-- `[\u0000-\u001f\u007f]`. -/
def isControl (c : Char) : Bool := c.toNat ≤ 0x1f || c.toNat = 0x7f

/-- `Buffer.byteLength(text, "utf8")`. -/
def byteLength (text : Text) : Nat := (text.map Char.utf8Size).sum

inductive DepositMemoValidation where
  | valid (memo : Text)
  | missing
  | invalidFormat
deriving DecidableEq, Repr

def validateDepositMemo (memo : Option Text) : DepositMemoValidation :=
  match memo with
  | none => .missing
  | some memo =>
    if isBlank memo then .missing
    else if 28 < byteLength memo || memo.any isControl then .invalidFormat
    else .valid memo

/-- A valid memo is handed on as it is. -/
theorem validateDepositMemo_valid {memo : Option Text} {m : Text}
    (h : validateDepositMemo memo = .valid m) : memo = some m := by
  unfold validateDepositMemo at h
  split at h
  · cases h
  · split at h
    · cases h
    · split at h
      · cases h
      · cases h
        rfl

/-! ### Generated memos are valid -/

/-- One byte, neither blank nor a control character. -/
def isMemoChar (c : Char) : Bool := c.utf8Size = 1 && !isJsSpace c && !isControl c

theorem isMemoChar_base64Char {n : Nat} (h : n < 64) : isMemoChar (base64Char n) = true := by
  have hall : ∀ n < 64, isMemoChar (base64Char n) = true := by decide +kernel
  exact hall n h

theorem base64url_memoChars (bytes : List UInt8) :
    ∀ c ∈ base64url bytes, isMemoChar c = true := by
  induction bytes using base64url.induct with
  | case1 a b c rest ih =>
      have ha := a.toNat_lt
      have hb := b.toNat_lt
      have hc := c.toNat_lt
      intro x hx
      simp only [base64url, List.mem_cons] at hx
      rcases hx with rfl | rfl | rfl | rfl | hx
      · exact isMemoChar_base64Char (by omega)
      · exact isMemoChar_base64Char (by omega)
      · exact isMemoChar_base64Char (by omega)
      · exact isMemoChar_base64Char (by omega)
      · exact ih x hx
  | case2 a b =>
      have ha := a.toNat_lt
      have hb := b.toNat_lt
      intro x hx
      simp only [base64url, List.mem_cons, List.not_mem_nil, or_false] at hx
      rcases hx with rfl | rfl | rfl <;> exact isMemoChar_base64Char (by omega)
  | case3 a =>
      have ha := a.toNat_lt
      intro x hx
      simp only [base64url, List.mem_cons, List.not_mem_nil, or_false] at hx
      rcases hx with rfl | rfl <;> exact isMemoChar_base64Char (by omega)
  | case4 => simp [base64url]

/-- Three bytes make four characters, and a rest makes one more than it has bytes. -/
theorem length_base64url (bytes : List UInt8) :
    (base64url bytes).length = (4 * bytes.length + 2) / 3 := by
  induction bytes using base64url.induct with
  | case1 a b c rest ih =>
      simp only [base64url, List.length_cons, ih]
      omega
  | case2 a b => simp [base64url]
  | case3 a => simp [base64url]
  | case4 => simp [base64url]

theorem length_generateDepositMemo (randomBytes : Vector UInt8 18) :
    (generateDepositMemo randomBytes).length = 24 := by
  rw [generateDepositMemo, length_base64url, Vector.length_toList]

theorem byteLength_of_memoChars {text : Text} (h : ∀ c ∈ text, isMemoChar c = true) :
    byteLength text = text.length := by
  have hsizes : text.map Char.utf8Size = text.map fun _ => 1 := by
    refine List.map_congr_left fun c hc => ?_
    have hchar := h c hc
    simp only [isMemoChar, Bool.and_eq_true, decide_eq_true_eq] at hchar
    exact hchar.1.1
  rw [byteLength, hsizes, List.map_const', List.sum_replicate_nat, Nat.mul_one]

/-- **Every generated memo is valid.** -/
theorem validate_generateDepositMemo (randomBytes : Vector UInt8 18) :
    validateDepositMemo (some (generateDepositMemo randomBytes)) =
      .valid (generateDepositMemo randomBytes) := by
  have hchars := base64url_memoChars randomBytes.toList
  have hlength := length_generateDepositMemo randomBytes
  have hbytes := byteLength_of_memoChars hchars
  rw [← generateDepositMemo] at hchars hbytes
  generalize generateDepositMemo randomBytes = memo at hchars hlength hbytes ⊢
  have hblank : isBlank memo = false := by
    obtain ⟨c, rest, rfl⟩ := List.exists_cons_of_length_pos (l := memo) (by omega)
    have hchar := hchars c List.mem_cons_self
    simp only [isMemoChar, Bool.and_eq_true, Bool.not_eq_true'] at hchar
    simp [isBlank, hchar.1.2]
  have hcontrol : memo.any isControl = false := by
    refine List.any_eq_false.mpr fun c hc => ?_
    have hchar := hchars c hc
    simp only [isMemoChar, Bool.and_eq_true, Bool.not_eq_true'] at hchar
    simp [hchar.2]
  have hshort : ¬ 28 < byteLength memo := by omega
  simp [validateDepositMemo, hblank, hcontrol, hshort]

end BrandBlitz.Deposit

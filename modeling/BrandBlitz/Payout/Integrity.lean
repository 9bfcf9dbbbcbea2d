import Mathlib.Data.List.Basic
import BrandBlitz.Deposit.Webhook
import BrandBlitz.Paging.Cursor
import BrandBlitz.Payout.Process
import BrandBlitz.Sessions.Answer

/-!
# BrandBlitz.Payout.Integrity

**The integrity check of a payout**: `apps/api/src/lib/integrity.ts`, and the loop of
`processPayout` that calls it.

* The answer route and the payout are configured alike: one key and one time zone (`IntegrityDeps`).
* `completed_at` is stored to the microsecond. The driver makes a `Date` of it, which holds
  milliseconds, and the template prints the `Date`, to the second.
* What the repository does not have is a parameter with what is documented of it: the digest, and
  the text of a `Date`.
-/

namespace BrandBlitz.Payout

open BrandBlitz.Lib
open BrandBlitz.Deposit (hexBytes)
open BrandBlitz.Paging (Timestamp)
open BrandBlitz.Sessions (GameSession)

/-! ### The text of a UUID -/

/-- The last digits of a number, in hexadecimal. -/
def hexDigits : (width : Nat) → Nat → Text
  | 0, _ => []
  | width + 1, n => hexDigits width (n / 16) ++ [Nat.digitChar (n % 16)]

/-- A UUID as the database prints it. -/
def uuidText (id : BitVec 128) : Text :=
  hexDigits 8 (id.toNat / 16 ^ 24) ++ '-' :: (hexDigits 4 (id.toNat / 16 ^ 20) ++
    '-' :: (hexDigits 4 (id.toNat / 16 ^ 16) ++ '-' :: (hexDigits 4 (id.toNat / 16 ^ 12) ++
      '-' :: hexDigits 12 id.toNat)))

theorem length_hexDigits (width n : Nat) : (hexDigits width n).length = width := by
  induction width generalizing n with
  | zero => rfl
  | succ width ih => simp [hexDigits, ih]

theorem digitChar_ne_colon {d : Nat} (h : d < 16) : Nat.digitChar d ≠ ':' := by
  revert d
  decide

theorem colon_not_mem_hexDigits (width n : Nat) : ':' ∉ hexDigits width n := by
  induction width generalizing n with
  | zero => simp [hexDigits]
  | succ width ih =>
      simp only [hexDigits, List.mem_append, List.mem_singleton, not_or]
      exact ⟨ih _, (digitChar_ne_colon (Nat.mod_lt n (by decide))).symm⟩

theorem colon_not_mem_uuidText (id : BitVec 128) : ':' ∉ uuidText id := by
  simp [uuidText, colon_not_mem_hexDigits]

theorem digitChar_inj {d e : Nat} (hd : d < 16) (he : e < 16)
    (h : Nat.digitChar d = Nat.digitChar e) : d = e := by
  have hall : ∀ d < 16, ∀ e < 16, Nat.digitChar d = Nat.digitChar e → d = e := by decide
  exact hall d hd e he h

/-- So many digits tell so much of a number. -/
theorem mod_eq_of_hexDigits_eq {width m n : Nat} (h : hexDigits width m = hexDigits width n) :
    m % 16 ^ width = n % 16 ^ width := by
  induction width generalizing m n with
  | zero => simp [Nat.mod_one]
  | succ width ih =>
      obtain ⟨hhigh, hlow⟩ := List.append_inj' h rfl
      have hdigit : m % 16 = n % 16 :=
        digitChar_inj (Nat.mod_lt m (by decide)) (Nat.mod_lt n (by decide))
          (List.singleton_inj.mp hlow)
      rw [Nat.pow_succ', Nat.mod_mul, Nat.mod_mul, hdigit, ih hhigh]

/-- The digits before the last ones. -/
theorem mod_pow_add {width more m n : Nat} (hlow : m % 16 ^ width = n % 16 ^ width)
    (hhigh : m / 16 ^ width % 16 ^ more = n / 16 ^ width % 16 ^ more) :
    m % 16 ^ (width + more) = n % 16 ^ (width + more) := by
  rw [Nat.pow_add, Nat.mod_mul, Nat.mod_mul, hlow, hhigh]

theorem uuidText_injective : Function.Injective uuidText := by
  intro a b h
  have hsplit : ∀ {width m n : Nat} {rest rest' : Text},
      hexDigits width m ++ '-' :: rest = hexDigits width n ++ '-' :: rest' →
        m % 16 ^ width = n % 16 ^ width ∧ rest = rest' := by
    intro width m n rest rest' h
    obtain ⟨hdigits, hrest⟩ := List.append_inj h (by rw [length_hexDigits, length_hexDigits])
    exact ⟨mod_eq_of_hexDigits_eq hdigits, (List.cons_inj_right _).mp hrest⟩
  obtain ⟨h₁, h⟩ := hsplit h
  obtain ⟨h₂, h⟩ := hsplit h
  obtain ⟨h₃, h⟩ := hsplit h
  obtain ⟨h₄, h⟩ := hsplit h
  have hmod : a.toNat % 16 ^ (12 + 4 + 4 + 4 + 8) = b.toNat % 16 ^ (12 + 4 + 4 + 4 + 8) :=
    mod_pow_add (mod_pow_add (mod_pow_add (mod_pow_add (mod_eq_of_hexDigits_eq h) h₄) h₃) h₂) h₁
  refine BitVec.eq_of_toNat_eq ?_
  rwa [Nat.mod_eq_of_lt (by simpa using a.isLt), Nat.mod_eq_of_lt (by simpa using b.isLt)] at hmod

/-! ### `lib/integrity.ts` -/

/-- A time that a `Date` can hold. -/
def ValidTime (t : Time) : Prop := -8640000000000000 ≤ t ∧ t ≤ 8640000000000000

instance (t : Time) : Decidable (ValidTime t) := inferInstanceAs (Decidable (_ ∧ _))

structure IntegrityDeps where
  /-- `SESSION_INTEGRITY_KEY`, empty if it is not set -/
  sessionIntegrityKey : Text
  /-- `createHmac("sha256", key).update(text).digest("hex")` -/
  hmacSha256 : Text → Text → Text
  /-- `String(date)`, in the time zone of the processes -/
  dateText : Time → Text
  length_hmacSha256 : ∀ key text, (hmacSha256 key text).length = 64
  dateText_ne_nil : ∀ t, dateText t ≠ []
  /-- the text tells the second, unless it is "Invalid Date" -/
  second_of_dateText : ∀ t t', ValidTime t → dateText t' = dateText t → t' / 1000 = t / 1000

/-- The text that is signed. -/
def signedText (sessionId : Text) (totalScore : Nat) (completedAt : Text) : Text :=
  sessionId ++ ':' :: Nat.toDigits 10 totalScore ++ ':' :: completedAt

section Integrity

variable (deps : IntegrityDeps)

def computeSessionHmac (sessionId : Text) (totalScore : Nat) (completedAt : Text) : Text :=
  if deps.sessionIntegrityKey.isEmpty then []
  else deps.hmacSha256 deps.sessionIntegrityKey (signedText sessionId totalScore completedAt)

/-- `timingSafeEqual` throws if the lengths differ, which makes the answer `false`, too. -/
def verifySessionHmac (sessionId : Text) (totalScore : Nat) (completedAt : Text)
    (storedHmac : Option Text) : Bool :=
  if deps.sessionIntegrityKey.isEmpty || (storedHmac.getD []).isEmpty then true
  else
    let expected := computeSessionHmac deps sessionId totalScore completedAt
    if expected.isEmpty then true else hexBytes expected = hexBytes (storedHmac.getD [])

/-! ### The signer and the payout -/

/-- What the answer route is configured with. The driver makes a `Date` of the column. -/
def IntegrityDeps.routeConfig : Sessions.Config where
  sessionIntegrityKey := deps.sessionIntegrityKey
  hmacSha256 := deps.hmacSha256
  dateText micros := deps.dateText (micros / 1000)

theorem computeSessionHmac_route (sessionId : Text) (totalScore micros : Nat) :
    Sessions.computeSessionHmac deps.routeConfig sessionId totalScore micros =
      computeSessionHmac deps sessionId totalScore (deps.dateText (micros / 1000)) := rfl

/-- A row of `game_sessions` and of its user, as far as the payout reads it. -/
structure SessionRow where
  id : BitVec 128
  userId : UserId
  stellarAddress : Option Text
  totalScore : Nat
  /-- in microseconds -/
  completedAt : Option Timestamp
  createdAt : Time
  integrityHmac : Option Text
deriving DecidableEq, Repr

/-- The row as the driver hands it over. -/
def SessionRow.read (row : SessionRow) : LeaderboardSession where
  id := row.id.toNat
  userId := row.userId
  stellarAddress := row.stellarAddress
  totalScore := row.totalScore
  completedAt := row.completedAt.map (· / 1000)
  createdAt := row.createdAt
  integrityHmac := row.integrityHmac

/-- `${session.completed_at ?? ""}`. -/
def completedAtText (completedAt : Option Time) : Text := completedAt.elim [] deps.dateText

/-- The configuration of `processPayout`. -/
def IntegrityDeps.payoutConfig (sorobanContractId : Bool) : PayoutConfig where
  sorobanContractId := sorobanContractId
  verifySessionHmac session := verifySessionHmac deps (uuidText (BitVec.ofNat 128 session.id))
    session.totalScore (completedAtText deps session.completedAt) session.integrityHmac

end Integrity

/-- The loop over the sessions does not throw. -/
def GoesPast (rest : Service Unit) : Prop := ∀ err, rest ≠ .raise err

theorem goesPast_iff {config : PayoutConfig} {challengeId : Text} {challenge : Challenge}
    {sessions : List LeaderboardSession} :
    GoesPast (afterLeaderboard config challengeId challenge sessions) ↔
      ∀ s ∈ sessions, config.verifySessionHmac s = true := by
  unfold afterLeaderboard
  cases hfind : sessions.find? fun s => !config.verifySessionHmac s with
  | some s =>
      refine iff_of_false (fun h => h _ rfl) fun h => ?_
      have hs := List.mem_of_find?_eq_some hfind
      have hfailed := List.find?_some hfind
      rw [h s hs] at hfailed
      cases hfailed
  | none =>
      refine iff_of_true (fun err h => ?_) fun s hs => ?_
      · dsimp only at h
        split at h
        · cases h
        · cases h
      · simpa using List.find?_eq_none.mp hfind s hs

end BrandBlitz.Payout

import Mathlib.Algebra.Order.Ring.Nat
import BrandBlitz.Stellar.Client

/-!
# BrandBlitz.Sessions.Scoring

**The score of one answer** (`apps/api/src/services/scoring.ts`): a hundred points for the
correct option, and up to fifty for speed. The speed bonus is computed in doubles,
`Math.floor((timeLeft / ROUND_DURATION_MS) * MAX_SPEED_BONUS)`, so it is a quotient and a
product that are rounded to 53 significant bits each. Whatever they are rounded to, every
score passes `validateRoundScore`.
-/

namespace BrandBlitz.Sessions

/-! ### Doubles -/

/-- The integer nearest to a quotient, the even one of two. -/
def roundDiv (a b : Nat) : Nat :=
  let quotient := a / b
  let rest := a % b
  if b < 2 * rest || (2 * rest = b && quotient % 2 = 1) then quotient + 1 else quotient

/-- A non-negative double `mantissa / 2 ^ scale`. -/
structure Double where
  mantissa : Nat
  scale : Nat
deriving DecidableEq, Repr

/-- How far `a / b` has to be scaled up to have 53 bits before the point. -/
def Double.scaleOf (a b : Nat) : Nat :=
  let scale := 53 + b.log2 - a.log2
  if b * 2 ^ 53 ≤ a * 2 ^ scale then scale - 1 else scale

/-- The double nearest to `a / b`, for a quotient that is zero or between the smallest
normal double and `2 ^ 53`. -/
def Double.ofRatio (a b : Nat) : Double :=
  if a = 0 then ⟨0, 0⟩
  else ⟨roundDiv (a * 2 ^ scaleOf a b) b, scaleOf a b⟩

/-- The product with an integer, rounded. -/
def Double.mulNat (x : Double) (n : Nat) : Double := ofRatio (x.mantissa * n) (2 ^ x.scale)

/-- `Math.floor`. -/
def Double.floor (x : Double) : Nat := x.mantissa / 2 ^ x.scale

/-! ### Scores -/

/-- `"A" | "B" | "C" | "D"`. -/
inductive Choice where
  | A | B | C | D
deriving DecidableEq, Repr

def BASE_POINTS : Nat := 100

def MAX_SPEED_BONUS : Nat := 50

def ROUND_DURATION_MS : Nat := 15000

def MAX_ROUND_SCORE : Nat := BASE_POINTS + MAX_SPEED_BONUS

def MAX_TOTAL_SCORE : Nat := MAX_ROUND_SCORE * 3

/-- The bonus for the time that is left. -/
def speedBonus (reactionTimeMs : Nat) : Nat :=
  ((Double.ofRatio (ROUND_DURATION_MS - reactionTimeMs) ROUND_DURATION_MS).mulNat
    MAX_SPEED_BONUS).floor

def calculateRoundScore (selectedOption : Option Choice) (correctOption : Choice)
    (reactionTimeMs : Nat) : Nat :=
  if selectedOption ≠ some correctOption then 0
  else BASE_POINTS + speedBonus reactionTimeMs

structure ScoreValidationError where
  code : String
  message : String
  score : Nat

/-- The range check of a score, which is an integer that is not negative. `none` stands for
`{ valid: true }`. -/
def validateScore (kind code : String) (limit score : Nat) : Option ScoreValidationError :=
  if limit < score then
    some ⟨code, s!"{kind} score {score} is outside valid range [0, {limit}]", score⟩
  else none

def validateRoundScore : Nat → Option ScoreValidationError :=
  validateScore "Round" "ROUND_SCORE_OUT_OF_RANGE" MAX_ROUND_SCORE

def validateTotalScore : Nat → Option ScoreValidationError :=
  validateScore "Total" "TOTAL_SCORE_OUT_OF_RANGE" MAX_TOTAL_SCORE

/-- `validateAnswer`. -/
def validateAnswer (correctOption : Choice) (selectedOption : Option Choice) : Bool :=
  selectedOption = some correctOption

/-! ### Bounds -/

/-- Rounding does not pass an integer. -/
theorem roundDiv_le {a b n : Nat} (hb : 0 < b) (h : a ≤ n * b) : roundDiv a b ≤ n := by
  have hdiv : a / b ≤ n := Nat.div_le_of_le_mul (by rwa [Nat.mul_comm])
  have hmod := Nat.div_add_mod a b
  unfold roundDiv
  dsimp only
  split
  · rename_i hup
    -- a positive rest is left, so the quotient is smaller than `n`
    have hrest : 0 < a % b := by
      simp only [Bool.or_eq_true, decide_eq_true_eq, Bool.and_eq_true] at hup
      omega
    rcases Nat.lt_or_eq_of_le hdiv with hlt | heq
    · exact hlt
    · rw [heq, Nat.mul_comm] at hmod
      omega
  · exact hdiv

/-- So a ratio of at most `n` is rounded to at most `n`. -/
theorem Double.ofRatio_le {a b n : Nat} (hb : 0 < b) (h : a ≤ n * b) :
    (ofRatio a b).mantissa ≤ n * 2 ^ (ofRatio a b).scale := by
  unfold ofRatio
  split
  · exact Nat.zero_le _
  · refine roundDiv_le hb ?_
    calc a * 2 ^ scaleOf a b ≤ n * b * 2 ^ scaleOf a b := Nat.mul_le_mul_right _ h
      _ = n * 2 ^ scaleOf a b * b := by rw [Nat.mul_right_comm]

theorem speedBonus_le (reactionTimeMs : Nat) : speedBonus reactionTimeMs ≤ MAX_SPEED_BONUS := by
  let ratio := Double.ofRatio (ROUND_DURATION_MS - reactionTimeMs) ROUND_DURATION_MS
  have hratio : ratio.mantissa ≤ 1 * 2 ^ ratio.scale :=
    Double.ofRatio_le (by decide) (by omega)
  have hproduct : ratio.mantissa * MAX_SPEED_BONUS ≤ MAX_SPEED_BONUS * 2 ^ ratio.scale := by
    rw [Nat.mul_comm]
    exact Nat.mul_le_mul_left _ (by rwa [Nat.one_mul] at hratio)
  have hbonus : (ratio.mulNat MAX_SPEED_BONUS).mantissa ≤
      MAX_SPEED_BONUS * 2 ^ (ratio.mulNat MAX_SPEED_BONUS).scale :=
    Double.ofRatio_le (Nat.two_pow_pos _) hproduct
  exact Nat.div_le_of_le_mul (by rwa [Nat.mul_comm] at hbonus)

theorem calculateRoundScore_le (selectedOption : Option Choice) (correctOption : Choice)
    (reactionTimeMs : Nat) :
    calculateRoundScore selectedOption correctOption reactionTimeMs ≤ MAX_ROUND_SCORE := by
  have hbonus := speedBonus_le reactionTimeMs
  unfold calculateRoundScore
  split
  · exact Nat.zero_le _
  · exact Nat.add_le_add_left hbonus _

theorem validateScore_eq_none {kind code : String} {limit score : Nat} (h : score ≤ limit) :
    validateScore kind code limit score = none :=
  if_neg (Nat.not_lt.mpr h)

/-- Every score passes its check. -/
theorem validateRoundScore_calculateRoundScore (selectedOption : Option Choice)
    (correctOption : Choice) (reactionTimeMs : Nat) :
    validateRoundScore (calculateRoundScore selectedOption correctOption reactionTimeMs) =
      none :=
  validateScore_eq_none (calculateRoundScore_le selectedOption correctOption reactionTimeMs)

example : calculateRoundScore (some .A) .A 0 = 150 := by decide +kernel

end BrandBlitz.Sessions

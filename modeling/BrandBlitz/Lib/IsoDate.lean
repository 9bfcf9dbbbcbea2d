import BrandBlitz.Lib.JsDate
import BrandBlitz.Lib.NumberText
import Mathlib.Data.List.Induction

/-!
# BrandBlitz.Lib.IsoDate

**Dates as texts**, as `toISOString` writes them in UTC. The years from 0 to 9999 have four digits,
other years a sign and six. The first ten characters are the date of a year with four digits
(`take_toISOString`), which is read back (`parseDay_isoDay`) and is the only text that is
(`isoDay_of_parseDay`); of another year they are the sign, the year and the month.
-/

namespace BrandBlitz.Lib.IsoDate

open BrandBlitz.Lib.Calendar BrandBlitz.Lib.JsDate BrandBlitz.Lib.NumberText

/-! ### Writing -/

/-- `String(n).padStart(width, "0")`. -/
def digits (width n : Nat) : List Char := (Nat.toDigits 10 n).leftpad width '0'

def FourDigits (year : Int) : Prop := 0 ≤ year ∧ year ≤ 9999

instance (year : Int) : Decidable (FourDigits year) := inferInstanceAs (Decidable (_ ∧ _))

def isoYear (year : Int) : List Char :=
  if FourDigits year then digits 4 year.toNat
  else (if year < 0 then '-' else '+') :: digits 6 year.natAbs

/-- The date of a day. -/
def isoDay (d : Int) : List Char :=
  isoYear (yearOf d) ++ '-' :: (digits 2 (monthOf d % 12 + 1).toNat ++
    '-' :: digits 2 (d - monthStart (monthOf d) + 1).toNat)

/-- The time of a day, in milliseconds. -/
def isoTime (ms : Nat) : List Char :=
  digits 2 (ms / 3600000) ++ ':' :: (digits 2 (ms / 60000 % 60) ++
    ':' :: (digits 2 (ms / 1000 % 60) ++ '.' :: digits 3 (ms % 1000)))

/-- `date.toISOString()`, of a valid date. -/
def toISOString (t : Int) : List Char :=
  isoDay (dayOf t) ++ 'T' :: (isoTime (t % msPerDay).toNat ++ ['Z'])

/-! ### Reading -/

/-- The day of a year, a month from 1 on and a day of the month, if there is one. -/
def dayOfDate (year : Int) (month date : Nat) : Option Int :=
  let n : Int := 12 * year + (month - 1 : Int)
  let d := monthStart n + date - 1
  if 1 ≤ month ∧ month ≤ 12 ∧ 1 ≤ date ∧ d < monthStart (n + 1) then some d else none

/-- The day of a text `YYYY-MM-DD`. -/
def parseDay : List Char → Option Int
  | [y₁, y₂, y₃, y₄, '-', m₁, m₂, '-', d₁, d₂] =>
    if [y₁, y₂, y₃, y₄, m₁, m₂, d₁, d₂].all (·.isDigit) then
      dayOfDate (Nat.ofDigitChars 10 [y₁, y₂, y₃, y₄] 0) (Nat.ofDigitChars 10 [m₁, m₂] 0)
        (Nat.ofDigitChars 10 [d₁, d₂] 0)
    else none
  | _ => none

/-- The first day of the month of a text `±YYYYYY-MM`. The year 0 is not written with a minus. -/
def parseSignedMonth : List Char → Option Int
  | [sign, y₁, y₂, y₃, y₄, y₅, y₆, '-', m₁, m₂] =>
    let year := Nat.ofDigitChars 10 [y₁, y₂, y₃, y₄, y₅, y₆] 0
    let month := Nat.ofDigitChars 10 [m₁, m₂] 0
    if [y₁, y₂, y₃, y₄, y₅, y₆, m₁, m₂].all (·.isDigit) then
      if sign = '+' then dayOfDate year month 1
      else if sign = '-' ∧ year ≠ 0 then dayOfDate (-year) month 1
      else none
    else none
  | _ => none

/-- `Date.parse` of the first ten characters of a date with `T00:00:00.000Z` after them. -/
def dateParse (text : List Char) : Option Int :=
  (parseDay text <|> parseSignedMonth text).bind midnight

/-! ### Digits -/

section

variable {width n : Nat}

theorem isDigit_of_mem {c : Char} (h : c ∈ digits width n) : c.isDigit = true := by
  rw [digits, List.leftpad, List.mem_append, List.mem_replicate] at h
  rcases h with ⟨-, rfl⟩ | h
  · decide
  · exact isDigit_of_mem_digits h

theorem length_digits (width : Nat) (hwidth : 0 < width) (hn : n < 10 ^ width) :
    (digits width n).length = width := by
  have hle := (Nat.length_toDigits_le_iff (by decide) hwidth).mpr hn
  rw [digits, List.length_leftpad]
  omega

@[simp] theorem ofDigitChars_digits : Nat.ofDigitChars 10 (digits width n) 0 = n := by
  rw [digits, List.leftpad, Nat.ofDigitChars_append, Nat.ofDigitChars_replicate_zero, Nat.mul_zero,
    Nat.ofDigitChars_ten_toDigits]

@[simp] theorem toNumber_digits : toNumber (digits width n) = some (n : Int) := by
  have hdigits : (digits width n).all (·.isDigit) = true :=
    List.all_eq_true.mpr fun _ hc => isDigit_of_mem hc
  rw [toNumber, if_pos hdigits, ofDigitChars_digits]

theorem exists_digitChar {c : Char} (h : c.isDigit = true) : ∃ d, d < 10 ∧ d.digitChar = c := by
  have hchar : ∀ d, d < 10 → d.digitChar.toNat = d + 48 := by decide
  obtain ⟨hlow, hhigh⟩ := isDigit_range h
  refine ⟨c.toNat - 48, by omega, Char.toNat_inj.mp ?_⟩
  rw [hchar _ (by omega)]
  omega

theorem digits_succ (hwidth : 0 < width) {d : Nat} (hd : d < 10) :
    digits (width + 1) (10 * n + d) = digits width n ++ [d.digitChar] := by
  rcases Nat.eq_zero_or_pos n with rfl | hn
  · obtain ⟨k, rfl⟩ := Nat.exists_eq_succ_of_ne_zero hwidth.ne'
    have hzeros : digits (k + 1) 0 = List.replicate (k + 1) '0' := by
      rw [List.replicate_succ']
      rfl
    rw [hzeros, digits, Nat.mul_zero, Nat.zero_add, Nat.toDigits_of_lt_base hd]
    rfl
  · have happend : Nat.toDigits 10 (10 * n + d) = Nat.toDigits 10 n ++ [d.digitChar] := by
      rw [← Nat.toDigits_append_toDigits (by decide) hn hd, Nat.toDigits_of_lt_base hd]
    rw [digits, digits, happend, List.leftpad, List.leftpad, List.append_assoc,
      List.length_append, List.length_singleton, Nat.add_sub_add_right]

/-- A text of digits is written again. -/
theorem digits_ofDigitChars (width : Nat) (hwidth : 0 < width) {cs : List Char}
    (hlength : cs.length = width) (hcs : ∀ c ∈ cs, c.isDigit = true) :
    digits width (Nat.ofDigitChars 10 cs 0) = cs := by
  subst hlength
  induction cs using List.reverseRecOn with
  | nil => exact absurd hwidth (by decide)
  | append_singleton cs c ih =>
      obtain ⟨d, hd, rfl⟩ := exists_digitChar (hcs c (by simp))
      rw [Nat.ofDigitChars_append, Nat.ofDigitChars_cons_digitChar_of_lt_ten hd,
        Nat.ofDigitChars_nil, List.length_append, List.length_singleton]
      rcases Nat.eq_zero_or_pos cs.length with hnil | hpos
      · obtain rfl := List.length_eq_zero_iff.mp hnil
        rw [Nat.ofDigitChars_nil, Nat.mul_zero, Nat.zero_add, digits, Nat.toDigits_of_lt_base hd]
        rfl
      · rw [digits_succ hpos hd, ih (fun c hc => hcs c (List.mem_append_left _ hc)) hpos]

theorem ofDigitChars_lt (width : Nat) (hwidth : 0 < width) {cs : List Char}
    (hlength : cs.length = width) (hcs : ∀ c ∈ cs, c.isDigit = true) :
    Nat.ofDigitChars 10 cs 0 < 10 ^ width := by
  have htext := congrArg List.length (digits_ofDigitChars width hwidth hlength hcs)
  rw [digits, List.length_leftpad, hlength] at htext
  exact (Nat.length_toDigits_le_iff (by decide) hwidth).mp (by omega)

theorem digits_two (hn : n < 100) : ∃ c₁ c₂, digits 2 n = [c₁, c₂] := by
  match digits 2 n, length_digits 2 (by decide) hn with
  | [c₁, c₂], _ => exact ⟨c₁, c₂, rfl⟩

theorem digits_four (hn : n < 10000) : ∃ c₁ c₂ c₃ c₄, digits 4 n = [c₁, c₂, c₃, c₄] := by
  match digits 4 n, length_digits 4 (by decide) hn with
  | [c₁, c₂, c₃, c₄], _ => exact ⟨c₁, c₂, c₃, c₄, rfl⟩

end

/-! ### Dates -/

section

variable {d : Int}

theorem month_range (d : Int) : 0 ≤ monthOf d % 12 ∧ monthOf d % 12 < 12 := by omega

theorem date_range (d : Int) :
    1 ≤ d - monthStart (monthOf d) + 1 ∧ d - monthStart (monthOf d) + 1 ≤ 31 := by
  have hmonth := monthOf_spec d
  have hlength := (monthStart_succ (monthOf d)).2
  omega

theorem dayOfDate_of_day (d : Int) :
    dayOfDate (yearOf d) (monthOf d % 12 + 1).toNat
      (d - monthStart (monthOf d) + 1).toNat = some d := by
  have hmonth := month_range d
  have hdate := date_range d
  have hspec := monthOf_spec d
  have hnumber : 12 * yearOf d + (((monthOf d % 12 + 1).toNat : Int) - 1) = monthOf d := by
    rw [Int.toNat_of_nonneg (by omega), ← monthOf_div]
    omega
  unfold dayOfDate
  simp only
  rw [hnumber, Int.toNat_of_nonneg (by omega : 0 ≤ d - monthStart (monthOf d) + 1),
    if_pos (by omega)]
  congr 1
  omega

/-- **A date with four digits for the year is read back.** -/
theorem parseDay_isoDay (h : FourDigits (yearOf d)) : parseDay (isoDay d) = some d := by
  have hmonth := month_range d
  have hdate := date_range d
  have hyear : (yearOf d).toNat < 10000 := by
    have := h.2
    omega
  obtain ⟨y₁, y₂, y₃, y₄, hy⟩ := digits_four hyear
  obtain ⟨m₁, m₂, hm⟩ := digits_two (n := (monthOf d % 12 + 1).toNat) (by omega)
  obtain ⟨d₁, d₂, hd⟩ := digits_two (n := (d - monthStart (monthOf d) + 1).toNat) (by omega)
  have hdigits : [y₁, y₂, y₃, y₄, m₁, m₂, d₁, d₂].all (·.isDigit) = true := by
    have hall : ∀ c ∈ [y₁, y₂, y₃, y₄] ++ ([m₁, m₂] ++ [d₁, d₂]), c.isDigit = true := by
      rw [← hy, ← hm, ← hd]
      intro c hc
      rcases List.mem_append.mp hc with hc | hc
      · exact isDigit_of_mem hc
      · rcases List.mem_append.mp hc with hc | hc
        · exact isDigit_of_mem hc
        · exact isDigit_of_mem hc
    exact List.all_eq_true.mpr hall
  rw [isoDay, isoYear, if_pos h, hy, hm, hd]
  show (if [y₁, y₂, y₃, y₄, m₁, m₂, d₁, d₂].all (·.isDigit) = true then _ else none) = some d
  rw [if_pos hdigits, ← hy, ← hm, ← hd, ofDigitChars_digits, ofDigitChars_digits,
    ofDigitChars_digits, Int.toNat_of_nonneg h.1]
  exact dayOfDate_of_day d

/-- The fields of a date, without the hyphens. -/
theorem splitOn_isoDay (h : FourDigits (yearOf d)) :
    (isoDay d).splitOn '-' = [digits 4 (yearOf d).toNat, digits 2 (monthOf d % 12 + 1).toNat,
      digits 2 (d - monthStart (monthOf d) + 1).toNat] := by
  have hfields : isoDay d = ['-'].intercalate [digits 4 (yearOf d).toNat,
      digits 2 (monthOf d % 12 + 1).toNat, digits 2 (d - monthStart (monthOf d) + 1).toNat] := by
    rw [isoDay, isoYear, if_pos h]
    simp [List.intercalate]
  have hhyphen (width n : Nat) : '-' ∉ digits width n := fun hmem =>
    absurd (isDigit_of_mem hmem) (by decide)
  rw [hfields]
  refine List.splitOn_intercalate '-' ?_ (by simp)
  simp [hhyphen]

/-- The month and the day of the month decide the day. -/
theorem fields_of_dayOfDate {year : Int} {month date : Nat}
    (h : dayOfDate year month date = some d) :
    yearOf d = year ∧ monthOf d % 12 + 1 = month ∧ d - monthStart (monthOf d) + 1 = date := by
  unfold dayOfDate at h
  simp only [Option.ite_none_right_eq_some, Option.some.injEq] at h
  obtain ⟨⟨hfirst, hlast, hdate, hnext⟩, rfl⟩ := h
  have hmonth : monthOf (monthStart (12 * year + (month - 1)) + date - 1) =
      12 * year + (month - 1) := months.of_eq_iff.mpr ⟨by show monthStart _ ≤ _; omega, hnext⟩
  have hyear := monthOf_div (monthStart (12 * year + (month - 1)) + date - 1)
  rw [hmonth] at hyear ⊢
  omega

/-- A text that is read is the date of its day. -/
theorem isoDay_of_parseDay {text : List Char} (h : parseDay text = some d) : isoDay d = text := by
  unfold parseDay at h
  split at h
  next y₁ y₂ y₃ y₄ m₁ m₂ d₁ d₂ =>
    simp only [Option.ite_none_right_eq_some] at h
    obtain ⟨hdigits, hday⟩ := h
    have hall : ∀ c ∈ [y₁, y₂, y₃, y₄] ++ ([m₁, m₂] ++ [d₁, d₂]), c.isDigit = true :=
      List.all_eq_true.mp hdigits
    have hyears := fun c hc => hall c (List.mem_append_left _ hc)
    have hmonths := fun c hc => hall c (List.mem_append_right _ (List.mem_append_left _ hc))
    have hdates := fun c hc => hall c (List.mem_append_right _ (List.mem_append_right _ hc))
    obtain ⟨hyear, hmonth, hdate⟩ := fields_of_dayOfDate hday
    have hfour : FourDigits (yearOf d) := by
      have hlt := ofDigitChars_lt 4 (by decide) rfl hyears
      unfold FourDigits
      omega
    rw [isoDay, isoYear, if_pos hfour, hyear, hmonth, hdate, Int.toNat_natCast, Int.toNat_natCast,
      Int.toNat_natCast, digits_ofDigitChars 4 (by decide) rfl hyears,
      digits_ofDigitChars 2 (by decide) rfl hmonths, digits_ofDigitChars 2 (by decide) rfl hdates]
    rfl
  next => cases h

/-- Such a date is no more than a hundred million days from the epoch. -/
theorem midnight_fourDigits (h : FourDigits (yearOf d)) : midnight d = some (d * msPerDay) := by
  have hspec := yearOf_spec d
  have hyear := yearStart_bounds (yearOf d)
  have hnext := yearStart_bounds (yearOf d + 1)
  unfold FourDigits at h
  rw [midnight_eq, maxDay, if_pos (by omega)]

theorem length_isoDay (h : FourDigits (yearOf d)) : (isoDay d).length = 10 := by
  have hmonth := month_range d
  have hdate := date_range d
  have hyear := h.2
  rw [isoDay, isoYear, if_pos h, List.length_append, List.length_cons, List.length_append,
    List.length_cons, length_digits 4 (by decide) (by omega),
    length_digits 2 (by decide) (by omega), length_digits 2 (by decide) (by omega)]

theorem take_toISOString {t : Int} (h : FourDigits (yearOf (dayOf t))) :
    (toISOString t).take 10 = isoDay (dayOf t) := by
  rw [toISOString, ← length_isoDay h, List.take_left]

theorem dateParse_take_toISOString {t : Int} (h : FourDigits (yearOf (dayOf t))) :
    dateParse ((toISOString t).take 10) = some (dayOf t * msPerDay) := by
  rw [dateParse, take_toISOString h, parseDay_isoDay h]
  exact midnight_fourDigits h

/-- The text of another year begins with its sign, and is no date. -/
theorem parseDay_take_toISOString {t : Int} (h : ¬ FourDigits (yearOf (dayOf t))) :
    parseDay ((toISOString t).take 10) = none := by
  obtain ⟨sign, rest, htext, hsign⟩ : ∃ sign rest, (toISOString t).take 10 = sign :: rest ∧
      Char.isDigit sign = false := by
    rw [toISOString, isoDay, isoYear, if_neg h]
    refine ⟨_, _, rfl, ?_⟩
    split
    · rfl
    · rfl
  rw [htext]
  unfold parseDay
  split
  next y₁ y₂ y₃ y₄ m₁ m₂ d₁ d₂ heq =>
    obtain ⟨rfl, -⟩ := List.cons.inj heq
    simp [hsign]
  next => rfl

end

example : toISOString 1764547199999 = "2025-11-30T23:59:59.999Z".toList := by decide

example : (toISOString 253402300800000).take 10 = "+010000-01".toList := by decide

end BrandBlitz.Lib.IsoDate

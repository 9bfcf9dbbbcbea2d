import BrandBlitz.Lib.Calendar

/-!
# BrandBlitz.Lib.SqlExpr

**SQL expressions.** A statement is analysed before it runs: each expression is given a type, and
each operator is looked up by the types of its operands. An expression as it is written (`Expr`)
becomes one whose operators exist and whose types fit (`Term`), or the statement fails. Only the
latter has values.

* What is analysed is what is written (`analyze_erase`): a term comes of exactly one expression.
* Of the operators on the types that are here, `||` has all, the others have the ones in use.
* The session's time zone is UTC. Times are in milliseconds, and those of the database reach
  from the Julian day 0 to the end of the year 294276.
-/

namespace BrandBlitz.Lib.SqlExpr

open BrandBlitz.Lib.Calendar

/-! ### Types and values -/

inductive SqlType where
  | boolean | integer | text | interval | timestamptz
deriving DecidableEq, Repr

def SqlType.name : SqlType → String
  | .boolean => "boolean"
  | .integer => "integer"
  | .text => "text"
  | .interval => "interval"
  | .timestamptz => "timestamp with time zone"

/-- The parts of an interval are kept apart. -/
structure Interval where
  months : Int
  days : Int
  ms : Int
deriving DecidableEq, Repr

abbrev SqlType.Val : SqlType → Type
  | .boolean => Bool
  | .integer => Int
  | .text => List Char
  | .interval => Interval
  | .timestamptz => Int

instance : (a : SqlType) → DecidableEq a.Val
  | .boolean => inferInstanceAs (DecidableEq Bool)
  | .integer => inferInstanceAs (DecidableEq Int)
  | .text => inferInstanceAs (DecidableEq (List Char))
  | .interval => inferInstanceAs (DecidableEq Interval)
  | .timestamptz => inferInstanceAs (DecidableEq Int)

/-! ### Operators -/

inductive Operator where
  | equal | plus | times | concat
deriving DecidableEq, Repr

def Operator.symbol : Operator → String
  | .equal => "="
  | .plus => "+"
  | .times => "*"
  | .concat => "||"

/-- The operators that exist, with the types of their operands and of their result. -/
inductive Op : SqlType → SqlType → SqlType → Type where
  | equal {a : SqlType} : Op a a .boolean
  | addInterval : Op .timestamptz .interval .timestamptz
  /-- of `double precision`, which an integer is taken for -/
  | mulInterval : Op .integer .interval .interval
  /-- A text is put together with a text, or with a value of another type as a text. -/
  | concat {a b : SqlType} (h : a = .text ∨ b = .text) : Op a b .text

def Op.operator {a b r : SqlType} : Op a b r → Operator
  | .equal => .equal
  | .addInterval => .plus
  | .mulInterval => .times
  | .concat _ => .concat

/-- The operator of a name, by the types of its operands. -/
def Operator.resolve (op : Operator) (a b : SqlType) : Option (Σ r, Op a b r) :=
  match op with
  | .equal => if h : b = a then some ⟨.boolean, h ▸ .equal⟩ else none
  | .plus =>
    match a, b with
    | .timestamptz, .interval => some ⟨.timestamptz, .addInterval⟩
    | _, _ => none
  | .times =>
    match a, b with
    | .integer, .interval => some ⟨.interval, .mulInterval⟩
    | _, _ => none
  | .concat => if h : a = .text ∨ b = .text then some ⟨.text, .concat h⟩ else none

theorem Op.resolve_operator {a b r : SqlType} (op : Op a b r) :
    op.operator.resolve a b = some ⟨r, op⟩ := by
  cases op with
  | equal => simp [operator, Operator.resolve]
  | addInterval => rfl
  | mulInterval => rfl
  | concat h => simp [operator, Operator.resolve, h]

/-! ### Expressions and terms -/

inductive SqlError where
  | undefinedOperator (op : Operator) (a b : SqlType)
  | undefinedDateTrunc (a : SqlType)
  | whenNotBoolean (a : SqlType)
  | caseMismatch (a b : SqlType)
  /-- An expression is not of the type that it is used at. -/
  | wrongType (expected actual : SqlType)
  | timestampOutOfRange
deriving DecidableEq, Repr

def SqlError.message : SqlError → String
  | .undefinedOperator op a b =>
    "operator does not exist: " ++ a.name ++ " " ++ op.symbol ++ " " ++ b.name
  | .undefinedDateTrunc a => "function date_trunc(unknown, " ++ a.name ++ ") does not exist"
  | .whenNotBoolean a => "argument of CASE/WHEN must be type boolean, not type " ++ a.name
  | .caseMismatch a b => "CASE types " ++ b.name ++ " and " ++ a.name ++ " cannot be matched"
  | .wrongType a b => "expression is of type " ++ b.name ++ ", not of type " ++ a.name
  | .timestampOutOfRange => "timestamp out of range"

def SqlError.code : SqlError → String
  | .undefinedOperator _ _ _ | .undefinedDateTrunc _ => "42883"
  | .whenNotBoolean _ | .caseMismatch _ _ | .wrongType _ _ => "42804"
  | .timestampOutOfRange => "22008"

inductive TruncField where
  | day | week | month
deriving DecidableEq, Repr

variable {Column : Type}

/-- An expression as it is written. -/
inductive Expr (Column : Type) where
  | column (c : Column)
  | literal (a : SqlType) (v : a.Val)
  /-- `NOW()` -/
  | now
  | dateTrunc (field : TruncField) (e : Expr Column)
  | binary (op : Operator) (e f : Expr Column)
  /-- `CASE WHEN c THEN e ELSE f END` -/
  | caseWhen (c e f : Expr Column)

/-- An expression of a type. -/
inductive Term (columns : Column → SqlType) : SqlType → Type where
  | column (c : Column) : Term columns (columns c)
  | literal (a : SqlType) (v : a.Val) : Term columns a
  | now : Term columns .timestamptz
  | dateTrunc (field : TruncField) (t : Term columns .timestamptz) : Term columns .timestamptz
  | binary {a b r : SqlType} (op : Op a b r) (t : Term columns a) (u : Term columns b) :
      Term columns r
  | caseWhen {a : SqlType} (c : Term columns .boolean) (t u : Term columns a) : Term columns a

variable {columns : Column → SqlType}

def Expr.analyze (columns : Column → SqlType) :
    Expr Column → Except SqlError (Σ a, Term columns a)
  | .column c => .ok ⟨columns c, .column c⟩
  | .literal a v => .ok ⟨a, .literal a v⟩
  | .now => .ok ⟨.timestamptz, .now⟩
  | .dateTrunc field e => do
    let ⟨a, t⟩ ← e.analyze columns
    if h : a = .timestamptz then .ok ⟨.timestamptz, .dateTrunc field (h ▸ t)⟩
    else .error (.undefinedDateTrunc a)
  | .binary op e f => do
    -- the operands are analysed first, from left to right
    let ⟨a, t⟩ ← e.analyze columns
    let ⟨b, u⟩ ← f.analyze columns
    match op.resolve a b with
    | some ⟨r, op⟩ => .ok ⟨r, .binary op t u⟩
    | none => .error (.undefinedOperator op a b)
  | .caseWhen c e f => do
    -- both results are of one type, which is the type of the whole
    let ⟨k, c⟩ ← c.analyze columns
    if hk : k = .boolean then do
      let ⟨a, t⟩ ← e.analyze columns
      let ⟨b, u⟩ ← f.analyze columns
      if h : b = a then .ok ⟨a, .caseWhen (hk ▸ c) t (h ▸ u)⟩ else .error (.caseMismatch a b)
    else .error (.whenNotBoolean k)

/-- An expression that is used as one of a type. -/
def Expr.analyzeAs (columns : Column → SqlType) (a : SqlType) (e : Expr Column) :
    Except SqlError (Term columns a) := do
  let ⟨b, t⟩ ← e.analyze columns
  if h : b = a then .ok (h ▸ t) else .error (.wrongType a b)

def Term.erase {a : SqlType} : Term columns a → Expr Column
  | .column c => .column c
  | .literal a v => .literal a v
  | .now => .now
  | .dateTrunc field t => .dateTrunc field t.erase
  | .binary op t u => .binary op.operator t.erase u.erase
  | .caseWhen c t u => .caseWhen c.erase t.erase u.erase

/-- **A term is what the analysis makes of the expression that it stands for.** -/
theorem Term.analyze_erase {a : SqlType} (t : Term columns a) :
    t.erase.analyze columns = .ok ⟨a, t⟩ := by
  induction t with
  | column c => rfl
  | literal a v => rfl
  | now => rfl
  | dateTrunc field t ih => simp [erase, Expr.analyze, ih, bind, Except.bind]
  | binary op t u iht ihu =>
      simp [erase, Expr.analyze, iht, ihu, op.resolve_operator, bind, Except.bind]
  | caseWhen c t u ihc iht ihu => simp [erase, Expr.analyze, ihc, iht, ihu, bind, Except.bind]

theorem Term.analyzeAs_erase {a : SqlType} (t : Term columns a) :
    t.erase.analyzeAs columns a = .ok t := by
  simp [Expr.analyzeAs, t.analyze_erase, bind, Except.bind]

section
variable {op : Operator} {e f : Expr Column} {a b : SqlType} {t : Term columns a}
  {u : Term columns b} {err : SqlError}

/-- An operator that does not exist for its operands is an error. -/
theorem Expr.analyze_binary_undefined (he : e.analyze columns = .ok ⟨a, t⟩)
    (hf : f.analyze columns = .ok ⟨b, u⟩) (hop : op.resolve a b = none) :
    (Expr.binary op e f).analyze columns = .error (.undefinedOperator op a b) := by
  simp [Expr.analyze, he, hf, hop, bind, Except.bind]

/-- An error in an operand is one of the expression. -/
theorem Expr.analyze_binary_left (he : e.analyze columns = .error err) :
    (Expr.binary op e f).analyze columns = .error err := by
  simp [Expr.analyze, he, bind, Except.bind]

theorem Expr.analyze_binary_right (he : e.analyze columns = .ok ⟨a, t⟩)
    (hf : f.analyze columns = .error err) :
    (Expr.binary op e f).analyze columns = .error err := by
  simp [Expr.analyze, he, hf, bind, Except.bind]

theorem Expr.analyzeAs_error (he : e.analyze columns = .error err) :
    e.analyzeAs columns a = .error err := by
  simp [Expr.analyzeAs, he, bind, Except.bind]

end

/-! ### Evaluation -/

/-- The first day that a timestamp can have, 4714-11-24 BC. -/
def firstDay : Int := -2440588

/-- The first day after all timestamps. -/
def endDay : Int := 106762940

def timestamp (t : Int) : Except SqlError Int :=
  if firstDay * msPerDay ≤ t ∧ t < endDay * msPerDay then .ok t else .error .timestampOutOfRange

def TruncField.periods : TruncField → Periods
  | .day => days
  | .week => weeks
  | .month => months

/-- `DATE_TRUNC`: the beginning of the day, the week or the month. -/
def TruncField.truncate (field : TruncField) (t : Int) : Except SqlError Int :=
  timestamp (field.periods.start (field.periods.of (dayOf t)) * msPerDay)

/-- The day some months later. Where the month has no such date, its last day. -/
def addMonths (d k : Int) : Int :=
  let n := monthOf d + k
  monthStart n + min (d - monthStart (monthOf d)) (monthStart (n + 1) - monthStart n - 1)

/-- First the months are added, then the days, then the time. -/
def Interval.addTo (i : Interval) (t : Int) : Except SqlError Int := do
  let t ←
    if i.months = 0 then .ok t
    else timestamp (addMonths (dayOf t) i.months * msPerDay + t % msPerDay)
  let t ← timestamp (t + i.days * msPerDay)
  timestamp (t + i.ms)

def Interval.times (n : Int) (i : Interval) : Interval := ⟨n * i.months, n * i.days, n * i.ms⟩

/-- `output` is the text of a value. -/
def Op.eval (output : (a : SqlType) → a.Val → List Char) {a b r : SqlType} :
    Op a b r → a.Val → b.Val → Except SqlError r.Val
  | .equal, v, w => .ok (decide (v = w))
  | .addInterval, t, i => i.addTo t
  | .mulInterval, n, i => .ok (i.times n)
  | .concat _, v, w => .ok (output a v ++ output b w)

variable (output : (a : SqlType) → a.Val → List Char) (row : (c : Column) → (columns c).Val)
  (now : Int)

def Term.eval {a : SqlType} : Term columns a → Except SqlError a.Val
  | .column c => .ok (row c)
  | .literal _ v => .ok v
  | .now => .ok now
  | .dateTrunc field t => t.eval >>= field.truncate
  | .binary op t u => do op.eval output (← t.eval) (← u.eval)
  | .caseWhen c t u => do if ← c.eval then t.eval else u.eval

/-! ### Dates and intervals -/

section
variable {d t : Int}

theorem timestamp_eq (h : firstDay * msPerDay ≤ t ∧ t < endDay * msPerDay) :
    timestamp t = .ok t := if_pos h

/-- The first of a month and the first of another. -/
theorem addMonths_first (n k : Int) : addMonths (monthStart n) k = monthStart (n + k) := by
  have hmonth : monthOf (monthStart n) = n := months.of_start n
  have hlength := (monthStart_succ (n + k)).1
  simp only [addMonths, hmonth]
  omega

theorem timestamp_midnight (h : firstDay ≤ d ∧ d < endDay) :
    timestamp (d * msPerDay) = .ok (d * msPerDay) := by
  apply timestamp_eq
  unfold msPerDay
  omega

theorem addTo_days (n : Int) (h : firstDay * msPerDay ≤ t + n * msPerDay ∧
    t + n * msPerDay < endDay * msPerDay) :
    Interval.addTo ⟨0, n, 0⟩ t = .ok (t + n * msPerDay) := by
  simp [Interval.addTo, timestamp_eq h, bind, Except.bind]

theorem addTo_ms (ms : Int) (h : firstDay * msPerDay ≤ t ∧ t < endDay * msPerDay)
    (h' : firstDay * msPerDay ≤ t + ms ∧ t + ms < endDay * msPerDay) :
    Interval.addTo ⟨0, 0, ms⟩ t = .ok (t + ms) := by
  simp [Interval.addTo, timestamp_eq h, timestamp_eq h', bind, Except.bind]

theorem addTo_months (n k : Int) (hk : k ≠ 0)
    (h : firstDay ≤ monthStart (n + k) ∧ monthStart (n + k) < endDay) :
    Interval.addTo ⟨k, 0, 0⟩ (monthStart n * msPerDay) = .ok (monthStart (n + k) * msPerDay) := by
  have htime : monthStart n * msPerDay % msPerDay = 0 := Int.mul_emod_left _ _
  simp [Interval.addTo, hk, addMonths_first, htime, timestamp_midnight h, bind, Except.bind]

end

end BrandBlitz.Lib.SqlExpr

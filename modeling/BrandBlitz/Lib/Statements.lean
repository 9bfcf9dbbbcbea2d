import Mathlib.Data.List.Basic

/-!
# BrandBlitz.Lib.Statements

**What PostgreSQL rejects before a statement runs**: a name that is a reserved word, and a
parameter whose uses give it two types.

Both are found in the text of the statement. A statement that is rejected here fails whatever the
rows are, and has written nothing.
-/

namespace BrandBlitz.Lib.Statements

/-- SQLSTATE and message. -/
structure Rejection where
  code : String
  message : String
deriving DecidableEq, Repr

/-! ### Names -/

/-- The keywords of PostgreSQL that name no table expression unless they are quoted: those that
are reserved, and those that are reserved but for functions and types. -/
def reservedWords : List String :=
  ["all", "analyse", "analyze", "and", "any", "array", "as", "asc", "asymmetric", "authorization",
    "binary", "both", "case", "cast", "check", "collate", "collation", "column", "concurrently",
    "constraint", "create", "cross", "current_catalog", "current_date", "current_role",
    "current_schema", "current_time", "current_timestamp", "current_user", "default",
    "deferrable", "desc", "distinct", "do", "else", "end", "except", "false", "fetch", "for",
    "foreign", "freeze", "from", "full", "grant", "group", "having", "ilike", "in", "initially",
    "inner", "intersect", "into", "is", "isnull", "join", "lateral", "leading", "left", "like",
    "limit", "localtime", "localtimestamp", "natural", "not", "notnull", "null", "offset", "on",
    "only", "or", "order", "outer", "overlaps", "placing", "primary", "references", "returning",
    "right", "select", "session_user", "similar", "some", "symmetric", "system_user", "table",
    "tablesample", "then", "to", "trailing", "true", "union", "unique", "user", "using",
    "variadic", "verbose", "when", "where", "window", "with"]

/-- `WITH name AS (…), …`: the first reserved word is a syntax error. -/
def checkNames (names : List String) : Except Rejection Unit :=
  match names.find? fun name => reservedWords.contains name with
  | some name => .error ⟨"42601", "syntax error at or near \"" ++ name ++ "\""⟩
  | none => .ok ()

/-- The names are looked at in their order. -/
theorem checkNames_cons_of_reserved {name : String} (h : name ∈ reservedWords)
    (names : List String) :
    checkNames (name :: names) =
      .error ⟨"42601", "syntax error at or near \"" ++ name ++ "\""⟩ := by
  rw [checkNames, List.find?_cons_of_pos (List.contains_iff_mem.mpr h)]

/-! ### Parameters -/

/-- `INSERT … VALUES`: the types of the columns that the parameters are the values of. A
parameter has the type of its first column, and no other. -/
def checkParams (uses : List (Nat × String)) : Except Rejection Unit :=
  match uses.find? fun use => uses.any fun other => other.1 = use.1 && other.2 ≠ use.2 with
  | some use =>
    .error ⟨"42P08", "inconsistent types deduced for parameter $" ++ toString use.1⟩
  | none => .ok ()

/-- Two columns of different types are enough, wherever they stand. -/
theorem checkParams_of_two_types {uses : List (Nat × String)} (use other : Nat × String)
    (huse : use ∈ uses) (hother : other ∈ uses) (hparam : other.1 = use.1)
    (htype : other.2 ≠ use.2) : ∃ rejection, checkParams uses = .error rejection := by
  unfold checkParams
  split
  · exact ⟨_, rfl⟩
  next h =>
    have hnone := List.find?_eq_none.mp h use huse
    refine absurd (List.any_eq_true.mpr ⟨other, hother, ?_⟩) hnone
    rw [Bool.and_eq_true]
    exact ⟨decide_eq_true hparam, decide_eq_true htype⟩

end BrandBlitz.Lib.Statements

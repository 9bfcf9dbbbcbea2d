import BrandBlitz.Lib.Keyset
import BrandBlitz.Sessions.Table

/-!
# BrandBlitz.Paging.Cursor

**Cursors** (`apps/api/src/db/pagination.ts`): what of a row goes into a cursor, and what comes
out of it as a parameter of the next query.

A cursor is the base64url text of a JSON object. Encoding and decoding the text are inverse
to each other, so the object stands for it. What is not inverse is the way of a value: a
`timestamptz` has microseconds, the `Date` that node-postgres makes of it has milliseconds, and
the cursor carries the ISO text of the `Date` (`clip`).
-/

namespace BrandBlitz.Paging

open BrandBlitz.Lib
open BrandBlitz.Sessions (dbError)

/-- A UUID, as the number of its bytes: PostgreSQL compares UUIDs so. -/
abbrev Uuid := Nat

/-- A `timestamptz`: microseconds. -/
abbrev Timestamp := Int

/-! ### Values on their way -/

/-- A string that is the text of something. -/
inductive JsText where
  | plain (text : Text)
  | iso (ms : Int)
  | uuid (id : Uuid)
  | digits (n : Int)
deriving DecidableEq, Repr

/-- A value of a row as node-postgres returns it. -/
inductive JsValue where
  | null
  | number (n : Int)
  | string (text : JsText)
  | date (ms : Int)
deriving DecidableEq, Repr

inductive JsonValue where
  | null
  | number (n : Int)
  | string (text : JsText)
deriving DecidableEq, Repr

/-- `JSON.stringify` writes a date as its ISO text. -/
def JsValue.toJson : JsValue → JsonValue
  | .null => .null
  | .number n => .number n
  | .string text => .string text
  | .date ms => .string (.iso ms)

/-- The fraction of a millisecond is lost. -/
def jsTimestamp : Option Timestamp → JsValue
  | none => .null
  | some t => .date (t / 1000)

/-! ### Encoding -/

structure Cursor where
  values : List (String × JsonValue)
deriving DecidableEq, Repr

def encodeCursor (values : List (String × JsValue)) : Cursor :=
  ⟨values.map fun (key, value) => (key, value.toJson)⟩

/-- `cursorValues[key]`; node-postgres sends `undefined` as `NULL`. -/
def Cursor.get (cursor : Cursor) (key : String) : JsonValue :=
  (cursor.values.lookup key).getD .null

def decodeCursor (cursor : Cursor) (expectedKeys : List String) : Except Text Cursor :=
  match expectedKeys.find? fun key => (cursor.values.lookup key).isNone with
  | some key => .error ("Cursor missing required key: ".toList ++ key.toList)
  | none => .ok cursor

def decodeCursorSafe (cursor : Option Cursor) (expectedKeys : List String) : Option Cursor :=
  match cursor with
  | none => none
  | some cursor =>
    match decodeCursor cursor expectedKeys with
    | .ok values => some values
    | .error _ => none

/-! ### Parameters of the next query -/

def integerParam : JsonValue → Except ApiError (Option Int)
  | .null => .ok none
  | .number n | .string (.digits n) => .ok (some n)
  | .string _ => .error (dbError "invalid input syntax for type integer" "22P02")

def timestampParam : JsonValue → Except ApiError (Option Timestamp)
  | .null => .ok none
  | .string (.iso ms) => .ok (some (ms * 1000))
  | _ => .error (dbError "invalid input syntax for type timestamp with time zone" "22007")

def uuidParam : JsonValue → Except ApiError (Option Uuid)
  | .null => .ok none
  | .string (.uuid id) => .ok (some id)
  | _ => .error (dbError "invalid input syntax for type uuid" "22P02")

/-- The milliseconds of a timestamp, as a timestamp. -/
def clip (t : Timestamp) : Timestamp := t / 1000 * 1000

/-- Does a timestamp have whole milliseconds? -/
def WholeMs (t : Timestamp) : Prop := 1000 ∣ t

instance (t : Timestamp) : Decidable (WholeMs t) := inferInstanceAs (Decidable (1000 ∣ t))

/-- A timestamp comes back from a cursor without its microseconds. -/
@[simp] theorem timestampParam_jsTimestamp (t : Option Timestamp) :
    timestampParam (jsTimestamp t).toJson = .ok (t.map clip) := by
  cases t <;> rfl

theorem clip_le (t : Int) : clip t ≤ t := by
  show t / 1000 * 1000 ≤ t
  omega

theorem clip_clip (t : Int) : clip (clip t) = clip t := by
  show t / 1000 * 1000 / 1000 * 1000 = t / 1000 * 1000
  omega

theorem clip_eq_self_iff {t : Int} : clip t = t ↔ WholeMs t := by
  show t / 1000 * 1000 = t ↔ (1000 : Int) ∣ t
  omega

theorem clip_lt_of_not_wholeMs {t : Int} (h : ¬ WholeMs t) : clip t < t := by
  have h' : ¬ (1000 : Int) ∣ t := h
  show t / 1000 * 1000 < t
  omega

theorem clip_of_wholeMs {t : Option Timestamp} (h : ∀ x ∈ t, WholeMs x) : t.map clip = t := by
  cases t with
  | none => rfl
  | some t => rw [Option.map_some, clip_eq_self_iff.mpr (h t rfl)]

end BrandBlitz.Paging

import SiteRuntime.Json.Basic
import SiteRuntime.Text.Quoted

/-!
# Decoding values of a known form

Definitions of environments and partitions are values of a known form. A decoder either returns
what it describes or the first problem in reading order: members by name, items in order, and a
missing member only after all that are there.
-/

namespace SiteRuntime.Json

/-- Why a value does not have the expected form. -/
inductive DecodeError where
  /-- A required member is absent. -/
  | missing (name : String)
  /-- A value of another type, shown as `found`. -/
  | wrongType (found expected : String)
  /-- An array that ends before the expected form is complete. -/
  | tooShort (length : Nat) (expected : String)
  /-- An array that goes on after the expected form is complete. -/
  | tooLong (length : Nat)
  deriving DecidableEq, Repr

/-- The text of a decoding problem. -/
def DecodeError.message : DecodeError → String
  | .missing name => s!"missing field `{name}`"
  | .wrongType found expected => s!"invalid type: {found}, expected {expected}"
  | .tooShort n expected => s!"invalid length {n}, expected {expected}"
  | .tooLong n => s!"invalid length {n}, expected fewer elements in array"

/-- A value as a message about it shows it. -/
def shown : Json → String
  | .null => "null"
  | .bool b => s!"boolean `{b}`"
  | .number (.whole n) => s!"integer `{n}`"
  | .number (.double x) => s!"floating point `{x.text}`"
  | .string s => "string " ++ Text.quoted s
  | .array _ => "sequence"
  | .object _ => "map"

/-- A string. -/
def decodeText : Json → Except DecodeError String
  | .string s => .ok s
  | v => .error (.wrongType v.shown "a string")

/-- A list, each item by the given decoder. -/
def decodeList {α : Type} (item : Json → Except DecodeError α) :
    Json → Except DecodeError (List α)
  | .array items => items.mapM item
  | v => .error (.wrongType v.shown "a sequence")

/-- A pair of strings, written as an array of two. -/
def decodePair : Json → Except DecodeError (String × String)
  | .array items =>
    match items with
    | a :: b :: rest => do
      let a ← decodeText a
      let b ← decodeText b
      if rest.isEmpty then .ok (a, b) else .error (.tooLong items.length)
    | [a] => do
      let _ ← decodeText a
      .error (.tooShort 1 "a tuple of size 2")
    | [] => .error (.tooShort 0 "a tuple of size 2")
  | v => .error (.wrongType v.shown "a tuple of size 2")

/-- A member that may be absent, by the given decoder. -/
def decodeMember? {α : Type} (v : Json) (name : String) (decode : Json → Except DecodeError α) :
    Except DecodeError (Option α) :=
  match v.get? name with
  | some member => (decode member).map some
  | none => .ok none

/-- What a required member holds. -/
def required {α : Type} (name : String) : Option α → Except DecodeError α
  | some a => .ok a
  | none => .error (.missing name)

/-- A list of strings. -/
def decodeTexts : Json → Except DecodeError (List String) := decodeList decodeText

/-- A list of pairs of strings. -/
def decodePairs : Json → Except DecodeError (List (String × String)) := decodeList decodePair

end SiteRuntime.Json

import SiteRuntime.Binary64
import SiteRuntime.SortedMap

/-!
# JSON values

The site configuration is a JSON document. Numbers are kept as the reader found them: a whole
number between -2^63 and 2^64-1 exactly, every other number as a double. An object is a list of
members, each name once. Objects that were read have them in the order of their names, and
`Json.ofMembers` builds such an object; a report may have its members in an order of its own.
-/

namespace SiteRuntime

/-- A JSON number. -/
inductive Json.Number where
  /-- A whole number between -2^63 and 2^64-1. -/
  | whole (value : Int)
  /-- Any other number. -/
  | double (value : Binary64)
  deriving DecidableEq, Repr

/-- A JSON value. -/
inductive Json where
  | null
  | bool (value : Bool)
  | number (value : Json.Number)
  | string (value : String)
  | array (items : List Json)
  /-- Members, each name once. -/
  | object (members : List (String × Json))
  deriving Inhabited, Repr

namespace Json

/-- The text of a number. -/
def Number.text : Number → String
  | .whole n => toString n
  | .double x => x.text

/-- A natural number as a value. -/
def ofNat (n : Nat) : Json := .number (.whole n)

/-- The object with the given members; of two with one name the later counts. -/
def ofMembers (members : List (String × Json)) : Json :=
  .object (members.foldl (fun sorted m => SortedMap.insertEntry m.1 m.2 sorted) [])

/-- A list of strings as a value. -/
def ofStrings (items : List String) : Json := .array (items.map .string)

/-- The member of an object with a name. -/
def get? (name : String) : Json → Option Json
  | .object members => members.lookup name
  | _ => none

/-- The items of an array. -/
def items? : Json → Option (List Json)
  | .array items => some items
  | _ => none

/-- The text of a string. -/
def text? : Json → Option String
  | .string s => some s
  | _ => none

/-- Whether a value is null. -/
def isNull : Json → Bool
  | .null => true
  | _ => false

/-- Whether a value is an object. -/
def isObject : Json → Bool
  | .object _ => true
  | _ => false

/-- The text under a name in an object. -/
def textAt? (name : String) (v : Json) : Option String := (v.get? name).bind text?

/-- The items under a name in an object. -/
def itemsAt? (name : String) (v : Json) : Option (List Json) := (v.get? name).bind items?

@[simp] theorem get?_object (name : String) (members : List (String × Json)) :
    (Json.object members).get? name = members.lookup name := rfl

@[simp] theorem get?_array (name : String) (items : List Json) :
    (Json.array items).get? name = none := rfl

@[simp] theorem items?_array (items : List Json) : (Json.array items).items? = some items := rfl

@[simp] theorem text?_string (s : String) : (Json.string s).text? = some s := rfl

@[simp] theorem isObject_iff {v : Json} : v.isObject = true ↔ ∃ m, v = .object m := by
  cases v <;> simp [isObject]

end Json

end SiteRuntime

import SiteRuntime.Unicode.Property
import SiteRuntime.Unicode.Script

/-!
# Looking up a property by name

A property is asked for by its name alone, `Greek`, or by name and value, `script=Greek`. Names are
compared without regard to case, blanks, hyphens, low lines and a leading `is`; characters outside
ASCII are passed over.
-/

namespace SiteRuntime.Unicode

open Text (CodeSet)

/-- A name as it is compared. -/
def comparedName (s : List Char) : String :=
  let keep := fun t : List Char =>
    (t.filter fun c => c.toNat < 128 && c ∉ [' ', '_', '-']).map Char.toLower
  match s with
  | a :: b :: rest =>
    if a.toLower = 'i' && b.toLower = 's' then
      let name := keep rest
      if name = ['c'] then "isc" else String.ofList name
    else String.ofList (keep s)
  | _ => String.ofList (keep s)

/-- The characters of a general category or of a group of categories. -/
def generalCategory? (name : String) : Option CodeSet :=
  match name with
  | "any" => some .all
  | "assigned" => some unassignedIn16.complement
  | "ascii" => some (.range 0 0x7F)
  | "l" | "letter" => some (charsIn16Of letters)
  | "lc" | "casedletter" => some (charsIn16Of (letters.take 3))
  | "m" | "mark" | "combiningmark" => some (charsIn16Of marks)
  | "n" | "number" => some (charsIn16Of numbers)
  | "p" | "punct" | "punctuation" => some (charsIn16Of punctuation)
  | "s" | "symbol" => some (charsIn16Of symbols)
  | "z" | "separator" => some (charsIn16Of separators)
  | "c" | "other" =>
    some (unassignedIn16.union (charsIn16Of [.control, .format, .privateUse]))
  | "cn" | "unassigned" => some unassignedIn16
  | _ => (Category.all.find? (·.names.contains name)).map Category.charsIn16

/-- The characters that a name alone stands for: a property, a category or a script. -/
def named? (name : List Char) : Option CodeSet :=
  let name := comparedName name
  match property? name with
  | some s => some s
  | none =>
    match generalCategory? name with
    | some s => some s
    | none => (script? name).map Script.chars

/-- The characters for which a property has a value. -/
def valued? (name value : List Char) : Option CodeSet :=
  let value := comparedName value
  match comparedName name with
  | "gc" | "generalcategory" => generalCategory? value
  | "sc" | "script" => (script? value).map Script.chars
  | "scx" | "scriptextensions" => (script? value).map Script.usedChars
  | "age" => encodedBy? value
  | _ => none

end SiteRuntime.Unicode

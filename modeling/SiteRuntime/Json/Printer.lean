import SiteRuntime.Json.Basic
import SiteRuntime.Text.Quoted

/-!
# Writing JSON

Two written forms of a value: `Json.compact` on one line without blanks, and `Json.pretty` with
one item or member a line, indented by two blanks a level. Both escape only what JSON requires.
-/

namespace SiteRuntime.Json

/-- How one character is written inside a JSON string. -/
def escape (c : Char) : List Char :=
  if c = '"' then ['\\', '"']
  else if c = '\\' then ['\\', '\\']
  else if c = '\n' then ['\\', 'n']
  else if c = '\r' then ['\\', 'r']
  else if c = '\t' then ['\\', 't']
  else if c.toNat = 8 then ['\\', 'b']
  else if c.toNat = 12 then ['\\', 'f']
  else if c.toNat < 0x20 then
    ['\\', 'u', '0', '0', Nat.digitChar (c.toNat / 16), Nat.digitChar (c.toNat % 16)]
  else [c]

/-- A JSON string with its quotes. -/
def writeString (s : String) : String :=
  String.ofList ('"' :: s.toList.flatMap escape ++ ['"'])

mutual

/-- A value on one line. -/
def compact : Json → String
  | .null => "null"
  | .bool b => if b then "true" else "false"
  | .number n => n.text
  | .string s => writeString s
  | .array items => "[" ++ compactItems items ++ "]"
  | .object members => "\x7b" ++ compactMembers members ++ "\x7d"

/-- Items between commas. -/
def compactItems : List Json → String
  | [] => ""
  | [v] => compact v
  | v :: rest => compact v ++ "," ++ compactItems rest

/-- Members between commas. -/
def compactMembers : List (String × Json) → String
  | [] => ""
  | [(name, v)] => writeString name ++ ":" ++ compact v
  | (name, v) :: rest => writeString name ++ ":" ++ compact v ++ "," ++ compactMembers rest

end

/-- A line break and the indentation of a level. -/
def newline (level : Nat) : String := "\n" ++ String.ofList (List.replicate (2 * level) ' ')

mutual

/-- A value over several lines, at a level of indentation. -/
def prettyAt (level : Nat) : Json → String
  | .null => "null"
  | .bool b => if b then "true" else "false"
  | .number n => n.text
  | .string s => writeString s
  | .array [] => "[]"
  | .array items =>
    "[" ++ newline (level + 1) ++ prettyItems (level + 1) items ++ newline level ++ "]"
  | .object [] => "\x7b\x7d"
  | .object members =>
    "\x7b" ++ newline (level + 1) ++ prettyMembers (level + 1) members ++ newline level ++ "\x7d"

/-- Items, one a line. -/
def prettyItems (level : Nat) : List Json → String
  | [] => ""
  | [v] => prettyAt level v
  | v :: rest => prettyAt level v ++ "," ++ newline level ++ prettyItems level rest

/-- Members, one a line. -/
def prettyMembers (level : Nat) : List (String × Json) → String
  | [] => ""
  | [(name, v)] => writeString name ++ ": " ++ prettyAt level v
  | (name, v) :: rest =>
    writeString name ++ ": " ++ prettyAt level v ++ "," ++ newline level ++
      prettyMembers level rest

end

/-- A value over several lines. -/
def pretty (v : Json) : String := prettyAt 0 v

end SiteRuntime.Json

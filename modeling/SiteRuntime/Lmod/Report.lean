import SiteRuntime.Text.Blank
import SiteRuntime.Text.WordCharacter

/-!
# Reading reports of the module command

Three things are read from what the module command reports in plain text: its version, whether it
mentions an error, and the conflicts that a module declares.
-/

namespace SiteRuntime.Lmod

/-! ### The version -/

/-- The word after white space at the front of a text, if there is both. -/
def wordAfterBlank? (s : List Char) : Option (List Char) :=
  match s with
  | [] => none
  | c :: _ =>
    if Text.isBlank c then
      match (Text.trimLeft s).takeWhile fun c => !Text.isBlank c with
      | [] => none
      | word => some word
    else none

/-- The word after the first `Version` that has one. -/
def version? : List Char → Option (List Char)
  | [] => none
  | c :: rest =>
    match (Text.dropStart? "Version".toList (c :: rest)).bind wordAfterBlank? with
    | some word => some word
    | none => version? rest

/-! ### Errors -/

/-- Whether the text begins with the word `error`, in either case, and ends or goes on with another
word. -/
def beginsWithError (s : List Char) : Bool :=
  (s.take 5).map Char.toLower = "error".toList && !(s[5]?.any Text.isWord)

/-- Whether the word `error` stands in a text, told whether a word character stands before it. -/
def mentionsErrorFrom : Bool → List Char → Bool
  | _, [] => false
  | inWord, c :: rest =>
    (!inWord && beginsWithError (c :: rest)) || mentionsErrorFrom (Text.isWord c) rest

/-- Whether the word `error` stands in a text, in either case. -/
def mentionsError (s : List Char) : Bool := mentionsErrorFrom false s

/-! ### Conflicts -/

/-- The arguments of every `conflict(...)` in a text, each up to its closing parenthesis. -/
def conflictCalls : Nat → List Char → List (List Char)
  | 0, _ => []
  | _, [] => []
  | fuel + 1, c :: rest =>
    match (Text.dropStart? "conflict(".toList (c :: rest)).bind (Text.splitOnce? ')') with
    | some (arguments, rest) => arguments :: conflictCalls fuel rest
    | none => conflictCalls fuel rest

/-- An argument without white space and quotes around it. -/
def bareArgument (s : List Char) : List Char :=
  Text.stripEnds (fun c => c = '"' || c = '\'') (Text.trim s)

/-- The modules named in the conflicts that a text declares, in order. -/
def conflictsIn (s : List Char) : List String :=
  (conflictCalls s.length s).flatMap fun arguments =>
    (((Text.splitOn ',' arguments).map bareArgument).filter fun a => !a.isEmpty).map String.ofList

end SiteRuntime.Lmod

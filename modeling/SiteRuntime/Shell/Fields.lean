import SiteRuntime.FileTree.Basic
import SiteRuntime.Shell.Wildcard

/-!
# Fields

What an expanded word comes to: a row of cells, which is split into fields at the separators that
expansions outside of quotes have brought. A field is a pattern that stands for the files it
matches, if there are any.
-/

namespace SiteRuntime.Shell

/-- A part of an expanded word. -/
inductive Cell where
  /-- A character, whether it stands for itself in patterns, and whether it can separate fields. -/
  | char (c : Char) (quoted separates : Bool)
  /-- A field, even if nothing is in it. -/
  | mark
  /-- The end of one parameter and the start of the next one. -/
  | cut
  deriving DecidableEq, Repr

/-- The cells of a text that an expansion yields. -/
def Cell.ofValue (quoted : Bool) (s : Chars) : List Cell := s.map fun c => .char c quoted (!quoted)

/-- The cells that stand for parameters: fields of their own. -/
def Cell.ofValues (quoted : Bool) (values : List Chars) : List Cell :=
  [Cell.cut].intercalate
    (values.map fun s => if quoted then .mark :: ofValue true s else ofValue false s)

/-- What a separator is that also ends a field if it is repeated. -/
def isFieldBlank (c : Char) : Bool := c = ' ' || c = '\t' || c = '\n'

/-- Fields under way. -/
structure Splitting where
  /-- The fields that are complete, the last one first. -/
  complete : List (List PatternCell)
  /-- The field under way, its last character first. -/
  current : Option (List PatternCell)
  /-- Whether a blank has ended the last field, so that a separator after it ends the same one. -/
  ended : Bool

namespace Splitting

/-- Nothing yet. -/
def start : Splitting := ⟨[], none, false⟩

/-- The field under way made complete. -/
def close (f : Splitting) (ended : Bool) : Splitting :=
  match f.current with
  | some cells => ⟨cells.reverse :: f.complete, none, ended⟩
  | none => { f with ended }

/-- One cell more, with the separators in `separators`. -/
def add (separators : Chars) (f : Splitting) : Cell → Splitting
  | .mark => { f with current := some (f.current.getD []), ended := false }
  | .cut => f.close false
  | .char c quoted separates =>
    if separates && separators.contains c then
      if isFieldBlank c then
        if f.current.isSome then f.close true else f
      else if f.current.isNone && f.ended then { f with ended := false }
      else { f with current := some (f.current.getD []) }.close false
    else { f with current := some ((c, quoted) :: f.current.getD []), ended := false }

/-- All fields. -/
def fields (f : Splitting) : List (List PatternCell) := (f.close false).complete.reverse

end Splitting

/-- The fields of a row of cells. -/
def splitFields (separators : Chars) (cells : List Cell) : List (List PatternCell) :=
  (cells.foldl (Splitting.add separators) .start).fields

/-- The cells of a word that is not split; `between` stands between parameters. -/
def unsplit (between : Chars) (cells : List Cell) : List PatternCell :=
  cells.flatMap fun
    | .char c quoted _ => [(c, quoted)]
    | .mark => []
    | .cut => between.map fun c => (c, true)

/-- The characters of a field. -/
def fieldText (f : List PatternCell) : Chars := f.map (·.1)

/-! ### File names -/

/-- The names in a directory, with those of the directory itself and the one above. -/
def namesIn (t : FileTree) (directory : Position) : List Chars :=
  ".".toList :: "..".toList :: t.entries.entries.filterMap fun e =>
    if e.1.dropLast = directory && e.1 ≠ [] then e.1.getLast?.map Chars.ofText else none

/-- Whether a name is one that a pattern finds: a dot in front has to be written. -/
def finds (ws : List Wildcard) (name : Chars) : Bool :=
  (name.head? ≠ some '.' || ws.head? = some (.one '.')) && Wildcard.accepts ws name

/-- The paths that go on from a text in a way that matches the parts of a pattern. -/
def pathsFrom (t : FileTree) (cwd : Position) (before : Chars) :
    List (List PatternCell) → List Chars
  | [] => if (t.resolve cwd (.ofText (Chars.toText before))).isOk then [before] else []
  | part :: rest =>
    let separator := if rest.isEmpty then [] else ['/']
    let ws := Wildcard.ofCells part
    if Wildcard.isPlain ws then pathsFrom t cwd (before ++ wildcardText ws ++ separator) rest
    else
      let directory := if before.isEmpty then ".".toList else before
      match t.resolve cwd (.ofText (Chars.toText directory)) with
      | .ok (position, .directory) =>
        (namesIn t position).flatMap fun name =>
          if finds ws name then pathsFrom t cwd (before ++ name ++ separator) rest else []
      | _ => []
where
  /-- The text that a pattern without wildcards matches. -/
  wildcardText (ws : List Wildcard) : Chars := ws.filterMap fun
    | .one c => some c
    | _ => none

/-- Whether one text is before another. -/
def isBefore (a b : Chars) : Bool := (compare a b).isLE

/-- What a field stands for: the paths that it matches, or else itself. -/
def matchFiles (t : FileTree) (cwd : Position) (f : List PatternCell) : List Chars :=
  if Wildcard.isPlain (Wildcard.ofCells f) then [fieldText f]
  else
    match pathsFrom t cwd [] (f.splitOnP fun p => p.1 = '/') with
    | [] => [fieldText f]
    | paths => paths.mergeSort isBefore

end SiteRuntime.Shell

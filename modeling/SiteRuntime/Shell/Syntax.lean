import SiteRuntime.Bytes
import SiteRuntime.Text.Blank

/-!
# The language of job scripts

A job script is written in the command language of the standard shell. Words keep their parts and
remember what stood in quotes, because what an expansion yields is split and matched against file
names only outside of quotes. Commands carry the line that a message about them names.

Scripts and values are bytes. They are handled as lists of characters of which each stands for one
byte, `Chars`.
-/

namespace SiteRuntime.Shell

/-- A text of which each character stands for one byte. -/
abbrev Chars := List Char

namespace Chars

/-- Bytes as characters. -/
def ofBytes (b : Bytes) : Chars := b.map fun x => Char.ofNat x.toNat

/-- Characters as bytes. -/
def toBytes (s : Chars) : Bytes := s.map fun c => UInt8.ofNat c.toNat

/-- The bytes of a text as characters. -/
def ofText (s : String) : Chars := ofBytes (Bytes.ofText s)

/-- The text that the bytes write. -/
def toText (s : Chars) : String := Bytes.lossy (toBytes s)

end Chars

/-- Letters of ASCII and `_`. -/
def beginsName (c : Char) : Bool := c.isAlpha || c = '_'

/-- Letters and digits of ASCII and `_`. -/
def continuesName (c : Char) : Bool := c.isAlphanum || c = '_'

/-- Whether a text can name a variable or a function. -/
def isName : Chars → Bool
  | [] => false
  | c :: rest => beginsName c && rest.all continuesName

/-- How a parameter in braces is turned into text when it is compared with nothing: by the word
given for that case. -/
inductive Fallback where
  /-- The word in place of the parameter. -/
  | use
  /-- The word in place of the parameter, which it is assigned to. -/
  | assign
  /-- The word as a message, and the end of the script. -/
  | fail
  /-- The word in place of a parameter that is there, and nothing otherwise. -/
  | instead
  deriving DecidableEq, Repr

mutual

/-- A part of a word. -/
inductive Piece where
  /-- A character; in quotes it stands for itself. -/
  | char (c : Char) (quoted : Bool)
  /-- Quotes, which make a word even of nothing. -/
  | quotes
  /-- A parameter. -/
  | param (name : Chars) (use : Use) (quoted : Bool)
  /-- What commands print. -/
  | output (body : Command) (quoted : Bool)
  /-- The value of an arithmetic expression. -/
  | arithmetic (expression : List Piece) (quoted : Bool)

/-- What is made of a parameter. -/
inductive Use where
  | value
  | length
  /-- A word for a parameter that is not set or, with `null`, empty. -/
  | fallback (kind : Fallback) (null : Bool) (word : List Piece)
  /-- The value without its shortest or longest part that matches a pattern. -/
  | trim (atEnd longest : Bool) (pattern : List Piece)
  /-- Nothing that can be understood. -/
  | unknown

/-- What a redirection does. -/
inductive Redirection where
  | input (file : List Piece)
  | output (file : List Piece) (clobber : Bool)
  | append (file : List Piece)
  | both (file : List Piece)
  /-- The stream becomes a copy of another one. -/
  | duplicate (source : List Piece)
  /-- The stream is read from a text further down in the script, told by its number. -/
  | here (text : Nat)

/-- A redirection of a stream, told by its number. -/
inductive Redirect where
  | mk (stream : Nat) (kind : Redirection)

/-- A command. -/
inductive Command where
  | nothing
  /-- Assignments and words with redirections. -/
  | simple (line : Nat) (assignments : List (Chars × List Piece)) (words : List (List Piece))
      (redirects : List Redirect)
  /-- Commands of which each reads what the one before prints. -/
  | pipeline (parts : List Command) (background : Bool)
  | not (c : Command)
  | both (a b : Command)
  | either (a b : Command)
  | sequence (a b : Command)
  | subshell (line : Nat) (body : Command) (redirects : List Redirect)
  | background (line : Nat) (body : Command) (redirects : List Redirect)
  | redirected (line : Nat) (body : Command) (redirects : List Redirect)
  | conditional (test yes no : Command)
  /-- Repeats while the test succeeds or, with `inverted`, while it fails. -/
  | loop (inverted : Bool) (test body : Command)
  | each (line : Nat) (name : Chars) (words : List (List Piece)) (body : Command)
  | choose (line : Nat) (word : List Piece) (clauses : List (List (List Piece) × Command))
  | define (line : Nat) (name : Chars) (body : Command)

end

/-- A word by its parts. -/
abbrev Word := List Piece

instance : Inhabited Command := ⟨.nothing⟩

/-- A word of characters that stand for themselves. -/
def quotedText (s : Chars) : Word := s.map fun c => .char c true

/-- The word of one parameter in quotes that stands for all of them. -/
def allParameters : Word := [.quotes, .param ['@'] .value true]

end SiteRuntime.Shell

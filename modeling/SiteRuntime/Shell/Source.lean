import SiteRuntime.Shell.Syntax

/-!
# Reading a script

A script is read in one pass, word by word. `Reading` is the place reached: the characters ahead
with the number of their line, the token last read, which can be put back, and the texts further
down that redirections on the current line wait for.

A backslash before a line end joins two lines. It is passed over wherever the text is not quoted to
the letter.
-/

namespace SiteRuntime.Shell

/-- A word that stands for itself on some occasions. -/
inductive Keyword where
  | bang
  | case
  | do
  | done
  | elif
  | else
  | esac
  | fi
  | for
  | if
  | in
  | then
  | until
  | while
  | openBrace
  | closeBrace
  deriving DecidableEq, Repr

namespace Keyword

/-- All of them. -/
def all : List Keyword :=
  [.bang, .case, .do, .done, .elif, .else, .esac, .fi, .for, .if, .in, .then, .until, .while,
    .openBrace, .closeBrace]

/-- How it is written. -/
def text : Keyword → String
  | .bang => "!"
  | .case => "case"
  | .do => "do"
  | .done => "done"
  | .elif => "elif"
  | .else => "else"
  | .esac => "esac"
  | .fi => "fi"
  | .for => "for"
  | .if => "if"
  | .in => "in"
  | .then => "then"
  | .until => "until"
  | .while => "while"
  | .openBrace => "\x7b"
  | .closeBrace => "\x7d"

/-- The keyword that a text is. -/
def ofText? (s : Chars) : Option Keyword := all.find? fun k => k.text.toList = s

/-- Whether it ends a list of commands. -/
def endsList (k : Keyword) : Bool :=
  k ∈ [.do, .done, .elif, .else, .esac, .fi, .then, .closeBrace]

end Keyword

/-- The sign of a redirection. -/
inductive RedirectSign where
  | input
  | output
  | clobber
  | append
  | both
  | duplicate
  /-- A text further down, without the tabs at the front of its lines if they are stripped. -/
  | here (strip : Bool)
  deriving DecidableEq, Repr

/-- A token of a script. -/
inductive Token where
  | eof
  | newline
  | semicolon
  | ampersand
  | and
  | or
  | pipe
  | opening
  | closing
  | caseEnd
  | redirect (stream : Nat) (sign : RedirectSign)
  /-- A word; `quoted` tells whether any of it was. -/
  | word (w : Word) (quoted : Bool)
  | keyword (k : Keyword)

namespace Token

/-- A token in messages. -/
def name : Token → String
  | .eof => "end of file"
  | .newline => "newline"
  | .semicolon => "\";\""
  | .ampersand => "\"&\""
  | .and => "\"&&\""
  | .or => "\"||\""
  | .pipe => "\"|\""
  | .opening => "\"(\""
  | .closing => "\")\""
  | .caseEnd => "\";;\""
  | .redirect _ _ => "redirection"
  | .word _ _ => "word"
  | .keyword k => "\"" ++ k.text ++ "\""

/-- Whether a token ends a list of commands. -/
def endsList : Token → Bool
  | .eof => true
  | .closing => true
  | .caseEnd => true
  | .keyword k => k.endsList
  | _ => false

end Token

/-- A text further down that a redirection waits for. -/
structure Awaited where
  /-- The number of the text. -/
  number : Nat
  /-- The line that ends it. -/
  mark : Chars
  /-- Whether tabs at the front of its lines are dropped. -/
  strip : Bool
  /-- Whether it is taken to the letter. -/
  literal : Bool

/-- The place reached in a script. -/
structure Reading where
  /-- The characters ahead. -/
  rest : Chars
  /-- The number of their line. -/
  line : Nat
  /-- The token last read. -/
  last : Token
  /-- Whether that token is read again. -/
  pushed : Bool
  /-- The texts that redirections wait for, in order. -/
  awaited : List Awaited
  /-- The texts read so far, by their numbers. -/
  texts : Array Word

/-- An operation on a script under way; it fails with a message. -/
abbrev Reader (α : Type) := EStateM String Reading α

namespace Reader

/-- The start of a script, with the texts of scripts read before. -/
def start (text : Chars) (line : Nat) (texts : Array Word) : Reading :=
  ⟨text, line, .newline, false, [], texts⟩

/-- The lines joined by a backslash before a line end, at the front of a text. -/
def dropJoins : Chars → Nat → Chars × Nat
  | '\\' :: '\n' :: rest, line => dropJoins rest (line + 1)
  | s, line => (s, line)

/-- Passes over joins of lines. -/
def skipJoins : Reader Unit := modify fun r =>
  let (rest, line) := dropJoins r.rest r.line
  { r with rest, line }

/-- The next character, past joins of lines. -/
def peek : Reader (Option Char) := do
  skipJoins
  return (← get).rest.head?

/-- Passes over one character. -/
def drop : Reader Unit := modify fun r =>
  match r.rest with
  | [] => r
  | c :: rest => { r with rest, line := if c = '\n' then r.line + 1 else r.line }

/-- Takes the next character to the letter. -/
def take : Reader (Option Char) := do
  let c := (← get).rest.head?
  drop
  return c

/-- Passes over the next character if it is a given one, and tells whether it was. -/
def accept (c : Char) : Reader Bool := do
  if (← peek) = some c then
    drop
    return true
  else return false

/-- Takes characters as long as they satisfy a test, past joins of lines; `fuel` bounds them. -/
def takeWhile (p : Char → Bool) : Nat → Reader Chars
  | 0 => return []
  | fuel + 1 => do
    match ← peek with
    | some c =>
      if p c then
        drop
        return c :: (← takeWhile p fuel)
      else return []
    | none => return []

/-- The number of steps that suffice for what is ahead. -/
def enough : Reader Nat := do return (← get).rest.length + 1

end Reader

end SiteRuntime.Shell

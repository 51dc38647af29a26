import SiteRuntime.Shell.Source

/-!
# Reading words

A word is read by its parts. Which characters are special depends on what surrounds them: nothing,
double quotes, the braces of a parameter, an arithmetic expression or a text further down. How the
commands of `$(…)` are read is a parameter here, because commands are made of words.
-/

namespace SiteRuntime.Shell

/-- What surrounds a character of a word. -/
inductive Around where
  /-- Nothing; the word ends where it ends. -/
  | nothing
  /-- Double quotes. -/
  | double
  /-- The braces of a parameter, inside double quotes or not; with `inner` inside double quotes
  again. -/
  | brace (quoted inner : Bool)
  /-- An arithmetic expression with a number of parentheses open. -/
  | arithmetic (opened : Nat)
  /-- A text further down. -/
  | here
  deriving DecidableEq, Repr

namespace Around

/-- Whether characters stand for themselves. -/
def isQuoted : Around → Bool
  | .nothing => false
  | .brace quoted _ => quoted
  | _ => true

/-- Whether a backslash takes the meaning from a character. -/
def escapes (a : Around) (c : Char) : Bool :=
  match a with
  | .nothing => true
  | .brace false _ => true
  | .here => c ∈ ['\\', '\x60', '$']
  | .brace true _ => c ∈ ['\\', '\x60', '$', '"', '}']
  | _ => c ∈ ['\\', '\x60', '$', '"']

/-- The message when the script ends too early, if it does. -/
def openMessage? : Around → Option String
  | .nothing => none
  | .here => none
  | .double => some "Unterminated quoted string"
  | .brace true _ => some "Unterminated quoted string"
  | .brace false _ => some "Missing '\x7d'"
  | .arithmetic _ => some "Missing '))'"

end Around

/-- Whether a character ends a word outside of quotes. -/
def endsWord (c : Char) : Bool := c ∈ [' ', '\t', '\n', '<', '>', ';', '&', '|', '(', ')']

/-- Whether a character names a special parameter. -/
def isSpecial (c : Char) : Bool := c ∈ ['!', '#', '$', '*', '-', '?', '@'] || c.isDigit

namespace Reader

/-- The rest of a text between single quotes. -/
def singleQuoted : Nat → Reader Word
  | 0 => throw "Unterminated quoted string"
  | fuel + 1 => do
    match ← take with
    | none => throw "Unterminated quoted string"
    | some '\'' => return []
    | some c => return .char c true :: (← singleQuoted fuel)

/-- What a backslash makes of the next character. -/
def escaped (a : Around) : Reader Word := do
  match ← take with
  | none => return [.char '\\' true]
  | some c => return if a.escapes c then [.char c true] else [.char '\\' true, .char c true]

/-- The script between backquotes: a backslash is dropped before a character that it protects. -/
def backquoted (quoted : Bool) : Nat → Reader Chars
  | 0 => throw "EOF in backquote substitution"
  | fuel + 1 => do
    match ← peek with
    | none => throw "EOF in backquote substitution"
    | some '\x60' => drop; return []
    | some '\\' =>
      drop
      match ← take with
      | none => throw "EOF in backquote substitution"
      | some c =>
        if c ∈ ['\\', '\x60', '$'] || (quoted && c = '"') then
          return c :: (← backquoted quoted fuel)
        else return '\\' :: c :: (← backquoted quoted fuel)
    | some c => drop; return c :: (← backquoted quoted fuel)

/-- Reads with another text ahead, and goes on where it was. -/
def inText {α : Type} (text : Chars) (body : Reader α) : Reader α := do
  let before ← get
  set { before with rest := text, pushed := false, awaited := [] }
  let x ← body
  modify fun r => { before with texts := r.texts }
  return x

/-- The commands of a substitution in the text ahead, up to the parenthesis that ends them. -/
def substitution (list : Reader Command) (closing : Reader Unit) : Reader Command := do
  let before ← get
  set { before with pushed := false, awaited := [] }
  let c ← list
  closing
  modify fun r => { r with pushed := before.pushed, last := before.last, awaited := before.awaited }
  return c

/-- How the commands of a substitution are read. -/
structure Inner where
  /-- The commands up to a token that ends them. -/
  list : Reader Command
  /-- The parenthesis that ends them. -/
  closing : Reader Unit

/-- The name of the parameter in braces, and whether its length is asked for. A name is missing if
what stands there can be none. -/
def bracedName : Reader (Option Chars × Bool) := do
  let named : Reader (Option Chars) := do
    match ← peek with
    | none => return none
    | some c =>
      if beginsName c then some <$> takeWhile continuesName (← enough)
      else if c.isDigit then some <$> takeWhile Char.isDigit (← enough)
      else return none
  match ← named with
  | some name => return (some name, false)
  | none =>
    match ← peek with
    | some '#' =>
      drop
      match ← named with
      | some name => return (some name, true)
      | none =>
        let before ← get
        match ← peek with
        | some c =>
          if c ≠ '}' && isSpecial c then
            drop
            if (← peek) = some '}' then return (some [c], true)
            set before
          return (some ['#'], false)
        | none => return (some ['#'], false)
    | some '}' => return (none, false)
    | some c =>
      if isSpecial c then
        drop
        return (some [c], false)
      else return (none, false)
    | none => return (none, false)

/-- What the character after a parameter makes of it. -/
def fallbackOf? : Char → Option Fallback
  | '-' => some .use
  | '=' => some .assign
  | '?' => some .fail
  | '+' => some .instead
  | _ => none

mutual

/-- The parts of a word from here on, in the surroundings of `a`. -/
def pieces (inner : Inner) : Nat → Around → Reader Word
  | 0, _ => throw "word too long"
  | fuel + 1, a => do
    match ← peek with
    | none =>
      match a.openMessage? with
      | some message => throw message
      | none => return []
    | some c =>
      if a = .nothing && endsWord c then return []
      else if c = '\\' then
        drop
        let first ← escaped a
        return first ++ (← pieces inner fuel a)
      else if c = '$' then
        drop
        let first ← dollar inner fuel a
        return first :: (← pieces inner fuel a)
      else if c = '\x60' then
        drop
        let script ← backquoted a.isQuoted (← enough)
        let body ← inText script inner.list
        return .output body a.isQuoted :: (← pieces inner fuel a)
      else
        drop
        match a, c with
        | .double, '"' => return []
        | .brace quoted inside, '}' =>
          if quoted && inside then return .char c true :: (← pieces inner fuel a) else return []
        | .brace true inside, '"' => return .quotes :: (← pieces inner fuel (.brace true (!inside)))
        | .arithmetic opened, '(' =>
          return .char c false :: (← pieces inner fuel (.arithmetic (opened + 1)))
        | .arithmetic (opened + 1), ')' =>
          return .char c false :: (← pieces inner fuel (.arithmetic opened))
        | .arithmetic 0, ')' =>
          if ← accept ')' then return []
          else return .char c false :: (← pieces inner fuel a)
        | _, '\'' =>
          if a.isQuoted then return .char c true :: (← pieces inner fuel a)
          else
            let text ← singleQuoted (← enough)
            return .quotes :: text ++ (← pieces inner fuel a)
        | _, '"' =>
          if a.isQuoted then return .char c true :: (← pieces inner fuel a)
          else
            let text ← pieces inner fuel .double
            return .quotes :: text ++ (← pieces inner fuel a)
        | _, _ => return .char c a.isQuoted :: (← pieces inner fuel a)

/-- What follows a `$`. -/
def dollar (inner : Inner) : Nat → Around → Reader Piece
  | 0, _ => throw "word too long"
  | fuel + 1, a => do
    let quoted := a.isQuoted
    match ← peek with
    | some '(' =>
      drop
      if ← accept '(' then return .arithmetic (← pieces inner fuel (.arithmetic 0)) quoted
      else return .output (← substitution inner.list inner.closing) quoted
    | some '{' =>
      drop
      let (name?, length) ← bracedName
      let some name := name?
        | do
          let _ ← pieces inner fuel (.brace quoted false)
          return .param [] .unknown quoted
      if length then
        if ← accept '}' then return .param name .length quoted
        else
          let _ ← pieces inner fuel (.brace quoted false)
          return .param name .unknown quoted
      else
        let null ← accept ':'
        let operator ← take
        match operator with
        | some '}' =>
          if null then
            let _ ← pieces inner fuel (.brace quoted false)
            return .param name .unknown quoted
          else return .param name .value quoted
        | some c =>
          match fallbackOf? c with
          | some kind =>
            let word ← pieces inner fuel (.brace quoted false)
            return .param name (.fallback kind null word) quoted
          | none =>
            if (c = '%' || c = '#') && !null then
              let longest ← accept c
              let pattern ← pieces inner fuel (.brace false false)
              return .param name (.trim (c = '%') longest pattern) quoted
            else
              let _ ← pieces inner fuel (.brace quoted false)
              return .param name .unknown quoted
        | none =>
          throw (((Around.brace quoted false).openMessage?).getD "")
    | some c =>
      if beginsName c then return .param (← takeWhile continuesName (← enough)) .value quoted
      else if isSpecial c then
        drop
        return .param [c] .value quoted
      else return .char '$' quoted
    | none => return .char '$' quoted

end

end Reader

end SiteRuntime.Shell

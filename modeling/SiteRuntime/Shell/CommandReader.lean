import SiteRuntime.Shell.WordReader

/-!
# Reading commands

Tokens and the commands that they make. A script is read one line of commands at a time, because
what a line does can come before the next one turns out not to be well formed: `Reader.line` reads
one.
-/

namespace SiteRuntime.Shell

/-- The characters of a word without quotes and expansions. -/
def plain? (w : Word) : Option Chars :=
  w.mapM fun
    | .char c false => some c
    | _ => none

/-- The characters of a word without its quotes. -/
def unquoted (w : Word) : Chars :=
  w.filterMap fun
    | .char c _ => some c
    | _ => none

/-- Whether a piece comes from quotes. -/
def Piece.isQuoted : Piece → Bool
  | .char _ quoted => quoted
  | .quotes => true
  | _ => false

/-- The assignment that a word is: a name before an equals sign, without quotes. -/
def assignment? (w : Word) : Option (Chars × Word) :=
  let name := w.takeWhile fun
    | .char c false => continuesName c
    | _ => false
  match w.drop name.length with
  | .char '=' false :: value =>
    let name := unquoted name
    if isName name then some (name, value) else none
  | _ => none

/-- Builtins that no function may be named after. -/
def specialBuiltins : List String :=
  [".", ":", "break", "continue", "eval", "exec", "exit", "export", "local", "readonly", "return",
    "set", "shift", "times", "trap", "unset"]

namespace Reader

/-! ### Texts further down -/

/-- The next line to the letter, and whether there was one. -/
def wholeLine : Nat → Reader (Option Chars)
  | 0 => return none
  | fuel + 1 => do
    match ← take with
    | none => return none
    | some '\n' => return some []
    | some c => return some (c :: (← wholeLine fuel).getD [])

/-- The lines up to one that ends them. -/
def linesUntil (mark : Chars) (strip : Bool) : Nat → Reader Chars
  | 0 => return []
  | fuel + 1 => do
    let ahead := (← get).rest
    match ← wholeLine (ahead.length + 1) with
    | none => return []
    | some line =>
      let line := if strip then line.dropWhile (· = '\t') else line
      if line = mark then return []
      else
        let ended := if (← get).rest.isEmpty && ahead.getLast? ≠ some '\n' then [] else ['\n']
        return line ++ ended ++ (← linesUntil mark strip fuel)

/-- Reads the texts that redirections wait for. -/
def readAwaited (inner : Inner) : List Awaited → Reader Unit
  | [] => return ()
  | a :: rest => do
    let text ← linesUntil a.mark a.strip (← enough)
    let word ←
      if a.literal then pure (quotedText text)
      else inText text (pieces inner (text.length + 1) .here)
    modify fun r => { r with texts := r.texts.set! a.number word }
    readAwaited inner rest

/-- The end of a line: the texts that its redirections wait for are read. -/
def endLine (inner : Inner) : Reader Unit := do
  let awaited := (← get).awaited
  modify fun r => { r with awaited := [] }
  readAwaited inner awaited

/-! ### Tokens -/

/-- The sign of a redirection of a stream after its first character. -/
def redirectSign (c : Char) : Reader RedirectSign := do
  if c = '>' then
    if ← accept '>' then return .append
    else if ← accept '|' then return .clobber
    else if ← accept '&' then return .duplicate
    else return .output
  else if ← accept '<' then return .here (← accept '-')
  else if ← accept '&' then return .duplicate
  else if ← accept '>' then return .both
  else return .input

/-- A word, or a redirection of the stream that a single digit before the sign names. -/
def wordToken (inner : Inner) : Reader Token := do
  let w ← pieces inner (2 * (← enough) + 2) .nothing
  let sign ← peek
  let stream? : Option (Option Nat) := match w with
    | [] => some none
    | [.char d false] => if d.isDigit then some (some (d.toNat - '0'.toNat)) else none
    | _ => none
  match sign, stream? with
  | some c, some stream =>
    if c = '>' || c = '<' then
      drop
      let standard := if c = '>' then 1 else 0
      return .redirect (stream.getD standard) (← redirectSign c)
    else return .word w (w.any Piece.isQuoted)
  | _, _ => return .word w (w.any Piece.isQuoted)

/-- The next token ahead. -/
def rawToken (inner : Inner) : Nat → Reader Token
  | 0 => return .eof
  | fuel + 1 => do
    match ← peek with
    | none => return .eof
    | some ' ' => drop; rawToken inner fuel
    | some '\t' => drop; rawToken inner fuel
    | some '#' =>
      modify fun r => { r with rest := r.rest.dropWhile (· ≠ '\n') }
      rawToken inner fuel
    | some '\n' => drop; return .newline
    | some '&' => drop; return if ← accept '&' then .and else .ampersand
    | some '|' => drop; return if ← accept '|' then .or else .pipe
    | some ';' => drop; return if ← accept ';' then .caseEnd else .semicolon
    | some '(' => drop; return .opening
    | some ')' => drop; return .closing
    | some _ => wordToken inner

/-- Reads a token again. -/
def putBack : Reader Unit := modify fun r => { r with pushed := true }

/-- The token put back, or else the next one. -/
def anyToken (inner : Inner) : Reader Token := do
  let r ← get
  if r.pushed then
    set { r with pushed := false }
    return r.last
  else
    let t ← rawToken inner (← enough)
    modify fun r => { r with last := t }
    return t

/-- The first token that is no line end. -/
def pastLineEnds (inner : Inner) : Nat → Reader Token
  | 0 => return .eof
  | fuel + 1 => do
    match ← anyToken inner with
    | .newline => endLine inner; pastLineEnds inner fuel
    | t => return t

/-- Which tokens are looked for. -/
structure Wanted where
  /-- Line ends are passed over. -/
  pastLines : Bool
  /-- Words may be keywords. -/
  keywords : Bool

namespace Wanted

/-- Any token as it is. -/
def plain : Wanted := ⟨false, false⟩

/-- A keyword if there is one. -/
def keyword : Wanted := ⟨false, true⟩

/-- A keyword if there is one, after any line ends. -/
def further : Wanted := ⟨true, true⟩

end Wanted

/-- The next token. -/
def token (inner : Inner) (wanted : Wanted) : Reader Token := do
  let t ← if wanted.pastLines then pastLineEnds inner (← enough) else anyToken inner
  match t with
  | .word w quoted =>
    let keyword? := if wanted.keywords && !quoted then (plain? w).bind Keyword.ofText? else none
    match keyword? with
    | some k =>
      modify fun r => { r with last := .keyword k }
      return .keyword k
    | none => return t
  | t => return t

/-- Fails at the token last read. -/
def unexpected {α : Type} (expected : Option Token) : Reader α := do
  let found := (← get).last.name
  match expected with
  | some t => throw s!"{found} unexpected (expecting {t.name})"
  | none => throw s!"{found} unexpected"

/-- Reads a keyword that has to be there. -/
def expectKeyword (inner : Inner) (wanted : Wanted) (k : Keyword) : Reader Unit := do
  match ← token inner wanted with
  | .keyword found => if found ≠ k then unexpected (some (.keyword k))
  | _ => unexpected (some (.keyword k))

/-! ### Redirections -/

/-- A redirection after its sign. -/
def redirection (inner : Inner) (stream : Nat) (sign : RedirectSign) : Reader Redirect := do
  match ← token inner .plain with
  | .word w quoted =>
    match sign with
    | .input => return .mk stream (.input w)
    | .output => return .mk stream (.output w false)
    | .clobber => return .mk stream (.output w true)
    | .append => return .mk stream (.append w)
    | .both => return .mk stream (.both w)
    | .duplicate => return .mk stream (.duplicate w)
    | .here strip =>
      let number := (← get).texts.size
      modify fun r =>
        { r with
          texts := r.texts.push []
          awaited := r.awaited ++ [⟨number, unquoted w, strip, quoted⟩] }
      return .mk stream (.here number)
  | _ => unexpected none

/-- Redirections after a command. -/
def redirections (inner : Inner) : Nat → Reader (List Redirect)
  | 0 => return []
  | fuel + 1 => do
    match ← token inner .keyword with
    | .redirect stream sign =>
      let r ← redirection inner stream sign
      return r :: (← redirections inner fuel)
    | _ => putBack; return []

/-! ### Commands -/

/-- A command run in the background. -/
def inBackground : Command → Command
  | .pipeline parts _ => .pipeline parts true
  | .redirected line body redirects => .background line body redirects
  | c => .background 0 c []

/-- A command after another one, if there is one. -/
def inSequence : Command → Command → Command
  | .nothing, c => c
  | a, b => .sequence a b

/-- A simple command under way. -/
structure Simple where
  assignments : List (Chars × Word)
  words : List Word
  redirects : List Redirect

/-- Words up to a token that is none. -/
def words (inner : Inner) : Nat → Reader (List Word)
  | 0 => return []
  | fuel + 1 => do
    match ← token inner .plain with
    | .word w _ => return w :: (← words inner fuel)
    | _ => return []

/-- The patterns of a clause, and the parenthesis after them. A token that is no word stands for an
empty pattern. -/
def patterns (inner : Inner) : Nat → Token → Reader (List Word)
  | 0, _ => unexpected none
  | fuel + 1, t => do
    let w := match t with
      | .word w _ => w
      | .keyword k => k.text.toList.map fun c => Piece.char c false
      | _ => []
    match ← token inner .plain with
    | .pipe => return w :: (← patterns inner fuel (← token inner .plain))
    | .closing => return [w]
    | _ => unexpected (some .closing)

mutual

/-- Commands up to a token that ends them. With `whole`, up to the end of a line; with `empty`,
there may be none. -/
def list : Nat → Bool → Bool → Command → Reader Command
  | 0, _, _, _ => throw "script too long"
  | fuel + 1, whole, empty, before => do
    let inner := innerOf fuel
    match ← token inner ⟨!whole, true⟩ with
    | .newline => endLine inner; return before
    | .eof => endLine inner; putBack; return before
    | t =>
      putBack
      if empty && !whole && t.endsList then return before
      let first ← andOr fuel (← pipeline fuel ⟨false, false⟩)
      let next ← token inner .plain
      let first := match next with
        | .ampersand => inBackground first
        | _ => first
      let done := inSequence before first
      match next with
      | .eof => endLine inner; putBack; return done
      | .newline => putBack; list fuel whole true done
      | .ampersand => list fuel whole true done
      | .semicolon => list fuel whole true done
      | _ => if whole then unexpected none else putBack; return done

/-- Further pipelines after `&&` and `||`. -/
def andOr : Nat → Command → Reader Command
  | 0, _ => throw "script too long"
  | fuel + 1, first => do
    match ← token (innerOf fuel) .plain with
    | .and => andOr fuel (.both first (← pipeline fuel .further))
    | .or => andOr fuel (.either first (← pipeline fuel .further))
    | _ => putBack; return first

/-- Commands with pipes between, perhaps negated. -/
def pipeline : Nat → Wanted → Reader Command
  | 0, _ => throw "script too long"
  | fuel + 1, wanted => do
    let (negated, wanted) ← match ← token (innerOf fuel) wanted with
      | .keyword .bang => pure (true, Wanted.keyword)
      | _ => do putBack; pure (false, Wanted.plain)
    let first ← command fuel wanted
    let rest ← piped fuel
    let c := if rest.isEmpty then first else .pipeline (first :: rest) false
    return if negated then .not c else c

/-- Further commands after pipes. -/
def piped : Nat → Reader (List Command)
  | 0 => throw "script too long"
  | fuel + 1 => do
    match ← token (innerOf fuel) .plain with
    | .pipe => return (← command fuel .further) :: (← piped fuel)
    | _ => putBack; return []

/-- One command. -/
def command : Nat → Wanted → Reader Command
  | 0, _ => throw "script too long"
  | fuel + 1, wanted => do
    let inner := innerOf fuel
    let line := (← get).line
    match ← token inner wanted with
    | .keyword .if =>
      let c ← conditional fuel
      expectKeyword inner .plain .fi
      redirectedCommand inner line c
    | .keyword .while => loop fuel line false
    | .keyword .until => loop fuel line true
    | .keyword .for => each fuel line
    | .keyword .case =>
      match ← token inner .plain with
      | .word w _ =>
        expectKeyword inner .further .in
        let clauses ← clauses fuel
        redirectedCommand inner line (.choose line w clauses)
      | _ => unexpected (some (.word [] false))
    | .opening =>
      let body ← list fuel false false .nothing
      match ← token inner .plain with
      | .closing => return .subshell line body (← redirections inner (← enough))
      | _ => unexpected (some .closing)
    | .keyword .openBrace =>
      let body ← list fuel false false .nothing
      expectKeyword inner .plain .closeBrace
      redirectedCommand inner line body
    | .word _ _ => putBack; simple fuel line true ⟨[], [], []⟩
    | .redirect _ _ => putBack; simple fuel line true ⟨[], [], []⟩
    | _ => unexpected none

/-- A command with the redirections after it. -/
def redirectedCommand (inner : Inner) (line : Nat) (c : Command) : Reader Command := do
  match ← redirections inner (← enough) with
  | [] => return c
  | redirects => return .redirected line c redirects

/-- What follows `if` or `elif`. -/
def conditional : Nat → Reader Command
  | 0 => throw "script too long"
  | fuel + 1 => do
    let inner := innerOf fuel
    let test ← list fuel false false .nothing
    expectKeyword inner .plain .then
    let yes ← list fuel false false .nothing
    match ← token inner .plain with
    | .keyword .elif => return .conditional test yes (← conditional fuel)
    | .keyword .else => return .conditional test yes (← list fuel false false .nothing)
    | _ => putBack; return .conditional test yes .nothing

/-- What follows `while` or `until`. -/
def loop : Nat → Nat → Bool → Reader Command
  | 0, _, _ => throw "script too long"
  | fuel + 1, line, inverted => do
    let inner := innerOf fuel
    let test ← list fuel false false .nothing
    expectKeyword inner .plain .do
    let body ← list fuel false false .nothing
    expectKeyword inner .plain .done
    redirectedCommand inner line (.loop inverted test body)

/-- What follows `for`. -/
def each : Nat → Nat → Reader Command
  | 0, _ => throw "script too long"
  | fuel + 1, line => do
    let inner := innerOf fuel
    let name ← match ← token inner .plain with
      | .word w quoted =>
        match if quoted then none else plain? w with
        | some name => if isName name then pure name else throw "Bad for loop variable"
        | none => throw "Bad for loop variable"
      | _ => throw "Bad for loop variable"
    let words ← match ← token inner .further with
      | .keyword .in => do
        let ws ← words inner (← enough)
        match (← get).last with
        | .newline => endLine inner
        | .semicolon => pure ()
        | _ => unexpected none
        pure ws
      | .semicolon => pure [allParameters]
      | _ => do putBack; pure [allParameters]
    expectKeyword inner .further .do
    let body ← list fuel false false .nothing
    expectKeyword inner .plain .done
    redirectedCommand inner line (.each line name words body)

/-- The clauses of a choice up to its end. -/
def clauses : Nat → Reader (List (List Word × Command))
  | 0 => throw "script too long"
  | fuel + 1 => do
    let inner := innerOf fuel
    match ← token inner .further with
    | .keyword .esac => return []
    | t =>
      let t ← match t with
        | .opening => token inner .plain
        | t => pure t
      let patterns ← patterns inner (← enough) t
      let body ← list fuel false true .nothing
      match ← token inner .further with
      | .keyword .esac => return [(patterns, body)]
      | .caseEnd => return (patterns, body) :: (← clauses fuel)
      | _ => unexpected (some .caseEnd)

/-- A simple command or the definition of a function. -/
def simple : Nat → Nat → Bool → Simple → Reader Command
  | 0, _, _, _ => throw "script too long"
  | fuel + 1, line, assigning, s => do
    let inner := innerOf fuel
    match ← token inner .plain with
    | .word w _ =>
      match if assigning then assignment? w else none with
      | some a => simple fuel line true { s with assignments := s.assignments ++ [a] }
      | none => simple fuel line false { s with words := s.words ++ [w] }
    | .redirect stream sign =>
      let r ← redirection inner stream sign
      simple fuel line assigning { s with redirects := s.redirects ++ [r] }
    | .opening =>
      match s.words with
      | [w] =>
        if s.assignments.isEmpty && s.redirects.isEmpty then
          match ← token inner .plain with
          | .closing =>
            let name := (plain? w).getD []
            if !isName name || specialBuiltins.contains (String.ofList name) then
              throw "Bad function name"
            let line := (← get).line
            return .define line name (← command fuel .further)
          | _ => unexpected (some .closing)
        else putBack; return .simple line s.assignments s.words s.redirects
      | _ => putBack; return .simple line s.assignments s.words s.redirects
    | _ => putBack; return .simple line s.assignments s.words s.redirects

/-- How the commands of substitutions are read. -/
def innerOf : Nat → Inner
  | 0 => ⟨throw "script too long", throw "script too long"⟩
  | fuel + 1 =>
    { list := list fuel false true .nothing
      closing := do
        match ← token (innerOf fuel) .plain with
        | .closing => return ()
        | _ => unexpected (some .closing) }

end

/-- The commands of the next line; none at the end of the script. -/
def line : Reader (Option Command) := do
  let fuel := 4 * (← enough) + 16
  modify fun r => { r with pushed := false }
  match ← token (innerOf fuel) .keyword with
  | .eof => return none
  | _ =>
    putBack
    some <$> list fuel true false .nothing

end Reader

end SiteRuntime.Shell

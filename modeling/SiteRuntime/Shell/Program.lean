import SiteRuntime.Shell.Escape
import SiteRuntime.Shell.Number
import SiteRuntime.Shell.State

/-!
# Programs

The programs that do their work here, apart from the shell. Each takes the name that it is called by
and its arguments, works on its streams, and returns an exit code.
-/

namespace SiteRuntime.Shell.Program

/-! ### Messages and options -/

/-- Writes a message of a program. -/
def complain (name : Chars) (message : String) : M Unit := say s!"{Chars.toText name}: {message}"

/-- Says where help is to be had; the exit code is that of a failure. -/
def usage (name : Chars) : M Nat := do
  say s!"Try '{Chars.toText name} --help' for more information."
  return 1

/-- A character that is not shown as itself, after a backslash. -/
def shownSpecially? (c : Char) : Option Chars :=
  match c with
  | '\n' => some ['\\', 'n']
  | '\t' => some ['\\', 't']
  | '\r' => some ['\\', 'r']
  | '\x07' => some ['\\', 'a']
  | '\x08' => some ['\\', 'b']
  | '\x0b' => some ['\\', 'v']
  | '\x0c' => some ['\\', 'f']
  | c =>
    if ' ' ≤ c && c ≤ '~' then none
    else some ('\\' :: zeroPadded 3 (Nat.toDigits 8 c.toNat))

/-- An argument in quotes as messages show it. -/
def inQuotes (s : Chars) : String :=
  let shown := s.flatMap fun c =>
    match shownSpecially? c with
    | some text => text
    | none => if c = '\'' || c = '\\' then ['\\', c] else [c]
  "'" ++ String.ofList shown ++ "'"

/-- Characters that make a script read a name otherwise. -/
def isSpecialInNames (c : Char) : Bool :=
  c ∈ [' ', '!', '"', '$', '&', '\'', '(', ')', '*', ':', ';', '<', '=', '>', '?', '[', '\\', '^',
    '\x60', '|']

/-- Whether a script would have to quote a file name. -/
def needsQuotes (s : Chars) : Bool :=
  s.isEmpty || s = ['{'] || s = ['}'] || s.head?.any (fun c => c = '#' || c = '~') ||
    s.any fun c => isSpecialInNames c || (shownSpecially? c).isSome

/-- Characters that mean the same in both kinds of quotes. -/
def isPlainInQuotes (c : Char) : Bool :=
  c.isAlphanum || c ∈ [' ', '\'', '%', '+', ',', '-', '.', '/', ':', ']', '_']

/-- The characters of a file name between single quotes; `special` tells whether the one before was
written by a sign, for which the quotes are left. -/
def quotedName : Bool → Chars → Chars
  | _, [] => []
  | special, c :: rest =>
    match shownSpecially? c with
    | some text =>
      (if special then [] else ['\'', '$', '\'']) ++ text ++ quotedName true rest
    | none =>
      (if special then ['\'', '\''] else []) ++
        (if c = '\'' then ['\'', '\\', '\'', '\''] else [c]) ++ quotedName false rest

/-- A file name as messages show it: in quotes if a script would have to quote it. -/
def fileName (s : Chars) : String :=
  if !needsQuotes s then String.ofList s
  else if s.contains '\'' && s.all isPlainInQuotes then "\"" ++ String.ofList s ++ "\""
  else "'" ++ String.ofList (quotedName false s) ++ "'"

/-- An option of a program: its letter, if it has one, and its long name. -/
structure Known where
  letter : Char
  long : Chars

/-- What the arguments of a program ask for: options by letter, and operands. -/
structure Arguments where
  options : List Char
  operands : List Chars

/-- What is wrong with an argument. -/
inductive ArgumentError where
  | unknownLetter (c : Char)
  | unknownName (argument : Chars)

/-- The options whose long names begin with a text; one that is the text counts alone. -/
def named (known : List Known) (name : Chars) : List Known :=
  match known.find? (·.long = name) with
  | some o => [o]
  | none => known.filter fun o => name.isPrefixOf o.long

/-- Reads arguments; options may stand after operands. -/
def readArguments (known : List Known) : List Chars → Except ArgumentError Arguments
  | [] => .ok ⟨[], []⟩
  | a :: rest =>
    match a with
    | ['-', '-'] => .ok ⟨[], rest⟩
    | '-' :: '-' :: name =>
      match named known name with
      | [o] => (readArguments known rest).map fun r => { r with options := o.letter :: r.options }
      | _ => .error (.unknownName a)
    | '-' :: c :: more =>
      match (c :: more).find? fun c => known.all (·.letter ≠ c) with
      | some c => .error (.unknownLetter c)
      | none => (readArguments known rest).map fun r =>
        { r with options := (c :: more) ++ r.options }
    | _ => (readArguments known rest).map fun r => { r with operands := a :: r.operands }

/-- Reads the arguments of a program, or says what is wrong with them. -/
def arguments (name : Chars) (known : List Known) (args : List Chars) : M (Option Arguments) := do
  match readArguments known args with
  | .ok r => return some r
  | .error (.unknownLetter c) =>
    complain name s!"invalid option -- '{Chars.toText [c]}'"
    return none
  | .error (.unknownName a) =>
    complain name s!"unrecognized option '{Chars.toText a}'"
    return none

/-- Prints the output of a program; it fails if that is not possible. -/
def output (name s : Chars) (code : Nat) : M Nat := do
  if ← printChars s then return code
  else
    complain name "write error: Bad file descriptor"
    return 1

/-! ### Reading files -/

/-- What a program reads: a file that an operand names, or its input. -/
inductive Source where
  | file (path : Chars)
  | input

/-- The source that an operand names. -/
def Source.ofOperand (a : Chars) : Source := if a = ['-'] then .input else .file a

/-- The name of a source in messages. -/
def Source.name : Source → String
  | .file path => fileName path
  | .input => "-"

/-- What there is to read from the input: bytes, or nothing because it is a directory or closed. -/
def readInput : M (Except String Bytes) := do
  let s ← get
  match s.channel? 0 with
  | some (.file position _ access) =>
    if !access.reads then return .error "Bad file descriptor"
    else if s.world.files.isDirectory position then return .error "Is a directory"
    else return .ok ((← readAll 0).getD [])
  | some _ => return .ok ((← readAll 0).getD [])
  | none => return .error "Bad file descriptor"

/-- The path of the device that holds nothing. -/
def nullDevice : Chars := "/dev/null".toList

/-- What an operating system error is called. -/
def errorText : OsError → String
  | .notFound => "No such file or directory"
  | .notDirectory => "Not a directory"
  | .nameTooLong => "File name too long"
  | .isDirectory => "Is a directory"
  | _ => "Permission denied"

/-- What a source holds. -/
def Source.read : Source → M (Except String Bytes)
  | .input => readInput
  | .file path => do
    if path = nullDevice then return .ok []
    let s ← get
    match s.resolve path with
    | .ok (_, .file content _) => return .ok content
    | .ok (_, .directory) => return .error "Is a directory"
    | .error e => return .error (errorText e)

/-! ### Printing arguments and files -/

/-- The options at the front of the arguments of `echo`: whether the line end is left out and
whether escapes are replaced. -/
def echoOptions : List Chars → Bool × Bool → (Bool × Bool) × List Chars
  | [], o => (o, [])
  | a :: rest, (noEnd, escapes) =>
    match a with
    | '-' :: c :: more =>
      let word := c :: more
      if word.all ['n', 'e', 'E'].contains then
        let last := (word.filter (· ≠ 'n')).getLast?
        echoOptions rest (noEnd || word.contains 'n', (last.map (· == 'e')).getD escapes)
      else ((noEnd, escapes), a :: rest)
    | _ => ((noEnd, escapes), a :: rest)

/-- Prints arguments with blanks between. -/
def echo (name : Chars) (args : List Chars) : M Nat := do
  let posix := ((← get).valueOf? "POSIXLY_CORRECT").isSome
  let ((noEnd, escapes), words) :=
    if posix then
      if args.head? = some ['-', 'n'] then
        let ((noEnd, _), words) := echoOptions args (false, false)
        ((noEnd, true), words)
      else ((false, true), args)
    else echoOptions args (false, false)
  let text :=
    if escapes then unescapeAll programEscape (!noEnd) words
    else [' '].intercalate words ++ (if noEnd then [] else ['\n'])
  output name text 0

/-- Prints files or the input. -/
def cat (name : Chars) (args : List Chars) : M Nat := do
  match ← arguments name [⟨'u', "unbuffered".toList⟩] args with
  | none => usage name
  | some a =>
    let sources := if a.operands.isEmpty then [.input] else a.operands.map Source.ofOperand
    let mut code := 0
    for source in sources do
      match ← source.read with
      | .ok bytes =>
        if !(← print bytes) then
          complain name "standard output: Bad file descriptor"
          return 1
      | .error message =>
        complain name s!"{source.name}: {message}"
        code := 1
    return code

/-! ### Counting -/

/-- What is counted in a text. -/
structure Counts where
  lines : Nat
  words : Nat
  bytes : Nat
  /-- The length of the longest line. -/
  longest : Nat

/-- A text being counted. -/
structure Counting where
  counts : Counts
  inWord : Bool
  column : Nat

/-- One byte more. -/
def Counting.add (c : Counting) (b : UInt8) : Counting :=
  let ch := Char.ofNat b.toNat
  let space := isAsciiSpace ch
  let column :=
    if ch = '\n' || ch = '\r' || ch = '\x0c' then 0
    else if ch = '\t' then c.column + 8 - c.column % 8
    else if ' ' ≤ ch && ch ≤ '~' then c.column + 1
    else c.column
  { counts := {
      lines := c.counts.lines + (if ch = '\n' then 1 else 0)
      words := c.counts.words + (if !space && !c.inWord then 1 else 0)
      bytes := c.counts.bytes + 1
      longest := max c.counts.longest column }
    inWord := !space
    column }

/-- The counts of a text. -/
def Counts.ofBytes (b : Bytes) : Counts :=
  (b.foldl Counting.add ⟨⟨0, 0, 0, 0⟩, false, 0⟩).counts

/-- The counts of two texts together. -/
def Counts.merge (a b : Counts) : Counts :=
  ⟨a.lines + b.lines, a.words + b.words, a.bytes + b.bytes, max a.longest b.longest⟩

/-- The options of `wc`. -/
def countOptions : List Known :=
  [⟨'c', "bytes".toList⟩, ⟨'m', "chars".toList⟩, ⟨'l', "lines".toList⟩,
    ⟨'L', "max-line-length".toList⟩, ⟨'w', "words".toList⟩]

/-- The numbers that options ask for, in the order in which they are printed. -/
def Counts.chosen (c : Counts) (options : List Char) : List Nat :=
  let options := if options.isEmpty then ['l', 'w', 'c'] else options
  [('l', c.lines), ('w', c.words), ('m', c.bytes), ('c', c.bytes), ('L', c.longest)].filterMap
    fun (letter, n) => if options.contains letter then some n else none

/-- A number of a width at least. -/
def rightAligned (width n : Nat) : Chars :=
  let digits := numberChars n
  List.replicate (width - digits.length) ' ' ++ digits
where
  /-- The digits of a number. -/
  numberChars (n : Nat) : Chars := (toString n).toList

/-- A line of counts. -/
def countLine (width : Nat) (options : List Char) (c : Counts) (name : Option Chars) : Chars :=
  [' '].intercalate ((c.chosen options).map (rightAligned width)) ++
    (match name with
    | some name => ' ' :: name
    | none => []) ++ ['\n']

/-- How much a source adds to the size that the width of the numbers is made for; nothing for a file
that is not there, and none for what has no size. -/
def Source.size : Source → M (Option (Option Nat))
  | .input => do
    let s ← get
    match s.channel? 0 with
    | some (.file position _ _) =>
      match s.world.files.find? position with
      | some (.file content _) => return some (some content.length)
      | _ => return some none
    | some _ => return some none
    | none => return none
  | .file path => do
    if path = nullDevice then return some none
    match (← get).resolve path with
    | .ok (_, .file content _) => return some (some content.length)
    | .ok (_, .directory) => return some none
    | .error _ => return none

/-- The width of numbers: that of the size of all files, but seven if one has no size, and one for a
single number. -/
def countWidth (options : List Char) (sources : List Source) : M Nat := do
  if sources.length = 1 && ((Counts.ofBytes []).chosen options).length = 1 then return 1
  let sizes ← sources.mapM (·.size)
  let total := sizes.foldl (fun n size => n + (size.join).getD 0) 0
  let width := (toString total).length
  return if sizes.any (· = some none) then max width 7 else width

/-- Counts lines, words and bytes. -/
def wc (name : Chars) (args : List Chars) : M Nat := do
  match ← arguments name countOptions args with
  | none => usage name
  | some a =>
    let sources := if a.operands.isEmpty then [.input] else a.operands.map Source.ofOperand
    let width ← countWidth a.options sources
    let mut code := 0
    let mut total : Counts := ⟨0, 0, 0, 0⟩
    for source in sources do
      let label := match source with
        | .file path => some path
        | .input => if a.operands.isEmpty then none else some ['-']
      if label = some [] then
        complain name "invalid zero-length file name"
        code := 1
      else
        let result ← source.read
        let counts := Counts.ofBytes (result.toOption.getD [])
        total := total.merge counts
        match result with
        | .ok _ => code := max code (← output name (countLine width a.options counts label) 0)
        | .error message =>
          complain name s!"{source.name}: {message}"
          code := 1
          if message = "Is a directory" then
            let _ ← output name (countLine width a.options counts label) 0
    if 1 < sources.length then
      code := max code (← output name (countLine width a.options total (some "total".toList)) 0)
    return code

/-! ### Waiting -/

/-- The seconds of a unit of time. -/
def unitSeconds? : Chars → Option Nat
  | [] => some 1
  | ['s'] => some 1
  | ['m'] => some 60
  | ['h'] => some 3600
  | ['d'] => some 86400
  | _ => none

/-- A time that never ends. -/
def forever : Nat := tenTo 30

/-- The nanoseconds that an argument writes. -/
def interval? (s : Chars) : Option Nat :=
  let s' := s.dropWhile isAsciiSpace
  let lower := String.ofList ((if s'.head? = some '+' then s'.drop 1 else s').map Char.toLower)
  if lower = "inf" || lower = "infinity" then some forever
  else
    match leadingFraction s with
    | some (r, unit) =>
      if r.negative && r.num ≠ 0 then none
      else (unitSeconds? unit).map fun seconds => r.num * seconds * tenTo 9 / r.den
    | none => none

/-- Waits. -/
def sleep (name : Chars) (args : List Chars) : M Nat := do
  match ← arguments name [] args with
  | none => usage name
  | some a =>
    if a.operands.isEmpty then
      complain name "missing operand"
      usage name
    else
      let bad := a.operands.filter fun s => (interval? s).isNone
      if bad.isEmpty then
        pass (a.operands.foldl (fun n s => n + (interval? s).getD 0) 0)
        return 0
      else
        for s in bad do complain name s!"invalid time interval {inQuotes s}"
        usage name

/-- The program of a name, if it does its work here. -/
def ofName? (program : String) : Option (Chars → List Chars → M Nat) :=
  match program with
  | "true" => some fun _ _ => return 0
  | "false" => some fun _ _ => return 1
  | "echo" => some echo
  | "cat" => some cat
  | "wc" => some wc
  | "sleep" => some sleep
  | _ => none

end SiteRuntime.Shell.Program

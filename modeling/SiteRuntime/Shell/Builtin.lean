import SiteRuntime.Shell.CommandReader
import SiteRuntime.Shell.Expansion
import SiteRuntime.Shell.Printf
import SiteRuntime.Shell.Signal
import SiteRuntime.Shell.Test

/-!
# Builtins

Commands that a shell does itself, as far as they run no other commands. Each takes its arguments
and returns an exit code. One that fails says so and throws; whether the shell goes on is for the
caller to decide.
-/

namespace SiteRuntime.Shell.Builtin

/-- A text in single quotes, but its single quotes in double ones; `fuel` bounds its parts. -/
def quotedParts : Nat → Chars → Chars
  | 0, _ => []
  | fuel + 1, s =>
    let text := s.takeWhile (· ≠ '\'')
    let quotes := (s.drop text.length).takeWhile (· = '\'')
    let rest := s.drop (text.length + quotes.length)
    '\'' :: text ++ '\'' :: (if quotes.isEmpty then [] else '"' :: quotes ++ ['"']) ++
      (if rest.isEmpty then [] else quotedParts fuel rest)

/-- A text in quotes that a script would read back. -/
def quotedForm (s : Chars) : Chars := quotedParts (s.length + 1) s

/-- The options at the front of arguments: letters after a `-`, some of which take a value. -/
def options (letters valued : List Char) : Nat → List Chars → M (List (Char × Chars) × List Chars)
  | 0, args => return ([], args)
  | fuel + 1, args => do
    match args with
    | ('-' :: c :: more) :: rest =>
      if c = '-' && more.isEmpty then return ([], rest)
      else if valued.contains c then
        match more, rest with
        | [], [] => fail s!"No arg for -{Chars.toText [c]} option"
        | [], value :: rest =>
          let (found, rest) ← options letters valued fuel rest
          return ((c, value) :: found, rest)
        | value, rest =>
          let (found, rest) ← options letters valued fuel rest
          return ((c, value) :: found, rest)
      else if letters.contains c then
        let next := if more.isEmpty then rest else ('-' :: more) :: rest
        let (found, rest) ← options letters valued fuel next
        return ((c, []) :: found, rest)
      else fail s!"Illegal option -{Chars.toText [c]}"
    | _ => return ([], args)

/-- The options at the front of arguments, of which none takes a value. -/
def letters (allowed : List Char) (args : List Chars) : M (List Char × List Chars) := do
  let fuel := args.foldl (fun n a => n + a.length + 1) 1
  let (found, rest) ← options allowed [] fuel args
  return (found.map (·.1), rest)

/-- A count that an argument has to be. -/
def count (a : Chars) : M Nat :=
  match countArgument? a with
  | some n => return n
  | none => fail s!"Illegal number: {Chars.toText a}"

/-- Prints a line. -/
def printLine (s : Chars) : M Unit := do
  let _ ← printChars (s ++ ['\n'])

/-- Fails because of a name that can name no variable. -/
def badName {α : Type} (name : Chars) : M α := fail s!"{Chars.toText name}: bad variable name"

/-! ### Printing -/

/-- Prints arguments with their escapes replaced. -/
def echo (args : List Chars) : M Nat := do
  let text := match args with
    | ['-', 'n'] :: rest => unescapeAll printedEscape false rest
    | _ => unescapeAll printedEscape true args
  let _ ← printChars text
  return 0

/-- Prints arguments as a format says. -/
def printf (args : List Chars) : M Nat := do
  let (_, args) ← letters [] args
  match args with
  | [] => fail "usage: printf format [arg ...]"
  | format :: args => Printf.run format args

/-! ### Variables -/

/-- A name with the value after an equals sign, if there is one. -/
def splitAssignment (s : Chars) : Chars × Option Chars :=
  let name := s.takeWhile (· ≠ '=')
  match s.drop name.length with
  | _ :: value => (name, some value)
  | [] => (name, none)

/-- Gives variables a mark, after assigning to them what is said, or lists those that have it. -/
def mark (verb : String) (has : Variable → Bool) (give : Variable → Variable)
    (args : List Chars) : M Nat := do
  let (found, args) ← letters ['p'] args
  if args.isEmpty || !found.isEmpty then
    for (name, v) in (← get).vars.entries do
      if has v then
        let value := match v.value with
          | some value => '=' :: quotedForm value
          | none => []
        printLine (verb.toList ++ ' ' :: name ++ value)
  else
    for a in args do
      let (name, value?) := splitAssignment a
      if !isName name then badName name
      match value? with
      | some value => assign name value
      | none => pure ()
      modify fun s => s.setVariable name (give ((s.lookup? name).getD ⟨none, false, false⟩))
  return 0

/-- Variables that programs see. -/
def «export» : List Chars → M Nat := mark "export" (·.exported) ({ · with exported := true })

/-- Variables that keep their values. -/
def readonly : List Chars → M Nat := mark "readonly" (·.readOnly) ({ · with readOnly := true })

/-- Removes variables or functions. -/
def unset (args : List Chars) : M Nat := do
  let (found, names) ← letters ['v', 'f'] args
  for name in names do
    if found.getLast? = some 'f' then
      modify fun s => { s with functions := s.functions.erase name }
    else if !isName name then badName name
    else discard name
  return 0

/-- Hides variables until the function under way ends. -/
def «local» (args : List Chars) : M Nat := do
  if (← get).hidden.isEmpty then fail "not in a function"
  for a in args do
    if a = ['-'] then hideOptions
    else
      let (name, value?) := splitAssignment a
      if !isName name then badName name
      hide name
      match value? with
      | some value => assign name value
      | none => pure ()
  return 0

/-! ### Options and parameters -/

/-- The options by name, with the letters of those that have one. -/
def optionNames : List (String × Char) :=
  [("errexit", 'e'), ("noglob", 'f'), ("ignoreeof", 'I'), ("interactive", 'i'), ("monitor", 'm'),
    ("noexec", 'n'), ("stdin", 's'), ("xtrace", 'x'), ("verbose", 'v'), ("vi", 'V'), ("emacs", 'E'),
    ("noclobber", 'C'), ("allexport", 'a'), ("notify", 'b'), ("nounset", 'u'), ("privileged", 'p'),
    ("nolog", '\x01'), ("debug", '\x02')]

/-- Whether a letter is that of an option. -/
def isOption (c : Char) : Bool := ' ' < c && optionNames.any (·.2 = c)

/-- The shell with an option switched. -/
def switched (on : Bool) (c : Char) (s : State) : State :=
  let others := s.options.filter (· ≠ c)
  { s with options := if on then c :: others else others }

/-- A text followed by blanks up to a width. -/
def column (width : Nat) (s : String) : Chars :=
  s.toList ++ List.replicate (width - s.length) ' '

/-- Lists the options, in words or as commands that set them. -/
def listOptions (inWords : Bool) : M Unit := do
  if inWords then printLine "Current option settings".toList
  let s ← get
  for (name, c) in optionNames do
    if inWords then
      printLine (column 16 name ++ (if s.isOn c then "on" else "off").toList)
    else printLine ((if s.isOn c then "set -o " else "set +o ").toList ++ name.toList)

/-- Switches the option of a name. -/
def switchNamed (on : Bool) (name : Chars) : M Unit := do
  match optionNames.find? fun o => o.1.toList = name with
  | some (_, c) => modify (switched on c)
  | none => fail s!"Illegal option -o {Chars.toText name}"

/-- Switches the options of a word; what an `o` in it names is taken from the arguments after it. -/
def switchLetters (on : Bool) (special : Char → Bool) : Chars → List Chars → M (List Chars)
  | [], args => return args
  | c :: word, args => do
    if special c then switchLetters on special word args
    else if c = 'o' then
      match args with
      | name :: more =>
        switchNamed on name
        switchLetters on special word more
      | [] =>
        listOptions on
        switchLetters on special word []
    else if isOption c then
      modify (switched on c)
      switchLetters on special word args
    else fail s!"Illegal option -{Chars.toText [c]}"

/-- Options at the front of arguments, switched on after `-` and off after `+`. What is left over
comes with the sign that ended the options, if one did. -/
def switchAll (special : Char → Bool) : Nat → List Chars →
    M (List Char × Option Chars × List Chars)
  | 0, args => return ([], none, args)
  | fuel + 1, args => do
    match args with
    | (sign :: word) :: rest =>
      if sign ≠ '-' && sign ≠ '+' then return ([], none, args)
      else if sign = '-' && (word.isEmpty || word = ['-']) then
        return ([], some (sign :: word), rest)
      else
        let rest ← switchLetters (sign = '-') special word rest
        let (found, mark, rest) ← switchAll special fuel rest
        return (word.filter special ++ found, mark, rest)
    | _ => return ([], none, args)

/-- Sets options and parameters, or lists the variables. -/
def set (args : List Chars) : M Nat := do
  if args.isEmpty then
    for (name, v) in (← get).vars.entries do
      match v.value with
      | some value => printLine (name ++ '=' :: quotedForm value)
      | none => pure ()
    return 0
  let (_, mark, rest) ← switchAll (fun _ => false) (args.length + 1) args
  if mark = some ['-'] then modify fun s => switched false 'x' (switched false 'v' s)
  if !rest.isEmpty || mark = some ['-', '-'] then
    modify fun s => { s with parameters := rest, optionIndex := 1, optionOffset := 0 }
  return 0

/-- Drops parameters from the front. -/
def shift (args : List Chars) : M Nat := do
  let n ← match args with
    | [] => pure 1
    | a :: _ => count a
  if (← get).parameters.length < n then fail "can't shift that many"
  modify fun s =>
    { s with parameters := s.parameters.drop n, optionIndex := 1, optionOffset := 0 }
  return 0

/-- The next option among arguments, as `getopts` finds it. -/
structure NextOption where
  /-- What the variable gets: the option, `?`, or `:`. -/
  letter : Char
  /-- What `OPTARG` gets, if it is to have a value. -/
  value : Option Chars
  /-- The message, if something is wrong. -/
  message : Option String
  /-- The number of the argument after it. -/
  index : Nat
  /-- How far the argument before that has been read; nothing, if wholly. -/
  offset : Nat
  /-- Whether there was none. -/
  done : Bool

/-- Finds the next option among arguments. -/
def nextOption (allowed : Chars) (args : List Chars) (index offset : Nat) : NextOption :=
  let current := if index ≤ 1 || offset = 0 then [] else ((args[index - 2]?).getD []).drop offset
  let silent := allowed.head? = some ':'
  let start : Option (Chars × Nat × Nat) :=
    if current.isEmpty then
      match args[index - 1]? with
      | some ('-' :: c :: more) =>
        if c = '-' && more.isEmpty then none else some (c :: more, index + 1, 1)
      | _ => none
    else some (current, index, offset)
  match start with
  | none =>
    let skipped :=
      if current.isEmpty && args[index - 1]? = some ['-', '-'] then index + 1 else index
    ⟨'?', none, none, skipped, 0, true⟩
  | some (word, index, offset) =>
    let c := word.headD ' '
    let more := word.drop 1
    let here := if more.isEmpty then 0 else offset + 1
    match (allowed.dropWhile (· = ':')).dropWhile (· ≠ c) with
    | [] =>
      if silent then ⟨'?', some [c], none, index, here, false⟩
      else ⟨'?', none, some s!"Illegal option -{Chars.toText [c]}", index, here, false⟩
    | _ :: ':' :: _ =>
      if !more.isEmpty then ⟨c, some more, none, index, 0, false⟩
      else
        match args[index - 1]? with
        | some value => ⟨c, some value, none, index + 1, 0, false⟩
        | none =>
          if silent then ⟨':', some [c], none, index, 0, false⟩
          else ⟨'?', none, some s!"No arg for -{Chars.toText [c]} option", index, 0, false⟩
    | _ => ⟨c, some [], none, index, here, false⟩

/-- Reads the options among the parameters or given arguments one by one. -/
def getopts (args : List Chars) : M Nat := do
  match args with
  | allowed :: name :: given =>
    let s ← get
    let among := if given.isEmpty then s.parameters else given
    let o := nextOption allowed among s.optionIndex s.optionOffset
    match o.message with
    | some message => say message
    | none => pure ()
    if !o.done then
      match o.value with
      | some value => assign "OPTARG".toList value
      | none => discard "OPTARG".toList
    assign "OPTIND".toList (numberText o.index)
    if !isName name then badName name
    assign name [o.letter]
    modify fun s => { s with optionIndex := o.index, optionOffset := o.offset }
    return if o.done then 1 else 0
  | _ => fail "Usage: getopts optstring var [arg]"

/-! ### Reading -/

/-- A line read so far: its characters, and whether each was protected by a backslash. -/
abbrev Line := List PatternCell

/-- The characters of a line at the front of bytes, whether it ended, and how many bytes it took.
Unless `raw`, a backslash joins lines and protects characters. -/
def readLine (raw : Bool) : Bytes → Nat → Line × Bool × Nat
  | [], n => ([], false, n)
  | b :: rest, n =>
    let c := Char.ofNat b.toNat
    if c = '\n' then ([], true, n + 1)
    else if c = '\x00' then readLine raw rest (n + 1)
    else if c = '\\' && !raw then
      match rest with
      | [] => ([], false, n + 1)
      | d :: rest =>
        if d = 10 then readLine raw rest (n + 2)
        else
          let (line, ended, n) := readLine raw rest (n + 2)
          ((Char.ofNat d.toNat, true) :: line, ended, n)
    else
      let (line, ended, n) := readLine raw rest (n + 1)
      ((c, false) :: line, ended, n)

/-- Whether a character of a line separates fields. -/
def separates (separators : Chars) (p : PatternCell) : Bool := !p.2 && separators.contains p.1

/-- Whether a character of a line is a blank between fields. -/
def isGap (separators : Chars) (p : PatternCell) : Bool :=
  separates separators p && isFieldBlank p.1

/-- The first field of a line, and what follows the separators after it. -/
def firstField (separators : Chars) (line : Line) : Line × Line :=
  let line := line.dropWhile (isGap separators)
  let field := line.takeWhile fun p => !separates separators p
  let rest := (line.drop field.length).dropWhile (isGap separators)
  match rest with
  | p :: more =>
    if separates separators p then (field, more.dropWhile (isGap separators)) else (field, rest)
  | [] => (field, [])

/-- What the last variable gets of a line: one field without the separator after it, or several with
those between them. -/
def lastFields (separators : Chars) (line : Line) : Line :=
  match firstField separators line with
  | (field, []) => field
  | _ =>
    let line := line.dropWhile (isGap separators)
    (line.reverse.dropWhile (isGap separators)).reverse

/-- Distributes the fields of a line over variables. -/
def distribute (separators : Chars) : List Chars → Line → M Unit
  | [], _ => return ()
  | name :: names, line => do
    if !isName name then badName name
    if names.isEmpty then assign name (fieldText (lastFields separators line))
    else
      let (field, rest) := firstField separators line
      assign name (fieldText field)
      distribute separators names rest

/-- Reads a line into variables. -/
def read (args : List Chars) : M Nat := do
  let fuel := args.foldl (fun n a => n + a.length + 1) 1
  let (found, names) ← options ['r'] ['p'] fuel args
  if names.isEmpty then fail "arg count"
  match ← ahead? 0 with
  | none => return 1
  | some bytes =>
    let (line, ended, length) := readLine (found.any (·.1 = 'r')) bytes 0
    consume 0 length
    distribute (← get).separators names line
    return if ended then 0 else 1

/-! ### The working directory -/

/-- An absolute path of names. -/
def absolutePath (names : List Chars) : Chars := '/' :: ['/'].intercalate names

/-- The path that a directory gets when it is entered from another one. -/
def entered (from_ path : Chars) : Chars :=
  let above := if path.head? = some '/' then [] else (from_.splitOn '/').filter (!·.isEmpty)
  absolutePath ((path.splitOn '/').foldl (fun names name =>
    if name.isEmpty || name = ['.'] then names
    else if name = ['.', '.'] then names.dropLast
    else names ++ [name]) above)

/-- Enters a directory, if there is one. -/
def enter? (physical : Bool) (path : Chars) : M Bool := do
  let s ← get
  let target := entered s.directory path
  let target := if physical then path else target
  match s.resolve target with
  | .ok (position, .directory) =>
    let directory := if physical then Chars.ofText (FileTree.pathOf position).text else target
    let before := s.directory
    modify fun s => { s with cwd := position, directory }
    for (name, value) in [("OLDPWD", before), ("PWD", directory)] do
      assign name.toList value
      modify fun s => s.setVariable name.toList ⟨some value, true, false⟩
    return true
  | _ => return false

/-- Whether a path is searched for in the directories of `CDPATH`. -/
def isSearched (path : Chars) : Bool :=
  match (path.splitOn '/').headD [] with
  | [] => false
  | ['.'] => false
  | ['.', '.'] => false
  | _ => true

/-- The directories that `cd` tries for a path. -/
def candidates (s : State) (path : Chars) : List Chars :=
  match s.valueOf? "CDPATH" with
  | some value =>
    if isSearched path then
      (value.splitOn ':').map fun d => if d.isEmpty then path else d ++ '/' :: path
    else [path]
  | none => [path]

/-- Enters the first of some directories that is there; the result is it. -/
def enterFirst (physical : Bool) : List Chars → M (Option Chars)
  | [] => return none
  | path :: rest => do
    if ← enter? physical path then return some path else enterFirst physical rest

/-- Changes the working directory. -/
def cd (args : List Chars) : M Nat := do
  let (found, args) ← letters ['L', 'P'] args
  let physical := found.getLast? = some 'P'
  let s ← get
  let (path, back) := match args with
    | [] => ((s.valueOf? "HOME").getD [], false)
    | ['-'] :: _ => ((s.valueOf? "OLDPWD").getD [], true)
    | path :: _ => (path, false)
  if path.isEmpty then
    if back then printLine s.directory
    return 0
  match ← enterFirst physical (candidates s path) with
  | some taken =>
    if back || taken ≠ path then printLine (← get).directory
    return 0
  | none => fail s!"can't cd to {Chars.toText path}"

/-- Prints the working directory. -/
def pwd (args : List Chars) : M Nat := do
  let (found, _) ← letters ['L', 'P'] args
  let s ← get
  if found.getLast? = some 'P' then printLine (Chars.ofText (FileTree.pathOf s.cwd).text)
  else printLine s.directory
  return 0

/-! ### Permissions, limits and times -/

/-- A number in octal with at least four digits. -/
def octalText (n : Nat) : Chars := zeroPadded 4 (Nat.toDigits 8 n)

/-- The permissions that a mask leaves to a group of users. -/
def permissions (mask shift : Nat) : Chars :=
  let bits := mask / twoTo shift % 8
  (if bits / 4 = 0 then ['r'] else []) ++ (if bits / 2 % 2 = 0 then ['w'] else []) ++
    (if bits % 2 = 0 then ['x'] else [])

/-- Prints or sets the mask of permissions. -/
def umask (args : List Chars) : M Nat := do
  let (found, args) ← letters ['S'] args
  match args with
  | [] =>
    let m := (← get).mask
    if found.isEmpty then printLine (octalText m)
    else
      printLine ("u=".toList ++ permissions m 6 ++ ",g=".toList ++ permissions m 3 ++
        ",o=".toList ++ permissions m 0)
  | a :: _ =>
    if a.head?.any Char.isDigit then
      if a.all isOctal then modify fun s => { s with mask := digitsNumber 8 a % 512 }
      else fail s!"Illegal number: {Chars.toText a}"
    else fail s!"Illegal mode: {Chars.toText a}"
  return 0

/-- Prints limits, of which there are none. -/
def ulimit (args : List Chars) : M Nat := do
  if args.all fun a => a.head? = some '-' then printLine "unlimited".toList
  return 0

/-- Prints the times that commands have taken, which are not measured. -/
def times (_ : List Chars) : M Nat := do
  printLine "0m0.000000s 0m0.000000s".toList
  printLine "0m0.000000s 0m0.000000s".toList
  return 0

/-! ### Signals -/

/-- The usage of `kill`. -/
def killUsage : String :=
  "Usage: kill [-s sigspec | -signum | -sigspec] [pid | job]... or\nkill -l [exitstatus]"

/-- Lists signals, or tells the one that an exit code stands for. -/
def listSignals (args : List Chars) : M Nat := do
  match args with
  | [] =>
    printLine ['0']
    for n in (List.range 65).drop 1 do printLine (Signal.name n).toList
    return 0
  | a :: _ =>
    let n ← count a
    let n := if 128 < n then n - 128 else n
    if 0 < n && n ≤ Signal.greatest then printLine (Signal.name n).toList
    else fail s!"invalid signal number or exit status: {Chars.toText a}"
    return 0

/-- Sends a signal to processes. -/
def send (signal : Nat) : List Chars → M Nat
  | [] => return 0
  | a :: rest => do
    if a.head? = some '%' then fail s!"No such job: {Chars.toText a}"
    let (whole, digits) := match a with
      | '-' :: digits => (true, digits)
      | _ => (false, a)
    let n ← count digits
    let s ← get
    let known := !whole && (n = s.script || s.world.alive.contains n)
    if known then
      if signal ≠ 0 then
        modify fun s => s.onWorld fun w => { w with signals := w.signals ++ [(n, signal)] }
    else if signal ≠ 0 || n ≠ 1 then complain "No such process\n"
    let code ← send signal rest
    return if known || (signal = 0 && n = 1) then code else 1

/-- Sends a signal to processes, or lists the signals. -/
def kill (args : List Chars) : M Nat := do
  let direct : Option Nat := match args with
    | ('-' :: name) :: _ => Signal.read? 1 name
    | _ => none
  match direct with
  | some signal =>
    if args.length < 2 then fail killUsage
    send signal (args.drop 1)
  | none =>
    if args.isEmpty then fail killUsage
    let fuel := args.foldl (fun n a => n + a.length + 1) 1
    let (found, rest) ← options ['l'] ['s'] fuel args
    let signal ← match found.find? (·.1 = 's') with
      | some (_, name) =>
        match Signal.read? 1 name with
        | some n => pure (some n)
        | none => fail s!"invalid signal number or name: {Chars.toText name}"
      | none => pure none
    if found.any (·.1 = 'l') then
      if signal.isSome then fail killUsage else listSignals rest
    else if rest.isEmpty then fail killUsage
    else send (signal.getD Signal.terminate) rest

/-- Lists what is done on signals, or sets it. -/
def trap (args : List Chars) : M Nat := do
  let (_, args) ← letters [] args
  match args with
  | [] =>
    for (n, action) in (← get).traps.entries do
      printLine ("trap -- ".toList ++ quotedForm action ++ ' ' :: (Signal.name n).toList)
    return 0
  | first :: rest =>
    let (action, names) : Option Chars × List Chars :=
      if rest.isEmpty || (countArgument? first).isSome then (none, args)
      else (if first = ['-'] then none else some first, rest)
    for name in names do
      match Signal.read? 0 name with
      | some n =>
        modify fun s =>
          { s with traps := match action with
              | some action => s.traps.insert n action
              | none => s.traps.erase n }
      | none =>
        say s!"trap: {Chars.toText name}: bad trap"
        return 1
    return 0

/-! ### Leaving -/

/-- The exit code that an argument asks for, or else that of the last command. -/
def codeOf (args : List Chars) : M Nat := do
  match args with
  | [] => return (← get).status
  | a :: _ => count a

/-- Ends the shell. -/
def exit (args : List Chars) : M Nat := do throw (.exited ((← codeOf args) % 256))

/-- Leaves a function. -/
def «return» (args : List Chars) : M Nat := do throw (.returned (← codeOf args))

/-- Leaves loops. -/
def leave (again : Bool) (args : List Chars) : M Nat := do
  let n ← match args with
    | [] => pure 1
    | a :: _ => count a
  if n = 0 then fail s!"Illegal number: {Chars.toText (args.headD [])}"
  let s ← get
  if s.loops = 0 then return 0
  throw (.left (min n s.loops) again)

end SiteRuntime.Shell.Builtin

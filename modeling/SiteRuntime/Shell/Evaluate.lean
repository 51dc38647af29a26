import SiteRuntime.Shell.Process

/-!
# Running commands

What each kind of command does. `evaluate` runs a command whatever commands it consists of; its fuel
bounds how deeply commands are nested, functions and scripts that call themselves included. A script
that goes deeper is ended as one that has used up its stack.
-/

namespace SiteRuntime.Shell

/-! ### Redirections -/

/-- A redirection with its word expanded. -/
inductive Opening where
  | input (path : Chars)
  | output (path : Chars) (clobber : Bool)
  | append (path : Chars)
  | both (path : Chars)
  | duplicate (stream : Nat)
  | close
  | here (text : Chars)

/-- Expands the word of a redirection. -/
def openingOf (self : Runner) : Redirection → M Opening
  | .input w => return .input (← textOf (capture self) .atFront w)
  | .output w clobber => return .output (← textOf (capture self) .atFront w) clobber
  | .append w => return .append (← textOf (capture self) .atFront w)
  | .both w => return .both (← textOf (capture self) .atFront w)
  | .duplicate w => do
    match ← textOf (capture self) .atFront w with
    | ['-'] => return .close
    | [d] =>
      if d.isDigit then return .duplicate (d.toNat - '0'.toNat)
      else fail "Syntax error: Bad fd number"
    | _ => fail "Syntax error: Bad fd number"
  | .here number => do
    let w := ((← get).texts[number]?).getD []
    return .here (← textOf (capture self) .nowhere w)

/-- Expands the words of redirections. -/
def openingsOf (self : Runner) : List Redirect → M (List (Nat × Opening))
  | [] => return []
  | .mk stream kind :: rest => do
    let o ← openingOf self kind
    return (stream, o) :: (← openingsOf self rest)

/-- The path of a file that stands for a stream of the process. -/
def streamOfPath? (path : Chars) : Option Nat :=
  match String.ofList path with
  | "/dev/stdin" => some 0
  | "/dev/stdout" => some 1
  | "/dev/stderr" => some 2
  | "/dev/fd/0" => some 0
  | "/dev/fd/1" => some 1
  | "/dev/fd/2" => some 2
  | _ => none

/-- Opens a file at a position. -/
def openPosition (position : Position) (access : Access) (truncate : Bool) : M Nat := do
  if truncate then
    modify fun s => s.onWorld fun w => { w with files := putContent w.files position [] }
  openChannel (.file position 0 access)

/-- Why a file could not be opened. -/
def openError (creating : Bool) (path : Chars) (e : OsError) : M Nat :=
  let verb := if creating then "create" else "open"
  let reason := match e with
    | .notFound => if creating then "Directory nonexistent" else "No such file"
    | .notDirectory => if creating then "Directory nonexistent" else "No such file"
    | .isDirectory => "Is a directory"
    | .nameTooLong => "File name too long"
    | .fileExists => "File exists"
    | _ => "Permission denied"
  fail s!"cannot {verb} {Chars.toText path}: {reason}"

/-- Opens a path, which is made if it is not there and `creating`. -/
def openPath (path : Chars) (access : Access) (creating truncate exclusive : Bool) : M Nat := do
  if path = Program.nullDevice then openChannel .null
  else
    let s ← get
    match (streamOfPath? path).bind s.channel? with
    | some (.file position _ _) => openPosition position access truncate
    | some c => openChannel c
    | none =>
      let p := State.pathOf path
      match s.world.files.resolve s.cwd p with
      | .ok (position, .file _ _) =>
        if exclusive then openError creating path .fileExists
        else openPosition position access truncate
      | .ok (position, .directory) =>
        if access.writes then openError creating path .isDirectory
        else openPosition position access false
      | .error e =>
        if creating && e = .notFound then
          match s.world.files.write s.cwd p [] with
          | .ok files =>
            modify fun s => s.onWorld ({ · with files })
            match files.resolve s.cwd p with
            | .ok (position, _) => openPosition position access false
            | .error e => openError creating path e
          | .error e => openError creating path e
        else openError creating path e

/-- Redirects a stream. -/
def redirect (stream : Nat) : Opening → M Unit
  | .input path => do
    let c ← openPath path ⟨true, false, false⟩ false false false
    modify (·.withStream stream c)
  | .output path clobber => do
    let exclusive := (← get).isOn 'C' && !clobber
    let c ← openPath path ⟨false, true, false⟩ true true exclusive
    modify (·.withStream stream c)
  | .append path => do
    let c ← openPath path ⟨false, true, true⟩ true false false
    modify (·.withStream stream c)
  | .both path => do
    let c ← openPath path ⟨true, true, false⟩ true false false
    modify (·.withStream stream c)
  | .close => modify (·.withoutStream stream)
  | .here text => do
    let c ← openChannel (.pipe (Chars.toBytes text))
    modify (·.withStream stream c)
  | .duplicate other => do
    match (← get).channelOf? other with
    | some c => modify (·.withStream stream c)
    | none => fail s!"{other}: Bad file descriptor"

/-- Redirects streams one after the other. -/
def redirectAll : List (Nat × Opening) → M Unit
  | [] => return ()
  | (stream, o) :: rest => do
    redirect stream o
    redirectAll rest

/-- Redirects streams; the result is 0, or 2 if that is not possible. -/
def tryRedirect (openings : List (Nat × Opening)) : M Nat := do
  try
    redirectAll openings
    return 0
  catch
    | .failed code => return code
    | halt => throw halt

/-- Does something with streams of its own, which are put back after it unless it changes them for
good. -/
def withStreams (body : M Nat) : M Nat := do
  let streams := (← get).streams
  try
    let code ← body
    modify ({ · with streams })
    return code
  catch halt =>
    modify ({ · with streams })
    throw halt

/-! ### Finding commands -/

/-- Builtins that run no other commands. -/
def plainBuiltin? (name : String) : Option (List Chars → M Nat) :=
  match name with
  | ":" => some fun _ => return 0
  | "true" => some fun _ => return 0
  | "false" => some fun _ => return 1
  | "echo" => some Builtin.echo
  | "printf" => some Builtin.printf
  | "test" => some Test.run
  | "[" => some fun args => do
    if args.getLast? = some [']'] then Test.run args.dropLast else fail "missing ]"
  | "export" => some Builtin.export
  | "readonly" => some Builtin.readonly
  | "unset" => some Builtin.unset
  | "local" => some Builtin.local
  | "set" => some Builtin.set
  | "shift" => some Builtin.shift
  | "getopts" => some Builtin.getopts
  | "read" => some Builtin.read
  | "cd" => some Builtin.cd
  | "chdir" => some Builtin.cd
  | "pwd" => some Builtin.pwd
  | "umask" => some Builtin.umask
  | "ulimit" => some Builtin.ulimit
  | "times" => some Builtin.times
  | "kill" => some Builtin.kill
  | "trap" => some Builtin.trap
  | "exit" => some Builtin.exit
  | "return" => some Builtin.return
  | "break" => some (Builtin.leave false)
  | "continue" => some (Builtin.leave true)
  | "jobs" => some fun _ => return 0
  | _ => none

/-- Builtins that run other commands or tell of them. -/
def furtherBuiltins : List String := [".", "command", "eval", "exec", "hash", "type", "wait"]

/-- Whether a name is that of a builtin. -/
def isBuiltin (name : Chars) : Bool :=
  let name := String.ofList name
  (plainBuiltin? name).isSome || furtherBuiltins.contains name

/-- Whether a name is that of a special builtin. -/
def isSpecialBuiltin (name : Chars) : Bool := specialBuiltins.contains (String.ofList name)

/-- Whether a builtin takes assignments as arguments. -/
def takesAssignments (name : Chars) : Bool :=
  ["export", "readonly", "local"].contains (String.ofList name)

/-- What a command name means. -/
inductive Meaning where
  | keyword
  | special
  | builtin
  | function
  /-- A program, and whether it has been found before. -/
  | program (path : Chars) (known : Bool)
  | nothing

/-- What a command name means, once it has been looked for. -/
def meaningOf (name : Chars) : M Meaning := do
  let s ← get
  if (Keyword.ofText? name).isSome then return .keyword
  else if (s.functions.get? name).isSome then return .function
  else if isSpecialBuiltin name then return .special
  else if isBuiltin name then return .builtin
  else if name.contains '/' then
    match s.resolve name with
    | .ok (_, .file _ _) => return .program name false
    | _ => return .nothing
  else
    let known := (s.found.get? name).isSome
    match s.locate name with
    | .at path =>
      set { s with found := s.found.insert name path }
      return .program path known
    | .missing _ => return .nothing

/-- Tells in words what names mean. -/
def describe : List Chars → M Nat
  | [] => return 0
  | name :: rest => do
    let text := Chars.toText name
    let (line, code) ← match ← meaningOf name with
      | .keyword => pure (s!"{text} is a shell keyword", 0)
      | .special => pure (s!"{text} is a special shell builtin", 0)
      | .builtin => pure (s!"{text} is a shell builtin", 0)
      | .function => pure (s!"{text} is a shell function", 0)
      | .program path known =>
        let verb := if known then "is a tracked alias for" else "is"
        pure (s!"{text} {verb} {Chars.toText path}", 0)
      | .nothing => pure (s!"{text}: not found", 127)
    let _ ← printText (line ++ "\n")
    return max code (← describe rest)

/-- Prints what a name would run. -/
def tellShortly (name : Chars) : M Nat := do
  match ← meaningOf name with
  | .nothing => return 127
  | .program path _ =>
    Builtin.printLine path
    return 0
  | _ =>
    Builtin.printLine name
    return 0

/-- The builtin `command` when it tells of commands. -/
def tellOfCommand (args : List Chars) : M Nat := do
  let (found, names) ← Builtin.letters ['p', 'v', 'V'] args
  match names with
  | [] => return 0
  | name :: _ =>
    if found.contains 'V' then describe [name]
    else if found.contains 'v' then tellShortly name
    else return 0

/-- Remembers where programs are, or lists those that are remembered. -/
def hash (args : List Chars) : M Nat := do
  let (found, names) ← Builtin.letters ['r', 'v'] args
  if found.contains 'r' then
    modify ({ · with found := ∅ })
    return 0
  if names.isEmpty then
    for (_, path) in (← get).found.entries do Builtin.printLine path
    return 0
  let mut code := 0
  for name in names do
    match ← meaningOf name with
    | .nothing =>
      complain s!"{Chars.toText name}: not found"
      code := 1
    | _ => pure ()
  return code

/-! ### Builtins that run commands -/

/-- Runs its arguments as a script. -/
def eval (self : Runner) (place : Place) (args : List Chars) : M Nat := do
  if args.isEmpty then return 0
  runText self place.inner ([' '].intercalate args)

/-- Runs the script in a file in this shell. -/
def dot (self : Runner) (args : List Chars) : M Nat := do
  let (_, args) ← Builtin.letters [] args
  match args with
  | [] => return 0
  | name :: _ =>
    let s ← get
    let path ←
      if name.contains '/' then pure name
      else
        match s.firstFile false (s.pathsOf name) with
        | .at path => pure path
        | .missing _ => fail s!"{Chars.toText name}: not found"
    let text ← scriptIn path
    modify ({ · with builtin := some path })
    try runText self .plain text
    catch
      | .returned code => return code
      | halt => throw halt

/-- Becomes a program, if one is given. -/
def exec (self : Runner) (args : List Chars) : M Nat := do
  let (_, args) ← Builtin.letters [] args
  match args with
  | [] => return 0
  | name :: args =>
    let s ← get
    let paths := s.pathsOf name
    match s.startable false paths with
    | .ok _ => becomeProgram self name args ((paths.find? fun p =>
        (s.world.files.executable s.cwd (State.pathOf p)).toOption.isSome).getD name)
    | .error (code, reason) =>
      complain s!"{Chars.toText name}: {reason}"
      throw (.exited code)

/-- Waits for a process in the background. -/
def waitFor (b : Background State) (speaking : Bool) : M Nat := do
  match b.result with
  | .outOfTime => do
    pass Program.forever
    throw (.ended .outOfTime)
  | e =>
    let now := (← get).world.elapsed
    pass (b.time - now)
    if speaking then settle e else return e.code

/-- Waits for processes in the background. -/
def wait (self : Runner) (args : List Chars) : M Nat := do
  let (_, args) ← Builtin.letters [] args
  runTasks self
  match args with
  | [] =>
    for b in (← get).background do
      let _ ← waitFor b false
    return 0
  | args =>
    let mut code := 0
    for a in args do
      if a.head? = some '%' then fail s!"No such job: {Chars.toText a}"
      let n ← Builtin.count a
      code ← match (← get).background.find? (·.process = n) with
        | some b => waitFor b true
        | none => pure 127
    return code

/-! ### Simple commands -/

/-- Does what a builtin does. -/
def runBuiltin (self : Runner) (place : Place) (name : Chars) (args : List Chars) : M Nat := do
  match String.ofList name with
  | "." => dot self args
  | "command" => tellOfCommand args
  | "eval" => eval self place args
  | "exec" => exec self args
  | "hash" => hash args
  | "type" => describe args
  | "wait" => wait self args
  | other =>
    match plainBuiltin? other with
    | some run => run args
    | none => return 127

/-- Runs a builtin under its name. It may fail without ending the shell unless `strict`. -/
def callBuiltin (self : Runner) (place : Place) (strict : Bool) (name : Chars)
    (args : List Chars) : M Nat := do
  let before := (← get).builtin
  modify ({ · with builtin := some name, lostOutput := false })
  let restore : M Unit := modify ({ · with builtin := before })
  try
    let code ← runBuiltin self place name args
    let lost := (← get).lostOutput
    if lost then complain s!"{Chars.toText name}: I/O error"
    restore
    return if lost then max code 1 else code
  catch
    | .failed code =>
      restore
      if strict then throw (.failed code) else return code
    | halt =>
      restore
      throw halt

/-- How many functions may be under way. -/
def mostCalls : Nat := 1000

/-- Calls a function with parameters. -/
def callFunction (self : Runner) (place : Place) (f : Function) (args : List Chars) : M Nat := do
  let before ← get
  if mostCalls ≤ before.calls then
    fail s!"Maximum function recursion depth ({mostCalls}) reached"
  set { before with
    parameters := args, optionIndex := 1, optionOffset := 0, loops := 0, calls := before.calls + 1 }
  let restore : M Unit := modify fun s =>
    { s with
      parameters := before.parameters, optionIndex := before.optionIndex
      optionOffset := before.optionOffset, loops := before.loops, calls := before.calls }
  try
    let code ← self place.inner f.body
    restore
    return code
  catch
    | .returned code =>
      restore
      return code
    | halt =>
      restore
      throw halt

/-- Runs a program, in place of the shell if nothing comes after it. -/
def callProgram (self : Runner) (place : Place) (name : Chars) (args : List Chars) : M Nat := do
  let s ← get
  match s.locate name with
  | .missing other =>
    let reason := if other then "Permission denied" else "not found"
    complain s!"{Chars.toText name}: {reason}"
    return 127
  | .at path =>
    if !name.contains '/' then modify fun s => { s with found := s.found.insert name path }
    if path.getLast? = some 'p' then runTasks self
    if place.final && s.traps.isEmpty then becomeProgram self name args path
    else settle (← runProgram self name args path)

/-- How a command is called. -/
structure Call where
  /-- The name of the command. -/
  name : Chars
  /-- Its arguments. -/
  args : List Chars
  /-- Whether functions are passed over. -/
  noFunctions : Bool
  /-- Whether it is a special builtin that is called by its own name. -/
  strict : Bool

/-- The command that the builtin `command` calls, if it calls one. -/
def commandCalled? : List Chars → Option (List Chars)
  | [] => none
  | a :: rest =>
    match a with
    | ['-', '-'] => if rest.isEmpty then none else some rest
    | '-' :: c :: more => if (c :: more).all (· = 'p') then commandCalled? rest else none
    | _ => some (a :: rest)

/-- How the fields of a command are called; `fuel` bounds them. -/
def callOf (s : State) : Nat → Bool → List Chars → Option Call
  | 0, _, _ => none
  | _ + 1, _, [] => none
  | fuel + 1, inner, name :: args =>
    let strict := !inner && isSpecialBuiltin name
    let isFunction := !inner && (s.functions.get? name).isSome
    if name = "command".toList && !isFunction then
      match commandCalled? args with
      | some fields => callOf s fuel true fields
      | none => some ⟨name, args, inner, false⟩
    else some ⟨name, args, inner, strict⟩

/-- The name of the command that fields begin to call, if it is known yet. -/
def calledSoFar (s : State) (fields : List Chars) : Option Chars :=
  (callOf s (fields.length + 1) false fields).map (·.name)

/-- The fields of the words of a command. Assignments among the arguments of a builtin that takes
them are no fields of their own. -/
def commandFields (self : Runner) : List Chars → List Word → M (List Chars)
  | fields, [] => return fields
  | fields, w :: rest => do
    let s ← get
    let assigned? := if (calledSoFar s fields).any takesAssignments then assignment? w else none
    let more ← match assigned? with
      | some (name, value) => do
        pure [name ++ '=' :: (← textOf (capture self) .inAssignment value)]
      | none => fieldsOf (capture self) w
    commandFields self (fields ++ more) rest

/-- Makes the assignments of a command. With `kept` they stay; otherwise programs see them until the
command ends. The result is them as text. -/
def assignAll (self : Runner) (kept : Bool) : List (Chars × Word) → M (List Chars)
  | [] => return []
  | (name, w) :: rest => do
    let value ← textOf (capture self) .inAssignment w
    if kept then assign name value
    else
      hide name
      assign name value
      modify fun s => s.setVariable name ⟨some value, true, false⟩
    return (name ++ '=' :: value) :: (← assignAll self kept rest)

/-- Shows a command if that is asked for. -/
def trace (channel? : Option Nat) (assigned fields : List Chars) : M Unit := do
  let s ← get
  if s.isOn 'x' then
    let mark := (s.valueOf? "PS4").getD []
    let line := mark ++ [' '].intercalate (assigned ++ fields) ++ ['\n']
    match channel? with
    | some c => writeToChannel c (Chars.toBytes line)
    | none => pure ()

/-- Runs what a command calls. -/
def call (self : Runner) (place : Place) (c : Call) : M Nat := do
  let s ← get
  match if c.noFunctions then none else s.functions.get? c.name with
  | some f => callFunction self place f c.args
  | none =>
    if isBuiltin c.name then callBuiltin self place c.strict c.name c.args
    else callProgram self place c.name c.args

/-- Runs a simple command. -/
def simple (self : Runner) (place : Place) (line : Nat) (assignments : List (Chars × Word))
    (words : List Word) (redirects : List Redirect) : M Nat := do
  modify ({ · with line, substituted := 0 })
  let fields ← commandFields self [] words
  let s ← get
  let messages := s.channelOf? 2
  let call? := callOf s (fields.length + 1) false fields
  let strict := call?.any (·.strict)
  let openings ← openingsOf self redirects
  let streams := (← get).streams
  let restore : M Unit := modify ({ · with streams })
  let code ← tryRedirect openings
  if code ≠ 0 then
    restore
    if strict then throw (.failed code) else return code
  let body : M Nat := do
    let assigned ← assignAll self (call?.isNone || strict) assignments
    trace messages assigned fields
    match call? with
    | none => return (← get).substituted
    | some c => call self place c
  let isExec := call?.any fun c => c.name = "exec".toList && isBuiltin c.name
  let body := if call?.isNone || strict then body else withHidden body
  try
    let code ← body
    if !isExec then restore
    return code
  catch halt =>
    restore
    throw halt

/-! ### Compound commands -/

/-- What became of one round of a loop. -/
inductive Round where
  | done (code : Nat)
  | again
  | left

/-- Runs a part of a loop. -/
def round (body : M Nat) : M Round := do
  try return .done (← body)
  catch
    | .left levels again =>
      if 1 < levels then throw (.left (levels - 1) again)
      else return if again then .again else .left
    | halt => throw halt

/-- Does something inside a loop. -/
def inLoop (body : M Nat) : M Nat := do
  modify fun s => { s with loops := s.loops + 1 }
  let restore : M Unit := modify fun s => { s with loops := s.loops - 1 }
  try
    let code ← body
    restore
    return code
  catch halt =>
    restore
    throw halt

/-- How often a loop may go round before it counts as one that does not end. -/
def mostRounds : Nat := 100000

/-- Repeats commands while a test succeeds or, with `inverted`, while it fails. -/
def repeatWhile (self : Runner) (place : Place) (inverted : Bool) (test body : Command) :
    Nat → Nat → M Nat
  | 0, _ => do
    pass Program.forever
    throw (.ended .outOfTime)
  | fuel + 1, code => do
    match ← round (self .test test) with
    | .left => return code
    | .again => repeatWhile self place inverted test body fuel code
    | .done n =>
      if (n = 0) = inverted then return code
      else
        match ← round (self place.inner body) with
        | .left => return 0
        | .again => repeatWhile self place inverted test body fuel 0
        | .done n => repeatWhile self place inverted test body fuel n

/-- Runs commands once for each field. -/
def forEach (self : Runner) (place : Place) (name : Chars) (body : Command) :
    List Chars → Nat → M Nat
  | [], code => return code
  | value :: rest, _ => do
    assign name value
    match ← round (self place.inner body) with
    | .left => return 0
    | .again => forEach self place name body rest 0
    | .done n => forEach self place name body rest n

/-- Whether a value matches one of some patterns. -/
def matchesAny (self : Runner) (value : Chars) : List Word → M Bool
  | [] => return false
  | w :: rest => do
    let pattern ← patternOf (capture self) .atFront w
    if Wildcard.accepts (Wildcard.ofCells pattern) value then return true
    else matchesAny self value rest

/-- Runs the commands of the first clause that a value matches. -/
def chooseClause (self : Runner) (place : Place) (value : Chars) :
    List (List Word × Command) → M Nat
  | [] => return 0
  | (patterns, body) :: rest => do
    if ← matchesAny self value patterns then
      match body with
      | .nothing => return 0
      | body => self place body
    else chooseClause self place value rest

/-- Puts commands in the background. -/
def putInBackground (body : Command) (streams : List (Nat × Nat)) : M Nat := do
  let process ← newProcess
  modify fun s =>
    let start := withoutTraps { s with process, streams, background := [] }
    let b : Background State := ⟨process, some (body, start), s.world.elapsed, .exited 0⟩
    { s with background := s.background ++ [b], lastBackground := some process }
  return 0

/-- Runs commands that are joined by pipes, from a time on: each reads what the one before it has
printed. The result is how they ended and the latest time at which one did. -/
def runPiped (self : Runner) (place : Place) (start : Nat) :
    Option Nat → List Command → List End → Nat → M (List End × Nat)
  | _, [], ends, latest => return (ends, latest)
  | input, c :: rest, ends, latest => do
    modify fun s => s.onWorld ({ · with elapsed := start })
    let output ← if rest.isEmpty then pure none else some <$> openChannel (.pipe [])
    let change := fun (s : State) =>
      let s := match input with
        | some channel => s.withStream 0 channel
        | none => s
      match output with
      | some channel => s.withStream 1 channel
      | none => s
    let e ← subprocess self place change c
    let now := (← get).world.elapsed
    runPiped self place start output rest (ends ++ [e]) (max latest now)

/-- Runs a pipeline; its exit code is that of its last command. -/
def pipeline (self : Runner) (place : Place) (parts : List Command) : M Nat := do
  let start := (← get).world.elapsed
  let (ends, latest) ← runPiped self place start none parts [] start
  modify fun s => s.onWorld ({ · with elapsed := latest })
  let mut code := 0
  for e in ends do code ← settle e
  return code

/-- Runs a command with streams redirected; if that is not possible, the exit code says so. -/
def redirected (self : Runner) (line : Nat) (redirects : List Redirect) (body : M Nat) : M Nat := do
  modify ({ · with line })
  let openings ← openingsOf self redirects
  withStreams do
    match ← tryRedirect openings with
    | 0 => body
    | code => return code

/-- What stands for a place where a process of its own has ended. -/
def endPart (place : Place) (e : End) : M Nat := do
  if place.final && (← get).traps.isEmpty then
    match e with
    | .exited code => return code
    | e => throw (.ended e)
  else settle e

/-- Runs a command that is no sequence of others, and tells whether its failure counts. -/
def step (self : Runner) (place : Place) : Command → M Nat
  | .nothing => return (← get).status
  | .simple line assignments words redirects => simple self place line assignments words redirects
  | .pipeline parts background =>
    if background then do
      let nothing ← openChannel .null
      let s := (← get).withStream 0 nothing
      putInBackground (.pipeline parts false) s.streams
    else pipeline self place parts
  | .not c => return if (← self .test c) = 0 then 1 else 0
  | .both a b => do
    match ← self .test a with
    | 0 => self place b
    | code => return code
  | .either a b => do
    match ← self .test a with
    | 0 => return 0
    | _ => self place b
  | .sequence a b => do
    let _ ← self place.inner a
    self place b
  | .subshell line body redirects => do
    modify ({ · with line })
    let openings ← openingsOf self redirects
    let e ← inProcess do
      modify withoutTraps
      match ← tryRedirect openings with
      | 0 => complete self (self { place with final := true } body)
      | code => return code
    endPart place e
  | .background line body redirects => do
    modify ({ · with line })
    let openings ← openingsOf self redirects
    let nothing ← openChannel .null
    let before := (← get).streams
    modify (·.withStream 0 nothing)
    let code ← tryRedirect openings
    let streams := (← get).streams
    modify ({ · with streams := before })
    if code = 0 then putInBackground body streams else return 0
  | .redirected line body redirects => redirected self line redirects (self place.inner body)
  | .conditional test yes no => do
    match ← self .test test with
    | 0 => self place yes
    | _ =>
      match no with
      | .nothing => return 0
      | no => self place no
  | .loop inverted test body => inLoop (repeatWhile self place inverted test body mostRounds 0)
  | .each line name words body => do
    modify ({ · with line })
    let values ← allFieldsOf (capture self) words
    inLoop (forEach self place name body values 0)
  | .choose line word clauses => do
    modify ({ · with line })
    let value ← textOf (capture self) .atFront word
    chooseClause self place value clauses
  | .define line name body => do
    modify fun s => { s with functions := s.functions.insert name ⟨line, body⟩ }
    return 0

/-- Whether a command ends the shell by its failure if that is asked for, and not a part of it
does. -/
def Command.counts : Command → Bool
  | .simple _ _ _ _ => true
  | .pipeline _ _ => true
  | .subshell _ _ _ => true
  | .background _ _ _ => true
  | _ => false

/-- Runs a command; the fuel bounds how deeply commands are nested. -/
def evaluate : Nat → Runner
  | 0, _, _ => throw (.ended (.killed 11))
  | fuel + 1, place, c => do
    let self := evaluate fuel
    receiveAll self
    if (← get).isOn 'n' then return (← get).status
    let code ← step self place c
    match c with
    | .nothing => return code
    | c =>
      modify ({ · with status := code })
      receiveAll self
      if code ≠ 0 && c.counts && !place.tested && (← get).isOn 'e' then throw (.exited code)
      return code

/-- How deeply commands may be nested. -/
def depth : Nat := 10000

end SiteRuntime.Shell

import SiteRuntime.Shell.Builtin
import SiteRuntime.Shell.Program

/-!
# Processes

How a shell runs commands in processes of their own: for what they print, in the background, or as
programs. How commands themselves are run is a parameter here, a `Runner`, because commands run
processes and processes run commands.
-/

namespace SiteRuntime.Shell

/-- What is known of the place of a command. -/
structure Place where
  /-- Whether the command around it looks at whether it fails. -/
  tested : Bool
  /-- Whether nothing comes after it in its process. -/
  final : Bool
  deriving DecidableEq, Repr

/-- A place where a failure counts and something may come after. -/
def Place.plain : Place := ⟨false, false⟩

/-- The place of a command whose success is looked at. -/
def Place.test : Place := ⟨true, false⟩

/-- The place of the last command of a process. -/
def Place.last : Place := ⟨false, true⟩

/-- The same place with something after it. -/
def Place.inner (p : Place) : Place := { p with final := false }

/-- How commands are run; the result is an exit code. -/
abbrev Runner := Place → Command → M Nat

/-! ### Scripts -/

/-- Runs the commands of a script from a place in it on, line by line; `fuel` bounds the lines. -/
def runFrom (self : Runner) (place : Place) : Nat → Reading → Nat → M Nat
  | 0, _, code => return code
  | fuel + 1, r, code => do
    match Reader.line r with
    | .error message r =>
      modify fun s => { s with line := r.line }
      fail s!"Syntax error: {message}"
    | .ok none _ => return code
    | .ok (some c) r =>
      modify fun s => { s with texts := r.texts }
      let after ← self place c
      let texts := (← get).texts
      runFrom self place fuel { r with texts } (match c with
        | .nothing => code
        | _ => after)

/-- Runs a script. -/
def runText (self : Runner) (place : Place) (text : Chars) : M Nat := do
  runFrom self place (text.length + 2) (Reader.start text 1 (← get).texts) 0

/-! ### Signals and ends -/

/-- Takes the signals that have been sent to this process. -/
def takeSignals : M (List Nat) := modifyGet fun s =>
  let (mine, others) := s.world.signals.partition (·.1 = s.process)
  (mine.map (·.2), s.onWorld ({ · with signals := others }))

/-- Does what is to be done on a signal. -/
def receive (self : Runner) (signal : Nat) : M Unit := do
  let s ← get
  match if signal = 9 then none else s.traps.get? signal with
  | some action =>
    if !action.isEmpty then
      let code := s.status
      let _ ← runText self .plain action
      modify fun s => { s with status := code }
  | none =>
    if !Signal.passedOver.contains signal then throw (.ended (.killed signal))

/-- Does what is to be done on the signals that have come. -/
def receiveAll (self : Runner) : M Unit := do
  if !(← get).world.signals.isEmpty then
    for signal in ← takeSignals do receive self signal

/-- The exit code of a process that has been waited for. -/
def settle (e : End) : M Nat := do
  match e with
  | .exited code => return code
  | .killed signal =>
    let text := Signal.description signal
    if !text.isEmpty then say text
    return signalCode signal
  | .outOfTime => throw (.ended .outOfTime)

/-- The shell without what it does on signals, apart from passing over them. -/
def withoutTraps (s : State) : State :=
  { s with traps := s.traps.filter fun _ action => action.isEmpty }

/-- Does what is to be done in the background in a state of its own, and notes how it ended. -/
def runTask (run : M Nat) (b : Background State) : M (Background State) := do
  match b.task with
  | none => return b
  | some (_, start) =>
    let before ← get
    set { start with world := { before.world with elapsed := b.time } }
    let result ← try pure (End.exited (← run)) catch halt => pure halt.asEnd
    let world := (← get).world
    set { before with
      world := { world with
        elapsed := before.world.elapsed
        alive := world.alive.erase b.process } }
    return { b with task := none, time := world.elapsed, result }

/-- The end of a script: what is to be done at the end is done. -/
def finish (self : Runner) (body : M Nat) : M Nat := do
  let halt ← try pure (Halt.exited (← body)) catch halt => pure halt
  match halt with
  | .ended e => throw (.ended e)
  | halt =>
    let code := halt.asEnd.code
    receiveAll self
    match (← get).traps.get? 0 with
    | none => return code
    | some action =>
      modify fun s => { s with status := code, traps := s.traps.erase 0 }
      try
        let _ ← runText self .plain action
        return code
      catch
        | .exited code => return code
        | .failed code => return code
        | .ended e => throw (.ended e)
        | _ => return code

/-- Does everything that is still to be done in the background. -/
def runTasks (self : Runner) : M Unit := do
  let tasks := (← get).background
  if tasks.any (·.task.isSome) then
    modify fun s => { s with background := [] }
    let mut done := []
    for b in tasks do
      let command := match b.task with
        | some (c, _) => c
        | none => .nothing
      done := done ++ [← runTask (finish self (self .last command)) b]
    modify fun s => { s with background := done ++ s.background }

/-- Does what can be done in the background without any more time. -/
def runTasksNow (self : Runner) : M Unit := do
  let limit := (← get).world.limit
  modify fun s => s.onWorld fun w => { w with limit := some w.elapsed }
  runTasks self
  modify fun s => s.onWorld ({ · with limit })

/-- Runs a script to its end. -/
def complete (self : Runner) (body : M Nat) : M Nat := do
  let code ← finish self body
  runTasksNow self
  return code

/-- Runs commands as a process of their own, in which something is changed first. -/
def subprocess (self : Runner) (place : Place) (change : State → State) (body : Command) : M End :=
  inProcess do
    modify fun s => change (withoutTraps s)
    complete self (self { place with final := true } body)

/-- What commands print. -/
def capture (self : Runner) : Capture := fun body => do
  match body with
  | .nothing => return []
  | body =>
    let channel ← openChannel (.pipe [])
    let e ← subprocess self .plain (·.withStream 1 channel) body
    let code ← settle e
    modify fun s => { s with substituted := code }
    let printed := ((← get).world.ahead? channel).getD []
    return (Chars.ofBytes printed).filter (· ≠ '\x00')

/-! ### Programs -/

/-- Where a program is searched for: the directories of `PATH`. -/
def State.searchPath (s : State) : List Chars :=
  match s.valueOf? "PATH" with
  | some value => value.splitOn ':'
  | none => []

/-- The path of a name in a directory. -/
def inDirectory (directory name : Chars) : Chars :=
  if directory.isEmpty then name else directory ++ '/' :: name

/-- The paths at which a command is looked for. -/
def State.pathsOf (s : State) (name : Chars) : List Chars :=
  if name.contains '/' then [name] else s.searchPath.map (inDirectory · name)

/-- Where a program has been found. -/
inductive Located where
  | at (path : Chars)
  /-- There is none, though perhaps something that is no file. -/
  | missing (other : Bool)
  deriving DecidableEq, Repr

/-- The first file among some paths. -/
def State.firstFile (s : State) (other : Bool) : List Chars → Located
  | [] => .missing other
  | path :: rest =>
    match s.resolve path with
    | .ok (_, .file _ _) => .at path
    | .ok (_, .directory) => s.firstFile true rest
    | .error _ => s.firstFile other rest

/-- Where a program is found. -/
def State.locate (s : State) (name : Chars) : Located :=
  if name.contains '/' then .at name
  else
    match s.found.get? name with
    | some path => .at path
    | none => s.firstFile false (s.pathsOf name)

/-- The program that can be started at one of some paths, or the exit code and the reason why there
is none. -/
def State.startable (s : State) (denied : Bool) : List Chars → Except (Nat × String) Position
  | [] => .error (if denied then (126, "Permission denied") else (127, "not found"))
  | path :: rest =>
    match s.world.files.executable s.cwd (State.pathOf path) with
    | .ok position => .ok position
    | .error .notFound => s.startable denied rest
    | .error .notDirectory => s.startable denied rest
    | .error _ => s.startable true rest

/-- The variables that a shell has from its start, with their values. -/
def standardVariables (parent : Nat) : List (String × String) :=
  [("IFS", " \t\n"), ("OPTIND", "1"), ("PPID", toString parent), ("PS1", "# "), ("PS2", "> "),
    ("PS4", "+ ")]

/-- The directories searched for programs if nothing else is said. -/
def standardPath : String := "/usr/local/sbin:/usr/local/bin:/usr/sbin:/usr/bin:/sbin:/bin"

/-- Variables by name. -/
abbrev Variables := SortedMap Chars Variable

/-- The variables that an environment brings. -/
def givenVariables (env : ProcessEnv) : Variables :=
  .ofList (env.toList.filterMap fun (name, value) =>
    if isName (Chars.ofBytes name) then
      some (Chars.ofBytes name, ⟨some (Chars.ofBytes value), true, false⟩)
    else none)

/-- Variables with the value of one of them changed. -/
def withValue (vars : Variables) (name value : String) : Variables :=
  let exported := ((vars.get? name.toList).map (·.exported)).getD false
  vars.insert name.toList ⟨some value.toList, exported, false⟩

/-- The variables at the start of a shell. -/
def startVariables (env : ProcessEnv) (parent : Nat) (directory : Chars) : Variables :=
  let given := givenVariables env
  let given :=
    if (given.get? "PATH".toList).isSome then given else withValue given "PATH" standardPath
  let standard := (standardVariables parent).foldl (fun vars v => withValue vars v.1 v.2) given
  standard.insert "PWD".toList ⟨some directory, true, false⟩

/-- The name of the working directory at the start: the one in `PWD`, if it leads there. -/
def startDirectory (files : FileTree) (cwd : Position) (env : ProcessEnv) : Chars :=
  let real := Chars.ofText (FileTree.pathOf cwd).text
  match env.value? (Bytes.ofText "PWD") with
  | some value =>
    let path := Chars.ofBytes value
    if path.head? = some '/' && (files.resolve cwd (State.pathOf path)).toOption =
        some (cwd, .directory)
    then path else real
  | none => real

/-- The start of a shell that works in a world with an environment and streams. -/
def State.start (world : World) (cwd : Position) (env : ProcessEnv) (streams : List (Nat × Nat))
    (process parent : Nat) (name : Chars) : State :=
  let directory := startDirectory world.files cwd env
  { world, cwd, directory, streams, name, process
    script := process
    vars := startVariables env parent directory
    functions := ∅, options := [], parameters := [], status := 0, substituted := 0, line := 0
    builtin := none, loops := 0, hidden := [], calls := 0, traps := ∅, texts := #[], found := ∅
    mask := 18, optionIndex := 1, optionOffset := 0, background := [], lastBackground := none
    lostOutput := false }

/-- The script in a file. -/
def scriptIn (path : Chars) : M Chars := do
  match (← get).resolve path with
  | .ok (_, .file content _) => return Chars.ofBytes content
  | .ok (_, .directory) => return []
  | .error _ => fail s!"cannot open {Chars.toText path}: No such file"

/-- What the arguments of a shell make it run: a script, after its name and parameters are set. -/
def scriptOf (args : List Chars) : M Chars := do
  let (special, _, rest) ← Builtin.switchAll (· ∈ ['c', 'l']) (args.length + 1) args
  if special.contains 'c' then
    match rest with
    | [] => fail "-c requires an argument"
    | [text] => return text
    | text :: name :: parameters =>
      modify fun s => { s with name, parameters }
      return text
  else if rest.isEmpty || (← get).isOn 's' then
    modify fun s => { s with parameters := rest, options := 's' :: s.options.filter (· ≠ 's') }
    return Chars.ofBytes ((← readAll 0).getD [])
  else
    let name := rest.headD []
    let text ← scriptIn name
    modify fun s => { s with name, parameters := rest.drop 1 }
    return text

/-- The shell as a program. -/
def shellProgram (self : Runner) (args : List Chars) : M Nat := complete self do
  runText self .plain (← scriptOf args)

/-- Does what a program does, called by a name. -/
def beProgram (self : Runner) (parent : Nat) (program : String) (name : Chars)
    (args : List Chars) : M Nat := do
  if program = "sh" then
    modify fun s =>
      let ignored := s.traps.filter fun _ action => action.isEmpty
      { State.start s.world s.cwd s.environment s.streams s.process parent name with
        traps := ignored }
    shellProgram self args
  else
    match Program.ofName? program with
    | some run => run name args
    | none => return 0

/-- Runs a program as a process of its own. -/
def runProgram (self : Runner) (name : Chars) (args : List Chars) (path : Chars) : M End := do
  let parent := (← get).process
  inProcess do
    let s ← get
    let paths := if name.contains '/' then [name] else path :: s.pathsOf name
    match s.startable false paths with
    | .ok position => beProgram self parent (position.getLast?.getD "") name args
    | .error (code, reason) =>
      complain s!"{Chars.toText name}: {reason}"
      return code

/-- Runs a program in place of the shell. -/
def becomeProgram (self : Runner) (name : Chars) (args : List Chars) (path : Chars) : M Nat := do
  throw (.ended (← runProgram self name args path))

end SiteRuntime.Shell

import SiteRuntime.FileTree.Executable
import SiteRuntime.Shell.Syntax

/-!
# Shells under way

All processes of a job share a `World`: the files, what streams lead to, and the time that has
passed. A `State` is one shell among them, and `M` is what it does: it changes its state and comes
to an end of one kind or another, a `Halt`.

Time passes only where a process waits for it, and a job is stopped when its limit is reached.
-/

namespace SiteRuntime.Shell

/-! ### What processes share -/

/-- What may be done with an open file. -/
structure Access where
  reads : Bool
  writes : Bool
  /-- Whether what is written goes to the end. -/
  appends : Bool
  deriving DecidableEq, Repr

/-- What a stream leads to. -/
inductive Channel where
  | file (position : Position) (offset : Nat) (access : Access)
  /-- What has been written and not yet read. -/
  | pipe (content : Bytes)
  /-- Nothing is there to read, and what is written is lost. -/
  | null
  deriving DecidableEq, Repr

/-- What the processes of a job share. -/
structure World where
  /-- The files. -/
  files : FileTree
  /-- What streams lead to, by number. -/
  channels : Array Channel
  /-- The nanoseconds that have passed. -/
  elapsed : Nat
  /-- After how many of them the job is stopped. -/
  limit : Option Nat
  /-- The number of the next process. -/
  nextProcess : Nat
  /-- The processes that have not ended. -/
  alive : List Nat
  /-- Signals that have been sent, each with the process that it is sent to. -/
  signals : List (Nat × Nat)

/-! ### Shells -/

/-- How a process ended. -/
inductive End where
  | exited (code : Nat)
  | killed (signal : Nat)
  | outOfTime
  deriving DecidableEq, Repr

/-- The exit code that stands for a signal. -/
def signalCode (signal : Nat) : Nat := 128 + signal

/-- The exit code that a shell sees. -/
def End.code : End → Nat
  | .exited code => code
  | .killed signal => signalCode signal
  | .outOfTime => 0

/-- A variable. -/
structure Variable where
  /-- Its value, if it has one. -/
  value : Option Chars
  /-- Whether programs see it. -/
  exported : Bool
  /-- Whether it keeps its value. -/
  readOnly : Bool
  deriving DecidableEq, Repr

/-- What a function or a command hides until it ends. -/
structure Hidden where
  /-- Variables as they were before. -/
  vars : List (Chars × Option Variable)
  /-- The options as they were before, if they come back. -/
  options : Option (List Char)
  deriving DecidableEq, Repr

/-- A function of a script. -/
structure Function where
  /-- The line of its definition. -/
  line : Nat
  /-- Its commands. -/
  body : Command

/-- A process in the background. What it does is put off until it is waited for. -/
structure Background (σ : Type) where
  /-- The number of the process. -/
  process : Nat
  /-- What it still has to do, and the state in which it does it. -/
  task : Option (Command × σ)
  /-- When it started and, once it has done everything, when it ended. -/
  time : Nat
  /-- How it ended. -/
  result : End


/-- A shell under way. -/
structure State where
  /-- What it shares with other processes. -/
  world : World
  /-- The working directory. -/
  cwd : Position
  /-- The working directory by its name. -/
  directory : Chars
  /-- What its streams lead to, by their numbers. -/
  streams : List (Nat × Nat)
  /-- The variables. -/
  vars : SortedMap Chars Variable
  /-- The functions. -/
  functions : SortedMap Chars Function
  /-- The letters of the options that are on. -/
  options : List Char
  /-- The name in messages. -/
  name : Chars
  /-- The parameters. -/
  parameters : List Chars
  /-- The exit code of the last command. -/
  status : Nat
  /-- The exit code of the last substitution in a command. -/
  substituted : Nat
  /-- The number of the process that the script began in. -/
  script : Nat
  /-- The number of the process. -/
  process : Nat
  /-- The line of the command. -/
  line : Nat
  /-- The builtin that is running. -/
  builtin : Option Chars
  /-- How many loops of the script or function are under way. -/
  loops : Nat
  /-- What functions and commands under way have hidden, the innermost one first. -/
  hidden : List Hidden
  /-- How many functions are under way. -/
  calls : Nat
  /-- What is done on a signal, by its number, or with 0 at the end; nothing, if it is ignored. -/
  traps : SortedMap Nat Chars
  /-- Texts that redirections read, by number. -/
  texts : Array Word
  /-- Where programs have been found, by their names. -/
  found : SortedMap Chars Chars
  /-- Which permissions new files do not get. -/
  mask : Nat
  /-- The number of the argument after the one in which the next option is looked for. -/
  optionIndex : Nat
  /-- How far the argument before that has been read; nothing, if wholly. -/
  optionOffset : Nat
  /-- Processes in the background. -/
  background : List (Background State)
  /-- The last process put in the background. -/
  lastBackground : Option Nat
  /-- Whether something could not be printed. -/
  lostOutput : Bool

/-- Why a shell stops what it does. -/
inductive Halt where
  /-- It ends. -/
  | exited (code : Nat)
  /-- It leaves loops; with `again` the last of them goes on. -/
  | left (levels : Nat) (again : Bool)
  /-- It leaves a function. -/
  | returned (code : Nat)
  /-- A command could not be done, which has been said. -/
  | failed (code : Nat)
  /-- Its process has ended in another way. -/
  | ended (e : End)
  deriving DecidableEq, Repr

/-- What a shell does. -/
abbrev M (α : Type) := EStateM Halt State α

namespace State

/-- The variable of a name. -/
def lookup? (s : State) (name : Chars) : Option Variable := s.vars.get? name

/-- The value of a variable. -/
def value? (s : State) (name : Chars) : Option Chars := (s.lookup? name).bind (·.value)

/-- The value of a variable by its name as text. -/
def valueOf? (s : State) (name : String) : Option Chars := s.value? name.toList

/-- Whether an option is on. -/
def isOn (s : State) (option : Char) : Bool := s.options.contains option

/-- What programs see of the variables. -/
def environment (s : State) : ProcessEnv :=
  .ofList (s.vars.entries.filterMap fun (name, v) =>
    if v.exported then v.value.map fun value => (Chars.toBytes name, Chars.toBytes value)
    else none)

/-- What a program works on. -/
def machine (s : State) : Machine Unit := ⟨s.environment, s.world.files, s.cwd, ()⟩

/-- The path that characters write. -/
def pathOf (path : Chars) : Path := .ofText (Chars.toText path)

/-- What stands at a path. -/
def resolve (s : State) (path : Chars) : Except OsError (Position × Entry) :=
  s.world.files.resolve s.cwd (pathOf path)

/-- The number of what a stream leads to. -/
def channelOf? (s : State) (stream : Nat) : Option Nat := s.streams.lookup stream

/-- What a stream leads to. -/
def channel? (s : State) (stream : Nat) : Option Channel :=
  (s.channelOf? stream).bind (s.world.channels[·]?)

/-- The shell with a stream that leads somewhere else. -/
def withStream (s : State) (stream channel : Nat) : State :=
  { s with streams := (stream, channel) :: s.streams.filter (·.1 ≠ stream) }

/-- The shell without a stream. -/
def withoutStream (s : State) (stream : Nat) : State :=
  { s with streams := s.streams.filter (·.1 ≠ stream) }

/-- The shell with a variable changed. -/
def setVariable (s : State) (name : Chars) (v : Variable) : State :=
  { s with vars := s.vars.insert name v }

/-- The shell with a world changed. -/
def onWorld (s : State) (f : World → World) : State := { s with world := f s.world }

end State

/-! ### Streams -/

/-- What a file holds at a position. -/
def contentAt (t : FileTree) (position : Position) : Bytes :=
  match t.find? position with
  | some (.file content _) => content
  | _ => []

/-- The tree with what a file holds changed; nothing happens if the file is gone. -/
def putContent (t : FileTree) (position : Position) (content : Bytes) : FileTree :=
  match t.find? position with
  | some (.file _ executable) => t.put position (.file content executable)
  | _ => t

/-- Bytes with others written over them from a place on, after zeros if they end before it. -/
def overwrite (content : Bytes) (offset : Nat) (bytes : Bytes) : Bytes :=
  content.take offset ++ List.replicate (offset - content.length) 0 ++ bytes ++
    content.drop (offset + bytes.length)

namespace World

/-- The world with one more channel, and its number. -/
def add (w : World) (c : Channel) : Nat × World :=
  (w.channels.size, { w with channels := w.channels.push c })

/-- Writes bytes to a channel, if it takes them. -/
def write? (w : World) (channel : Nat) (bytes : Bytes) : Option World :=
  match w.channels[channel]? with
  | some (.file position offset access) =>
    if access.writes then
      let content := contentAt w.files position
      let start := if access.appends then content.length else offset
      some { w with
        files := putContent w.files position (overwrite content start bytes)
        channels := w.channels.set! channel (.file position (start + bytes.length) access) }
    else none
  | some (.pipe content) =>
    some { w with channels := w.channels.set! channel (.pipe (content ++ bytes)) }
  | some .null => some w
  | none => none

/-- What there is to read from a channel, if it can be read. -/
def ahead? (w : World) (channel : Nat) : Option Bytes :=
  match w.channels[channel]? with
  | some (.file position offset access) =>
    if access.reads then some ((contentAt w.files position).drop offset) else none
  | some (.pipe content) => some content
  | some .null => some []
  | none => none

/-- Passes over what has been read from a channel. -/
def consume (w : World) (channel count : Nat) : World :=
  match w.channels[channel]? with
  | some (.file position offset access) =>
    { w with channels := w.channels.set! channel (.file position (offset + count) access) }
  | some (.pipe content) =>
    { w with channels := w.channels.set! channel (.pipe (content.drop count)) }
  | _ => w

end World

/-- Writes bytes to a stream, and tells whether it took them. -/
def writeTo (stream : Nat) (bytes : Bytes) : M Bool := do
  let s ← get
  match (s.channelOf? stream).bind fun c => s.world.write? c bytes with
  | some world => set { s with world }; return true
  | none => return false

/-- Prints bytes, and tells whether that was possible. -/
def print (bytes : Bytes) : M Bool := do
  if bytes.isEmpty then return true
  else if ← writeTo 1 bytes then return true
  else
    modify fun s => { s with lostOutput := true }
    return false

/-- Prints characters. -/
def printChars (s : Chars) : M Bool := print (Chars.toBytes s)

/-- Prints a text. -/
def printText (s : String) : M Bool := print (Bytes.ofText s)

/-- Writes bytes to what a number stands for, if it takes them. -/
def writeToChannel (channel : Nat) (bytes : Bytes) : M Unit := modify fun s =>
  match s.world.write? channel bytes with
  | some world => { s with world }
  | none => s

/-- Writes a message as it is. -/
def say (message : String) : M Unit := do
  let _ ← writeTo 2 (Bytes.ofText (message ++ "\n"))

/-- What there is to read from a stream. -/
def ahead? (stream : Nat) : M (Option Bytes) := do
  let s ← get
  return (s.channelOf? stream).bind s.world.ahead?

/-- Passes over what has been read from a stream. -/
def consume (stream count : Nat) : M Unit := modify fun s =>
  match s.channelOf? stream with
  | some c => s.onWorld (·.consume c count)
  | none => s

/-- Reads all that there is to read. -/
def readAll (stream : Nat) : M (Option Bytes) := do
  match ← ahead? stream with
  | some bytes =>
    consume stream bytes.length
    return some bytes
  | none => return none

/-- Opens a channel. -/
def openChannel (c : Channel) : M Nat := modifyGet fun s =>
  let (number, world) := s.world.add c
  (number, { s with world })

/-! ### Messages -/

/-- A message of the shell: its name, the line, and the builtin that is running. -/
def complain (message : String) : M Unit := do
  let s ← get
  let builtin := match s.builtin with
    | some name => s!"{Chars.toText name}: "
    | none => ""
  say s!"{Chars.toText s.name}: {s.line}: {builtin}{message}"

/-- Fails with a message. -/
def fail {α : Type} (message : String) : M α := do
  complain message
  modify fun s => { s with status := 2 }
  throw (.failed 2)

/-! ### Variables -/

/-- The shell with the place of the next option set by its number. -/
def State.withOptionsFrom (s : State) (value : Chars) : State :=
  { s with optionIndex := max 1 ((String.ofList value).toNat?.getD 1) }

/-- Sets a variable. -/
def assign (name value : Chars) : M Unit := do
  let s ← get
  let v := (s.lookup? name).getD ⟨none, false, false⟩
  if v.readOnly then fail s!"{Chars.toText name}: is read only"
  let s := s.setVariable name { v with value := some value, exported := v.exported || s.isOn 'a' }
  set (if name = "OPTIND".toList then { s.withOptionsFrom value with optionOffset := 0 }
    else if name = "PATH".toList then { s with found := ∅ } else s)

/-- Removes a variable. -/
def discard (name : Chars) : M Unit := do
  let s ← get
  if (s.lookup? name).any (·.readOnly) then fail s!"{Chars.toText name}: is read only"
  set { s with vars := s.vars.erase name }

/-- Changes what is hidden until the function or command under way ends. -/
def modifyHidden (f : State → Hidden → Hidden) : M Unit := modify fun s =>
  match s.hidden with
  | h :: rest => { s with hidden := f s h :: rest }
  | [] => s

/-- Hides a variable until the function or command under way ends. -/
def hide (name : Chars) : M Unit := modifyHidden fun s h =>
  if h.vars.any (·.1 = name) then h
  else { h with vars := (name, s.lookup? name) :: h.vars }

/-- Hides the options until the function or command under way ends. -/
def hideOptions : M Unit := modifyHidden fun s h =>
  { h with options := some (h.options.getD s.options) }

/-- The shell with what was hidden as it was before. -/
def Hidden.restore (h : Hidden) (s : State) : State :=
  { s with
    options := h.options.getD s.options
    vars := h.vars.foldl (fun vars (name, v?) =>
      match v? with
      | some v => vars.insert name v
      | none => vars.erase name) s.vars }

/-- Does something, after which what is hidden by it comes back. -/
def withHidden {α : Type} (body : M α) : M α := do
  modify fun s => { s with hidden := ⟨[], none⟩ :: s.hidden }
  let restore : M Unit := modify fun s =>
    match s.hidden with
    | h :: rest => h.restore { s with hidden := rest }
    | [] => s
  try
    let x ← body
    restore
    return x
  catch halt =>
    restore
    throw halt

/-! ### Time -/

/-- Lets time pass. -/
def pass (nanos : Nat) : M Unit := do
  let s ← get
  let now := s.world.elapsed + nanos
  match s.world.limit with
  | some most =>
    if most ≤ now then
      set (s.onWorld ({ · with elapsed := most }))
      throw (.ended .outOfTime)
    else set (s.onWorld ({ · with elapsed := now }))
  | none => set (s.onWorld ({ · with elapsed := now }))

/-! ### Processes -/

/-- Makes a process. -/
def newProcess : M Nat := modifyGet fun s =>
  let n := s.world.nextProcess
  (n, s.onWorld fun w => { w with nextProcess := n + 1, alive := n :: w.alive })

/-- How a process ends that stops what it does. -/
def Halt.asEnd : Halt → End
  | .exited code => .exited code
  | .returned code => .exited code
  | .left _ _ => .exited 0
  | .failed code => .exited code
  | .ended e => e

/-- Does something in a process of its own, which starts as a copy of this one and leaves only what
all processes share. -/
def inProcess (body : M Nat) : M End := do
  let before ← get
  let process ← newProcess
  modify fun s => { s with process, background := [] }
  let result ← try
      pure (End.exited (← body))
    catch halt => pure halt.asEnd
  modify fun s =>
    { before with world := { s.world with alive := s.world.alive.erase process } }
  return result

end SiteRuntime.Shell

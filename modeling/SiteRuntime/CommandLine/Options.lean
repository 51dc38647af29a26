import SiteRuntime.CommandLine.Usage
import SiteRuntime.Text.Blank

/-!
# Options and positional arguments

One pass over the arguments of a command sorts them into options with their values and positional
arguments. An option is written `--long VALUE`, `--long=VALUE`, `-x VALUE`, `-xVALUE` or `-x=VALUE`;
short options without values may be joined; after `--` everything is positional. The value of an
option is checked when the next argument has been looked at, which decides which of two faults is
reported.
-/

namespace SiteRuntime.CommandLine

/-- What an option takes and how often. -/
inductive OptionForm where
  /-- No value, once. -/
  | flag
  /-- No value, any number of times. -/
  | counted
  /-- A value, once. -/
  | single
  /-- A value each time. -/
  | list
  deriving DecidableEq, Repr

namespace OptionForm

/-- Whether an option takes a value. -/
def takesValue : OptionForm → Bool
  | .single => true
  | .list => true
  | _ => false

/-- Whether an option may stand only once. -/
def isOnce : OptionForm → Bool
  | .flag => true
  | .single => true
  | _ => false

end OptionForm

/-- Why the reading of a command line stops early. -/
inductive Stop where
  | fault (cause : UsageError)
  /-- The version is asked for. -/
  | version
  /-- Help is asked for. -/
  | help
  deriving DecidableEq, Repr

/-- An option of a command line. -/
structure OptionSpec where
  /-- The long name without the dashes, by which it is known. -/
  long : String
  /-- The letter of the short form. -/
  short : Option Char
  /-- What it takes. -/
  form : OptionForm
  /-- The name of its value in the usage. -/
  placeholder : String
  /-- Whether a value stops the reading. -/
  check : String → Except Stop Unit

namespace OptionSpec

/-- An option as the usage shows it. -/
def shown (o : OptionSpec) : String :=
  match o.form with
  | .flag => s!"--{o.long}"
  | .counted => s!"--{o.long}..."
  | _ => s!"--{o.long} <{o.placeholder}>"

end OptionSpec

/-- What positional arguments a command takes. -/
inductive Positionals where
  /-- None: a word that is no option names a command. -/
  | commands
  | none
  | any
  /-- Only after `--`. -/
  | afterDashes
  deriving DecidableEq, Repr

/-- The arguments that a command takes. -/
structure Grammar where
  /-- Its options. -/
  options : List OptionSpec
  /-- Its positional arguments. -/
  positionals : Positionals
  /-- The commands that may follow. -/
  commands : List String

/-- An option that waits for its value, or for its value to be checked. -/
structure Pending where
  /-- The option. -/
  option : OptionSpec
  /-- The value, once it is there. -/
  value : Option String

/-- What has been read of a command line. -/
structure Parsed where
  /-- The options that were given, with their values, in order. -/
  given : List (String × String)
  /-- The positional arguments in order. -/
  words : List String

namespace Parsed

/-- Nothing read yet. -/
def empty : Parsed := ⟨[], []⟩

/-- Whether an option was given. -/
def has (p : Parsed) (long : String) : Bool := p.given.any fun g => g.1 = long

/-- The values of an option in order. -/
def valuesOf (p : Parsed) (long : String) : List String :=
  (p.given.filter fun g => g.1 = long).map (·.2)

/-- The value of an option that stands once. -/
def valueOf? (p : Parsed) (long : String) : Option String := (p.valuesOf long).getLast?

/-- Takes an option with its value, if it may stand here and the value is right. -/
def take (p : Parsed) (o : OptionSpec) (value : String) : Except Stop Parsed :=
  if o.form.isOnce && p.has o.long then .error (.fault (.repeated o.shown))
  else do
    o.check value
    return { p with given := p.given ++ [(o.long, value)] }

/-- Takes the option that is pending. -/
def settle (p : Parsed) : Option Pending → Except Stop Parsed
  | none => .ok p
  | some ⟨o, none⟩ => .error (.fault (.missingValue o.shown))
  | some ⟨o, some value⟩ => p.take o value

end Parsed

/-- The state of the pass over the arguments. -/
structure Pass where
  /-- What has been taken. -/
  parsed : Parsed
  /-- The option that is pending. -/
  pending : Option Pending
  /-- Whether only positional arguments follow. -/
  trailing : Bool

namespace Pass

/-- The pass before the first argument. -/
def start : Pass := ⟨.empty, none, false⟩

/-- Whether the last option still waits for its value. -/
def isWaiting (s : Pass) : Bool :=
  match s.pending with
  | some ⟨_, none⟩ => true
  | _ => false

/-- The pass with the pending option taken. -/
def settled (s : Pass) : Except Stop Pass :=
  (s.parsed.settle s.pending).map fun p => { s with parsed := p, pending := none }

/-- Takes an option with a value that is attached to it, or without one. -/
def takeNow (s : Pass) (o : OptionSpec) (value : String) : Except Stop Pass := do
  let s ← s.settled
  return { s with parsed := ← s.parsed.take o value }

/-- Makes an option wait for its value. -/
def await (s : Pass) (o : OptionSpec) : Except Stop Pass := do
  return { ← s.settled with pending := some ⟨o, none⟩ }

end Pass

/-! ### One argument -/

/-- An option in its long form. -/
def readLong (g : Grammar) (name : String) (value : Option String) (s : Pass) :
    Except Stop Pass :=
  match g.options.find? (·.long = name), value with
  | none, _ => .error (.fault (.unexpectedArgument s!"--{name}"))
  | some o, some value =>
    if o.form.takesValue then s.takeNow o value
    else .error (.fault (.unexpectedValue value o.shown))
  | some o, none => if o.form.takesValue then s.await o else s.takeNow o ""

/-- Options in their short form, joined. -/
def readShort (g : Grammar) : List Char → Pass → Except Stop Pass
  | [], s => .ok s
  | c :: rest, s =>
    match g.options.find? (·.short = some c) with
    | none => .error (.fault (.unexpectedArgument (String.ofList ['-', c])))
    | some o =>
      if o.form.takesValue then
        match rest with
        | [] => s.await o
        | '=' :: value => s.takeNow o (String.ofList value)
        | value => s.takeNow o (String.ofList value)
      else do readShort g rest (← s.takeNow o "")

/-- The form of an argument. -/
inductive Shape where
  /-- `--`. -/
  | dashes
  | long (name : String) (value : Option String)
  | short (letters : List Char)
  | word

/-- The form that an argument has. -/
def shapeOf (argument : String) : Shape :=
  match argument.toList with
  | '-' :: '-' :: [] => .dashes
  | '-' :: '-' :: name =>
    match Text.splitOnce? '=' name with
    | some (name, value) => .long (String.ofList name) (some (String.ofList value))
    | none => .long (String.ofList name) none
  | '-' :: c :: letters => .short (c :: letters)
  | _ => .word

/-- A positional argument. -/
def readWord (g : Grammar) (word : String) (s : Pass) : Except Stop Pass :=
  let push : Except Stop Pass := do
    let s ← s.settled
    return { s with parsed := { s.parsed with words := s.parsed.words ++ [word] } }
  match g.positionals with
  | .any => push
  | .afterDashes => if s.trailing then push else .error (.fault (.unexpectedArgument word))
  | .none => .error (.fault (.unexpectedArgument word))
  | .commands =>
    if s.trailing && g.commands.contains word then .error (.fault (.unexpectedArgument word))
    else .error (.fault (.unknownCommand word))

/-- An argument before `--`. -/
def readArgument (g : Grammar) (argument : String) (s : Pass) : Except Stop Pass :=
  match shapeOf argument with
  | .dashes => .ok { s with trailing := true }
  | .long name value => readLong g name value s
  | .short letters => readShort g letters s
  | .word =>
    match s.pending with
    | some ⟨o, none⟩ => .ok { s with pending := some ⟨o, some argument⟩ }
    | _ => readWord g argument s

/-- The pass over the arguments, up to the name of a command, which is returned with what follows
it. -/
def readArguments (g : Grammar) :
    List String → Pass → Except Stop (Pass × Option (String × List String))
  | [], s => .ok (s, none)
  | argument :: rest, s =>
    if s.trailing then do readArguments g rest (← readWord g argument s)
    else if !s.isWaiting && g.commands.contains argument then .ok (s, some (argument, rest))
    else do readArguments g rest (← readArgument g argument s)

end SiteRuntime.CommandLine

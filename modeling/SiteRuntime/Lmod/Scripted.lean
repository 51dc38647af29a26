import SiteRuntime.FileTree.Executable
import SiteRuntime.Lmod.Backend

/-!
# A module command that follows a script

A module command which knows what to answer: first whatever the script says for its arguments, and
otherwise what a small module system would print that keeps its state in `LOADEDMODULES` and
`MODULEPATH`. It stands in for the real command where only the handling of its output matters.
-/

namespace SiteRuntime.Lmod

/-- What a scripted module command answers. -/
structure Script where
  /-- The answers to whole command lines. -/
  replies : SortedMap String Output
  /-- Modules that cannot be loaded. -/
  missing : List String
  /-- The conflicts declared for each module. -/
  conflicts : SortedMap String (List String)

namespace Script

/-- The variable that lists the loaded modules. -/
def loadedName : String := "LOADEDMODULES"

/-- The variable that lists the directories searched for modules. -/
def pathName : String := "MODULEPATH"

/-- An answer of a command that succeeds. -/
def printing (stdout : String) : Output := ⟨true, Bytes.ofText stdout, []⟩

/-- A message of a command that succeeds. -/
def reporting (stderr : String) : Output := ⟨true, [], Bytes.ofText stderr⟩

/-- The assignment of a list between colons. -/
def assigning (name : String) (entries : List String) : String :=
  let value := ":".intercalate entries
  s!"{name}='{value}'; export {name};\n"

/-- The value of a variable, if it is text and not empty. -/
def current? (e : ProcessEnv) (name : String) : Option String :=
  (e.text? name).filter fun v => !v.isEmpty

/-- The answer to loading a module. -/
def load (s : Script) (e : ProcessEnv) (module : String) : Output :=
  if s.missing.contains module then
    ⟨false, Bytes.ofText "false;\n",
      Bytes.ofText ("Lmod has detected the following error: The following module(s) are unknown: "
        ++ "\"" ++ module ++ "\"\n")⟩
  else
    let loaded := match current? e loadedName with
      | some old => old ++ ":" ++ module
      | none => module
    printing (s!"{loadedName}='{loaded}';\nexport {loadedName};\n" ++
      s!"FAKE_LMOD_LAST='{module}'; export FAKE_LMOD_LAST;\n")

/-- The answer to taking entries out of a list. -/
def without (e : ProcessEnv) (name : String) (entries : List String) : Output :=
  match (pathEntries e name).filter fun x => !entries.contains x with
  | [] => printing s!"unset {name};\n"
  | left => printing (assigning name left)

/-- The answer to putting directories in front of the search path. -/
def use (e : ProcessEnv) (paths : List String) : Output :=
  printing (assigning pathName (paths ++ (current? e pathName).toList))

/-- The answer to showing a module. -/
def showing (s : Script) (module : String) : Output :=
  match s.conflicts.get? module with
  | some names =>
    let quoted := names.map fun n => "\"" ++ n ++ "\""
    reporting ("conflict(" ++ ",".intercalate quoted ++ ")\n")
  | none => printing ""

/-- The answer to a command line that the script does not mention. -/
def answer (s : Script) (e : ProcessEnv) : List String → Output
  | ["--version"] => reporting "Modules based on Lua: Version 8.7.32  2023-08-28 12:42 -05:00\n"
  | ["sh", "load", module] => s.load e module
  | "sh" :: "unload" :: modules => without e loadedName modules
  | ["sh", "show", module] => s.showing module
  | "sh" :: "use" :: paths => use e paths
  | "sh" :: "unuse" :: paths => without e pathName paths
  | _ => printing ""

/-- What the command does on a machine. -/
def run {μ : Type} (s : Script) (m : Machine μ) (args : List String) : Output :=
  match s.replies.get? (" ".intercalate args) with
  | some reply => reply
  | none => s.answer m.env args

/-- Where a scripted module command is installed. -/
structure Installed where
  /-- The position of its file. -/
  position : Position
  /-- What it answers. -/
  script : Script

/-- The program behind a command, where at most a scripted module command is installed; any other
executable prints nothing. -/
def programAt {μ : Type} (installed : Option Installed) (command : Bytes) : Program μ :=
  fun m args =>
    (m.program command args).map fun position =>
      match installed with
      | some i => if position = i.position then i.script.run m args else printing ""
      | none => printing ""

end Script

end SiteRuntime.Lmod

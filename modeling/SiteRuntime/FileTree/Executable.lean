import SiteRuntime.Machine

/-!
# Finding programs

A program is named by a path, or by a bare name that is searched for in the directories of `PATH`.
Only an executable file can be started.
-/

namespace SiteRuntime

/-- The position of an executable file. -/
def FileTree.executable (t : FileTree) (cwd : Position) (p : Path) : Except OsError Position := do
  match ← t.resolve cwd p with
  | (position, .file _ true) => return position
  | _ => throw .permissionDenied

namespace Machine

variable {μ : Type}

/-- The directories searched for programs when `PATH` is not set. -/
def standardDirectories : List (List Char) := ["/bin".toList, "/usr/bin".toList]

/-- The directories searched for programs; an empty entry is the working directory. -/
def searchDirectories (m : Machine μ) : List (List Char) :=
  match m.env.value? (Bytes.ofText "PATH") with
  | some value => Text.splitOn ':' (Bytes.lossy value).toList
  | none => standardDirectories

/-- The first executable file of a name in some directories. Directories without one are passed
over; a file that may not be started is remembered, in case there is no other. -/
def searchIn (m : Machine μ) (name : String) (denied : Bool) :
    List (List Char) → Except OsError Position
  | [] => .error (if denied then .permissionDenied else .notFound)
  | directory :: rest =>
    match m.files.executable m.cwd ((Path.mk directory).joinText name) with
    | .ok position => .ok position
    | .error .permissionDenied => searchIn m name true rest
    | .error .notFound => searchIn m name denied rest
    | .error .notDirectory => searchIn m name denied rest
    | .error e => .error e

/-- The program that a command names, to be started with arguments. -/
def program (m : Machine μ) (command : Bytes) (args : List String) : Except OsError Position :=
  let name := Bytes.lossy command
  if command.contains 0 || args.any fun a => a.toList.contains '\x00' then .error .nulInArgument
  else if name.isEmpty then .error .notFound
  else if name.toList.contains '/' then m.files.executable m.cwd (.ofText name)
  else if FileTree.isLongName name then .error .nameTooLong
  else m.searchIn name false m.searchDirectories

end Machine

end SiteRuntime

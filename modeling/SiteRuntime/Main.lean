import SiteRuntime.CommandLine.Execute
import SiteRuntime.FileTree.Change
import SiteRuntime.Job.Programs
import SiteRuntime.Lmod.Scripted
import Std.Time.Zoned

/-!
# The executable

Reads what the program works on, runs it, and carries out what it changed. The files it knows are
those below the working directory and its configuration file; jobs are run by the programs of
`SiteRuntime.Job.Programs`, and no module command is installed.
-/

namespace SiteRuntime.Executable

/-- The path of a position. -/
def pathAt (position : Position) : String := (FileTree.pathOf position).text

/-- The position of an absolute path. -/
def positionOf (path : String) : Position := FileTree.namesOf (.ofText path)

/-- How many levels of directories are read. -/
def depth : Nat := 64

/-- Reads an entry of a directory with everything below it. -/
def readEntry : Nat → Position → FileTree → IO.FS.DirEntry → IO FileTree
  | 0, _, t, _ => return t
  | fuel + 1, directory, t, e => do
    let position := directory ++ [e.fileName]
    match (← e.path.symlinkMetadata).type with
    | .dir => (← e.path.readDir).foldlM (readEntry fuel position) (t.put position .directory)
    | .file => return t.put position (.file (← IO.FS.readBinFile e.path).data.toList false)
    | _ => return t

/-- Reads everything below the working directory. -/
def readFiles : IO (Position × FileTree) := do
  let directory ← IO.currentDir
  let cwd := positionOf directory.toString
  let t := FileTree.empty.putBelow cwd .directory
  return (cwd, ← (← directory.readDir).foldlM (readEntry depth cwd) t)

/-- Reads a file into a tree, if it is there. -/
def readFile (t : FileTree) (path : String) : IO FileTree := do
  try
    let position := positionOf (← IO.FS.realPath path).toString
    return t.putBelow position (.file (← IO.FS.readBinFile path).data.toList false)
  catch _ => return t

/-- The variables of the process. -/
def readEnv : IO ProcessEnv := do
  return .ofBlock (← IO.FS.readBinFile "/proc/self/environ").data.toList

/-- The name of the host. -/
def readHostName : IO String := do
  try return (← IO.FS.readFile "/proc/sys/kernel/hostname").trimAscii.toString
  catch _ => return "localhost"

/-- What follows a label in a text of labelled lines. -/
def labelled? (label text : String) : Option String :=
  (text.splitOn "\n").findSome? fun line => (line.dropPrefix? label).map (·.toString)

/-- The home directory that a database of users, one a line, has for a user's number. -/
def homeIn? (number database : String) : Option String :=
  (database.splitOn "\n").findSome? fun line =>
    match line.splitOn ":" with
    | [_, _, n, _, _, home, _] => if n = number then some home else none
    | _ => none

/-- The user that the process runs for. The database of users is that of the local machine. -/
def readAccount : IO Account := do
  try
    let status ← IO.FS.readFile "/proc/self/status"
    let number := ((labelled? "Uid:\t" status).map (·.splitOn "\t")).bind List.head?
    let database ← IO.FS.readFile "/etc/passwd"
    return ⟨(number.bind (homeIn? · database)).map Bytes.ofText⟩
  catch _ => return .unlisted

/-- The present time, without a known time zone in universal time. -/
def readNow : IO Moment := do
  try
    let t ← Std.Time.DateTime.now
    let d := t.timestamp.val
    return ⟨d.second.val, d.nano.val.toNat, t.timezone.offset.second.val⟩
  catch _ =>
    let d := (← Std.Time.Timestamp.now).val
    return ⟨d.second.val, d.nano.val.toNat, 0⟩

/-- Carries out a change. -/
def carryOut : FileTree.Change → IO Unit
  | .removed position .directory => IO.FS.removeDir (pathAt position)
  | .removed position (.file _ _) => IO.FS.removeFile (pathAt position)
  | .placed position .directory => IO.FS.createDirAll (pathAt position)
  | .placed position (.file content _) =>
    IO.FS.writeBinFile (pathAt position) ⟨content.toArray⟩

/-- The configuration file that the arguments name. -/
def configFileOf (env : ProcessEnv) (args : List String) : Option Path :=
  match CommandLine.Request.read (env.text? CommandLine.configFileVariable) args with
  | .ok (.command globals _) => globals.configFile
  | _ => none

/-- What the program works on. -/
def readMachine (args : List String) : IO (Machine Unit) := do
  let env ← readEnv
  let (cwd, files) ← readFiles
  let files ← match configFileOf env args with
    | some path => readFile files path.text
    | none => pure files
  return { env, cwd, files := Job.withPrograms files, store := () }

/-- The surroundings of the program. -/
def readSurroundings : IO (CommandLine.Surroundings Unit) := do
  return {
    host := {
      name := ← readHostName
      now := ← readNow
      lmodAt := Lmod.Script.programAt none
      account := ← readAccount }
    spawn := Job.spawn
    clock := id }

/-- Runs the program on arguments; the result is its exit code. -/
def run (args : List String) : IO UInt32 := do
  let m ← readMachine args
  let o := CommandLine.execute (← readSurroundings) args m
  (m.files.changes o.machine.files).forM carryOut
  IO.print o.stdout
  IO.eprint o.stderr
  return UInt32.ofNat o.code

end SiteRuntime.Executable

/-- The executable. -/
def main (args : List String) : IO UInt32 := SiteRuntime.Executable.run args

import SiteRuntime.Activation
import SiteRuntime.Binary64
import SiteRuntime.Bytes
import SiteRuntime.CommandLine.Console
import SiteRuntime.CommandLine.Duration
import SiteRuntime.CommandLine.Execute
import SiteRuntime.CommandLine.Invocation
import SiteRuntime.CommandLine.Number
import SiteRuntime.CommandLine.Options
import SiteRuntime.CommandLine.Run
import SiteRuntime.CommandLine.Show
import SiteRuntime.CommandLine.Usage
import SiteRuntime.Config.Basic
import SiteRuntime.Config.Defaults
import SiteRuntime.Config.Document
import SiteRuntime.Config.Error
import SiteRuntime.Config.Key
import SiteRuntime.Config.Selection
import SiteRuntime.Config.Update
import SiteRuntime.Context.Basic
import SiteRuntime.Context.Directories
import SiteRuntime.Context.Error
import SiteRuntime.Environment
import SiteRuntime.Expansion
import SiteRuntime.Expansion.Reference
import SiteRuntime.FileTree.Basic
import SiteRuntime.FileTree.Change
import SiteRuntime.FileTree.Directory
import SiteRuntime.FileTree.Executable
import SiteRuntime.Job.Basic
import SiteRuntime.Job.Programs
import SiteRuntime.Job.Retry
import SiteRuntime.Json.Basic
import SiteRuntime.Json.Decode
import SiteRuntime.Json.Printer
import SiteRuntime.Json.Reader
import SiteRuntime.Lmod.Backend
import SiteRuntime.Lmod.Report
import SiteRuntime.Lmod.Scripted
import SiteRuntime.Lmod.Statement
import SiteRuntime.Machine
import SiteRuntime.Module.Backend
import SiteRuntime.Module.Error
import SiteRuntime.Module.InMemory
import SiteRuntime.Module.Name
import SiteRuntime.OsError
import SiteRuntime.Path
import SiteRuntime.Pattern.Basic
import SiteRuntime.Pattern.Bracket
import SiteRuntime.Pattern.ByteRanges
import SiteRuntime.Pattern.Escape
import SiteRuntime.Pattern.Reader
import SiteRuntime.Pattern.Search
import SiteRuntime.Pattern.Size
import SiteRuntime.Power
import SiteRuntime.ProcessEnv
import SiteRuntime.Runtime.Basic
import SiteRuntime.Runtime.Guard
import SiteRuntime.Runtime.Loading
import SiteRuntime.Session.Answer
import SiteRuntime.Session.Configuring
import SiteRuntime.Session.Run
import SiteRuntime.Session.State
import SiteRuntime.Session.Step
import SiteRuntime.Shell.Arithmetic
import SiteRuntime.Shell.Builtin
import SiteRuntime.Shell.CommandReader
import SiteRuntime.Shell.Escape
import SiteRuntime.Shell.Evaluate
import SiteRuntime.Shell.Expansion
import SiteRuntime.Shell.Fields
import SiteRuntime.Shell.Number
import SiteRuntime.Shell.Printf
import SiteRuntime.Shell.Process
import SiteRuntime.Shell.Program
import SiteRuntime.Shell.Signal
import SiteRuntime.Shell.Source
import SiteRuntime.Shell.State
import SiteRuntime.Shell.Syntax
import SiteRuntime.Shell.Test
import SiteRuntime.Shell.Wildcard
import SiteRuntime.Shell.WordReader
import SiteRuntime.Snapshot
import SiteRuntime.SortedMap
import SiteRuntime.System.Basic
import SiteRuntime.System.Error
import SiteRuntime.System.Partition
import SiteRuntime.Text.Blank
import SiteRuntime.Text.CodeSet
import SiteRuntime.Text.Hexadecimal
import SiteRuntime.Text.Offset
import SiteRuntime.Text.Quoted
import SiteRuntime.Text.Shown
import SiteRuntime.Text.WordCharacter
import SiteRuntime.Timestamp.Calendar
import SiteRuntime.Timestamp.Format
import SiteRuntime.Timestamp.Written
import SiteRuntime.Unicode.Age
import SiteRuntime.Unicode.CaseFold
import SiteRuntime.Unicode.Category
import SiteRuntime.Unicode.Lookup
import SiteRuntime.Unicode.Property
import SiteRuntime.Unicode.Script
import SiteRuntime.Main
import SiteRuntime.Proofs.Environment.Procedure
import SiteRuntime.Proofs.Environment.Text
import SiteRuntime.Proofs.Expansion.References
import SiteRuntime.Proofs.Expansion.Grammar
import SiteRuntime.Proofs.Activation.Effect
import SiteRuntime.Proofs.Activation.Replay
import SiteRuntime.Proofs.Scope.Contexts
import SiteRuntime.Proofs.Scope.Current
import SiteRuntime.Proofs.Scope.Environment
import SiteRuntime.Proofs.Scope.Flow
import SiteRuntime.Proofs.Scope.Validity
import SiteRuntime.Proofs.Config.Changes
import SiteRuntime.Proofs.Config.HostSelection
import SiteRuntime.Proofs.Config.Narrowing
import SiteRuntime.Proofs.Config.Selection
import SiteRuntime.Proofs.Config.Options
import SiteRuntime.Proofs.Lmod.Word
import SiteRuntime.Proofs.Lmod.Output
import SiteRuntime.Proofs.FileTree.Place
import SiteRuntime.Proofs.Runtime.WorkDirectory
import SiteRuntime.Proofs.Activation.Assignments
import SiteRuntime.Proofs.Activation.Calls
import SiteRuntime.Proofs.Activation.Conflicts
import SiteRuntime.Proofs.Activation.Emission
import SiteRuntime.Proofs.Activation.Independence
import SiteRuntime.Proofs.Activation.Lasting
import SiteRuntime.Proofs.Activation.Script
import SiteRuntime.Proofs.Activation.Steps
import SiteRuntime.Proofs.CommandLine.Attempts
import SiteRuntime.Proofs.CommandLine.Conclusion
import SiteRuntime.Proofs.CommandLine.Frame
import SiteRuntime.Proofs.Job.Retry
import SiteRuntime.Proofs.Module.Loading
import SiteRuntime.Proofs.Module.Name
import SiteRuntime.Proofs.Lmod.Comment
import SiteRuntime.Proofs.Lmod.Backslash
import SiteRuntime.Proofs.Lmod.Report
import SiteRuntime.Proofs.Lmod.Request
import SiteRuntime.Proofs.Lmod.Scanners
import SiteRuntime.Proofs.Lmod.SearchPath
import SiteRuntime.Proofs.Scope.SearchPath
import SiteRuntime.Proofs.Path.Parent
import SiteRuntime.Proofs.Path.Plain
import SiteRuntime.Proofs.FileTree.Entered
import SiteRuntime.Proofs.FileTree.Creation
import SiteRuntime.Proofs.FileTree.Room
import SiteRuntime.Proofs.FileTree.Copy
import SiteRuntime.Proofs.Runtime.Retries
import SiteRuntime.Proofs.CommandLine.Output
import SiteRuntime.Proofs.Environment.Difference
import SiteRuntime.Proofs.FileTree.Outcome
import SiteRuntime.Proofs.Scope.Switched
import SiteRuntime.Proofs.System.Partitions

import SiteRuntime.Shell.Number

/-!
# Signals

The signals by number, with their names and what is said of a process that one has ended.
-/

namespace SiteRuntime.Shell.Signal

/-- The greatest number of a signal. -/
def greatest : Nat := 64

/-- The first signal that is free for any use. -/
def firstFree : Nat := 34

/-- The signal that asks a process to end. -/
def terminate : Nat := 15

/-- The signals with names, from 0 on, which stands for the end of a script. -/
def names : List String :=
  ["EXIT", "HUP", "INT", "QUIT", "ILL", "TRAP", "ABRT", "BUS", "FPE", "KILL", "USR1", "SEGV",
    "USR2", "PIPE", "ALRM", "TERM", "16", "CHLD", "CONT", "STOP", "TSTP", "TTIN", "TTOU", "URG",
    "XCPU", "XFSZ", "VTALRM", "PROF", "WINCH", "IO", "PWR", "SYS", "32", "33"]

/-- The name of a signal. -/
def name (n : Nat) : String :=
  match names[n]? with
  | some name => name
  | none =>
    if n = firstFree then "RTMIN"
    else if n ≤ 49 then s!"RTMIN+{n - firstFree}"
    else if n < greatest then s!"RTMAX-{greatest - n}"
    else "RTMAX"

/-- The signal that a number or a name writes, from a least one on. -/
def read? (least : Nat) (s : Chars) : Option Nat :=
  if !s.isEmpty && s.all Char.isDigit then
    let n := digitsNumber 10 s
    if n ≤ greatest then some n else none
  else
    let upper := String.ofList (s.map Char.toUpper)
    (List.range (greatest + 1)).find? fun n => least ≤ n && name n = upper

/-- Signals that a process passes over. -/
def passedOver : List Nat := [17, 18, 23, 28]

/-- What is said of a process that a signal has ended; nothing, if that is common. -/
def description : Nat → String
  | 1 => "Hangup"
  | 2 => ""
  | 3 => "Quit"
  | 4 => "Illegal instruction"
  | 5 => "Trace/breakpoint trap"
  | 6 => "Aborted"
  | 7 => "Bus error"
  | 8 => "Floating point exception"
  | 9 => "Killed"
  | 10 => "User defined signal 1"
  | 11 => "Segmentation fault"
  | 12 => "User defined signal 2"
  | 13 => ""
  | 14 => "Alarm clock"
  | 15 => "Terminated"
  | 16 => "Stack fault"
  | 24 => "CPU time limit exceeded"
  | 25 => "File size limit exceeded"
  | 26 => "Virtual timer expired"
  | 27 => "Profiling timer expired"
  | 29 => "I/O possible"
  | 30 => "Power failure"
  | 31 => "Bad system call"
  | n => if firstFree ≤ n then s!"Real-time signal {n - firstFree}" else s!"Unknown signal {n}"

end SiteRuntime.Shell.Signal

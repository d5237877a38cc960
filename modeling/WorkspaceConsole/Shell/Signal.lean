import WorkspaceConsole.Shell.Octets
import WorkspaceConsole.Text.Decimal

/-!
# Signals

The signals by number and name, and what becomes of a process that does nothing about them. Zero
stands for the end of a shell.
-/

namespace WorkspaceConsole.Shell.Signal

/-- The names of the signals, by their numbers. Some have none but their number. -/
def names : List String :=
  ["EXIT", "HUP", "INT", "QUIT", "ILL", "TRAP", "ABRT", "BUS", "FPE", "KILL", "USR1", "SEGV",
    "USR2", "PIPE", "ALRM", "TERM", "16", "CHLD", "CONT", "STOP", "TSTP", "TTIN", "TTOU", "URG",
    "XCPU", "XFSZ", "VTALRM", "PROF", "WINCH", "IO", "PWR", "SYS", "32", "33", "RTMIN"] ++
  ((List.range 15).map fun n => "RTMIN+" ++ Text.Decimal.write (n + 1)) ++
  ((List.range 14).map fun n => "RTMAX-" ++ Text.Decimal.write (14 - n)) ++ ["RTMAX"]

/-- The name of a signal. -/
def name? (number : Nat) : Option String :=
  names[number]?

/-- The signal that a number means. -/
def ofNumber? (s : Octets) : Option Nat :=
  match Text.Decimal.read? s with
  | some n => if n < names.length then some n else none
  | none => none

/-- The signal that a number or a name means; the latter only from a number on. -/
def ofText? (least : Nat) (s : Octets) : Option Nat :=
  match ofNumber? s with
  | some n => some n
  | none =>
    let place := names.idxOf? (String.ofList (s.map Char.toUpper))
    place.filter (least ≤ ·)

/-- The name of a signal in the report of an ending. -/
def endingName? (number : Nat) : Option String :=
  if number = 16 then some "STKFLT"
  else if number = 0 || 31 < number then none
  else name? number

/-- What is said of a process that a signal has ended; nothing of an interrupt and a broken pipe. -/
def description (number : Nat) : String :=
  match number with
  | 1 => "Hangup"
  | 3 => "Quit"
  | 4 => "Illegal instruction"
  | 5 => "Trace/breakpoint trap"
  | 6 => "Aborted"
  | 7 => "Bus error"
  | 8 => "Floating point exception"
  | 9 => "Killed"
  | 10 => "User defined signal 1"
  | 11 => "Segmentation fault"
  | 12 => "User defined signal 2"
  | 14 => "Alarm clock"
  | 15 => "Terminated"
  | 16 => "Stack fault"
  | 24 => "CPU time limit exceeded"
  | 25 => "File size limit exceeded"
  | 26 => "Virtual timer expired"
  | 27 => "Profiling timer expired"
  | 29 => "I/O possible"
  | 30 => "Power failure"
  | 31 => "Bad system call"
  | _ => ""

/-- Whether a process passes over a signal by itself. -/
def isIgnored (number : Nat) : Bool :=
  [17, 18, 23, 28].contains number

/-- Whether a signal stops a process until another one wakes it. -/
def suspends (number : Nat) : Bool :=
  [19, 20, 21, 22].contains number

end WorkspaceConsole.Shell.Signal

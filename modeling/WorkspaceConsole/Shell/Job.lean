import WorkspaceConsole.Shell.Machine
import WorkspaceConsole.Shell.Signal

/-!
# Jobs

A shell numbers the commands that it sends to the background. The number of a job that has ended and
was waited for is given to the next command that needs a process of its own.
-/

namespace WorkspaceConsole.Shell

/-- Whether a process is over. One that ends at this very moment goes on until its shell notices. -/
def Process.isOver (clock : Nat) (p : Process) : Bool :=
  p.isKnown || decide (p.finish < clock)

/-- What is said of the ending of a process. -/
def Ending.description : Ending → String
  | .signal n => Signal.description n
  | _ => ""

namespace Run

/-- The process with a number. -/
def process? (number : Nat) : Run (Option Process) := do
  return (← get).processes.find? (·.number == number)

/-- Notices which processes have ended by now. -/
def noticeEndings : Run Unit :=
  modify fun m =>
    { m with processes := m.processes.map fun p =>
        if p.finish ≤ m.clock then { p with isKnown := true } else p }

/-- Whether the process of a job is over. -/
def isOver (job : Job) : Run Bool := do
  return ((← process? job.process).map (·.isOver (← get).clock)).getD true

/-- Takes the first number that is free for a job, or that is held only by a job that has ended and
was waited for. -/
def takeJobNumber : Run Nat := do
  let jobs := (← shell).jobs
  let held ← jobs.filterM fun job => do
    return !job.isAwaited || !(← isOver job)
  let numbers := (List.range (jobs.length + 1)).map (· + 1)
  let number := (numbers.find? fun n => held.all (·.number != n)).getD 1
  modifyShell fun s => { s with jobs := s.jobs.filter (·.number != number) }
  return number

/-- Makes a process the most recent job. -/
def addJob (number process : Nat) : Run Unit :=
  modifyShell fun s =>
    { s with jobs := { number, process } :: s.jobs, background := some process }

/-- Notes that jobs of a kind were waited for. -/
def markAwaited (isMeant : Job → Bool) : Run Unit :=
  modifyShell fun s =>
    { s with jobs := s.jobs.map fun job =>
        if isMeant job then { job with isAwaited := true } else job }

/-- Says how a process ended, if a signal did it that is worth a word. -/
def report (ending : Ending) : Run Unit := do
  let said := ending.description
  if !said.isEmpty then let _ ← write 2 (said ++ "\n").toList

end Run

end WorkspaceConsole.Shell

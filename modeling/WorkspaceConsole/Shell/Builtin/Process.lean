import WorkspaceConsole.Shell.Builtin.Basic
import WorkspaceConsole.Shell.Job

/-!
# Commands about processes

Commands in the background are waited for and ended by signals; a shell says what it does at a
signal or at its end.
-/

namespace WorkspaceConsole.Shell.Builtin

open Run

/-! ## Jobs -/

/-- The job that a text after a percent sign stands for. -/
def jobOf (text : Octets) : Run Job := do
  let jobs := (← shell).jobs
  let missing {α : Type} : Run α := fail ("No such job: ".toList ++ text)
  let recent (n : Nat) (why : String) : Run Job := do
    match jobs[n]? with
    | some job => return job
    | none => fail why.toList
  match text with
  | ['%'] | ['%', '%'] | ['%', '+'] => recent 0 "No current job"
  | ['%', '-'] => recent 1 "No previous job"
  | _ :: digits =>
    match (Text.Decimal.read? digits).bind fun n => jobs.find? (·.number == n) with
    | some job => return job
    | none => missing
  | [] => missing

/-- What is said of a process. -/
def stateText (clock : Nat) (p : Process) : String :=
  if !p.isOver clock then "Running"
  else if p.ending.code = 0 then "Done"
  else if p.ending.description.isEmpty then "Done(" ++ Text.Decimal.write p.ending.code ++ ")"
  else p.ending.description

/-- A line about a job. -/
def jobLine (clock rank : Nat) (withProcess : Bool) (job : Job) (p : Process) : Octets :=
  let digits := Text.Decimal.digits
  let shown := (stateText clock p).toList
  let mark := if rank = 0 then '+' else if rank = 1 then '-' else ' '
  '[' :: digits job.number ++ [']', ' ', mark, ' '] ++
    (if withProcess then digits job.process ++ [' '] else []) ++
    shown ++ List.replicate (27 - shown.length) ' '

/-- Lists the jobs; those that have ended are forgotten. -/
def jobs : Command := fun args => do
  let (found, _) ← options "lp" args
  let m ← get
  for (job, rank) in m.shell.jobs.zipIdx do
    if let some p ← process? job.process then
      if found.any fun o => o.1 = 'p' then
        let _ ← printLine (Text.Decimal.digits job.process)
      else
        let _ ← printLine (jobLine m.clock rank (!found.isEmpty) job p)
  let left ← m.shell.jobs.filterM fun job => do
    return !(← isOver job)
  modifyShell fun s => { s with jobs := left }
  return 0

/-- Moves a job to the foreground or back, which only a shell with job control can. -/
def moveJob : Command := fun args => do
  let args ← operands args
  let names : List (Option Octets) := if args.isEmpty then [none] else args.map some
  for name in names do
    let _ ← jobOf (name.getD ['%'])
    fail ("job ".toList ++ name.getD "(null)".toList ++
      " not created under job control".toList)
  return 0

/-! ## Waiting -/

/-- Waits for a moment, unless a signal for the shell comes before that: then up to the signal, with
its number. -/
def waitUntil (time : Nat) : Run (Option Nat) := do
  let m ← get
  let isEarlier (sent : Sent) : Bool :=
    sent.process == m.shell.number && m.shell.isMain && decide (sent.time < time) &&
      (m.shell.traps.lookup sent.signal).any fun action => !action.isEmpty
  let signal := m.signals.find? isEarlier
  set { m with clock := max m.clock ((signal.map Sent.time).getD time) }
  noticeEndings
  return signal.map Sent.signal

/-- Waits for a job, and gives its status. -/
def waitFor (job : Job) : Run Nat := do
  let some p ← process? job.process | return 127
  let isOver := p.isOver (← get).clock
  match ← waitUntil p.finish with
  | some signal => return 128 + signal
  | none =>
    if !isOver then report p.ending
    markAwaited (·.process == job.process)
    return p.ending.code

/-- Waits for commands in the background: for the given ones, or for all. -/
def wait : Command := fun args => do
  let args ← operands args
  if args.isEmpty then
    for job in (← shell).jobs do
      if let some p ← process? job.process then
        if let some signal ← waitUntil p.finish then return 128 + signal
    markAwaited fun _ => true
    return 0
  let mut status := 127
  for a in args do
    let job? ← if a.head? = some '%' then do pure (some (← jobOf a)) else do
      let n ← number a
      pure ((← shell).jobs.find? (·.process == n))
    if let some job := job? then status := ← waitFor job
  return status

/-! ## Signals -/

/-- Ends a process in the background. -/
def endProcess (number signal : Nat) : Run Unit := do
  let clock := (← get).clock
  modify fun m =>
    { m with processes := m.processes.map fun p =>
        if p.number == number then { p with finish := clock, ending := .signal signal } else p }
  silence number clock

/-- Sends a signal to a process, and says whether there is one. A shell takes signals when it comes
to its next command, unless it does nothing about them. A process in the background passes over what
comes from the keyboard. -/
def send (signal number : Nat) : Run Bool := do
  let m ← get
  if m.shells.contains number then
    let isUntreated := (m.shell.traps.lookup signal).isNone || signal = 9 || signal = 19
    if signal = 0 then return true
    if number = m.shell.number && m.shell.isMain && isUntreated then
      if Signal.isIgnored signal then return true
      if Signal.suspends signal then throw .stuck
      throw (.killed signal)
    modify fun m => { m with signals := m.signals ++ [⟨number, signal, m.clock⟩] }
    return true
  match m.processes.find? fun p => p.number == number && !p.isOver m.clock with
  | none => return false
  | some _ =>
    if !([0, 2, 3].contains signal) && !Signal.isIgnored signal then endProcess number signal
    return true

/-- The names of the signals, or of the one that a number or a status stands for. -/
def signalList (args : List Octets) : Run Nat := do
  match args with
  | [] => print ("0\n".toList ++ (Signal.names.drop 1).flatMap fun name => (name ++ "\n").toList)
  | text :: _ =>
    let n ← number text
    let n := if 128 < n then n - 128 else n
    match if n = 0 then none else Signal.name? n with
    | some name => printLine name.toList
    | none => fail ("invalid signal number or exit status: ".toList ++ text)

/-- Sends signals. Without job control there is no group of processes to send them to. -/
def kill : Command := fun args => do
  let usage {α : Type} : Run α :=
    fail ("Usage: kill [-s sigspec | -signum | -sigspec] [pid | job]... or\n" ++
      "kill -l [exitstatus]").toList
  let direct : Option (Nat × List Octets) := match args with
    | ('-' :: name) :: rest => (Signal.ofText? 1 name).map (·, rest)
    | _ => none
  let (signal, isList, targets) : Option Nat × Bool × List Octets ← match direct with
    | some (signal, rest) => pure (some signal, false, rest)
    | none => do
      let (found, rest) ← options "ls:" args
      let mut signal := none
      for (letter, name) in found do
        if letter = 's' then
          match Signal.ofText? 1 name with
          | some n => signal := some n
          | none => fail ("invalid signal number or name: ".toList ++ name)
      pure (signal, found.any fun o => o.1 = 'l', rest)
  if args.isEmpty || (isList && signal.isSome) || (!isList && targets.isEmpty) then usage
  if isList then return ← signalList targets
  let mut status := 0
  for target in targets do
    let process? : Option Nat ← match target with
      | '%' :: _ => do
        let _ ← jobOf target
        pure none
      | '-' :: digits => do
        let _ ← number digits
        pure none
      | digits => do
        let n ← number digits
        let own := (← shell).number
        pure (some (if n = 0 then own else n))
    let isThere ← match process? with
      | some n => send (signal.getD 15) n
      | none => pure false
    if !isThere then
      complain "No such process\n".toList
      status := 1
  return status

/-! ## Traps -/

/-- Lists what is done at signals. -/
def listTraps : Run Nat := do
  let sorted := (← shell).traps.mergeSort fun a b => decide (a.1 ≤ b.1)
  print (sorted.flatMap fun (signal, action) =>
    "trap -- ".toList ++ singleQuoted action ++ ' ' ::
      ((Signal.name? signal).getD "").toList ++ ['\n'])

/-- Says what to do at signals or at the end. -/
def trap : Command := fun args => do
  match ← operands args with
  | [] => listTraps
  | first :: rest =>
    let isReset := rest.isEmpty || (Signal.ofNumber? first).isSome
    let action := if isReset || first = ['-'] then none else some first
    for c in if isReset then first :: rest else rest do
      match Signal.ofText? 0 c with
      | none =>
        let _ ← write 2 ("trap: ".toList ++ c ++ ": bad trap\n".toList)
        return 1
      | some signal =>
        modifyShell fun s =>
          { s with traps := (action.toList.map (signal, ·)) ++ s.traps.filter (·.1 ≠ signal) }
    return 0

/-- The time that a shell and its commands have taken. -/
def times : Command := fun _ =>
  print "0m0.000000s 0m0.000000s\n0m0.000000s 0m0.000000s\n".toList

end WorkspaceConsole.Shell.Builtin

import WorkspaceConsole.Shell.Builtin
import WorkspaceConsole.Shell.Redirection

/-!
# Shells that are split off

A command that needs a process of its own is carried out by a copy of the shell. The copy is carried
out to its end before the shell goes on; where both work at the same time, the clock is put back
afterwards, so that what they write is put in order by its times.
-/

namespace WorkspaceConsole.Shell

namespace Executor

open Run

/-! ## The end of a shell -/

/-- The status of a shell that is left after a stop. `exit` in a trap goes by the status before the
trap unless it is given one. -/
def settle (stop : Stop) : Run Unit := do
  if stop = .stuck then throw .stuck
  let s ← shell
  if stop = .exiting then setStatus (s.trapStatus.getD s.status)
  modifyShell fun s => { s with trapStatus := none, loops := 0 }

/-- Carries out an action as the last one of a shell, and then what is to be done at its end. -/
def toEnd (x : Executor) (action : Run Nat) : Run Ending := do
  let ended (stop : Stop) : Run (Option Nat) := do
    if let .killed signal := stop then return some signal
    settle stop
    return none
  let signal? ← tryCatch (do let _ ← action; return none) ended
  if let some signal := signal? then return .signal signal
  let s ← shell
  let some farewell := s.traps.lookup 0 | return .status (s.status % 256)
  modifyShell fun t =>
    { t with trapStatus := some s.status, traps := t.traps.filter (·.1 ≠ 0) }
  let goesBack (stop : Stop) : Bool :=
    match stop with
    | .breaking _ | .continuing _ | .returning _ => true
    | _ => false
  let said : Run Nat := do
    let _ ← x.scriptHere {} farewell
    throw (.returning true)
  let signal? ← tryCatch (do let _ ← said; return none) fun stop => do
    if goesBack stop then
      setStatus s.status
      return none
    ended stop
  match signal? with
  | some signal => return .signal signal
  | none => return .status ((← shell).status % 256)

/-! ## Splitting off -/

/-- Carries out an action in a copy of the shell. What would be done at signals is forgotten, except
that some of them are passed over. -/
def apart (x : Executor) (action : Run Nat) : Run Ending := do
  let saved ← shell
  modifyShell fun s =>
    { s with isMain := false, traps := s.traps.filter (·.2.isEmpty), jobs := [] }
  ensuring (x.toEnd action) (modifyShell fun _ => saved)

/-- Carries out an action in a copy of the shell, and waits for it. -/
def foreground (x : Executor) (action : Run Nat) : Run Nat := do
  let _ ← takeJobNumber
  let ending ← x.apart action
  noticeEndings
  report ending
  return ending.code

/-- The channels that the handles of the shell lead to. -/
def channelsInUse : Run (List Nat) := do
  return ((← shell).handles.map Prod.snd).eraseDups

/-- Carries out an action in the background: the clock is put back to where it was. -/
def background (x : Executor) (action : Run Nat) : Run Unit := do
  let number ← takeJobNumber
  let process ← newProcess
  let channels ← channelsInUse
  let start := (← get).clock
  let inside : Run Nat := do
    modifyShell fun s => { s with process }
    action
  let ending ← x.apart inside
  modify fun m =>
    { m with
      clock := start
      processes := ⟨process, m.clock, ending, channels, false⟩ :: m.processes }
  addJob number process

/-- Waits for the processes in the background that can write to a channel. -/
def waitForWriters (channel : Nat) : Run Unit :=
  modify fun m =>
    { m with clock := m.processes.foldl (fun clock p =>
        if p.channels.contains channel then max clock p.finish else clock) m.clock }

/-- Carries out a script and gives what it prints, without line ends at the end. -/
def capture (x : Executor) (script : Node) : Run Octets := do
  if let .nothing := script then return []
  let _ ← takeJobNumber
  let pipe ← openChannel (.buffer [])
  let ending ← x.apart do
    setHandle 1 (some pipe)
    x.node { isFinal := true } script
  waitForWriters pipe
  noticeEndings
  report ending
  modifyShell fun s => { s with substituted := ending.code }
  let text := (← written pipe).filter (· != '\x00')
  setChannel pipe .null
  return (text.reverse.dropWhile (· == '\n')).reverse

/-! ## Pipelines -/

/-- Whether a source still has something to offer. -/
def isLeft (source : Nat) : Run Bool := do
  match (← get).channels[source]? with
  | some (.source pieces _) => return pieces.any fun p => !p.2.isEmpty
  | _ => return false

/-- Carries out the commands of a pipeline one after the other, each on what the one before has
written, and gives their endings. A command that writes without end is ended when nothing of it is
read any more. -/
def pipeline (x : Executor) (stance : Stance) (start : Nat) :
    List Node → Option Nat → Run (List Ending × Nat)
  | [], _ => return ([], start)
  | node :: nodes, source => do
    modify fun m => { m with clock := start }
    let pipe ← if nodes.isEmpty then pure none else do
      let number ← openChannel (.buffer [])
      pure (some number)
    let inside : Run Nat := do
      if source.isSome then setHandle 0 source
      if pipe.isSome then setHandle 1 pipe
      x.node { stance with isFinal := true } node
    let some pipe := pipe | do
      let ending ← x.apart inside
      return ([ending], (← get).clock)
    let ending ← tryCatch (x.apart inside) fun stop =>
      if stop = .stuck then return .endless else throw stop
    waitForWriters pipe
    let finish := (← get).clock
    let pieces := (← Run.pieces pipe).map fun p => (p.time, p.text)
    let source ← openChannel (.source pieces finish)
    setChannel pipe .null
    let (endings, last) ← pipeline x stance start nodes (some source)
    if ending = .endless then
      if !(← isLeft source) then throw .stuck
      return (.signal 13 :: endings, last)
    return (ending :: endings, max finish last)

/-- Carries out a pipeline and waits for all of its commands. Its status is that of the last one. -/
def pipelineHere (x : Executor) (stance : Stance) (nodes : List Node) : Run Nat := do
  let _ ← takeJobNumber
  let (endings, finish) ← x.pipeline stance (← get).clock nodes none
  modify fun m => { m with clock := finish }
  noticeEndings
  for ending in endings do report ending
  return (endings.getLast?.map Ending.code).getD 0

end Executor

end WorkspaceConsole.Shell

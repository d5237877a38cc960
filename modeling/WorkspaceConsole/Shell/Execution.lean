import WorkspaceConsole.Shell.Fork

/-!
# Carrying out commands

Each kind of command is one step over the commands inside it, which an `Executor` carries out.
`execute` ties the knot with a limit on how deep commands may be nested; a script that goes deeper,
or a loop that does not end, gets stuck.
-/

namespace WorkspaceConsole.Shell

namespace Executor

open Run

/-! ## Signals -/

/-- Whether a signal would end the shell, or would have an action carried out. -/
def reaction (signal : Nat) : Run (Option Octets) := do
  match (← shell).traps.lookup signal with
  | some action => return if action.isEmpty then none else some action
  | none =>
    if Signal.isIgnored signal then return none
    if Signal.suspends signal then throw .stuck
    throw (.killed signal)

/-- Carries out the action for a signal. The status is as before afterwards, unless the action
leaves a function with one of its own. -/
def carryOutTrap (x : Executor) (action : Octets) : Run Unit := do
  let s ← shell
  let status := s.trapStatus.getD s.status
  modifyShell fun t => { t with trapStatus := some status }
  let restore : Run Unit := modifyShell fun t => { t with trapStatus := s.trapStatus }
  tryCatch (do let _ ← x.scriptHere {} action) fun stop => do
    match stop with
    | .returning false => restore
    | .breaking _ | .continuing _ | .returning true =>
      setStatus status
      restore
    | _ => pure ()
    throw stop
  setStatus status
  restore

/-- Does what is to be done at the signals that have come. -/
def takeSignals (x : Executor) : Run Unit := do
  let m ← get
  let isDue (sent : Sent) : Bool := sent.process == m.shell.number && decide (sent.time ≤ m.clock)
  if m.shell.isMain && m.signals.any isDue then
    set { m with signals := m.signals.filter (!isDue ·) }
    let due := (m.signals.filter isDue).map Sent.signal
    for signal in due.eraseDups.mergeSort fun a b => decide (a ≤ b) do
      if let some action := ← reaction signal then x.carryOutTrap action

/-! ## Tracing -/

/-- What a line of the trace begins with. -/
def traceMark (x : Executor) : Run Octets := do
  let plain := (← value? "PS4").getD []
  let s ← shell
  let expanded : Run Octets := do
    let source : ReaderState :=
      { rest := plain, line := s.line, kept := s.isReadToEnd, last := .finish }
    modifyShell fun s => { s with isTracing := true, isReadToEnd := false }
    match source.document s.aliases s.line with
    | .ok word => textOf x.capture x.fuel { quoted := true } word
    | .error failure => fail failure.error.message.toList
  let unmark : Run Unit := modifyShell fun s => { s with isTracing := false }
  let shown := tryCatch expanded fun stop => if stop = .failing then return plain else throw stop
  ensuring shown unmark

/-- Shows a command before it is carried out, if that is asked for. -/
def trace (x : Executor) (channel : Option Nat) (fields : List Octets) : Run Unit := do
  let s ← shell
  if s.switches.contains "xtrace" && !s.isTracing then
    let mark ← x.traceMark
    if let some number := channel then
      let _ ← writeChannel number (mark ++ Text.joinWith ' ' fields ++ ['\n'])

/-! ## The words of a simple command -/

/-- The fields of a command so far, and the words that are still to be expanded. -/
structure Opening where
  fields : List Octets
  words : List Word

/-- Expands words until there is a field with a number, if there are so many. -/
def reach (x : Executor) (n : Nat) : List Octets → List Word → Run Opening
  | found, [] => return ⟨found, []⟩
  | found, w :: ws => do
    if n < found.length then return ⟨found, w :: ws⟩
    x.reach n (found ++ (← fields x.capture x.fuel [w])) ws

/-- A simple command whose words are expanded: all of its fields, the ones that are carried out, and
what is known of the name among them. -/
structure Call where
  shown : List Octets := []
  fields : List Octets := []
  isSpecial : Bool := false
  isScoped : Bool := false
  isReplacing : Bool := false
  skipsFunctions : Bool := false
  isStandard : Bool := false

/-- Where the name begins after `command` with its options, and whether the standard path is asked
for. There is none if the command is to say what a name stands for. -/
def nameAfter (x : Executor) : Nat → Opening → Nat → Bool → Run (Opening × Option (Nat × Bool))
  | 0, _, _, _ => throw .stuck
  | fuel + 1, opening, n, isStandard => do
    let opening ← x.reach n opening.fields opening.words
    match opening.fields[n]? with
    | none => return (opening, none)
    | some ['-', '-'] =>
      let opening ← x.reach (n + 1) opening.fields opening.words
      return (opening, (opening.fields[n + 1]?).map fun _ => (n + 1, isStandard))
    | some ('-' :: c :: cs) =>
      if (c :: cs).all (· == 'p') then nameAfter x fuel opening (n + 1) true
      else return (opening, none)
    | some _ => return (opening, some (n, isStandard))

/-- Finds the name of a command behind any number of `command` words, and expands the other words.
-/
def findName (x : Executor) : Nat → Opening → Nat → Call → Run Call
  | 0, _, _, _ => throw .stuck
  | fuel + 1, opening, n, call => do
    let some name := (opening.fields[n]?).map String.ofList | return call
    let s ← shell
    let isFunction := !call.skipsFunctions && (s.functions.lookup name).isSome
    let isBuiltin := !isFunction && Builtin.isCommand name
    let isFirst := n = 0
    let isSpecial := isBuiltin && Token.specialCommands.contains name
    let call := { call with
      isSpecial := if isFirst then isSpecial else call.isSpecial
      isScoped := if isFirst then !isSpecial else true
      isReplacing := isBuiltin && name == "exec" }
    let finish (opening : Opening) (n : Nat) : Run Call := do
      let isDeclaring := isBuiltin && Builtin.declaring.contains name
      let mut found := opening.fields
      for w in opening.words do
        if isDeclaring && w.isAssignment then
          found := found ++ [← textOf x.capture x.fuel { assigns := true } w]
        else found := found ++ (← fields x.capture x.fuel [w])
      return { call with shown := found, fields := found.drop n }
    if isBuiltin && name = "command" then
      match ← x.nameAfter x.fuel opening (n + 1) call.isStandard with
      | (opening, some (next, isStandard)) =>
        findName x fuel opening next { call with skipsFunctions := true, isStandard }
      | (opening, none) => finish opening n
    else finish opening n

/-- Expands the words of a simple command. -/
def prepare (x : Executor) (words : List Word) : Run Call := do
  x.findName x.fuel (← x.reach 0 [] words) 0 {}

/-! ## Variables of a simple command -/

/-- Puts variables and switches back to what they were before a command. -/
def putBackLocals : Run Unit := do
  for saved in (← shell).locals.headD [] do
    match saved with
    | .variable name old =>
      putVariable name old
      if let some value := old.bind Variable.value then noteValue name value
    | .switches old => modifyShell fun s => { s with switches := old }
  modifyShell fun s => { s with locals := s.locals.drop 1 }

/-- Carries out an action, with variables of its own if that is asked for. -/
def withLocals (isScoped : Bool) (action : Run Nat) : Run Nat := do
  if !isScoped then return ← action
  modifyShell fun s => { s with locals := [] :: s.locals }
  ensuring action putBackLocals

/-- Makes the assignment of a simple command, and gives it as it turned out. -/
def assignWord (x : Executor) (call : Call) (w : Word) : Run Octets := do
  let text ← textOf x.capture x.fuel { assigns := true } w
  let export' (v : Variable) : Variable := { v with exported := true }
  if call.isScoped then Builtin.makeLocal export' text
  else
    let (name, value) := Builtin.splitAssignment text
    change (String.ofList name) value
      (if call.isReplacing && 1 < call.fields.length then export' else id)
  return text

/-! ## Shells that a script starts -/

/-- Takes the options of a shell. The result says whether a script is among the arguments. -/
def startOptions : Nat → Bool → List Octets → Run (Bool × List Octets)
  | 0, hasScript, args => return (hasScript, args)
  | fuel + 1, hasScript, args => do
    let turned (on : Bool) (letters : Octets) (rest : List Octets) : Run (Bool × List Octets) := do
      let rest ← Builtin.turnLetters on (letters.filter fun c => c != 'c' && c != 'l') rest
      startOptions fuel (hasScript || letters.contains 'c') rest
    match args with
    | ['-'] :: rest | ['-', '-'] :: rest => return (hasScript, rest)
    | ('-' :: letters) :: rest => turned true letters rest
    | ('+' :: letters) :: rest => turned false letters rest
    | args => return (hasScript, args)

/-- The variables of a shell that has just been started. -/
def startBindings (parent : Nat) (directory : Octets) (exported : List (String × Variable)) :
    List (String × Variable) :=
  let own (name : String) (value : Octets) : String × Variable := (name, { value := some value })
  let others := exported.filter fun v =>
    !(["IFS", "OPTIND", "PPID", "PS1", "PS2", "PS4", "PWD"].contains v.1)
  [("PWD", { value := some directory, exported := true }), own "OPTIND" ['1'],
    own "PPID" (Text.Decimal.digits parent), own "PS1" "$ ".toList, own "PS2" "> ".toList,
    own "PS4" "+ ".toList, own "IFS" " \t\n".toList] ++ others

/-- Carries out another shell in this process, which takes over the exported variables. -/
def startShell (x : Executor) (name : Octets) (number parent : Nat) (args : List Octets) :
    Run Nat := do
  let directory := Octets.ofText (← directoryPath)
  modifyShell fun s =>
    { name, number, process := s.process, directory := s.directory, handles := s.handles
      bindings := startBindings parent directory (s.bindings.filter fun v => v.2.exported)
      mask := s.mask, limits := s.limits, errorLine := 0 }
  modify fun m => { m with shells := number :: m.shells }
  let (hasScript, rest) ← startOptions (args.length + 1) false args
  if hasScript then
    let text :: rest := rest | fail "-c requires an argument".toList
    modifyShell fun s => { s with name := rest.headD name, arguments := rest.drop 1 }
    x.script { isFinal := true } 1 text
  else if rest.isEmpty || (← isOn "stdin") then
    Builtin.turn true "stdin"
    modifyShell fun s => { s with arguments := rest }
    x.fileScript (← readAll 0)
  else
    let path := rest.headD []
    let m ← get
    match m.disk.entryFrom m.shell.directory (Octets.toText path) with
    | .ok (_, entry) =>
      modifyShell fun s => { s with name := path, arguments := rest.drop 1 }
      match entry with
      | .file bytes => x.fileScript (Octets.ofBytes bytes)
      | .directory => return 0
    | .error e => failFile "cannot open " path "No such file" e

/-! ## Programs -/

/-- Ends the shell as a program that has taken its place has ended. -/
def endAs (ending : Ending) : Run Nat := do
  modifyShell fun s => { s with traps := [] }
  setStatus ending.code
  match ending with
  | .signal n => throw (.killed n)
  | _ => throw .ending

/-- Carries out a program in the place of the shell. -/
def replaceBy (x : Executor) (program : String) (name : Octets) (args : List Octets) : Run Nat := do
  let s ← shell
  match Program.ofName? program with
  | some action => endAs (.status (← action args))
  | none =>
    let parent := ((← value? "PPID").bind Text.Decimal.read?).getD 0
    endAs (← x.toEnd (x.startShell name s.number parent args))

/-- Carries out a program in a process of its own. -/
def runProgram (x : Executor) (program : String) (name : Octets) (args : List Octets) :
    Run Nat := do
  match Program.ofName? program with
  | some action =>
    let _ ← takeJobNumber
    let status ← action args
    noticeEndings
    return status
  | none =>
    let parent := (← shell).number
    let number ← newProcess
    let status ← x.foreground (x.startShell name number parent args)
    modify fun m => { m with shells := m.shells.filter (· != number) }
    return status

/-- Carries out what a name outside the shell stands for, or says why it stands for nothing. -/
def runExternal (x : Executor) (stance : Stance) (isStandard : Bool) (name : Octets)
    (args : List Octets) : Run Nat := do
  let path ← if isStandard then pure Builtin.standardPath else searchPath
  match ← Builtin.findProgram path name with
  | (_, .program program) =>
    if !isStandard then Builtin.remember name
    let hasTraps := (← shell).traps.any fun t => !t.2.isEmpty
    if stance.isFinal && !hasTraps then x.replaceBy program name args
    else x.runProgram program name args
  | (_, .denied) =>
    complain (name ++ ": Permission denied".toList)
    return if name.contains '/' then 126 else 127
  | (_, .missing) =>
    complain (name ++ ": not found".toList)
    return 127

/-- Gives way to a program, or does nothing if there is none. -/
def exec (x : Executor) : Command := fun args => do
  let name :: args := args | return 0
  let refused (status : Nat) (why : String) : Run Nat := do
    setStatus status
    complain (name ++ why.toList)
    throw .ending
  match ← Builtin.findProgram (← searchPath) name with
  | (_, .program program) => x.replaceBy program name args
  | (_, .denied) => refused 126 ": Permission denied"
  | (_, .missing) => refused 127 ": not found"

/-! ## Simple commands -/

/-- How deep functions may call each other. -/
def callLimit : Nat := 1000

/-- Calls a function with arguments of its own. -/
def callFunction (x : Executor) (stance : Stance) (line : Nat) (body : Node)
    (args : List Octets) : Run Nat := do
  let saved ← shell
  if callLimit ≤ saved.depth then
    fail ("Maximum function recursion depth (" ++ Text.Decimal.write callLimit ++
      ") reached").toList
  modifyShell fun s =>
    { s with
      arguments := args, loops := 0, functionLine := line, depth := s.depth + 1
      optionPlace := (1, none) }
  let leave : Run Unit := modifyShell fun s =>
    { s with
      arguments := saved.arguments, loops := saved.loops, functionLine := saved.functionLine
      depth := saved.depth, optionPlace := saved.optionPlace }
  let called : Run Nat :=
    tryCatch (x.node { isTested := stance.isTested } body) fun stop => do
      let .returning _ := stop | throw stop
      return (← shell).status
  ensuring called leave

/-- Carries out a command of the shell, which complains in its own name. An error in it ends the
shell only if it is special. -/
def runBuiltin (name : Octets) (isSpecial : Bool) (action : Run Nat) : Run Nat := do
  let speaker := (← shell).speaker
  modifyShell fun s => { s with speaker := some name }
  let status ← tryCatch
    (ensuring action (modifyShell fun s => { s with speaker })) fun stop => do
      if stop = .failing && !isSpecial then return (← shell).status
      throw stop
  setStatus status
  return status

/-- Carries out a command whose words and assignments are expanded. -/
def dispatch (x : Executor) (stance : Stance) (call : Call) : Run Nat := do
  let name :: args := call.fields | return (← shell).substituted
  let text := String.ofList name
  let functions := (← shell).functions
  match if call.skipsFunctions then none else functions.lookup text with
  | some (line, body) => x.callFunction stance line body args
  | none =>
    let command? := if text = "exec" then some x.exec else Builtin.ofName? x stance text
    match command? with
    | some command => runBuiltin name call.isSpecial (command args)
    | none => x.runExternal stance call.isStandard name args

/-- Comes to a command on a line. In a function the lines count from its first one. -/
def comeTo (line : Nat) : Run Unit :=
  modifyShell fun s =>
    { s with
      errorLine := line
      line := if s.functionLine = 0 then line else line + 1 - s.functionLine }

/-- Carries out a simple command. -/
def simple (x : Executor) (stance : Stance) (line : Nat) (assignments words : List Word)
    (redirects : List (Redirect Word)) : Run Nat := do
  comeTo line
  modifyShell fun s => { s with substituted := 0 }
  let call ← x.prepare words
  withLocals call.isScoped do
    let traced := (← shell).handles.lookup 2
    let targets ← redirects.mapM (expandTarget x.capture x.fuel)
    let saved := (← shell).handles
    let restore : Run Unit := modifyShell fun s => { s with handles := saved }
    let action : Run (Nat × Bool) := do
      if ← applyRedirects x.capture x.fuel targets then
        let shown ← assignments.mapM (x.assignWord call)
        x.trace traced (shown ++ call.shown)
        return (← x.dispatch stance call, call.isReplacing)
      else
        setStatus 2
        if call.isSpecial then throw .failing
        return (2, false)
    let (status, keeps) ← tryCatch action fun stop => do
      restore
      throw stop
    if !keeps then restore
    return status

/-! ## Loops -/

/-- How a round of a loop ended: with a status, by going on with the next round, or by leaving the
loop. -/
inductive Round where
  | done (status : Nat)
  | skipped
  | left

/-- Carries out a round of a loop. -/
def round (body : Run Nat) : Run Round :=
  tryCatch (do return .done (← body)) fun stop => do
    match stop with
    | .breaking 0 | .breaking 1 => return .left
    | .breaking (n + 1) => throw (.breaking n)
    | .continuing 0 | .continuing 1 => return .skipped
    | .continuing (n + 1) => throw (.continuing n)
    | stop => throw stop

/-- Carries out an action within one more loop. -/
def inLoop (action : Run Nat) : Run Nat := do
  let loops := (← shell).loops
  modifyShell fun s => { s with loops := loops + 1 }
  ensuring action (modifyShell fun s => { s with loops })

/-- Repeats a body as long as a test asks for it, and ends with the status of the last body. -/
def repeatWhile (x : Executor) (stance : Stance) (untilTrue : Bool) (test body : Node) :
    Nat → Nat → Run Nat
  | 0, _ => throw .stuck
  | limit + 1, last => do
    let again := repeatWhile x stance untilTrue test body limit
    match ← round (x.node { isTested := true } test) with
    | .left => return last
    | .skipped => again last
    | .done status =>
      if (status = 0) = untilTrue then return last
      match ← round (x.node stance body) with
      | .done status => again status
      | .skipped => again 0
      | .left => return 0

/-- Repeats a body for each value of a variable. -/
def repeatFor (x : Executor) (stance : Stance) (name : String) (body : Node) :
    List Octets → Nat → Run Nat
  | [], last => return last
  | value :: rest, _ => do
    assign name value
    match ← round (x.node stance body) with
    | .done status => repeatFor x stance name body rest status
    | .skipped => repeatFor x stance name body rest 0
    | .left => return 0

/-- How many rounds a loop may have before it counts as endless. -/
def roundLimit : Nat := 100000

/-! ## All commands -/

/-- Whether a text is what a pattern stands for. -/
def isMeant (x : Executor) (text : Octets) (pattern : Word) : Run Bool := do
  let stretches ← expand x.capture x.fuel { atStart := true } false pattern
  return (Pattern.ofMarked (Item.marked (Stretch.allItems stretches))).accepts text

/-- Carries out the first arm that has a pattern for a text. -/
def chooseArm (x : Executor) (stance : Stance) (text : Octets) : List (Arm Word Node) → Run Nat
  | [] => return 0
  | arm :: arms => do
    if !(← arm.patterns.anyM (x.isMeant text)) then return ← chooseArm x stance text arms
    match arm.body with
    | .nothing => return 0
    | body => x.node stance body

/-- Carries out a command in the background, where nothing can be read. -/
def sendToBackground (x : Executor) (stance : Stance) (body : Node) : Run Unit := do
  let silent (action : Run Nat) : Run Nat := do
    setHandle 0 (some (← openChannel .null))
    action
  match body with
  | .pipeline nodes => x.background (silent (x.pipelineHere stance nodes))
  | .redirected line body redirects =>
    comeTo line
    let targets ← redirects.mapM (expandTarget x.capture x.fuel)
    x.background <| silent do
      if !(← applyRedirects x.capture x.fuel targets) then throw .failing
      x.node { isFinal := true } body
  | body => x.background (silent (x.node { isFinal := true } body))

/-- Carries out what a kind of command stands for. -/
def body (x : Executor) (stance : Stance) : Node → Run Nat
  | .nothing => return 0
  | .simple line assignments words redirects => x.simple stance line assignments words redirects
  | .sequence first second => do
    let _ ← x.node { stance with isFinal := false } first
    x.node stance second
  | .both first second => do
    let status ← x.node { isTested := true } first
    if status = 0 then x.node stance second else return status
  | .either first second => do
    let status ← x.node { isTested := true } first
    if status = 0 then return 0 else x.node stance second
  | .negation inner => do
    let status ← x.node { isTested := true } inner
    return if status = 0 then 1 else 0
  | .pipeline nodes => x.pipelineHere stance nodes
  | .background inner => do
    x.sendToBackground stance inner
    return 0
  | .subshell line inner redirects => do
    comeTo line
    let targets ← redirects.mapM (expandTarget x.capture x.fuel)
    let action : Run Nat := do
      if !(← applyRedirects x.capture x.fuel targets) then throw .failing
      x.node { stance with isFinal := true } inner
    let hasTraps := (← shell).traps.any fun t => !t.2.isEmpty
    if stance.isFinal && !hasTraps then action else x.foreground action
  | .redirected line inner redirects => do
    comeTo line
    redirected x.capture x.fuel redirects (x.node { stance with isFinal := false } inner)
  | .conditional test yes no => do
    let status ← x.node { isTested := true } test
    match if status = 0 then yes else no with
    | .nothing => return 0
    | chosen => x.node stance chosen
  | .loop untilTrue test inner =>
    inLoop (x.repeatWhile { stance with isFinal := false } untilTrue test inner roundLimit 0)
  | .forEach line name words inner => do
    comeTo line
    let values ← fields x.capture x.fuel words
    inLoop (x.repeatFor { stance with isFinal := false } name inner values 0)
  | .choice line word arms => do
    comeTo line
    x.chooseArm stance (← textOf x.capture x.fuel { atStart := true } word) arms
  | .define line name inner => do
    modifyShell fun s =>
      { s with functions := (name, line, inner) :: s.functions.filter (·.1 ≠ name) }
    return 0

/-- Whether a failure of a command ends the shell if that is asked for. -/
def endsShell : Node → Bool
  | .simple _ _ _ _ | .pipeline _ | .subshell _ _ _ => true
  | _ => false

/-- Carries out a command, and does what is to be done afterwards. -/
def step (x : Executor) (stance : Stance) (node : Node) : Run Nat := do
  let status ← if ← isOn "noexec" then pure 0 else do
    let status ← x.body stance node
    setStatus status
    pure status
  x.takeSignals
  if endsShell node && !stance.isTested && status ≠ 0 then
    if ← isOn "errexit" then throw .ending
  if stance.isFinal then throw .ending
  return status

end Executor

/-- Carries out a command that is nested no deeper than a limit. -/
def execute : Nat → Stance → Node → Run Nat
  | 0, _, _ => throw .stuck
  | fuel + 1, stance, node => Executor.step ⟨execute fuel, fuel⟩ stance node

end WorkspaceConsole.Shell

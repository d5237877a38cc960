import WorkspaceConsole.Shell.Builtin.Basic

/-!
# Commands that steer a script

Leaving loops, functions and the shell, and carrying out scripts from arguments and files.
-/

namespace WorkspaceConsole.Shell.Builtin

open Run

/-! ## Leaving -/

/-- Leaves loops, as many as there are at most. -/
def leaveLoops (stop : Nat → Stop) : Command := fun args => do
  let wanted ← match args with
    | [] => pure 1
    | text :: _ => do
      let n ← number text
      if n = 0 then failNumber text
      pure n
  let levels := min wanted (← shell).loops
  if levels = 0 then return 0
  setStatus 0
  throw (stop levels)

/-- Leaves a function or a script in a file, with a status or the one of the last command. -/
def leaveFunction : Command := fun args => do
  if let text :: _ := args then setStatus (← number text)
  throw (.returning args.isEmpty)

/-- Leaves the shell, with a status or the one of the last command. -/
def leaveShell : Command := fun args => do
  if let text :: _ := args then
    let status ← number text
    modifyShell fun s => { s with trapStatus := some status }
  throw .exiting

/-! ## Scripts -/

/-- Carries out a script that arguments make up. -/
def evaluate (x : Executor) (stance : Stance) : Command := fun args => do
  if args.isEmpty then return 0
  x.scriptHere { stance with isFinal := false } (Text.joinWith ' ' args)

/-- The first file that a name leads to from the directories of a list. -/
def searchFile (name : Octets) : List Octets → Run (Option Octets)
  | [] => return none
  | directory :: directories => do
    let path := if directory.isEmpty then name else directory ++ '/' :: name
    let m ← get
    match m.disk.entryFrom m.shell.directory (Octets.toText path) with
    | .ok (_, .file _) => return some path
    | _ => searchFile name directories

/-- Carries out the script in a file, which is looked for like a program unless its name has a
slash.
-/
def source (x : Executor) : Command := fun args => do
  let name :: _ ← operands args | return 0
  let path ← if name.contains '/' then pure name else do
    match ← searchFile name (← searchPath) with
      | some path => pure path
      | none => fail (name ++ ": not found".toList)
  let m ← get
  let text ← match m.disk.entryFrom m.shell.directory (Octets.toText path) with
    | .ok (_, .file bytes) => pure (Octets.ofBytes bytes)
    | .ok (_, .directory) => pure []
    | .error e =>
      let isMissing := e = .notFound || e = .notDirectory
      let why := if isMissing then "No such file" else e.reason
      fail ("cannot open ".toList ++ path ++ ": ".toList ++ why.toList)
  modifyShell fun s => { s with speaker := some path }
  tryCatch (x.fileScript text) fun stop => do
    let .returning _ := stop | throw stop
    return (← shell).status

end WorkspaceConsole.Shell.Builtin

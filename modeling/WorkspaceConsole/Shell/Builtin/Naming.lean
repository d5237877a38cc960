import WorkspaceConsole.Shell.Builtin.Basic
import WorkspaceConsole.Shell.Program

/-!
# What names stand for

A name of a command may be a reserved word, an alias, a function, a command of the shell or a
program. Programs are looked for along the path, and those that were found are remembered.
-/

namespace WorkspaceConsole.Shell.Builtin

open Run

/-- The commands of the shell that are not special. -/
def regularCommands : List String :=
  ["[", "alias", "bg", "cd", "chdir", "command", "echo", "false", "fg", "getopts", "hash", "jobs",
    "kill", "printf", "pwd", "read", "test", "true", "type", "ulimit", "umask", "unalias", "wait"]

/-- Whether a name is that of a command of the shell. -/
def isCommand (name : String) : Bool :=
  Token.specialCommands.contains name || regularCommands.contains name

/-- The directories in which programs are looked for, whatever the path says. -/
def standardPath : List Octets :=
  ["/usr/sbin", "/usr/bin", "/sbin", "/bin"].map String.toList

/-- The place of a program in the list of those that are remembered. -/
def hashRank (name : String) : Nat :=
  let codes := name.toList.map Char.toNat
  (codes.foldl (· + ·) (16 * codes.headD 0) % 32768) % 31

/-- What is found of a program along a list of directories, and at which path. -/
def search (name : Octets) : List Octets → Run (Octets × Program.Finding)
  | [] => return (name, .missing)
  | directory :: directories => do
    let path := if directory.isEmpty then name else directory ++ '/' :: name
    match ← Program.find path with
    | .program program => return (path, .program program)
    | finding =>
      let (later, laterFinding) ← search name directories
      return if laterFinding = .missing then (path, finding) else (later, laterFinding)

/-- What is found of a program, which is looked for along a list of directories unless its name has
a slash. -/
def findProgram (path : List Octets) (name : Octets) : Run (Octets × Program.Finding) := do
  if name.contains '/' then return (name, ← Program.find name) else search name path

/-- The path of a program along a list of directories. A path is taken as it is if something is
there. -/
def programPath? (path : List Octets) (name : Octets) : Run (Option Octets) := do
  match ← findProgram path name with
  | (found, .program _) => return some found
  | (found, .denied) => return if name.contains '/' then some found else none
  | (_, .missing) => return none

/-- Remembers a program. -/
def remember (name : Octets) : Run Unit :=
  modifyShell fun s =>
    let name := String.ofList name
    if name.contains '/' || s.hashed.contains name then s
    else { s with hashed := s.hashed ++ [name] }

/-- What a name stands for, told briefly or at length. -/
def describe (path : Option (List Octets)) (isBrief : Bool) (name : Octets) : Run Nat := do
  let s ← shell
  let text := String.ofList name
  let said (phrase : String) : Run Nat :=
    printLine (if isBrief then name else name ++ phrase.toList)
  if Token.reservedWords.contains text then return ← said " is a shell keyword"
  if let some alias' := s.aliases.lookup text then
    let quoted := name ++ '=' :: singleQuoted alias'
    return ← printLine (if isBrief then "alias ".toList ++ quoted
      else name ++ " is an alias for ".toList ++ alias')
  if (s.functions.lookup text).isSome then return ← said " is a shell function"
  if Token.specialCommands.contains text then return ← said " is a special shell builtin"
  if regularCommands.contains text then return ← said " is a shell builtin"
  let isRemembered := path.isNone && s.hashed.contains text
  match ← programPath? (path.getD (← searchPath)) name with
  | some found =>
    remember name
    printLine (if isBrief then found
      else name ++ (if isRemembered then " is a tracked alias for " else " is ").toList ++ found)
  | none =>
    if !isBrief then
      let _ ← printLine (name ++ ": not found".toList)
    return 127

/-- Says what names stand for. -/
def nameMeanings : Command := fun args => do
  let mut status := 0
  for a in args do
    if (← describe none false a) ≠ 0 then status := 127
  return status

/-- Says what a name stands for in a command. -/
def commandMeaning : Command := fun args => do
  let (found, names) ← options "pvV" args
  let letters := found.map Prod.fst
  match names with
  | name :: _ =>
    if letters.contains 'v' || letters.contains 'V' then
      let path := if letters.contains 'p' then some standardPath else none
      describe path (!letters.contains 'V') name
    else return 0
  | [] => return 0

/-- Lists, looks for or forgets programs. -/
def hash : Command := fun args => do
  let (found, names) ← options "r" args
  if !found.isEmpty then
    modifyShell fun s => { s with hashed := [] }
    return 0
  let path ← searchPath
  if names.isEmpty then
    let known := (← shell).hashed.mergeSort fun a b => decide (hashRank a ≤ hashRank b)
    for name in known do
      if let some found ← programPath? path name.toList then
        let _ ← printLine found
    return 0
  let mut status := 0
  for name in names do
    if isCommand (String.ofList name) then pure ()
    else match ← programPath? path name with
      | some _ => remember name
      | none =>
        complain (name ++ ": not found".toList)
        status := 1
  return status

end WorkspaceConsole.Shell.Builtin

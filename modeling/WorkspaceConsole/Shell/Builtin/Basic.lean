import WorkspaceConsole.Shell.Condition
import WorkspaceConsole.Shell.Expansion
import WorkspaceConsole.Shell.Grammar
import WorkspaceConsole.Shell.Signal

/-!
# What commands of the shell share

How scripts are carried out for the commands that take one, how options are told from operands, and
what is printed. A command of the shell yields its status.
-/

namespace WorkspaceConsole.Shell

/-- Where a command stands: whether its status is asked for, so that a failure does not end the
shell, and whether it is the last one of its process. -/
structure Stance where
  isTested : Bool := false
  isFinal : Bool := false

/-- How commands are carried out, and a limit for the depth of words. -/
structure Executor where
  node : Stance → Node → Run Nat
  fuel : Nat

/-- A command of the shell. -/
abbrev Command := List Octets → Run Nat

namespace Executor

open Run

/-- Carries out the lines that are left of a script. What is read from a file is shown first if that
is asked for. -/
def lines (x : Executor) (stance : Stance) (isFile : Bool) : Nat → ReaderState → Nat → Run Nat
  | 0, _, _ => throw .stuck
  | fuel + 1, source, status => do
    let s ← shell
    let result := source.line? s.aliases s.line
    if isFile && s.switches.contains "verbose" then
      let left := match result with
        | .ok (_, next) => next.rest.length
        | .error _ => 0
      let _ ← write 2 (source.rest.take (source.rest.length - left))
    match result with
    | .error failure =>
      modifyShell fun s => { s with errorLine := failure.line }
      fail failure.error.message.toList
    | .ok (node?, next) =>
      modifyShell fun s => { s with readLine := next.line, isReadToEnd := next.isAtEnd }
      match node? with
      | none => return status
      | some .nothing => lines x stance isFile fuel next status
      | some node =>
        let isFinal := stance.isFinal && next.isAtEnd
        let status ← x.node { stance with isFinal } node
        lines x stance isFile fuel next status

/-- Carries out a script whose first line has a number. -/
def script (x : Executor) (stance : Stance) (line : Nat) (source : Octets) : Run Nat :=
  x.lines stance false (source.length + 2) (.ofText line source) 0

/-- Carries out the script in a file. -/
def fileScript (x : Executor) (source : Octets) : Run Nat :=
  x.lines {} true (source.length + 2) (.ofText 1 source) 0

/-- Carries out a script in the place of a command. -/
def scriptHere (x : Executor) (stance : Stance) (source : Octets) : Run Nat := do
  x.script stance (← shell).line source

end Executor

namespace Builtin

open Run

/-! ## Options -/

/-- Takes the letters of one argument as options; the last of them may take the next argument. -/
def optionLetters (allowed : Octets) :
    Octets → List Octets → Run (List (Char × Octets) × List Octets)
  | [], rest => return ([], rest)
  | c :: cs, rest => do
    match allowed.dropWhile (· != c) with
    | _ :: ':' :: _ =>
      match cs, rest with
      | [], [] => fail ("No arg for -".toList ++ [c] ++ " option".toList)
      | [], value :: rest => return ([(c, value)], rest)
      | value, rest => return ([(c, value)], rest)
    | _ :: _ =>
      let (more, rest) ← optionLetters allowed cs rest
      return ((c, []) :: more, rest)
    | [] => fail ("Illegal option -".toList ++ [c])

/-- Tells options from operands, within a number of arguments. -/
def optionsWithin (allowed : Octets) :
    Nat → List Octets → Run (List (Char × Octets) × List Octets)
  | fuel + 1, ('-' :: c :: cs) :: rest => do
    if c = '-' && cs.isEmpty then return ([], rest)
    let (found, rest) ← optionLetters allowed (c :: cs) rest
    let (more, rest) ← optionsWithin allowed fuel rest
    return (found ++ more, rest)
  | _, args => return ([], args)

/-- Tells options from operands. A letter before a colon takes an argument. -/
def options (allowed : String) (args : List Octets) :
    Run (List (Char × Octets) × List Octets) :=
  optionsWithin (allowed.toList) (args.length + 1) args

/-- Operands after no option but the mark of their beginning. -/
def operands (args : List Octets) : Run (List Octets) := do
  return (← options "" args).2

/-! ## Printing -/

/-- A text between single quotes, such that a shell reads it back. -/
def singleQuoted (s : Octets) : Octets :=
  let rec go : Nat → Octets → Octets
    | 0, _ => []
    | fuel + 1, s =>
      let front := s.takeWhile (· != '\x27')
      let rest := s.dropWhile (· != '\x27')
      let quotes := rest.takeWhile (· == '\x27')
      let after := rest.dropWhile (· == '\x27')
      '\x27' :: front ++ ['\x27'] ++
        (if quotes.isEmpty then [] else '"' :: quotes ++ ['"']) ++
        (if after.isEmpty then [] else go fuel after)
  go (s.length + 1) s

/-- Prints a text. -/
def print (s : Octets) : Run Nat := do
  if s.isEmpty then return 0
  if ← write 1 s then return 0
  complain (((← shell).speaker.getD []) ++ ": I/O error".toList)
  return 1

/-- Prints a line. -/
def printLine (s : Octets) : Run Nat :=
  print (s ++ ['\n'])

end Builtin

end WorkspaceConsole.Shell

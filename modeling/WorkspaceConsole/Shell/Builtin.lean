import WorkspaceConsole.Shell.Builtin.Control
import WorkspaceConsole.Shell.Builtin.Line
import WorkspaceConsole.Shell.Builtin.Naming
import WorkspaceConsole.Shell.Builtin.Place
import WorkspaceConsole.Shell.Builtin.Process
import WorkspaceConsole.Shell.Builtin.Variable

/-!
# The commands of the shell

The commands that a shell carries out by itself, by their names. Only `exec` is left out, which
gives way to a program.
-/

namespace WorkspaceConsole.Shell.Builtin

/-- The commands whose operands may be assignments. -/
def declaring : List String :=
  ["alias", "export", "local", "readonly"]

/-- The command of the shell with a name. -/
def ofName? (x : Executor) (stance : Stance) : String → Option Command
  | ":" | "true" => some fun _ => return 0
  | "false" => some fun _ => return 1
  | "." => some (source x)
  | "[" => some bracket
  | "alias" => some defineAliases
  | "bg" | "fg" => some moveJob
  | "break" => some (leaveLoops .breaking)
  | "cd" | "chdir" => some changeDirectory
  | "command" => some commandMeaning
  | "continue" => some (leaveLoops .continuing)
  | "echo" => some echo
  | "eval" => some (evaluate x stance)
  | "exit" => some leaveShell
  | "export" => some exportVariables
  | "getopts" => some getopts
  | "hash" => some hash
  | "jobs" => some jobs
  | "kill" => some kill
  | "local" => some localVariables
  | "printf" => some printFormat
  | "pwd" => some printDirectory
  | "read" => some readLine
  | "readonly" => some protectVariables
  | "return" => some leaveFunction
  | "set" => some setSwitches
  | "shift" => some shift
  | "test" => some test
  | "times" => some times
  | "trap" => some trap
  | "type" => some nameMeanings
  | "ulimit" => some ulimit
  | "umask" => some umask
  | "unalias" => some dropAliases
  | "unset" => some forgetVariables
  | "wait" => some wait
  | _ => none

end WorkspaceConsole.Shell.Builtin

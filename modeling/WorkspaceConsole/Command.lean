import WorkspaceConsole.Text.Blank
import WorkspaceConsole.Text.Split

/-!
# The command language

A line is read without the blanks around it and cut into words at ASCII blanks. The first word, or
the first two, decide which command it is; a command whose argument is missing is still that
command, and answers with its usage.
-/

namespace WorkspaceConsole

open Text

/-- A command line, classified. -/
inductive Command where
  | blank
  | changeDir (name : Option String)
  | makeDir (name : Option String)
  | npmInstall (package : Option String)
  | createReactApp (app : Option String)
  | java (file : Option String)
  | unknown (line : String)
deriving DecidableEq, Repr, Inhabited

namespace Command

/-- The words of a line. -/
def words (line : List Char) : List String :=
  (runs isWordBreak line).map String.ofList

/-- The command that a row of words stands for, if it is one of the known ones. -/
def ofWords? : List String → Option Command
  | [] => some .blank
  | "cd" :: args => some (.changeDir args.head?)
  | "mkdir" :: args => some (.makeDir args.head?)
  | "java" :: args => some (.java args.head?)
  | "npm" :: "install" :: args => some (.npmInstall args.head?)
  | ["npx", "create-react-app", app] => some (.createReactApp (some app))
  | "npx" :: "create-react-app" :: _ => some (.createReactApp none)
  | _ => none

/-- Classifies a line. A line that is no known command keeps its text without the blanks around
it. -/
def parse (line : String) : Command :=
  let text := trim line.toList
  (ofWords? (words text)).getD (.unknown (String.ofList text))

/-- How to call a command that takes an argument. -/
def usage? : Command → Option String
  | .changeDir _ => some "Usage: cd <folder_name>"
  | .makeDir _ => some "Usage: mkdir <folder_name>"
  | .npmInstall _ => some "Usage: npm install <package_name>"
  | .createReactApp _ => some "Usage: npx create-react-app <app_name>"
  | .java _ => some "Usage: java <file_name>"
  | .blank | .unknown _ => none

/-- The argument of a command. -/
def argument? : Command → Option String
  | .changeDir arg | .makeDir arg | .npmInstall arg | .createReactApp arg | .java arg => arg
  | .blank | .unknown _ => none

end Command

end WorkspaceConsole

import WorkspaceConsole.WorkingPath

/-!
# Evaluations

What carrying out a command line yields: lines for the transcript, and effects for the session and
the front end.
-/

namespace WorkspaceConsole

/-- A request of a command to its session or front end. -/
inductive Effect where
  | changeDirectory (path : WorkingPath)
  | refreshTree
deriving DecidableEq, Repr

/-- The outcome of a command line. -/
structure Evaluation where
  lines : List String := []
  effects : List Effect := []
deriving DecidableEq, Repr, Inhabited

namespace Evaluation

/-- The outcome without lines and effects. -/
def silent : Evaluation := {}

/-- An outcome of one line. -/
def line (text : String) : Evaluation := { lines := [text] }

/-- The outcome with one more effect. -/
def withEffect (e : Evaluation) (effect : Effect) : Evaluation :=
  { e with effects := e.effects ++ [effect] }

end Evaluation

end WorkspaceConsole

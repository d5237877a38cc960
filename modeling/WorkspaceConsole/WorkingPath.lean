import WorkspaceConsole.Text.Split

/-!
# Working paths

Where a session stands: the names of the folders entered so far, none at the start. The text of a
path has a slash between its names; reading a text ignores empty names, so slashes at the ends
and doubled slashes do not matter.
-/

namespace WorkspaceConsole

open Text

/-- A sequence of folder names; the empty one stands for the place above all folders. -/
structure WorkingPath where
  segments : List String
deriving DecidableEq, Repr, Inhabited

namespace WorkingPath

/-- The path above all folders. -/
def root : WorkingPath := ⟨[]⟩

/-- Reads the names between slashes and leaves empty ones out. -/
def parse (raw : String) : WorkingPath :=
  ⟨(runs (· == '/') raw.toList).map String.ofList⟩

/-- The path one folder further down. -/
def join (p : WorkingPath) (name : String) : WorkingPath :=
  ⟨p.segments ++ [name]⟩

/-- The name of the innermost folder. -/
def last? (p : WorkingPath) : Option String :=
  p.segments.getLast?

/-- Whether no folder has been entered. -/
def isRoot (p : WorkingPath) : Bool :=
  p.segments.isEmpty

/-- The names with a slash between consecutive ones. -/
def display (p : WorkingPath) : String :=
  String.ofList (joinWith '/' (p.segments.map String.toList))

end WorkingPath

end WorkspaceConsole

import WorkspaceConsole.Tree.Basic

/-!
# The tree as rows

The view of a tree lists a folder, and below it, where the folder is expanded, its child folders
and then its files. Which folders are expanded is a set of path keys: the names from the root down
to the folder, joined by slashes.
-/

namespace WorkspaceConsole

/-- What a row stands for. -/
inductive RowKind where
  | folder (expanded : Bool)
  | file (id : FileId)
deriving DecidableEq, Repr

/-- A row of the view. The key is that of the folder, or of the folder that holds the file. -/
structure Row where
  depth : UInt16
  name : String
  key : String
  kind : RowKind
deriving DecidableEq, Repr

namespace Row

/-- Whether the row is that of an expanded folder. -/
def isExpanded (r : Row) : Bool :=
  r.kind == .folder true

/-- Whether the row is that of a folder. -/
def isFolder (r : Row) : Bool :=
  match r.kind with
  | .folder _ => true
  | .file _ => false

/-- The identifier in the row of a file. -/
def fileId? (r : Row) : Option FileId :=
  match r.kind with
  | .folder _ => none
  | .file id => some id

/-- The row of a file at a depth, in the folder with this key. -/
def ofFile (depth : UInt16) (key : String) (f : File) : Row :=
  ⟨depth, f.name, key, .file f.id⟩

end Row

/-- The path key of a folder in the folder with key `above`, or at the root. -/
def pathKey (above : Option String) (name : String) : String :=
  match above with
  | none => name
  | some key => key ++ "/" ++ name

namespace Forest

/-- The rows of siblings at a depth, in the folder with key `above`. -/
def rowsAt (expanded : List String) (depth : UInt16) (above : Option String) : Forest → List Row
  | nil => []
  | cons name files inside rest =>
    let key := pathKey above name
    let opened := expanded.contains key
    let below :=
      if opened then
        rowsAt expanded (depth + 1) (some key) inside ++ files.map (Row.ofFile (depth + 1) key)
      else []
    ⟨depth, name, key, .folder opened⟩ :: (below ++ rowsAt expanded depth above rest)

/-- The rows of a tree whose expanded folders have the given keys. -/
def rows (expanded : List String) (a : Forest) : List Row :=
  a.rowsAt expanded 0 none

end Forest

end WorkspaceConsole

import WorkspaceConsole.Tree.Audit
import WorkspaceConsole.Workspace

/-!
# The store

The store holds the workspace that all sessions share, and counts its changes. An `Action` is a
change as a value. `Store.dispatch` applies one: a change that is refused leaves the store as it
was, and any other raises the version by one, modulo `2 ^ 64`.
-/

namespace WorkspaceConsole

/-- A change of the workspace. -/
inductive Action where
  | createRootFolder (name : String)
  | createFolder (parent : ParentRef) (name : String)
  | createFile (parent : ParentRef) (name content : String)
  | insertTemplates (parent : ParentRef) (templates : List FolderTemplate)
  | updateFileContent (id : FileId) (content : String)
  | removeFolder (name : String)
  | removeFile (id : FileId)
deriving DecidableEq, Repr

namespace Action

/-- The name of a kind of change. -/
def label : Action → String
  | .createRootFolder _ => "create_root_folder"
  | .createFolder _ _ => "create_folder"
  | .createFile _ _ _ => "create_file"
  | .insertTemplates _ _ => "insert_templates"
  | .updateFileContent _ _ => "update_file_content"
  | .removeFolder _ => "remove_folder"
  | .removeFile _ => "remove_file"

/-- Applies a change to a workspace; a created file comes with its identifier. -/
def apply (w : Workspace) : Action → Except TreeError (Option FileId × Workspace)
  | .createRootFolder name => (w.createRootFolder name).map (none, ·)
  | .createFolder parent name => (w.createFolder parent name).map (none, ·)
  | .createFile parent name content =>
    (w.createFile parent name content).map fun (id, w') => (some id, w')
  | .insertTemplates parent templates => (w.insertTemplates parent templates).map (none, ·)
  | .updateFileContent id content => (w.updateFileContent id content).map (none, ·)
  | .removeFolder name => (w.removeFolder name).map fun (_, w') => (none, w')
  | .removeFile id => (w.removeFile id).map fun (_, w') => (none, w')

end Action

/-- The shared workspace and the number of changes made to it. -/
structure Store where
  workspace : Workspace
  version : UInt64
deriving DecidableEq, Repr

namespace Store

/-- The store of a workspace without folders. -/
def empty : Store := ⟨.empty, 0⟩

instance : Inhabited Store := ⟨empty⟩

/-- Takes over a workspace in which no folder holds two files with one identifier. -/
def ofWorkspace (w : Workspace) : Except TreeError Store :=
  w.roots.audit.map fun () => ⟨w, 0⟩

/-- The roots of the store's workspace. -/
def roots (s : Store) : Forest := s.workspace.roots

/-- Applies a change, and says whether it was refused or which file it created. -/
def dispatch (s : Store) (action : Action) : Except TreeError (Option FileId) × Store :=
  match action.apply s.workspace with
  | .ok (file, w) => (.ok file, ⟨w, s.version + 1⟩)
  | .error e => (.error e, s)

/-- Adds a folder to the first folder called `parent`. -/
def createFolder (s : Store) (parent name : String) : Except TreeError Unit × Store :=
  let (result, s') := s.dispatch (.createFolder (.anywhere parent) name)
  (result.map fun _ => (), s')

/-- Adds an empty file to the first folder called `parent`. -/
def createFile (s : Store) (parent name : String) : Except TreeError FileId × Store :=
  match s.dispatch (.createFile (.anywhere parent) name "") with
  | (.ok (some id), s') => (.ok id, s')
  | (.ok none, s') => (.error (.fileNotFound name), s')
  | (.error e, s') => (.error e, s')

/-- Gives the file with this written identifier another text. A text that is no identifier is a file
that does not exist. -/
def updateFileContent (s : Store) (label content : String) : Except TreeError Unit × Store :=
  match FileId.ofString? label with
  | none => (.error (.fileNotFound label), s)
  | some id =>
    let (result, s') := s.dispatch (.updateFileContent id content)
    (result.map fun _ => (), s')

end Store

end WorkspaceConsole

import WorkspaceConsole.FileId
import WorkspaceConsole.Text.Quoted

/-!
# Why a change of the tree is refused

Each constructor is one cause. `message` words it for a program that asks; the console has wordings
of its own.
-/

namespace WorkspaceConsole

/-- The cause for which a change of the tree, or a tree, is refused. -/
inductive TreeError where
  | parentNotFound (name : String)
  | folderNotFound (name : String)
  | fileNotFound (label : String)
  | nameExists (name : String)
  | invalidName (name : String)
  | duplicateFileId (folder : String) (id : FileId)
deriving DecidableEq, Repr

/-- The wording of a cause. -/
def TreeError.message : TreeError → String
  | .parentNotFound name => "parent folder not found: " ++ name
  | .folderNotFound name => "folder not found: " ++ name
  | .fileNotFound label => "file not found: " ++ label
  | .nameExists name => "name already exists in parent: " ++ name
  | .invalidName name => "invalid name: " ++ Text.quoted name
  | .duplicateFileId folder id => "duplicate file id " ++ id.display ++ " in folder " ++ folder

end WorkspaceConsole

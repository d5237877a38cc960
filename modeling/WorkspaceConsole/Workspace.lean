import WorkspaceConsole.Tree.Edit
import WorkspaceConsole.Tree.Rows
import WorkspaceConsole.Tree.Template

/-!
# The workspace

A workspace is a tree of folders together with the source of the identifiers for its files. Every
change goes through one of seven operations, which either refuses with a cause or gives the changed
workspace.

The order of the checks is part of the meaning: names first, then the parent folder, then clashes
with what the parent already holds.
-/

namespace WorkspaceConsole

/-- How the folder to insert into is named. -/
inductive ParentRef where
  | anywhere (name : String)
  | amongRoots (name : String)
deriving DecidableEq, Repr

/-- The name in a reference. -/
def ParentRef.name : ParentRef → String
  | .anywhere name | .amongRoots name => name

/-- A tree of folders with its source of file identifiers. -/
structure Workspace where
  roots : Forest
  ids : IdSource
deriving DecidableEq, Repr

namespace Workspace

/-- The workspace without folders. -/
def empty : Workspace := ⟨.nil, .start⟩

instance : Inhabited Workspace := ⟨empty⟩

/-- The workspace with the given roots; new identifiers lie above those in use. -/
def ofRoots (roots : Forest) : Workspace :=
  ⟨roots, IdSource.start.observeAll roots.fileIds⟩

/-- The folder that a reference names. -/
def parent? (w : Workspace) : ParentRef → Option Folder
  | .anywhere name => w.roots.folder? name
  | .amongRoots name => w.roots.sibling? name

/-- Changes the folder that a reference names. -/
def modifyParent? (w : Workspace) (ref : ParentRef) (f : Folder → Folder) : Option Forest :=
  match ref with
  | .anywhere name => w.roots.modifyFolder? name f
  | .amongRoots name => w.roots.modifySibling? name f

/-- The folder that a reference names, provided that it has no child called `name`. -/
def parentWithout (w : Workspace) (ref : ParentRef) (name : String) : Except TreeError Folder :=
  match w.parent? ref with
  | none => .error (.parentNotFound ref.name)
  | some folder => if folder.hasChild name then .error (.nameExists name) else .ok folder

/-- Changes the folder that a reference names, or refuses when there is none. -/
def modifyParent (w : Workspace) (ref : ParentRef) (f : Folder → Folder) :
    Except TreeError Forest :=
  match w.modifyParent? ref f with
  | some roots => .ok roots
  | none => .error (.parentNotFound ref.name)

/-- Adds an empty root folder. -/
def createRootFolder (w : Workspace) (name : String) : Except TreeError Workspace := do
  requireName name
  if w.roots.names.contains name then throw (.nameExists name)
  return { w with roots := w.roots.push (.empty name) }

/-- Adds an empty folder after the child folders of its parent. -/
def createFolder (w : Workspace) (parent : ParentRef) (name : String) :
    Except TreeError Workspace := do
  requireName name
  discard <| w.parentWithout parent name
  let roots ← w.modifyParent parent fun f => { f with inside := f.inside.push (.empty name) }
  return { w with roots }

/-- Adds a file after the files of its parent, and says which identifier it got. -/
def createFile (w : Workspace) (parent : ParentRef) (name content : String) :
    Except TreeError (FileId × Workspace) := do
  requireName name
  discard <| w.parentWithout parent name
  let (id, ids) := w.ids.take
  let roots ← w.modifyParent parent fun f => { f with files := f.files ++ [⟨id, name, content⟩] }
  return (id, ⟨roots, ids⟩)

/-- Adds a batch of folders after the child folders of the parent: all of them, or none. -/
def insertTemplates (w : Workspace) (parent : ParentRef) (templates : List FolderTemplate) :
    Except TreeError Workspace := do
  FolderTemplate.checkBatch [] templates
  match w.parent? parent with
  | none => throw (.parentNotFound parent.name)
  | some folder =>
    match templates.find? fun t => folder.hasChild t.name with
    | some clash => throw (.nameExists clash.name)
    | none =>
      let (built, ids) := FolderTemplate.buildAll w.ids templates
      let roots ← w.modifyParent parent fun f => { f with inside := f.inside ++ built }
      return ⟨roots, ids⟩

/-- Gives the first file with this identifier another text. -/
def updateFileContent (w : Workspace) (id : FileId) (content : String) :
    Except TreeError Workspace :=
  match w.roots.setContent? id content with
  | some roots => .ok { w with roots }
  | none => .error (.fileNotFound id.display)

/-- Removes the first folder with this name, and says what it held. -/
def removeFolder (w : Workspace) (name : String) : Except TreeError (Folder × Workspace) :=
  match w.roots.removeFolder? name with
  | some (cut, roots) => .ok (cut, { w with roots })
  | none => .error (.folderNotFound name)

/-- Removes the first file with this identifier, and says which it was. -/
def removeFile (w : Workspace) (id : FileId) : Except TreeError (File × Workspace) :=
  match w.roots.file? id, w.roots.removeFile? id with
  | some file, some roots => .ok (file, { w with roots })
  | _, _ => .error (.fileNotFound id.display)

end Workspace

end WorkspaceConsole

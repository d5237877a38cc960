import WorkspaceConsole.Tree.Lookup

/-!
# Edits at one place

Each edit finds its place as the look-ups do, changes that place and leaves everything else as it
is; `none` says that there is no such place. A folder is removed in two steps: `indexPath?` finds
the positions that lead to it, and `removeAt?` cuts out what stands there.
-/

namespace WorkspaceConsole.Forest

/-- Changes the first folder with this name, at any depth. -/
def modifyFolder? (name : String) (f : Folder → Folder) : Forest → Option Forest
  | nil => none
  | cons n files inside rest =>
    if n = name then
      let g := f ⟨n, files, inside⟩
      some (cons g.name g.files g.inside rest)
    else match modifyFolder? name f inside with
      | some inside' => some (cons n files inside' rest)
      | none => (modifyFolder? name f rest).map (cons n files inside)

/-- Changes the first of the siblings with this name. -/
def modifySibling? (name : String) (f : Folder → Folder) : Forest → Option Forest
  | nil => none
  | cons n files inside rest =>
    if n = name then
      let g := f ⟨n, files, inside⟩
      some (cons g.name g.files g.inside rest)
    else (modifySibling? name f rest).map (cons n files inside)

/-- Changes the files of the first folder that holds a file with this identifier. -/
def modifyFilesWith? (id : FileId) (f : List File → List File) : Forest → Option Forest
  | nil => none
  | cons n files inside rest =>
    if files.any (·.id = id) then some (cons n (f files) inside rest)
    else match modifyFilesWith? id f inside with
      | some inside' => some (cons n files inside' rest)
      | none => (modifyFilesWith? id f rest).map (cons n files inside)

/-- Gives the first file with this identifier another text. -/
def setContentIn (id : FileId) (content : String) : List File → List File
  | [] => []
  | f :: fs => if f.id = id then { f with content } :: fs else f :: setContentIn id content fs

/-- Gives the first file with this identifier, at any depth, another text. -/
def setContent? (id : FileId) (content : String) (a : Forest) : Option Forest :=
  a.modifyFilesWith? id (setContentIn id content)

/-- Removes the first file with this identifier, at any depth. -/
def removeFile? (id : FileId) (a : Forest) : Option Forest :=
  a.modifyFilesWith? id (·.eraseP (·.id = id))

/-- Moves a path of positions to the next sibling. -/
def nextSibling : List Nat → List Nat
  | [] => []
  | i :: path => (i + 1) :: path

/-- The positions that lead to the first folder with this name: one among the roots, then one among
the child folders of each folder on the way. -/
def indexPath? (name : String) : Forest → Option (List Nat)
  | nil => none
  | cons n _ inside rest =>
    if n = name then some [0]
    else match indexPath? name inside with
      | some path => some (0 :: path)
      | none => (indexPath? name rest).map nextSibling

/-- Cuts out the folder at a path of positions. A path that is empty or leads nowhere has none. -/
def removeAt? : List Nat → Forest → Option (Folder × Forest)
  | [], _ => none
  | _ :: _, nil => none
  | [0], cons n files inside rest => some (⟨n, files, inside⟩, rest)
  | 0 :: path, cons n files inside rest =>
    (removeAt? path inside).map fun (cut, inside') => (cut, cons n files inside' rest)
  | (i + 1) :: path, cons n files inside rest =>
    (removeAt? (i :: path) rest).map fun (cut, rest') => (cut, cons n files inside rest')

/-- Cuts out the first folder with this name together with its subtree. -/
def removeFolder? (name : String) (a : Forest) : Option (Folder × Forest) :=
  (a.indexPath? name).bind fun path => a.removeAt? path

end WorkspaceConsole.Forest

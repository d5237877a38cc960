import WorkspaceConsole.FileId

/-!
# Folders and files

A folder owns its files and its child folders. Sibling folders form a `Forest`: the first sibling
with what it holds, and the siblings after it. With this one recursive type a traversal of the
whole tree is a structural recursion, and a property of all trees is proved by plain induction.

`Forest.toList` shows the siblings as a list of `Folder`s, and `Forest.folders` lists every folder
at every depth in pre-order: a folder, then the folders inside it, then its later siblings.
-/

namespace WorkspaceConsole

/-- A file with its text. -/
structure File where
  id : FileId
  name : String
  content : String
deriving DecidableEq, Repr, Inhabited

/-- Sibling folders in order. -/
inductive Forest where
  | nil
  | cons (name : String) (files : List File) (inside : Forest) (rest : Forest)
deriving DecidableEq, Repr, Inhabited

/-- A folder with the files and the child folders that it owns. -/
structure Folder where
  name : String
  files : List File
  inside : Forest
deriving DecidableEq, Repr, Inhabited

namespace Forest

/-- The siblings as a list. -/
def toList : Forest → List Folder
  | nil => []
  | cons name files inside rest => ⟨name, files, inside⟩ :: rest.toList

/-- Siblings from a list. -/
def ofList : List Folder → Forest
  | [] => nil
  | f :: fs => cons f.name f.files f.inside (ofList fs)

/-- The siblings of `a` followed by those of `b`. -/
def append : Forest → Forest → Forest
  | nil, b => b
  | cons name files inside rest, b => cons name files inside (rest.append b)

instance : Append Forest := ⟨append⟩

/-- Adds a folder after its siblings. -/
def push (a : Forest) (f : Folder) : Forest :=
  a ++ cons f.name f.files f.inside nil

/-- The names of the siblings. -/
def names : Forest → List String
  | nil => []
  | cons name _ _ rest => name :: rest.names

/-- Every folder at every depth, in pre-order. -/
def folders : Forest → List Folder
  | nil => []
  | cons name files inside rest => ⟨name, files, inside⟩ :: (inside.folders ++ rest.folders)

/-- Every file at every depth: those of a folder, then those of the folders inside it. -/
def files : Forest → List File
  | nil => []
  | cons _ own inside rest => own ++ (inside.files ++ rest.files)

/-- The identifiers of all files, in the order of `files`. -/
def fileIds (a : Forest) : List FileId :=
  a.files.map File.id

/-- The number of folders at every depth. -/
def size : Forest → Nat
  | nil => 0
  | cons _ _ inside rest => 1 + inside.size + rest.size

@[simp] theorem nil_append (b : Forest) : nil ++ b = b := rfl

@[simp] theorem cons_append (name : String) (files : List File) (inside rest b : Forest) :
    cons name files inside rest ++ b = cons name files inside (rest ++ b) := rfl

theorem toList_append (a b : Forest) : (a ++ b).toList = a.toList ++ b.toList := by
  induction a with
  | nil => rfl
  | cons name files inside rest _ ih => simp [toList, ih]

theorem toList_ofList (fs : List Folder) : (ofList fs).toList = fs := by
  induction fs with
  | nil => rfl
  | cons f fs ih => simp [ofList, toList, ih]

theorem ofList_toList (a : Forest) : ofList a.toList = a := by
  induction a with
  | nil => rfl
  | cons name files inside rest _ ih => simp [toList, ofList, ih]

theorem folders_append (a b : Forest) : (a ++ b).folders = a.folders ++ b.folders := by
  induction a with
  | nil => rfl
  | cons name files inside rest _ ih => simp [folders, ih]

/-- All files are the own files of the folders, taken in pre-order. -/
theorem files_eq_flatMap (a : Forest) : a.files = a.folders.flatMap Folder.files := by
  induction a with
  | nil => rfl
  | cons name files inside rest ih1 ih2 => simp [Forest.files, folders, ih1, ih2]

end Forest

namespace Folder

/-- A folder that holds nothing. -/
def empty (name : String) : Folder := ⟨name, [], .nil⟩

/-- Whether a folder holds nothing. -/
def isEmpty (f : Folder) : Bool :=
  f.files.isEmpty && f.inside.names.isEmpty

/-- The names of the files and of the child folders: they share one space of names. -/
def childNames (f : Folder) : List String :=
  f.files.map File.name ++ f.inside.names

/-- Whether a file or a child folder has this name. -/
def hasChild (f : Folder) (name : String) : Bool :=
  f.childNames.contains name

/-- The number of folders in the subtree, the folder itself included. -/
def size (f : Folder) : Nat :=
  1 + f.inside.size

/-- The subtree as a forest of one. -/
def toForest (f : Folder) : Forest :=
  .cons f.name f.files f.inside .nil

end Folder

end WorkspaceConsole

import WorkspaceConsole.Tree.Basic

/-!
# Looking folders and files up

Every look-up takes the first match in pre-order: a folder, its files, then the folders inside it,
then its later siblings. Each is proved to be `List.find?` on the enumeration `Forest.folders` or
`Forest.files`.
-/

namespace WorkspaceConsole.Forest

/-- The first folder with this name, at any depth. -/
def folder? (name : String) : Forest → Option Folder
  | nil => none
  | cons n files inside rest =>
    if n = name then some ⟨n, files, inside⟩
    else (folder? name inside).or (folder? name rest)

/-- The first of the siblings with this name. -/
def sibling? (name : String) : Forest → Option Folder
  | nil => none
  | cons n files inside rest =>
    if n = name then some ⟨n, files, inside⟩ else sibling? name rest

/-- The first file that `p` accepts, at any depth. -/
def fileWhere? (p : File → Bool) : Forest → Option File
  | nil => none
  | cons _ files inside rest =>
    ((files.find? p).or (fileWhere? p inside)).or (fileWhere? p rest)

/-- The first file with this identifier. -/
def file? (id : FileId) (a : Forest) : Option File :=
  a.fileWhere? (·.id = id)

/-- The first file with this name. -/
def fileNamed? (name : String) (a : Forest) : Option File :=
  a.fileWhere? (·.name = name)

theorem folder?_eq_find? (name : String) (a : Forest) :
    a.folder? name = a.folders.find? (·.name = name) := by
  induction a with
  | nil => rfl
  | cons n files inside rest ih1 ih2 =>
    simp only [folder?, folders, List.find?_cons, List.find?_append, ih1, ih2]
    split <;> simp_all

theorem sibling?_eq_find? (name : String) (a : Forest) :
    a.sibling? name = a.toList.find? (·.name = name) := by
  induction a with
  | nil => rfl
  | cons n files inside rest _ ih =>
    simp only [sibling?, toList, List.find?_cons, ih]
    split <;> simp_all

theorem fileWhere?_eq_find? (p : File → Bool) (a : Forest) :
    a.fileWhere? p = a.files.find? p := by
  induction a with
  | nil => rfl
  | cons n files inside rest ih1 ih2 =>
    simp [fileWhere?, Forest.files, ih1, ih2, List.find?_append, Option.or_assoc]

end WorkspaceConsole.Forest

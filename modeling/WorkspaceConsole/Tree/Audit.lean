import WorkspaceConsole.Tree.Basic
import WorkspaceConsole.Tree.Error

/-!
# Auditing file identifiers

Within a folder no two files may share an identifier. The audit sweeps over all folders with a
worklist: it takes the newest entry, looks at that folder's own files, and adds its child folders.
-/

namespace WorkspaceConsole

/-- The first identifier that repeats one before it. -/
def firstRepeat (seen : List FileId) : List FileId → Option FileId
  | [] => none
  | id :: ids => if seen.contains id then some id else firstRepeat (id :: seen) ids

/-- The error for a folder in which a file repeats an identifier. -/
def Folder.repeatedId? (f : Folder) : Option TreeError :=
  (firstRepeat [] (f.files.map File.id)).map (.duplicateFileId f.name)

/-- The number of folders in a list of subtrees. -/
def totalSize : List Folder → Nat
  | [] => 0
  | f :: stack => f.size + totalSize stack

theorem totalSize_toList (a : Forest) : totalSize a.toList = a.size := by
  induction a with
  | nil => rfl
  | cons name files inside rest _ ih =>
    simp only [Forest.toList, totalSize, Folder.size, Forest.size, ih]

theorem totalSize_append (fs stack : List Folder) :
    totalSize (fs ++ stack) = totalSize fs + totalSize stack := by
  induction fs with
  | nil => simp [totalSize]
  | cons f fs ih => simp only [List.cons_append, totalSize, ih]; omega

theorem totalSize_reverse (fs : List Folder) : totalSize fs.reverse = totalSize fs := by
  induction fs with
  | nil => rfl
  | cons f fs ih => simp only [List.reverse_cons, totalSize_append, totalSize, ih]; omega

/-- The folders met from a worklist whose newest entry stands first. -/
def sweep : List Folder → List Folder
  | [] => []
  | f :: stack => f :: sweep (f.inside.toList.reverse ++ stack)
termination_by stack => totalSize stack
decreasing_by
  rw [totalSize_append, totalSize_reverse, totalSize_toList]
  simp only [totalSize, Folder.size]
  omega

/-- Accepts a tree in which no folder holds two files with one identifier. -/
def Forest.audit (a : Forest) : Except TreeError Unit :=
  match (sweep a.toList.reverse).findSome? Folder.repeatedId? with
  | some e => .error e
  | none => .ok ()

end WorkspaceConsole

import WorkspaceConsole.Tree.Basic
import WorkspaceConsole.Tree.Error
import WorkspaceConsole.Tree.Name

/-!
# Folder templates

A template describes a folder with files but no child folders; its files get their identifiers when
it is inserted. A batch of templates is checked as a whole before anything is built: names valid,
template names pairwise distinct, file names pairwise distinct within a template.
-/

namespace WorkspaceConsole

/-- A folder to be inserted, with the names and texts of its files. -/
structure FolderTemplate where
  name : String
  files : List (String × String)
deriving DecidableEq, Repr

/-- Refuses a name that breaks the rule for names. -/
def requireName (name : String) : Except TreeError Unit :=
  if isValidName name then .ok () else .error (.invalidName name)

/-- Refuses a name that is invalid or occurs among `seen`. -/
def requireFreshName (seen : List String) (name : String) : Except TreeError Unit :=
  if !isValidName name then .error (.invalidName name)
  else if seen.contains name then .error (.nameExists name)
  else .ok ()

/-- Checks names in order, each against those before it. -/
def checkNames (seen : List String) : List String → Except TreeError Unit
  | [] => .ok ()
  | name :: names =>
    match requireFreshName seen name with
    | .error e => .error e
    | .ok () => checkNames (name :: seen) names

namespace FolderTemplate

/-- A template without files. -/
def empty (name : String) : FolderTemplate := ⟨name, []⟩

/-- Checks a batch in order: the name of a template, then those of its files. -/
def checkBatch (seen : List String) : List FolderTemplate → Except TreeError Unit
  | [] => .ok ()
  | t :: ts =>
    match requireFreshName seen t.name with
    | .error e => .error e
    | .ok () =>
      match checkNames [] (t.files.map Prod.fst) with
      | .error e => .error e
      | .ok () => checkBatch (t.name :: seen) ts

/-- Builds files in order, with identifiers from the source. -/
def buildFiles (ids : IdSource) : List (String × String) → List File × IdSource
  | [] => ([], ids)
  | (name, content) :: rest =>
    let (id, ids₁) := ids.take
    let (built, ids₂) := buildFiles ids₁ rest
    (⟨id, name, content⟩ :: built, ids₂)

/-- Builds the folders of a batch in order, with identifiers from the source. -/
def buildAll (ids : IdSource) : List FolderTemplate → Forest × IdSource
  | [] => (.nil, ids)
  | t :: ts =>
    let (files, ids₁) := buildFiles ids t.files
    let (built, ids₂) := buildAll ids₁ ts
    (.cons t.name files .nil built, ids₂)

end FolderTemplate

end WorkspaceConsole

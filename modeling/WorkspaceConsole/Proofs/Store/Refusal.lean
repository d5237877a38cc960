import WorkspaceConsole.Interpreter

/-!
# What a refusal is about

A change that is refused comes back with a cause, and a cause is about one name (`subject?`). That
name is always one that the change itself gives (`blames_apply`): one of its own, or the one by
which it refers to a folder or a file. Names that are only in the tree are never told.
-/

namespace WorkspaceConsole

/-- The name that a cause is about. Two files with one identifier have none. -/
def TreeError.subject? : TreeError → Option String
  | .parentNotFound name | .folderNotFound name | .fileNotFound name | .nameExists name
  | .invalidName name => some name
  | .duplicateFileId _ _ => none

/-- The names in a batch: of the folders, and of their files. -/
def FolderTemplate.allNames (templates : List FolderTemplate) : List String :=
  templates.flatMap fun t => t.name :: t.files.map Prod.fst

/-- The names that a change gives. -/
def Action.names : Action → List String
  | .createRootFolder name | .removeFolder name => [name]
  | .createFolder parent name | .createFile parent name _ => [parent.name, name]
  | .insertTemplates parent templates =>
    parent.name :: FolderTemplate.allNames templates
  | .updateFileContent id _ | .removeFile id => [id.display]

/-- If `x` fails, then for a cause that is about one of the names. -/
def Blames {α : Type} (names : List String) (x : Except TreeError α) : Prop :=
  ∀ e, x = .error e → ∃ name ∈ names, e.subject? = some name

variable {α β : Type} {names names' : List String} {name : String} {x : Except TreeError α}

/-! ## Ways to fail -/

theorem blames_ok (a : α) : Blames names (.ok a) := fun _ he => by cases he

theorem blames_error {e : TreeError} (he : e.subject? = some name) (hname : name ∈ names) :
    Blames names (.error e : Except TreeError α) := fun e' he' => by
  cases he'
  exact ⟨name, hname, he⟩

theorem Blames.mono (h : Blames names x) (hsub : ∀ name ∈ names, name ∈ names') :
    Blames names' x := fun e he => by
  obtain ⟨name, hname, hsubject⟩ := h e he
  exact ⟨name, hsub name hname, hsubject⟩

theorem Blames.bind {f : α → Except TreeError β} (hx : Blames names x)
    (hf : ∀ a, Blames names (f a)) : Blames names (x >>= f) := by
  cases x with
  | error e =>
    intro e' he'
    cases he'
    exact hx e rfl
  | ok a => exact hf a

theorem Blames.map (f : α → β) (h : Blames names x) : Blames names (x.map f) := by
  cases x with
  | error e =>
    intro e' he'
    cases he'
    exact h e rfl
  | ok a => exact blames_ok _

/-- A check, and what comes after it. -/
theorem Blames.check {x : Except TreeError Unit} {y : Except TreeError α} (hx : Blames names x)
    (hy : Blames names y) :
    Blames names (match x with
      | .error e => .error e
      | .ok () => y) := by
  cases x with
  | error e => exact fun e' he' => hx e' (by cases he'; rfl)
  | ok _ => exact hy

/-! ## Checks -/

theorem blames_requireName (name : String) : Blames [name] (requireName name) := by
  rw [requireName]
  split
  · exact blames_ok ()
  · exact blames_error rfl List.mem_cons_self

theorem blames_requireFreshName (seen : List String) (name : String) :
    Blames [name] (requireFreshName seen name) := by
  rw [requireFreshName]
  split
  · exact blames_error rfl List.mem_cons_self
  · split
    · exact blames_error rfl List.mem_cons_self
    · exact blames_ok ()

theorem blames_checkNames (seen names : List String) : Blames names (checkNames seen names) := by
  induction names generalizing seen with
  | nil => exact blames_ok ()
  | cons name names ih =>
    refine Blames.check ?_ ?_
    · exact (blames_requireFreshName seen name).mono (by simp)
    · exact (ih (name :: seen)).mono fun _ => List.mem_cons_of_mem name

theorem blames_checkBatch (seen : List String) (templates : List FolderTemplate) :
    Blames (FolderTemplate.allNames templates) (FolderTemplate.checkBatch seen templates) := by
  induction templates generalizing seen with
  | nil => exact blames_ok ()
  | cons t ts ih =>
    have hall : FolderTemplate.allNames (t :: ts) =
        (t.name :: t.files.map Prod.fst) ++ FolderTemplate.allNames ts := List.flatMap_cons
    rw [hall]
    refine Blames.check ?_ (Blames.check ?_ ?_)
    · exact (blames_requireFreshName seen t.name).mono (by simp)
    · refine (blames_checkNames [] (t.files.map Prod.fst)).mono fun name hname => ?_
      exact List.mem_append_left _ (List.mem_cons_of_mem t.name hname)
    · exact (ih (t.name :: seen)).mono fun name => List.mem_append_right _

/-! ## Changes -/

namespace Workspace

theorem blames_parentWithout (w : Workspace) (ref : ParentRef) (name : String) :
    Blames [ref.name, name] (w.parentWithout ref name) := by
  rw [parentWithout]
  split
  · exact blames_error rfl (by simp)
  · split
    · exact blames_error rfl (by simp)
    · exact blames_ok _

theorem blames_modifyParent (w : Workspace) (ref : ParentRef) (f : Folder → Folder) :
    Blames [ref.name] (w.modifyParent ref f) := by
  rw [modifyParent]
  split
  · exact blames_ok _
  · exact blames_error rfl List.mem_cons_self

theorem blames_createRootFolder (w : Workspace) (name : String) :
    Blames [name] (w.createRootFolder name) := by
  refine (blames_requireName name).bind fun _ => ?_
  split
  · exact blames_error rfl List.mem_cons_self
  · exact blames_ok _

theorem blames_createFolder (w : Workspace) (ref : ParentRef) (name : String) :
    Blames [ref.name, name] (w.createFolder ref name) := by
  refine ((blames_requireName name).mono (by simp)).bind fun _ => ?_
  refine ((w.blames_parentWithout ref name).map _).bind fun _ => ?_
  refine ((w.blames_modifyParent ref _).mono (by simp)).bind fun _ => ?_
  exact blames_ok _

theorem blames_createFile (w : Workspace) (ref : ParentRef) (name content : String) :
    Blames [ref.name, name] (w.createFile ref name content) := by
  refine ((blames_requireName name).mono (by simp)).bind fun _ => ?_
  refine ((w.blames_parentWithout ref name).map _).bind fun _ => ?_
  refine ((w.blames_modifyParent ref _).mono (by simp)).bind fun _ => ?_
  exact blames_ok _

theorem blames_insertTemplates (w : Workspace) (ref : ParentRef)
    (templates : List FolderTemplate) :
    Blames (ref.name :: FolderTemplate.allNames templates) (w.insertTemplates ref templates) := by
  refine ((blames_checkBatch [] templates).mono fun _ => List.mem_cons_of_mem _).bind fun _ => ?_
  split
  · exact blames_error rfl List.mem_cons_self
  · split
    · next clash hclash =>
      refine blames_error rfl (List.mem_cons_of_mem _ (List.mem_flatMap.2 ⟨clash, ?_, ?_⟩))
      · exact List.mem_of_find?_eq_some hclash
      · exact List.mem_cons_self
    · refine ((w.blames_modifyParent ref _).mono (by simp)).bind fun _ => ?_
      exact blames_ok _

theorem blames_updateFileContent (w : Workspace) (id : FileId) (content : String) :
    Blames [id.display] (w.updateFileContent id content) := by
  rw [updateFileContent]
  split
  · exact blames_ok _
  · exact blames_error rfl List.mem_cons_self

theorem blames_removeFolder (w : Workspace) (name : String) :
    Blames [name] (w.removeFolder name) := by
  rw [removeFolder]
  split
  · exact blames_ok _
  · exact blames_error rfl List.mem_cons_self

theorem blames_removeFile (w : Workspace) (id : FileId) :
    Blames [id.display] (w.removeFile id) := by
  rw [removeFile]
  split
  · exact blames_ok _
  · exact blames_error rfl List.mem_cons_self

end Workspace

/-- **A refusal is about a name that the change gives.** -/
theorem blames_apply (w : Workspace) (action : Action) :
    Blames action.names (action.apply w) := by
  cases action with
  | createRootFolder name => exact (w.blames_createRootFolder name).map _
  | createFolder parent name => exact (w.blames_createFolder parent name).map _
  | createFile parent name content => exact (w.blames_createFile parent name content).map _
  | insertTemplates parent templates => exact (w.blames_insertTemplates parent templates).map _
  | updateFileContent id content => exact (w.blames_updateFileContent id content).map _
  | removeFolder name => exact (w.blames_removeFolder name).map _
  | removeFile id => exact (w.blames_removeFile id).map _

end WorkspaceConsole

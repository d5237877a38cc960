import WorkspaceConsole.Proofs.Workspace.Operation
import WorkspaceConsole.Store

/-!
# Editing in place

An operation of `Workspace` gives a whole new workspace, so a refused one cannot leave anything
behind. This file writes the operations as programs that change one workspace step by step: an
`Edit` keeps what it has written when it is refused. They take identifiers one at a time, and
insert the folders of a batch one after the other.

The two are equal (`run_perform`): wherever an `Edit` is refused, it has written nothing, and where
it succeeds, its single steps add up to the whole change.
-/

namespace WorkspaceConsole

/-- A program on one workspace. What it has written before it is refused stays written. -/
abbrev Edit := EStateM TreeError Workspace

namespace Edit

/-- Refuses what a check refuses. -/
def check (x : Except TreeError Unit) : Edit Unit :=
  match x with
  | .ok () => pure ()
  | .error e => throw e

/-- The folder that a reference names. -/
def parent (ref : ParentRef) : Edit Folder := do
  match (← get).parent? ref with
  | some folder => return folder
  | none => throw (.parentNotFound ref.name)

/-- Takes one identifier from the source. -/
def freshId : Edit FileId :=
  modifyGet fun w => (w.ids.take.1, { w with ids := w.ids.take.2 })

/-- Changes the folder that a reference names. -/
def writeParent (ref : ParentRef) (f : Folder → Folder) : Edit Unit := do
  match (← get).modifyParent? ref f with
  | some roots => modify fun w => { w with roots }
  | none => throw (.parentNotFound ref.name)

/-- Refuses if a file or a folder in the parent folder has this name. -/
def parentWithout (ref : ParentRef) (name : String) : Edit Unit := do
  let folder ← parent ref
  if folder.hasChild name then throw (.nameExists name)

/-- Adds an empty root folder. -/
def createRootFolder (name : String) : Edit Unit := do
  check (requireName name)
  if (← get).roots.names.contains name then throw (.nameExists name)
  modify fun w => { w with roots := w.roots.push (.empty name) }

/-- Adds an empty folder after the child folders of its parent. -/
def createFolder (ref : ParentRef) (name : String) : Edit Unit := do
  check (requireName name)
  parentWithout ref name
  writeParent ref fun f => { f with inside := f.inside.push (.empty name) }

/-- Adds a file after the files of its parent, with the identifier that it takes. -/
def createFile (ref : ParentRef) (name content : String) : Edit FileId := do
  check (requireName name)
  parentWithout ref name
  let id ← freshId
  writeParent ref fun f => { f with files := f.files ++ [⟨id, name, content⟩] }
  return id

/-- Takes an identifier for each file in turn. -/
def buildFiles : List (String × String) → Edit (List File)
  | [] => return []
  | (name, content) :: rest => do
    let id ← freshId
    let built ← buildFiles rest
    return ⟨id, name, content⟩ :: built

/-- Builds and inserts the folders of a batch one after the other. -/
def insertEach (ref : ParentRef) : List FolderTemplate → Edit Unit
  | [] => return ()
  | t :: ts => do
    let files ← buildFiles t.files
    writeParent ref fun f => { f with inside := f.inside.push ⟨t.name, files, .nil⟩ }
    insertEach ref ts

/-- Adds a batch of folders after the child folders of the parent. -/
def insertTemplates (ref : ParentRef) (ts : List FolderTemplate) : Edit Unit := do
  check (FolderTemplate.checkBatch [] ts)
  let folder ← parent ref
  match ts.find? fun t => folder.hasChild t.name with
  | some clash => throw (.nameExists clash.name)
  | none => insertEach ref ts

/-- Gives the first file with this identifier another text. -/
def updateFileContent (id : FileId) (content : String) : Edit Unit := do
  match (← get).roots.setContent? id content with
  | some roots => modify fun w => { w with roots }
  | none => throw (.fileNotFound id.display)

/-- Finds the positions that lead to the first folder with this name, and cuts out what stands
there. -/
def removeFolder (name : String) : Edit Folder := do
  match (← get).roots.indexPath? name with
  | none => throw (.folderNotFound name)
  | some path =>
    match (← get).roots.removeAt? path with
    | none => throw (.folderNotFound name)
    | some (cut, roots) =>
      modify fun w => { w with roots }
      return cut

/-- Removes the first file with this identifier. -/
def removeFile (id : FileId) : Edit File := do
  match (← get).roots.file? id, (← get).roots.removeFile? id with
  | some file, some roots =>
    modify fun w => { w with roots }
    return file
  | _, _ => throw (.fileNotFound id.display)

end Edit

/-- The program of a change; a created file comes with its identifier. -/
def Action.perform : Action → Edit (Option FileId)
  | .createRootFolder name => do
    Edit.createRootFolder name
    return none
  | .createFolder ref name => do
    Edit.createFolder ref name
    return none
  | .createFile ref name content => do
    let id ← Edit.createFile ref name content
    return some id
  | .insertTemplates ref ts => do
    Edit.insertTemplates ref ts
    return none
  | .updateFileContent id content => do
    Edit.updateFileContent id content
    return none
  | .removeFolder name => do
    let _ ← Edit.removeFolder name
    return none
  | .removeFile id => do
    let _ ← Edit.removeFile id
    return none

theorem Forest.append_nil (a : Forest) : a ++ nil = a := by
  induction a with
  | nil => rfl
  | cons name files inner rest _ ih => rw [cons_append, ih]

theorem Forest.append_assoc (a b c : Forest) : a ++ b ++ c = a ++ (b ++ c) := by
  induction a with
  | nil => rfl
  | cons name files inner rest _ ih => rw [cons_append, cons_append, ih, cons_append]

/-! ## Single steps -/

namespace Edit

variable {w w' : Workspace} {ref : ParentRef} {e : TreeError}

theorem run_bind_ok {α β : Type} {x : Edit α} {f : α → Edit β} {a : α}
    (h : x.run w = .ok a w') : (x >>= f).run w = (f a).run w' := by
  rw [EStateM.run_bind, h]

theorem run_bind_error {α β : Type} {x : Edit α} {f : α → Edit β} (h : x.run w = .error e w') :
    (x >>= f).run w = .error e w' := by
  rw [EStateM.run_bind, h]

theorem run_parent {g : Folder} (h : w.parent? ref = some g) : (parent ref).run w = .ok g w := by
  rw [parent, run_bind_ok (EStateM.run_get w)]
  simp only [h]
  rfl

theorem run_parent_error (h : w.parent? ref = none) :
    (parent ref).run w = .error (.parentNotFound ref.name) w := by
  rw [parent, run_bind_ok (EStateM.run_get w)]
  simp only [h]
  rfl

theorem run_freshId (w : Workspace) :
    freshId.run w = .ok w.ids.take.1 ⟨w.roots, w.ids.take.2⟩ := rfl

theorem run_writeParent {h : Hole} {g : Folder} (hat : w.ParentAt ref h g)
    (f : Folder → Folder) : (writeParent ref f).run w = .ok () ⟨h.fill (f g), w.ids⟩ := by
  rw [writeParent, run_bind_ok (EStateM.run_get w)]
  have hmod := hat.modify f
  unfold Workspace.modifyParent at hmod
  cases hm : w.modifyParent? ref f with
  | none => simp [hm] at hmod
  | some roots =>
    simp only [hm, Except.ok.injEq] at hmod
    rw [← hmod]
    rfl

theorem run_buildFiles (files : List (String × String)) (w : Workspace) :
    (buildFiles files).run w = .ok (FolderTemplate.buildFiles w.ids files).1
      ⟨w.roots, (FolderTemplate.buildFiles w.ids files).2⟩ := by
  induction files generalizing w with
  | nil => rfl
  | cons f files ih =>
    rw [buildFiles, run_bind_ok (run_freshId w), run_bind_ok (ih _)]
    rfl

/-- Folders inserted one after the other are the whole batch. -/
theorem run_insertEach {h : Hole} {g : Folder} (hat : w.ParentAt ref h g)
    (ts : List FolderTemplate) :
    (insertEach ref ts).run w = .ok ()
      ⟨h.fill { g with inside := g.inside ++ (FolderTemplate.buildAll w.ids ts).1 },
        (FolderTemplate.buildAll w.ids ts).2⟩ := by
  induction ts generalizing w g with
  | nil =>
    show EStateM.Result.ok () w = _
    rw [FolderTemplate.buildAll, Forest.append_nil, ← hat.roots]
  | cons t ts ih =>
    have hnext (files : List File) := ih <|
      hat.refill { g with inside := g.inside.push ⟨t.name, files, .nil⟩ } rfl
        (FolderTemplate.buildFiles w.ids t.files).2
    rw [insertEach, run_bind_ok (run_buildFiles t.files w),
      run_bind_ok (run_writeParent (hat.withIds _) _), hnext]
    simp only [FolderTemplate.buildAll, Forest.push, Forest.append_assoc, Forest.cons_append,
      Forest.nil_append]

/-! ## Operations -/

/-- The result of an `Edit` that gives what `x` gives, or is refused as `x` is and has written
nothing. -/
def settle {α : Type} (w : Workspace) :
    Except TreeError (α × Workspace) → EStateM.Result TreeError Workspace α
  | .ok (a, w') => .ok a w'
  | .error e => .error e w

/-- A step that only reads the workspace, and what comes after it. -/
theorem run_bind_settle {α β : Type} {x : Edit α} {y : Except TreeError α} {f : α → Edit β}
    {k : α → Except TreeError (β × Workspace)} (hx : x.run w = settle w (y.map (·, w)))
    (hf : ∀ a, y = .ok a → (f a).run w = settle w (k a)) :
    (x >>= f).run w = settle w (y >>= k) := by
  cases y with
  | error e => exact run_bind_error hx
  | ok a =>
    rw [run_bind_ok hx, hf a rfl]
    rfl

theorem run_check (x : Except TreeError Unit) : (check x).run w = settle w (x.map (·, w)) := by
  cases x <;> rfl

theorem map_bind {α β γ : Type} (x : Except TreeError α) (k : α → Except TreeError β) (f : β → γ) :
    (x >>= k).map f = x >>= fun a => (k a).map f := by
  cases x <;> rfl

theorem run_parentWithout (ref : ParentRef) (name : String) :
    (parentWithout ref name).run w =
      settle w ((discard (w.parentWithout ref name)).map (·, w)) := by
  rw [parentWithout, Workspace.parentWithout]
  cases hg : w.parent? ref with
  | none =>
    rw [run_bind_error (run_parent_error hg)]
    rfl
  | some g =>
    rw [run_bind_ok (run_parent hg)]
    by_cases hc : g.hasChild name = true
    · simp only [if_pos hc]
      rfl
    · simp only [if_neg hc]
      rfl

/-- Where the check of the parent folder passes, there is one to write to. -/
theorem exists_parentAt_of_parentWithout {name : String} {u : Unit}
    (h : discard (w.parentWithout ref name) = .ok u) : ∃ place g, w.ParentAt ref place g := by
  obtain ⟨g, hg⟩ := discard_eq_ok_iff.1 h
  obtain ⟨place, hat⟩ := Workspace.exists_parentAt (Workspace.parentWithout_eq_ok_iff.1 hg).1
  exact ⟨place, g, hat⟩

theorem run_createRootFolder (w : Workspace) (name : String) :
    (createRootFolder name).run w = settle w ((w.createRootFolder name).map ((), ·)) := by
  rw [createRootFolder, Workspace.createRootFolder, map_bind]
  refine run_bind_settle (run_check _) fun _ _ => ?_
  rw [run_bind_ok (EStateM.run_get w)]
  by_cases hc : w.roots.names.contains name = true
  · simp only [if_pos hc]
    rfl
  · simp only [if_neg hc]
    rfl

theorem run_createFolder (w : Workspace) (ref : ParentRef) (name : String) :
    (createFolder ref name).run w = settle w ((w.createFolder ref name).map ((), ·)) := by
  rw [createFolder, Workspace.createFolder, map_bind]
  refine run_bind_settle (run_check _) fun _ _ => ?_
  rw [map_bind]
  refine run_bind_settle (run_parentWithout ref name) fun _ hfree => ?_
  obtain ⟨h, g, hat⟩ := exists_parentAt_of_parentWithout hfree
  rw [run_writeParent hat, hat.modify]
  rfl

theorem run_createFile (w : Workspace) (ref : ParentRef) (name content : String) :
    (createFile ref name content).run w = settle w (w.createFile ref name content) := by
  rw [createFile, Workspace.createFile]
  refine run_bind_settle (run_check _) fun _ _ => ?_
  refine run_bind_settle (run_parentWithout ref name) fun _ hfree => ?_
  obtain ⟨h, g, hat⟩ := exists_parentAt_of_parentWithout hfree
  -- The identifier is taken before the file is written, so a refusal here would have used it up.
  rw [run_bind_ok (run_freshId w), run_bind_ok (run_writeParent (hat.withIds _) _)]
  simp only [IdSource.take, hat.modify]
  rfl

theorem run_insertTemplates (w : Workspace) (ref : ParentRef) (ts : List FolderTemplate) :
    (insertTemplates ref ts).run w = settle w ((w.insertTemplates ref ts).map ((), ·)) := by
  rw [insertTemplates, Workspace.insertTemplates, map_bind]
  refine run_bind_settle (run_check _) fun _ _ => ?_
  cases hg : w.parent? ref with
  | none =>
    rw [run_bind_error (run_parent_error hg)]
    rfl
  | some g =>
    rw [run_bind_ok (run_parent hg)]
    cases hclash : ts.find? fun t => g.hasChild t.name with
    | some clash =>
      simp only [hclash]
      rfl
    | none =>
      obtain ⟨h, hat⟩ := Workspace.exists_parentAt hg
      simp only [hclash, run_insertEach hat, hat.modify]
      rfl

theorem run_updateFileContent (w : Workspace) (id : FileId) (content : String) :
    (updateFileContent id content).run w =
      settle w ((w.updateFileContent id content).map ((), ·)) := by
  rw [updateFileContent, Workspace.updateFileContent, run_bind_ok (EStateM.run_get w)]
  cases w.roots.setContent? id content <;> rfl

theorem run_removeFolder (w : Workspace) (name : String) :
    (removeFolder name).run w = settle w (w.removeFolder name) := by
  rw [removeFolder, Workspace.removeFolder, Forest.removeFolder?,
    run_bind_ok (EStateM.run_get w)]
  cases w.roots.indexPath? name with
  | none => rfl
  | some path =>
    simp only [run_bind_ok (EStateM.run_get w), Option.bind_some]
    cases w.roots.removeAt? path <;> rfl

theorem run_removeFile (w : Workspace) (id : FileId) :
    (removeFile id).run w = settle w (w.removeFile id) := by
  rw [removeFile, Workspace.removeFile, run_bind_ok (EStateM.run_get w),
    run_bind_ok (EStateM.run_get w)]
  cases w.roots.file? id with
  | none => rfl
  | some x => cases w.roots.removeFile? id <;> rfl

/-- Reporting something about the result neither writes nor refuses. -/
theorem run_report {α β : Type} {x : Edit α} {y : Except TreeError (α × Workspace)}
    (hx : x.run w = settle w y) (report : α → β) :
    (x >>= fun a => pure (report a)).run w = settle w (y.map fun p => (report p.1, p.2)) := by
  cases y with
  | ok p =>
    rw [run_bind_ok hx]
    rfl
  | error e => exact run_bind_error hx

theorem run_silent {x : Edit Unit} {y : Except TreeError Workspace}
    (hx : x.run w = settle w (y.map ((), ·))) :
    (x >>= fun _ => pure (none : Option FileId)).run w = settle w (y.map (none, ·)) := by
  rw [run_report hx fun _ => none]
  cases y <;> rfl

/-- **Editing in place is atomic**: the program of a change does what `Action.apply` says, and a
refused one has written nothing. -/
theorem run_perform (a : Action) (w : Workspace) : a.perform.run w = settle w (a.apply w) := by
  cases a with
  | createRootFolder name => exact run_silent (run_createRootFolder w name)
  | createFolder ref name => exact run_silent (run_createFolder w ref name)
  | createFile ref name content => exact run_report (run_createFile w ref name content) some
  | insertTemplates ref ts => exact run_silent (run_insertTemplates w ref ts)
  | updateFileContent id content => exact run_silent (run_updateFileContent w id content)
  | removeFolder name => exact run_report (run_removeFolder w name) fun _ => none
  | removeFile id => exact run_report (run_removeFile w id) fun _ => none

end Edit

end WorkspaceConsole

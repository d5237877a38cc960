import WorkspaceConsole.Proofs.Tree.Hole
import WorkspaceConsole.Proofs.Tree.Template
import WorkspaceConsole.Workspace

/-!
# What each operation does

One statement for each operation of a workspace: what it has checked when it succeeds, and the
workspace that it then gives. The edited tree is told as a `Hole` with the old folder and with the
new one, so nobody downstream opens an operation again.
-/

namespace WorkspaceConsole

theorem bind_eq_ok_iff {α β : Type} {x : Except TreeError α} {f : α → Except TreeError β} {b : β} :
    x >>= f = .ok b ↔ ∃ a, x = .ok a ∧ f a = .ok b := by
  cases x <;> simp [bind, Except.bind]

theorem map_eq_ok_iff {α β : Type} {x : Except TreeError α} {f : α → β} {b : β} :
    x.map f = .ok b ↔ ∃ a, x = .ok a ∧ f a = b := by
  cases x <;> simp [Except.map]

theorem discard_eq_ok_iff {α : Type} {x : Except TreeError α} {u : Unit} :
    discard x = .ok u ↔ ∃ a, x = .ok a := by
  cases x <;> simp [discard, Functor.discard, Functor.mapConst, Except.map]

namespace Workspace

variable {w w' : Workspace} {ref : ParentRef} {name content : String} {id : FileId}

/-! ## The parent folder -/

/-- A search for the folder that a reference names ends at the place `h`. -/
def MeetsParent (h : Hole) : ParentRef → Prop
  | .anywhere name => h.Meets name Forest.folder? Forest.modifyFolder?
  | .amongRoots name => h.Meets name Forest.sibling? Forest.modifySibling?

/-- The reference names the folder `g`, which stands at the place `h`. -/
structure ParentAt (w : Workspace) (ref : ParentRef) (h : Hole) (g : Folder) : Prop where
  roots : w.roots = h.fill g
  name : g.name = ref.name
  meets : MeetsParent h ref

namespace ParentAt

variable {h : Hole} {g : Folder}

theorem found (hat : w.ParentAt ref h g) : w.parent? ref = some g := by
  obtain ⟨hroots, hname, hmeets⟩ := hat
  cases ref with
  | anywhere n =>
    rw [parent?, hroots]
    exact hmeets.find g hname
  | amongRoots n =>
    rw [parent?, hroots]
    exact hmeets.find g hname

theorem modify (hat : w.ParentAt ref h g) (f : Folder → Folder) :
    w.modifyParent ref f = .ok (h.fill (f g)) := by
  obtain ⟨hroots, hname, hmeets⟩ := hat
  cases ref with
  | anywhere n => rw [modifyParent, modifyParent?, hroots, hmeets.modify g f hname]
  | amongRoots n => rw [modifyParent, modifyParent?, hroots, hmeets.modify g f hname]

/-- Identifiers that are handed out in between do not matter. -/
theorem withIds (hat : w.ParentAt ref h g) (ids : IdSource) :
    ParentAt { w with ids } ref h g :=
  ⟨hat.roots, hat.name, hat.meets⟩

/-- Another folder of that name at the place is the one that the reference then names. -/
theorem refill (hat : w.ParentAt ref h g) (g' : Folder) (hname : g'.name = g.name)
    (ids : IdSource) : ParentAt ⟨h.fill g', ids⟩ ref h g' :=
  ⟨rfl, hname.trans hat.name, hat.meets⟩

end ParentAt

theorem exists_parentAt {g : Folder} (hg : w.parent? ref = some g) : ∃ h, w.ParentAt ref h g := by
  cases ref with
  | anywhere n =>
    obtain ⟨h, _, _, hroots, hmeets, _, _⟩ := Forest.exists_hole_of_folder? hg
    exact ⟨h, hroots, Forest.name_of_folder? hg, hmeets⟩
  | amongRoots n =>
    obtain ⟨h, hroots, hmeets⟩ := Forest.exists_hole_of_sibling? hg
    exact ⟨h, hroots, Forest.name_of_sibling? hg, hmeets⟩

theorem hasChild_iff {g : Folder} : g.hasChild name = true ↔ name ∈ g.childNames := by
  simp [Folder.hasChild]

theorem parentWithout_eq_ok_iff {g : Folder} :
    w.parentWithout ref name = .ok g ↔ w.parent? ref = some g ∧ name ∉ g.childNames := by
  unfold parentWithout
  cases w.parent? ref with
  | none => simp
  | some g' =>
    by_cases hc : g'.hasChild name = true
    · simp only [if_pos hc, reduceCtorEq, false_iff, Option.some.injEq]
      rintro ⟨rfl, hnot⟩
      exact hnot (hasChild_iff.1 hc)
    · simp only [if_neg hc, Except.ok.injEq, Option.some.injEq]
      constructor
      · rintro rfl
        exact ⟨rfl, fun hmem => hc (hasChild_iff.2 hmem)⟩
      · exact fun h => h.1

/-! ## Creating folders and files -/

theorem createRootFolder_eq_ok_iff :
    w.createRootFolder name = .ok w' ↔
      ValidName name ∧ name ∉ w.roots.names ∧
        w' = ⟨w.roots.push (.empty name), w.ids⟩ := by
  rw [createRootFolder, bind_eq_ok_iff]
  constructor
  · rintro ⟨⟨⟩, hname, hrest⟩
    by_cases hc : w.roots.names.contains name = true
    · rw [if_pos hc] at hrest
      cases hrest
    · rw [if_neg hc] at hrest
      cases hrest
      exact ⟨requireName_eq_ok_iff.1 hname, by simpa using hc, rfl⟩
  · rintro ⟨hname, hnew, rfl⟩
    have hc : ¬ w.roots.names.contains name = true := by simpa using hnew
    refine ⟨(), requireName_eq_ok_iff.2 hname, ?_⟩
    rw [if_neg hc]
    rfl

theorem createFolder_eq_ok_iff :
    w.createFolder ref name = .ok w' ↔
      ValidName name ∧ ∃ h g, w.ParentAt ref h g ∧ name ∉ g.childNames ∧
        w' = ⟨h.fill { g with inside := g.inside.push (.empty name) }, w.ids⟩ := by
  rw [createFolder, bind_eq_ok_iff]
  constructor
  · rintro ⟨⟨⟩, hname, hrest⟩
    obtain ⟨⟨⟩, hdiscard, hrest⟩ := bind_eq_ok_iff.1 hrest
    obtain ⟨g, hg⟩ := discard_eq_ok_iff.1 hdiscard
    obtain ⟨hfound, hfree⟩ := parentWithout_eq_ok_iff.1 hg
    obtain ⟨h, hat⟩ := exists_parentAt hfound
    rw [hat.modify] at hrest
    cases hrest
    exact ⟨requireName_eq_ok_iff.1 hname, h, g, hat, hfree, rfl⟩
  · rintro ⟨hname, h, g, hat, hfree, rfl⟩
    refine ⟨(), requireName_eq_ok_iff.2 hname, ?_⟩
    rw [parentWithout_eq_ok_iff.2 ⟨hat.found, hfree⟩, hat.modify]
    rfl

theorem createFile_eq_ok_iff :
    w.createFile ref name content = .ok (id, w') ↔
      ValidName name ∧ ∃ h g, w.ParentAt ref h g ∧ name ∉ g.childNames ∧ id = w.ids.take.1 ∧
        w' = ⟨h.fill { g with files := g.files ++ [⟨w.ids.take.1, name, content⟩] },
          w.ids.take.2⟩ := by
  rw [createFile, bind_eq_ok_iff]
  constructor
  · rintro ⟨⟨⟩, hname, hrest⟩
    obtain ⟨⟨⟩, hdiscard, hrest⟩ := bind_eq_ok_iff.1 hrest
    obtain ⟨g, hg⟩ := discard_eq_ok_iff.1 hdiscard
    obtain ⟨hfound, hfree⟩ := parentWithout_eq_ok_iff.1 hg
    obtain ⟨h, hat⟩ := exists_parentAt hfound
    simp only [IdSource.take, hat.modify] at hrest
    cases hrest
    exact ⟨requireName_eq_ok_iff.1 hname, h, g, hat, hfree, rfl, rfl⟩
  · rintro ⟨hname, h, g, hat, hfree, rfl, rfl⟩
    refine ⟨(), requireName_eq_ok_iff.2 hname, ?_⟩
    simp only [parentWithout_eq_ok_iff.2 ⟨hat.found, hfree⟩, IdSource.take, hat.modify]
    rfl

theorem insertTemplates_eq_ok_iff {ts : List FolderTemplate} :
    w.insertTemplates ref ts = .ok w' ↔
      (∀ t ∈ ts, t.WellNamed) ∧ (ts.map FolderTemplate.name).Nodup ∧
        ∃ h g, w.ParentAt ref h g ∧ (∀ t ∈ ts, t.name ∉ g.childNames) ∧
          w' = ⟨h.fill { g with inside := g.inside ++ (FolderTemplate.buildAll w.ids ts).1 },
            (FolderTemplate.buildAll w.ids ts).2⟩ := by
  rw [insertTemplates, bind_eq_ok_iff]
  constructor
  · rintro ⟨⟨⟩, hbatch, hrest⟩
    obtain ⟨hwell, hdistinct, -⟩ := FolderTemplate.checkBatch_eq_ok_iff.1 hbatch
    cases hfound : w.parent? ref with
    | none =>
      rw [hfound] at hrest
      cases hrest
    | some g =>
      obtain ⟨h, hat⟩ := exists_parentAt hfound
      cases hclash : ts.find? fun t => g.hasChild t.name with
      | some clash =>
        simp only [hfound, hclash] at hrest
        cases hrest
      | none =>
        simp only [hfound, hclash, hat.modify] at hrest
        cases hrest
        refine ⟨hwell, hdistinct, h, g, hat, fun t ht hmem => ?_, rfl⟩
        exact List.find?_eq_none.1 hclash t ht (hasChild_iff.2 hmem)
  · rintro ⟨hwell, hdistinct, h, g, hat, hfree, rfl⟩
    have hclash : (ts.find? fun t => g.hasChild t.name) = none :=
      List.find?_eq_none.2 fun t ht hc => hfree t ht (hasChild_iff.1 hc)
    refine ⟨(), FolderTemplate.checkBatch_eq_ok_iff.2 ⟨hwell, hdistinct, by simp⟩, ?_⟩
    simp only [hat.found, hclash, hat.modify]
    rfl

/-! ## Changing and removing -/

/-- The place of the folder that holds the file whose text is replaced. -/
theorem of_updateFileContent_eq_ok (h : w.updateFileContent id content = .ok w') :
    ∃ (place : Hole) (g : Folder) (x : File), w.roots.file? id = some x ∧
      w.roots = place.fill g ∧ g.files.find? (·.id = id) = some x ∧
      w' = ⟨place.fill { g with files := Forest.setContentIn id content g.files }, w.ids⟩ := by
  rw [updateFileContent, Forest.setContent?] at h
  cases hx : w.roots.file? id with
  | none =>
    rw [Forest.modifyFilesWith?_eq_none hx] at h
    cases h
  | some x =>
    obtain ⟨place, g, hroots, hfind, hmod⟩ := Forest.exists_hole_of_file? hx
    rw [hmod] at h
    cases h
    exact ⟨place, g, x, rfl, hroots, hfind, rfl⟩

/-- The place of the folder that is removed. -/
theorem of_removeFolder_eq_ok {cut : Folder} (h : w.removeFolder name = .ok (cut, w')) :
    ∃ place : Hole, w.roots.folder? name = some cut ∧ w.roots = place.fill cut ∧
      w' = ⟨place.close, w.ids⟩ := by
  rw [removeFolder, Forest.removeFolder?] at h
  cases hg : w.roots.folder? name with
  | none =>
    rw [Forest.indexPath?_eq_none hg] at h
    cases h
  | some g =>
    obtain ⟨place, i, path, hroots, -, hpath, hcut⟩ := Forest.exists_hole_of_folder? hg
    rw [hpath, Option.bind_some, hcut] at h
    cases h
    exact ⟨place, rfl, hroots, rfl⟩

/-- The place of the folder that holds the file that is removed. -/
theorem of_removeFile_eq_ok {x : File} (h : w.removeFile id = .ok (x, w')) :
    ∃ (place : Hole) (g : Folder), w.roots.file? id = some x ∧ w.roots = place.fill g ∧
      g.files.find? (·.id = id) = some x ∧
      w' = ⟨place.fill { g with files := g.files.eraseP (·.id = id) }, w.ids⟩ := by
  rw [removeFile, Forest.removeFile?] at h
  cases hx : w.roots.file? id with
  | none =>
    rw [hx] at h
    cases h
  | some y =>
    obtain ⟨place, g, hroots, hfind, hmod⟩ := Forest.exists_hole_of_file? hx
    rw [hx, hmod] at h
    cases h
    exact ⟨place, g, rfl, hroots, hfind, rfl⟩

end Workspace

end WorkspaceConsole

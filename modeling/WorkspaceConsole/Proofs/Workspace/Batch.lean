import WorkspaceConsole.Proofs.Workspace.Lookup

/-!
# Inserting a batch

A batch of templates is inserted as a whole or not at all. It is inserted exactly when it fits
(`Fits`): all names obey the rule, names are distinct where they have to be, and the parent folder
is there and has no child with the name of a template.

The folders of an inserted batch are those that the templates describe, in order, and their files
are numbered through the whole batch (`Built`). They come after the child folders of the folder that
the reference names, and nothing else in the tree changes (`ParentChanged`).
-/

namespace WorkspaceConsole

/-! ## What is built -/

/-- The template that describes the files of a folder. -/
def Folder.template (g : Folder) : FolderTemplate :=
  ⟨g.name, g.files.map fun x => (x.name, x.content)⟩

namespace FolderTemplate

/-- The number of files of a batch. -/
def fileCount (ts : List FolderTemplate) : Nat :=
  (ts.flatMap FolderTemplate.files).length

/-- The folders are those of a batch, in order and without child folders, and the numbers of their
files go up by one through the whole batch. -/
structure Built (first : Nat) (ts : List FolderTemplate) (built : List Folder) : Prop where
  templates : built.map Folder.template = ts
  flat : ∀ g ∈ built, g.inside = .nil
  numbers : (built.flatMap Folder.files).map (·.id.raw.toNat) = List.range' first (fileCount ts)

theorem map_template_buildAll (ids : IdSource) (ts : List FolderTemplate) :
    (buildAll ids ts).1.toList.map Folder.template = ts := by
  induction ts generalizing ids with
  | nil => rfl
  | cons t ts ih =>
    have hself : Folder.template ⟨t.name, (buildFiles ids t.files).1, .nil⟩ = t := by
      rw [Folder.template, texts_buildFiles]
    simp only [buildAll, Forest.toList, List.map_cons, hself, ih]

theorem flat_buildAll (ids : IdSource) (ts : List FolderTemplate) :
    ∀ g ∈ (buildAll ids ts).1.toList, g.inside = .nil := by
  induction ts generalizing ids with
  | nil => exact List.forall_mem_nil _
  | cons t ts ih => exact List.forall_mem_cons.2 ⟨rfl, ih _⟩

theorem files_buildAll (ids : IdSource) (ts : List FolderTemplate) :
    (buildAll ids ts).1.files = (buildAll ids ts).1.toList.flatMap Folder.files := by
  induction ts generalizing ids with
  | nil => rfl
  | cons t ts ih =>
    simp only [buildAll, Forest.files, Forest.toList, List.flatMap_cons, List.nil_append, ih]

theorem length_files_buildAll (ids : IdSource) (ts : List FolderTemplate) :
    (buildAll ids ts).1.files.length = fileCount ts := by
  induction ts generalizing ids with
  | nil => rfl
  | cons t ts ih =>
    have hown : (buildFiles ids t.files).1.length = t.files.length := by
      simpa using congrArg List.length (texts_buildFiles ids t.files)
    simp only [buildAll, Forest.files, List.length_append, List.length_nil, hown, ih, fileCount,
      List.flatMap_cons, Nat.zero_add]

/-- Where the source has room for all files, their numbers are consecutive. -/
theorem built_buildAll {ids : IdSource} {ts : List FolderTemplate}
    (hroom : ids.next.raw.toNat + fileCount ts ≤ UInt64.size) :
    Built ids.next.raw.toNat ts (buildAll ids ts).1.toList ∧
      (buildAll ids ts).2.next.raw.toNat =
        min (ids.next.raw.toNat + fileCount ts) (UInt64.size - 1) := by
  have hlength : (buildAll ids ts).1.fileIds.length = fileCount ts := by
    rw [Forest.fileIds, List.length_map, length_files_buildAll]
  have hids := (handsOut_buildAll ids ts).consecutive (hlength.symm ▸ hroom)
  rw [hlength] at hids
  refine ⟨⟨map_template_buildAll ids ts, flat_buildAll ids ts, ?_⟩, hids.2⟩
  rw [← hids.1, Forest.fileIds, files_buildAll, List.map_map]
  rfl

end FolderTemplate

/-! ## Where it is inserted -/

namespace Forest

variable {a : Forest} {name : String} {g : Folder}

/-- The root folder that a look-up gives becomes what `f` makes of it, and the other roots stay. -/
def RootChanged (name : String) (f : Folder → Folder) (a b : Forest) : Prop :=
  ∃ g, a.sibling? name = some g ∧ b.sibling? name = some (f g) ∧
    ∃ before after, (∀ x ∈ before, x.name ≠ name) ∧
      a.toList = before ++ g :: after ∧ b.toList = before ++ f g :: after

theorem exists_modifySibling? (hg : a.sibling? name = some g) {f : Folder → Folder}
    (hf : (f g).name = name) :
    ∃ b, a.modifySibling? name f = some b ∧ RootChanged name f a b := by
  induction a with
  | nil => cases hg
  | cons n files inner rest _ ih =>
    rw [sibling?] at hg
    rw [modifySibling?]
    by_cases hn : n = name
    · rw [if_pos hn] at hg ⊢
      cases hg
      refine ⟨_, rfl, _, ?_, ?_, [], rest.toList, List.forall_mem_nil _, rfl, rfl⟩
      · rw [sibling?, if_pos hn]
      · rw [sibling?, if_pos hf]
    · rw [if_neg hn] at hg ⊢
      obtain ⟨rest', hmod, g', hfind, hfind', before, after, hbefore, hold, hnew⟩ := ih hg
      rw [hmod]
      refine ⟨_, rfl, g', ?_, ?_, ⟨n, files, inner⟩ :: before, after,
        List.forall_mem_cons.2 ⟨hn, hbefore⟩, ?_, ?_⟩
      · rw [sibling?, if_neg hn, hfind]
      · rw [sibling?, if_neg hn, hfind']
      · rw [toList, hold, List.cons_append]
      · rw [toList, hnew, List.cons_append]

theorem mem_names_iff {n : String} : n ∈ a.names ↔ ∃ g ∈ a.toList, g.name = n := by
  induction a with
  | nil => simp [names, toList]
  | cons m files inner rest _ ih => simp [names, toList, ih, eq_comm]

end Forest

theorem Folder.notMem_childNames_iff {g : Folder} {n : String} :
    n ∉ g.childNames ↔ (∀ x ∈ g.files, x.name ≠ n) ∧ ∀ c ∈ g.inside.toList, c.name ≠ n := by
  simp [childNames, Forest.mem_names_iff]

namespace Workspace

variable {w w' : Workspace} {ref : ParentRef} {ts : List FolderTemplate}

/-- The folder that a reference names becomes what `f` makes of it, and nothing else changes. -/
def ParentChanged (f : Folder → Folder) (a b : Forest) : ParentRef → Prop
  | .anywhere name => Forest.FolderChanged name f a b
  | .amongRoots name => Forest.RootChanged name f a b

theorem ParentAt.parentChanged {h : Hole} {g : Folder} (hat : w.ParentAt ref h g)
    {f : Folder → Folder} (hf : (f g).name = g.name) :
    ParentChanged f w.roots (h.fill (f g)) ref := by
  cases ref with
  | anywhere name => exact hat.folderChanged hf
  | amongRoots name =>
    have hname : (f g).name = name := hf.trans hat.name
    obtain ⟨b, hmod, hchanged⟩ := Forest.exists_modifySibling? hat.found hname
    have hfill : w.roots.modifySibling? name f = some (h.fill (f g)) := by
      rw [hat.roots]
      exact hat.meets.modify g f hat.name
    obtain rfl := Option.some.inj (hmod.symm.trans hfill)
    exact hchanged

/-! ## When it is inserted -/

/-- The batch can be inserted into the folder that the reference names. -/
structure Fits (w : Workspace) (ref : ParentRef) (ts : List FolderTemplate) : Prop where
  names : ∀ t ∈ ts, ValidName t.name
  fileNames : ∀ t ∈ ts, ∀ file ∈ t.files, ValidName file.1
  distinct : (ts.map FolderTemplate.name).Nodup
  distinctFiles : ∀ t ∈ ts, (t.files.map Prod.fst).Nodup
  free : ∃ g, w.parent? ref = some g ∧ ∀ t ∈ ts,
    (∀ x ∈ g.files, x.name ≠ t.name) ∧ ∀ c ∈ g.inside.toList, c.name ≠ t.name

theorem Fits.wellNamed (h : w.Fits ref ts) : ∀ t ∈ ts, t.WellNamed := fun t ht =>
  ⟨h.names t ht, List.forall_mem_map.2 (h.fileNames t ht), h.distinctFiles t ht⟩

theorem insertTemplates_eq_ok_iff_fits :
    (∃ w', w.insertTemplates ref ts = .ok w') ↔ w.Fits ref ts := by
  simp only [insertTemplates_eq_ok_iff]
  constructor
  · rintro ⟨w', hwell, hdistinct, h, g, hat, hfree, -⟩
    exact {
      names := fun t ht => (hwell t ht).name
      fileNames := fun t ht => List.forall_mem_map.1 (hwell t ht).fileNames
      distinct := hdistinct
      distinctFiles := fun t ht => (hwell t ht).distinct
      free := ⟨g, hat.found, fun t ht => Folder.notMem_childNames_iff.1 (hfree t ht)⟩ }
  · intro h
    obtain ⟨g, hfound, hfree⟩ := h.free
    obtain ⟨place, hat⟩ := exists_parentAt hfound
    exact ⟨_, h.wellNamed, h.distinct, place, g, hat,
      fun t ht => Folder.notMem_childNames_iff.2 (hfree t ht), rfl⟩

/-- **A batch is inserted exactly when it fits**, and then it comes after the child folders of the
parent. -/
structure InsertsFitting (w : Workspace) (ref : ParentRef) (ts : List FolderTemplate) : Prop where
  inserts_iff : (∃ w', w.insertTemplates ref ts = .ok w') ↔ w.Fits ref ts
  inserted : ∀ w', w.insertTemplates ref ts = .ok w' → ∃ built,
    FolderTemplate.Built w.ids.next.raw.toNat ts built ∧
    ParentChanged (fun g => { g with inside := g.inside ++ .ofList built }) w.roots w'.roots ref ∧
    w'.ids.next.raw.toNat =
      min (w.ids.next.raw.toNat + FolderTemplate.fileCount ts) (UInt64.size - 1)

theorem insertsFitting (w : Workspace) (ref : ParentRef) (ts : List FolderTemplate)
    (hroom : w.ids.next.raw.toNat + FolderTemplate.fileCount ts ≤ UInt64.size) :
    w.InsertsFitting ref ts where
  inserts_iff := insertTemplates_eq_ok_iff_fits
  inserted w' hok := by
    obtain ⟨-, -, h, g, hat, -, rfl⟩ := insertTemplates_eq_ok_iff.1 hok
    obtain ⟨hbuilt, hnext⟩ := FolderTemplate.built_buildAll hroom
    refine ⟨_, hbuilt, ?_, hnext⟩
    rw [Forest.ofList_toList]
    exact hat.parentChanged rfl

/-- The last file of the batch gets the last identifier there is, and the parent is the deeper of
two folders with one name. -/
theorem insertsFitting_last :
    let ts : List FolderTemplate := [⟨"c", [("f", "x"), ("g", "")]⟩, ⟨"d", [("f", "y")]⟩]
    let second : Forest := .cons "a" [] .nil .nil
    let w : Workspace :=
      ⟨.cons "b" [] (.cons "a" [] (.cons "e" [] .nil .nil) .nil) second, ⟨⟨18446744073709551613⟩⟩⟩
    let built : Forest :=
      .cons "c" [⟨⟨18446744073709551613⟩, "f", "x"⟩, ⟨⟨18446744073709551614⟩, "g", ""⟩] .nil
        (.cons "d" [⟨⟨18446744073709551615⟩, "f", "y"⟩] .nil .nil)
    w.ids.next.raw.toNat + FolderTemplate.fileCount ts ≤ UInt64.size ∧
      w.InsertsFitting (.anywhere "a") ts ∧
      w.insertTemplates (.anywhere "a") ts = .ok
        ⟨.cons "b" [] (.cons "a" [] (.cons "e" [] .nil built) .nil) second,
          ⟨⟨18446744073709551615⟩⟩⟩ :=
  ⟨by decide, insertsFitting _ _ _ (by decide), rfl⟩

end Workspace

end WorkspaceConsole

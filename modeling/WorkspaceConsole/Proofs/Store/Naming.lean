import Mathlib.Data.List.Nodup
import WorkspaceConsole.Proofs.Store.Run

/-!
# The rule of names

In every tree that changes can lead to, all names are valid, no two roots share a name, and in
every folder the names of its files and of its child folders are pairwise distinct
(`wellNamed_run`).

The rule for a single folder, `Folder.WellNamed`, sees child folders only through their names. So
an edit keeps the rule in the whole tree as soon as the folder at its place keeps it.
-/

namespace WorkspaceConsole

/-- The rule of names for one folder: valid names, and children with distinct names. -/
structure Folder.WellNamed (f : Folder) : Prop where
  name : ValidName f.name
  fileNames : ∀ n ∈ f.files.map File.name, ValidName n
  distinct : f.childNames.Nodup

/-- **The rule of names** for a tree. -/
structure Forest.WellNamed (a : Forest) : Prop where
  /-- The name of every folder, at any depth, is valid. -/
  folderNames : ∀ f ∈ a.folders, ValidName f.name
  /-- The name of every file, at any depth, is valid. -/
  fileNames : ∀ x ∈ a.files, ValidName x.name
  /-- No two roots share a name. -/
  rootNames : a.names.Nodup
  /-- In a folder at any depth, files and child folders have pairwise distinct names. -/
  childNames : ∀ f ∈ a.folders, f.childNames.Nodup

namespace Forest

theorem wellNamed_iff {a : Forest} :
    a.WellNamed ↔ a.names.Nodup ∧ ∀ f ∈ a.folders, f.WellNamed := by
  constructor
  · rintro ⟨hfolders, hfiles, hroots, hchildren⟩
    refine ⟨hroots, fun f hf => ⟨hfolders f hf, fun n hn => ?_, hchildren f hf⟩⟩
    obtain ⟨x, hx, rfl⟩ := List.mem_map.1 hn
    exact hfiles x (by rw [files_eq_flatMap]; exact List.mem_flatMap.2 ⟨f, hf, hx⟩)
  · rintro ⟨hroots, hall⟩
    refine ⟨fun f hf => (hall f hf).name, fun x hx => ?_, hroots, fun f hf => (hall f hf).distinct⟩
    rw [files_eq_flatMap] at hx
    obtain ⟨f, hf, hxf⟩ := List.mem_flatMap.1 hx
    exact (hall f hf).fileNames x.name (List.mem_map_of_mem hxf)

theorem names_append (a b : Forest) : (a ++ b).names = a.names ++ b.names := by
  induction a with
  | nil => rfl
  | cons name files inner rest _ ih => simp [names, ih]

theorem wellNamed_nil : (nil : Forest).WellNamed :=
  wellNamed_iff.2 ⟨List.nodup_nil, fun _ hf => absurd hf List.not_mem_nil⟩

/-- Trees side by side obey the rule if their roots have distinct names. -/
theorem WellNamed.append {a b : Forest} (ha : a.WellNamed) (hb : b.WellNamed)
    (hab : ∀ n ∈ b.names, n ∉ a.names) : (a ++ b).WellNamed := by
  rw [wellNamed_iff] at ha hb ⊢
  rw [names_append, folders_append, List.forall_mem_append, List.nodup_append]
  exact ⟨⟨ha.1, hb.1, fun n hn m hm hnm => hab m hm (hnm ▸ hn)⟩, ha.2, hb.2⟩

end Forest

namespace Folder

variable {g : Folder}

/-- The rule for a folder survives other contents of its child folders, and the loss of some. -/
theorem shallow_wellNamed : Hole.Shallow WellNamed := by
  rintro name files a b hab ⟨hname, hfiles, hdistinct⟩
  exact ⟨hname, hfiles, hdistinct.sublist (hab.append_left (files.map File.name))⟩

theorem wellNamed_empty {name : String} (hname : ValidName name) : (empty name).WellNamed :=
  ⟨hname, fun _ hn => absurd hn List.not_mem_nil, List.nodup_nil⟩

/-- A new file keeps the rule if its name is valid and new. -/
theorem WellNamed.addFile (hg : g.WellNamed) {x : File} (hx : ValidName x.name)
    (hnew : x.name ∉ g.childNames) : WellNamed { g with files := g.files ++ [x] } := by
  obtain ⟨hname, hfiles, hdistinct⟩ := hg
  refine ⟨hname, fun n hn => ?_, ?_⟩
  · rw [List.map_append, List.mem_append, List.map_singleton, List.mem_singleton] at hn
    rcases hn with hn | rfl
    · exact hfiles n hn
    · exact hx
  · have hperm : (x.name :: g.childNames).Perm
        ((g.files ++ [x]).map File.name ++ g.inside.names) := by
      simp only [childNames, List.map_append, List.map_singleton, List.append_assoc]
      exact List.perm_middle.symm
    exact hperm.nodup_iff.1 (List.nodup_cons.2 ⟨hnew, hdistinct⟩)

/-- New child folders keep the rule if their names are distinct and new. -/
theorem WellNamed.addInside (hg : g.WellNamed) {new : Forest} (hdistinct : new.names.Nodup)
    (hnew : ∀ n ∈ new.names, n ∉ g.childNames) :
    WellNamed { g with inside := g.inside ++ new } := by
  refine ⟨hg.name, hg.fileNames, ?_⟩
  rw [childNames, Forest.names_append, ← List.append_assoc, List.nodup_append]
  exact ⟨hg.distinct, hdistinct, fun n hn m hm hnm => hnew m hm (hnm ▸ hn)⟩

/-- Other files keep the rule if they have no more than the old names. -/
theorem WellNamed.withFiles (hg : g.WellNamed) {files : List File}
    (hsub : (files.map File.name).Sublist (g.files.map File.name)) :
    WellNamed { g with files } :=
  ⟨hg.name, fun n hn => hg.fileNames n (hsub.subset hn),
    hg.distinct.sublist (hsub.append_right g.inside.names)⟩

end Folder

/-! ## Edits -/

namespace Forest

theorem wellNamed_fill {h : Hole} {f g : Folder} (hf : (h.fill f).WellNamed)
    (hfg : g.name = f.name) (hg : f.WellNamed → g.WellNamed)
    (hinside : ∀ x ∈ g.inside.folders, x ∈ f.inside.folders ∨ x.WellNamed) :
    (h.fill g).WellNamed := by
  rw [wellNamed_iff] at hf ⊢
  exact ⟨Hole.names_fill_congr h hfg ▸ hf.1,
    Hole.forall_folders_edit Folder.shallow_wellNamed h hf.2 hfg hg hinside⟩

theorem wellNamed_close {h : Hole} {f : Folder} (hf : (h.fill f).WellNamed) :
    h.close.WellNamed := by
  rw [wellNamed_iff] at hf ⊢
  exact ⟨hf.1.sublist (h.names_close_sublist f),
    Hole.forall_folders_close Folder.shallow_wellNamed h hf.2⟩

end Forest

theorem FolderTemplate.wellNamed_of_mem_buildAll {ids : IdSource} {ts : List FolderTemplate}
    (hts : ∀ t ∈ ts, t.WellNamed) {f : Folder} (hf : f ∈ (buildAll ids ts).1.folders) :
    f.WellNamed := by
  obtain ⟨hinside, t, ht, hname, hfiles⟩ := of_mem_folders_buildAll hf
  obtain ⟨hvalid, hvalids, hdistinct⟩ := hts t ht
  refine ⟨hname ▸ hvalid, hfiles ▸ hvalids, ?_⟩
  rw [Folder.childNames, hinside, hfiles, Forest.names, List.append_nil]
  exact hdistinct

/-- A change keeps the rule of names. -/
theorem Change.wellNamed {w w' : Workspace} {a : Action} {r : Option FileId}
    (h : Change w a r w') (hw : w.roots.WellNamed) : w'.roots.WellNamed := by
  cases h with
  | @createRootFolder name hname hnew =>
    refine hw.append (Forest.wellNamed_iff.2 ⟨List.nodup_singleton name, fun f hf => ?_⟩)
      fun n hn => ?_
    · rw [List.mem_singleton.1 hf]
      exact Folder.wellNamed_empty hname
    · rw [List.mem_singleton.1 hn]
      exact hnew
  | @createFolder ref name h g hname hat hfree =>
    rw [hat.roots] at hw
    refine Forest.wellNamed_fill hw rfl (fun hg => ?_) fun x hx => ?_
    · refine hg.addInside (List.nodup_singleton name) fun n hn => ?_
      rw [List.mem_singleton.1 hn]
      exact hfree
    · rw [Forest.push, Forest.folders_append, List.mem_append] at hx
      refine hx.imp_right fun hx => ?_
      rw [List.mem_singleton.1 hx]
      exact Folder.wellNamed_empty hname
  | createFile hname hat hfree =>
    rw [hat.roots] at hw
    exact Forest.wellNamed_fill hw rfl (fun hg => hg.addFile hname hfree) fun x hx => .inl hx
  | @insertTemplates ref ts h g hwell hdistinct hat hfree =>
    rw [hat.roots] at hw
    refine Forest.wellNamed_fill hw rfl (fun hg => ?_) fun x hx => ?_
    · rw [← FolderTemplate.names_buildAll w.ids] at hdistinct
      refine hg.addInside hdistinct fun n hn => ?_
      rw [FolderTemplate.names_buildAll] at hn
      obtain ⟨t, ht, rfl⟩ := List.mem_map.1 hn
      exact hfree t ht
    · rw [Forest.folders_append, List.mem_append] at hx
      exact hx.imp_right (FolderTemplate.wellNamed_of_mem_buildAll hwell)
  | @updateFileContent id content h g x _ hroots _ =>
    rw [hroots] at hw
    refine Forest.wellNamed_fill hw rfl (fun hg => hg.withFiles ?_) fun x hx => .inl hx
    rw [Forest.map_setContentIn fun _ _ => rfl]
  | removeFolder _ hroots =>
    rw [hroots] at hw
    exact Forest.wellNamed_close hw
  | @removeFile id h g x _ hroots _ =>
    rw [hroots] at hw
    exact Forest.wellNamed_fill hw rfl (fun hg => hg.withFiles (List.eraseP_sublist.map _))
      fun x hx => .inl hx

/-! ## Names of folders

The names of folders stay valid also in a tree that breaks the rule in other ways. -/

theorem Folder.shallow_validName : Hole.Shallow fun f => ValidName f.name :=
  fun _ _ _ _ _ hname => hname

theorem Forest.folderNames_fill {h : Hole} {f g : Folder}
    (hf : ∀ x ∈ (h.fill f).folders, ValidName x.name) (hfg : g.name = f.name)
    (hinside : ∀ x ∈ g.inside.folders, x ∈ f.inside.folders ∨ ValidName x.name) :
    ∀ x ∈ (h.fill g).folders, ValidName x.name :=
  Hole.forall_folders_edit Folder.shallow_validName h hf hfg (fun hname => hfg ▸ hname) hinside

theorem Change.folderNames {w w' : Workspace} {a : Action} {r : Option FileId}
    (h : Change w a r w') (hw : ∀ f ∈ w.roots.folders, ValidName f.name) :
    ∀ f ∈ w'.roots.folders, ValidName f.name := by
  cases h with
  | createRootFolder hname _ =>
    rw [Forest.push, Forest.folders_append, List.forall_mem_append]
    refine ⟨hw, fun f hf => ?_⟩
    rw [List.mem_singleton.1 hf]
    exact hname
  | @createFolder ref name h g hname hat _ =>
    rw [hat.roots] at hw
    refine Forest.folderNames_fill hw rfl fun x hx => ?_
    rw [Forest.push, Forest.folders_append, List.mem_append] at hx
    refine hx.imp_right fun hx => ?_
    rw [List.mem_singleton.1 hx]
    exact hname
  | createFile _ hat _ =>
    rw [hat.roots] at hw
    exact Forest.folderNames_fill hw rfl fun x hx => .inl hx
  | insertTemplates hwell _ hat _ =>
    rw [hat.roots] at hw
    refine Forest.folderNames_fill hw rfl fun x hx => ?_
    rw [Forest.folders_append, List.mem_append] at hx
    exact hx.imp_right fun hx => (FolderTemplate.wellNamed_of_mem_buildAll hwell hx).name
  | updateFileContent _ hroots _ =>
    rw [hroots] at hw
    exact Forest.folderNames_fill hw rfl fun x hx => .inl hx
  | removeFolder _ hroots =>
    rw [hroots] at hw
    exact Hole.forall_folders_close Folder.shallow_validName _ hw
  | removeFile _ hroots _ =>
    rw [hroots] at hw
    exact Forest.folderNames_fill hw rfl fun x hx => .inl hx

/-- **Every reachable tree obeys the rule of names**: whatever changes are made to the workspace
without folders, with whatever arguments, and whether or not each of them succeeds. -/
theorem wellNamed_run (actions : List Action) : (Store.empty.run actions).roots.WellNamed :=
  Store.run_preserves (P := fun w => w.roots.WellNamed) (fun _ _ _ _ hw h => h.wellNamed hw)
    Forest.wellNamed_nil actions

end WorkspaceConsole

import WorkspaceConsole.Proofs.Workspace.Removal

/-!
# Undoing a creation

A creation puts something new at the end of the children of its parent, or of the roots. A removal
searches the whole tree, by name or by identifier, and does not know that place. If nothing else in
the tree matches, it still ends there: at an open place (`Hole`) it cuts out whatever alone in the
tree has its name (`removeFolder?_fill`), and changes the files that alone hold the identifier
(`modifyFilesWith?_fill`).

The place of a new folder is the one after all its siblings (`Hole.last`), inside the place of the
parent (`Hole.nest`); without the new folder it is the tree as it was. Hence a removal takes a
creation back (**`undoesCreation`**).
-/

namespace WorkspaceConsole

/-! ## Places for something new -/

namespace Hole

/-- The place after all siblings. -/
def last : Forest → Hole
  | .nil => here .nil
  | .cons name files inner rest => after name files inner (last rest)

/-- A place among the child folders of a folder that stands at a place. -/
def nest (name : String) (files : List File) (below : Hole) : Hole → Hole
  | here rest => inside name files below rest
  | inside n own hole rest => inside n own (nest name files below hole) rest
  | after n own inner hole => after n own inner (nest name files below hole)

theorem fill_last (a : Forest) (g : Folder) : (last a).fill g = a.push g := by
  induction a with
  | nil => rfl
  | cons n files inner rest _ ih => exact congrArg (Forest.cons n files inner) ih

theorem close_last (a : Forest) : (last a).close = a := by
  induction a with
  | nil => rfl
  | cons n files inner rest _ ih => exact congrArg (Forest.cons n files inner) ih

theorem fill_nest (name : String) (files : List File) (below h : Hole) (g : Folder) :
    (nest name files below h).fill g = h.fill ⟨name, files, below.fill g⟩ := by
  induction h with
  | here rest => rfl
  | inside n own hole rest ih => rw [nest, fill, ih, fill]
  | after n own inner hole ih => rw [nest, fill, ih, fill]

theorem close_nest (name : String) (files : List File) (below h : Hole) :
    (nest name files below h).close = h.fill ⟨name, files, below.close⟩ := by
  induction h with
  | here rest => rfl
  | inside n own hole rest ih => rw [nest, close, ih, fill]
  | after n own inner hole ih => rw [nest, close, ih, fill]

end Hole

/-! ## Removals that end at the place -/

namespace Forest

variable {h : Hole} {g : Folder} {id : FileId} {x : File}

/-- A folder that alone in the tree has its name is the one that is cut out. -/
theorem removeFolder?_fill (hnew : h.close.folder? g.name = none) :
    (h.fill g).removeFolder? g.name = some (g, h.close) := by
  induction h with
  | here rest => rw [Hole.fill, removeFolder?_cons, if_pos rfl, Hole.close]
  | inside n files hole rest ih =>
    rw [Hole.close, folder?] at hnew
    rw [Hole.fill, removeFolder?_cons]
    by_cases hn : n = g.name
    · rw [if_pos hn] at hnew
      cases hnew
    · rw [if_neg hn, Option.or_eq_none_iff] at hnew
      rw [if_neg hn, ih hnew.1, Hole.close]
  | after n files inner hole ih =>
    rw [Hole.close, folder?] at hnew
    rw [Hole.fill, removeFolder?_cons]
    by_cases hn : n = g.name
    · rw [if_pos hn] at hnew
      cases hnew
    · rw [if_neg hn, Option.or_eq_none_iff] at hnew
      rw [if_neg hn, removeFolder?_eq_none hnew.1, ih hnew.2, Hole.close]
      rfl

theorem any_eq_false_of_notMem {files : List File} (h : id ∉ files.map File.id) :
    ¬ files.any (·.id = id) = true := by
  simpa using h

/-- Files of which one has the identifier are those that are changed, if none before them has it. -/
theorem modifyFilesWith?_fill (hbefore : id ∉ h.filesBefore.map File.id)
    (hown : g.files.any (·.id = id) = true) (f : List File → List File) :
    (h.fill g).modifyFilesWith? id f = some (h.fill { g with files := f g.files }) := by
  induction h with
  | here rest => rw [Hole.fill, modifyFilesWith?, if_pos hown, Hole.fill]
  | inside n files hole rest ih =>
    rw [Hole.filesBefore, List.map_append, List.mem_append, not_or] at hbefore
    rw [Hole.fill, modifyFilesWith?, if_neg (any_eq_false_of_notMem hbefore.1), ih hbefore.2,
      Hole.fill]
  | after n files inner hole ih =>
    rw [Hole.filesBefore, List.map_append, List.map_append, List.mem_append, List.mem_append,
      not_or, not_or] at hbefore
    obtain ⟨hfiles, hinner, hlater⟩ := hbefore
    rw [Hole.fill, modifyFilesWith?, if_neg (any_eq_false_of_notMem hfiles),
      modifyFilesWith?_eq_none (file?_eq_none_iff.2 hinner), ih hlater, Hole.fill]
    rfl

/-- A file with a new identifier is found where it was added, and removed there. -/
theorem removeFile_added (hnew : x.id ∉ (h.fill g).fileIds) :
    let b := h.fill { g with files := g.files ++ [x] }
    b.file? x.id = some x ∧ b.removeFile? x.id = some (h.fill g) := by
  intro b
  simp only [fileIds, Hole.files_fill, List.map_append, List.mem_append, not_or] at hnew
  obtain ⟨hbefore, ⟨hown, -⟩, -⟩ := hnew
  have hnone {files : List File} (hfiles : x.id ∉ files.map File.id) :
      files.find? (·.id = x.id) = none := by simpa using hfiles
  constructor
  · rw [file?, fileWhere?_eq_find?, Hole.files_fill, List.find?_append, hnone hbefore,
      Option.none_or]
    simp [List.find?_append, hnone hown]
  · have hany : (g.files ++ [x]).any (·.id = x.id) = true := by simp
    have herase : (g.files ++ [x]).eraseP (·.id = x.id) = g.files := by
      rw [List.eraseP_append_right _ (by simpa using hown)]
      simp
    rw [removeFile?, modifyFilesWith?_fill hbefore hany, herase]

end Forest

namespace Workspace

variable {w : Workspace} {name : String}

theorem folder?_eq_none (hnew : ∀ g ∈ w.roots.folders, g.name ≠ name) :
    w.roots.folder? name = none := by
  rw [Forest.folder?_eq_find?, List.find?_eq_none]
  simpa only [decide_eq_true_eq] using hnew

/-- A new folder at a place of the old tree is cut out of that place. -/
theorem removeFolder_added {h : Hole} (hclose : h.close = w.roots)
    (hnew : ∀ g ∈ w.roots.folders, g.name ≠ name) :
    removeFolder ⟨h.fill (.empty name), w.ids⟩ name = .ok (.empty name, w) := by
  have hnone : h.close.folder? (Folder.empty name).name = none := by
    rw [hclose]
    exact folder?_eq_none hnew
  have hcut : (h.fill (.empty name)).removeFolder? name = some (.empty name, h.close) :=
    Forest.removeFolder?_fill hnone
  rw [removeFolder_eq_ok hcut, hclose]

/-- **A removal takes a creation back.** What was created is removed with what it holds, and the
roots are those before the creation. Only the identifier of a file stays used up. -/
structure UndoesCreation (w : Workspace) : Prop where
  file : (∀ id ∈ w.roots.fileIds, id.raw < w.ids.next.raw) → ∀ parent name content id w',
    w.createFile parent name content = .ok (id, w') →
      w'.removeFile id = .ok (⟨id, name, content⟩, { w' with roots := w.roots })
  folder : ∀ name, (∀ g ∈ w.roots.folders, g.name ≠ name) → ∀ parent w',
    w.createFolder parent name = .ok w' → w'.removeFolder name = .ok (.empty name, w)
  rootFolder : ∀ name, (∀ g ∈ w.roots.folders, g.name ≠ name) → ∀ w',
    w.createRootFolder name = .ok w' → w'.removeFolder name = .ok (.empty name, w)

theorem undoesCreation (w : Workspace) : w.UndoesCreation where
  file hbelow parent name content id w' hok := by
    obtain ⟨-, h, g, hat, -, rfl, rfl⟩ := createFile_eq_ok_iff.1 hok
    have hnew : w.ids.take.1 ∉ (h.fill g).fileIds := fun hused =>
      UInt64.lt_irrefl _ (hbelow _ (hat.roots ▸ hused))
    obtain ⟨hfound, hcut⟩ := Forest.removeFile_added (x := ⟨w.ids.take.1, name, content⟩) hnew
    rw [removeFile, hfound, hcut, ← hat.roots]
  folder name hnew parent w' hok := by
    obtain ⟨-, h, g, hat, -, rfl⟩ := createFolder_eq_ok_iff.1 hok
    have hfill := Hole.fill_nest g.name g.files (.last g.inside) h (.empty name)
    have hclose := Hole.close_nest g.name g.files (.last g.inside) h
    rw [Hole.fill_last] at hfill
    rw [Hole.close_last] at hclose
    rw [← hfill]
    exact removeFolder_added (hclose.trans hat.roots.symm) hnew
  rootFolder name hnew w' hok := by
    obtain ⟨-, -, rfl⟩ := createRootFolder_eq_ok_iff.1 hok
    rw [← Hole.fill_last]
    exact removeFolder_added (Hole.close_last _) hnew

/-- The parent is the deeper of two folders with one name, and the new file has the name and the
text of one that comes before it in the tree. -/
theorem undoesCreation_repeated :
    let file : File := ⟨⟨1⟩, "f", "x"⟩
    let tree (files : List File) (inner : Forest) : Forest :=
      .cons "b" [file] (.cons "a" files inner .nil) (.cons "a" [] .nil .nil)
    let w : Workspace := ⟨tree [] .nil, ⟨⟨2⟩⟩⟩
    let withFile : Workspace := ⟨tree [{ file with id := ⟨2⟩ }] .nil, ⟨⟨3⟩⟩⟩
    let withFolder : Workspace := ⟨tree [] (.cons "d" [] .nil .nil), ⟨⟨2⟩⟩⟩
    ((∀ id ∈ w.roots.fileIds, id.raw < w.ids.next.raw) ∧
      w.createFile (.anywhere "a") "f" "x" = .ok (⟨2⟩, withFile) ∧
      withFile.removeFile ⟨2⟩ = .ok (⟨⟨2⟩, "f", "x"⟩, ⟨w.roots, ⟨⟨3⟩⟩⟩)) ∧
    (∀ g ∈ w.roots.folders, g.name ≠ "d") ∧
      w.createFolder (.anywhere "a") "d" = .ok withFolder ∧
      withFolder.removeFolder "d" = .ok (.empty "d", w) :=
  ⟨⟨by decide, rfl, (undoesCreation _).file (by decide) (.anywhere "a") _ _ _ _ rfl⟩, by decide,
    rfl, (undoesCreation _).folder _ (by decide) (.anywhere "a") _ rfl⟩

end Workspace

end WorkspaceConsole

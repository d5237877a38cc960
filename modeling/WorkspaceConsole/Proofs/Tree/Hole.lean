import WorkspaceConsole.Tree.Edit

/-!
# One place in a tree

Every edit changes a tree at one place. A `Hole` is a tree with that place left open: `fill` puts a
folder there, and `close` leaves the place out.

The look-ups and the edits of `Tree.Edit` search in the same order, so they meet at the same place:
if a look-up gives the folder `g`, then the tree is `h.fill g` for some `h`, a change `f` of the
folder gives `h.fill (f g)`, and the removal of the folder gives `h.close`. A change that keeps the
name is found again at the same place (`Hole.Meets`). What an edit keeps is then a statement about
`fill` and `close`.
-/

namespace WorkspaceConsole

/-- A tree with one place left open: before `rest`, inside a folder, or after a folder. -/
inductive Hole where
  | here (rest : Forest)
  | inside (name : String) (files : List File) (hole : Hole) (rest : Forest)
  | after (name : String) (files : List File) (inside : Forest) (hole : Hole)

namespace Hole

/-- The tree with a folder at the open place. -/
def fill : Hole → Folder → Forest
  | here rest, f => .cons f.name f.files f.inside rest
  | inside name files hole rest, f => .cons name files (hole.fill f) rest
  | after name files inner hole, f => .cons name files inner (hole.fill f)

/-- The tree without the open place. -/
def close : Hole → Forest
  | here rest => rest
  | inside name files hole rest => .cons name files hole.close rest
  | after name files inner hole => .cons name files inner hole.close

/-- The files listed before those at the open place. -/
def filesBefore : Hole → List File
  | here _ => []
  | inside _ files hole _ => files ++ hole.filesBefore
  | after _ files inner hole => files ++ (inner.files ++ hole.filesBefore)

/-- The files listed after those at the open place. -/
def filesAfter : Hole → List File
  | here rest => rest.files
  | inside _ _ hole rest => hole.filesAfter ++ rest.files
  | after _ _ _ hole => hole.filesAfter

/-! ## What a place contributes -/

/-- Different folders at the place make different trees. -/
theorem fill_injective (h : Hole) {f g : Folder} (hfg : h.fill f = h.fill g) : f = g := by
  induction h with
  | here rest =>
    simp only [fill, Forest.cons.injEq, and_true] at hfg
    obtain ⟨hname, hfiles, hinside⟩ := hfg
    cases f
    cases g
    subst hname hfiles hinside
    rfl
  | inside name files hole rest ih =>
    simp only [fill, Forest.cons.injEq, true_and, and_true] at hfg
    exact ih hfg
  | after name files inner hole ih =>
    simp only [fill, Forest.cons.injEq, true_and] at hfg
    exact ih hfg

/-- The names of the roots depend on the folder at the place only through its name. -/
theorem names_fill_congr (h : Hole) {f g : Folder} (hfg : g.name = f.name) :
    (h.fill g).names = (h.fill f).names := by
  induction h with
  | here rest => simp only [fill, Forest.names, hfg]
  | inside name files hole rest _ => rfl
  | after name files inner hole ih => simp only [fill, Forest.names, ih]

theorem names_close_sublist (h : Hole) (f : Folder) : h.close.names.Sublist (h.fill f).names := by
  induction h with
  | here rest => exact List.sublist_cons_self f.name rest.names
  | inside name files hole rest _ => exact List.Sublist.refl _
  | after name files inner hole ih => exact ih.cons_cons name

theorem files_fill (h : Hole) (f : Folder) :
    (h.fill f).files = h.filesBefore ++ (f.files ++ f.inside.files ++ h.filesAfter) := by
  induction h with
  | here rest => simp [fill, filesBefore, filesAfter, Forest.files]
  | inside name files hole rest ih => simp [fill, filesBefore, filesAfter, Forest.files, ih]
  | after name files inner hole ih => simp [fill, filesBefore, filesAfter, Forest.files, ih]

theorem files_close (h : Hole) : h.close.files = h.filesBefore ++ h.filesAfter := by
  induction h with
  | here rest => rfl
  | inside name files hole rest ih => simp [close, filesBefore, filesAfter, Forest.files, ih]
  | after name files inner hole ih => simp [close, filesBefore, filesAfter, Forest.files, ih]

/-- The files of a tree are those at the place and those elsewhere. -/
theorem files_fill_perm (h : Hole) (f : Folder) :
    (h.fill f).files.Perm (f.files ++ f.inside.files ++ h.close.files) := by
  rw [files_fill, files_close]
  exact List.perm_append_comm_assoc ..

theorem mem_folders_fill (h : Hole) (f : Folder) : f ∈ (h.fill f).folders := by
  induction h with
  | here rest => exact List.mem_cons_self
  | inside name files hole rest ih =>
    exact List.mem_cons_of_mem _ (List.mem_append_left _ ih)
  | after name files inner hole ih =>
    exact List.mem_cons_of_mem _ (List.mem_append_right _ ih)

theorem mem_folders_fill_of_inside (h : Hole) (f : Folder) {x : Folder}
    (hx : x ∈ f.inside.folders) : x ∈ (h.fill f).folders := by
  induction h with
  | here rest => exact List.mem_cons_of_mem _ (List.mem_append_left _ hx)
  | inside name files hole rest ih =>
    exact List.mem_cons_of_mem _ (List.mem_append_left _ ih)
  | after name files inner hole ih =>
    exact List.mem_cons_of_mem _ (List.mem_append_right _ ih)

/-! ## Properties of every folder

A property of a folder that looks at its child folders only by name, and holds still when some of
them are gone, holds of all folders after an edit if it holds of those at the place. -/

/-- The property sees child folders only through their names, and survives the loss of some. -/
def Shallow (P : Folder → Prop) : Prop :=
  ∀ name files (a b : Forest), b.names.Sublist a.names → P ⟨name, files, a⟩ → P ⟨name, files, b⟩

theorem forall_folders_fill {P : Folder → Prop} (hP : Shallow P) (h : Hole) {f g : Folder}
    (hfg : g.name = f.name) (hf : ∀ x ∈ (h.fill f).folders, P x) (hg : P g)
    (hinside : ∀ x ∈ g.inside.folders, P x) : ∀ x ∈ (h.fill g).folders, P x := by
  induction h with
  | here rest =>
    simp only [fill, Forest.folders, List.forall_mem_cons, List.forall_mem_append] at hf ⊢
    exact ⟨hg, hinside, hf.2.2⟩
  | inside name files hole rest ih =>
    simp only [fill, Forest.folders, List.forall_mem_cons, List.forall_mem_append] at hf ⊢
    have hnames : (hole.fill g).names.Sublist (hole.fill f).names :=
      names_fill_congr hole hfg ▸ List.Sublist.refl _
    exact ⟨hP name files _ _ hnames hf.1, ih hf.2.1, hf.2.2⟩
  | after name files inner hole ih =>
    simp only [fill, Forest.folders, List.forall_mem_cons, List.forall_mem_append] at hf ⊢
    exact ⟨hf.1, hf.2.1, ih hf.2.2⟩

/-- An edit that keeps the property at its place, and brings in only folders that have it, keeps it
everywhere. -/
theorem forall_folders_edit {P : Folder → Prop} (hP : Shallow P) (h : Hole) {f g : Folder}
    (hf : ∀ x ∈ (h.fill f).folders, P x) (hfg : g.name = f.name) (hg : P f → P g)
    (hinside : ∀ x ∈ g.inside.folders, x ∈ f.inside.folders ∨ P x) :
    ∀ x ∈ (h.fill g).folders, P x := by
  refine forall_folders_fill hP h hfg hf (hg (hf f (h.mem_folders_fill f))) fun x hx => ?_
  rcases hinside x hx with hx | hx
  · exact hf x (h.mem_folders_fill_of_inside f hx)
  · exact hx

theorem forall_folders_close {P : Folder → Prop} (hP : Shallow P) (h : Hole) {f : Folder}
    (hf : ∀ x ∈ (h.fill f).folders, P x) : ∀ x ∈ h.close.folders, P x := by
  induction h with
  | here rest =>
    simp only [fill, Forest.folders, List.forall_mem_cons, List.forall_mem_append] at hf
    exact hf.2.2
  | inside name files hole rest ih =>
    simp only [fill, close, Forest.folders, List.forall_mem_cons, List.forall_mem_append] at hf ⊢
    exact ⟨hP name files _ _ (names_close_sublist hole f) hf.1, ih hf.2.1, hf.2.2⟩
  | after name files inner hole ih =>
    simp only [fill, close, Forest.folders, List.forall_mem_cons, List.forall_mem_append] at hf ⊢
    exact ⟨hf.1, hf.2.1, ih hf.2.2⟩

/-! ## Searches that end at the place -/

/-- Whatever folder called `name` stands at the open place, it is the one that `find?` gives and
`modify?` changes. -/
structure Meets (h : Hole) (name : String) (find? : String → Forest → Option Folder)
    (modify? : String → (Folder → Folder) → Forest → Option Forest) : Prop where
  find : ∀ g : Folder, g.name = name → find? name (h.fill g) = some g
  modify : ∀ (g : Folder) f, g.name = name → modify? name f (h.fill g) = some (h.fill (f g))

end Hole

namespace Forest

/-! ## Look-ups and edits meet at one place -/

theorem name_of_folder? {name : String} {a : Forest} {g : Folder} (hg : a.folder? name = some g) :
    g.name = name := by
  rw [folder?_eq_find?] at hg
  simpa using List.find?_some hg

theorem mem_folders_of_folder? {name : String} {a : Forest} {g : Folder}
    (hg : a.folder? name = some g) : g ∈ a.folders := by
  rw [folder?_eq_find?] at hg
  exact List.mem_of_find?_eq_some hg

/-- An edit goes down the tree as the look-up of a folder does. The folder that it meets and the
siblings after it become what `put` makes of them. -/
structure Descends (name : String) (put : Folder → Forest → Forest)
    (edit : Forest → Option Forest) : Prop where
  nil : edit nil = none
  cons : ∀ n files inner rest, edit (cons n files inner rest) =
    if n = name then some (put ⟨n, files, inner⟩ rest)
    else match edit inner with
      | some inner' => some (Forest.cons n files inner' rest)
      | none => (edit rest).map (Forest.cons n files inner)

theorem Descends.eq_none {name : String} {put : Folder → Forest → Forest}
    {edit : Forest → Option Forest} (h : Descends name put edit) {a : Forest}
    (ha : a.folder? name = none) : edit a = none := by
  induction a with
  | nil => exact h.nil
  | cons n files inner rest ihinner ihrest =>
    rw [h.cons]
    by_cases hn : n = name
    · simp [folder?, hn] at ha
    · rw [folder?, if_neg hn, Option.or_eq_none_iff] at ha
      rw [if_neg hn, ihinner ha.1, ihrest ha.2]
      rfl

theorem descends_modifyFolder? (name : String) (f : Folder → Folder) :
    Descends name (fun g rest => cons (f g).name (f g).files (f g).inside rest)
      (modifyFolder? name f) where
  nil := rfl
  cons _ _ _ _ := rfl

theorem modifyFolder?_eq_none {name : String} {a : Forest} (ha : a.folder? name = none)
    (f : Folder → Folder) : a.modifyFolder? name f = none :=
  (descends_modifyFolder? name f).eq_none ha

theorem indexPath?_eq_none {name : String} {a : Forest} (ha : a.folder? name = none) :
    a.indexPath? name = none := by
  induction a with
  | nil => rfl
  | cons n files inner rest ih₁ ih₂ =>
    by_cases hn : n = name
    · simp [folder?, hn] at ha
    · rw [folder?, if_neg hn, Option.or_eq_none_iff] at ha
      rw [indexPath?, if_neg hn, ih₁ ha.1, ih₂ ha.2]
      rfl

/-- The place of the folder that a search of the whole tree finds, with the positions that lead
there. -/
theorem exists_hole_of_folder? {name : String} {a : Forest} {g : Folder}
    (hg : a.folder? name = some g) :
    ∃ (h : Hole) (i : Nat) (path : List Nat),
      a = h.fill g ∧ h.Meets name folder? modifyFolder? ∧
        a.indexPath? name = some (i :: path) ∧ a.removeAt? (i :: path) = some (g, h.close) := by
  induction a with
  | nil => cases hg
  | cons n files inner rest ih₁ ih₂ =>
    by_cases hn : n = name
    · rw [folder?, if_pos hn] at hg
      cases hg
      refine ⟨.here rest, 0, [], rfl, ⟨fun g hg => ?_, fun g f hg => ?_⟩, ?_, rfl⟩
      · rw [Hole.fill, folder?, if_pos hg]
      · rw [Hole.fill, modifyFolder?, if_pos hg]
        rfl
      · rw [indexPath?, if_pos hn]
    · rw [folder?, if_neg hn] at hg
      cases hin : inner.folder? name with
      | some g' =>
        rw [hin, Option.some_or] at hg
        cases hg
        obtain ⟨h, i, path, rfl, hmeets, hpath, hcut⟩ := ih₁ hin
        refine ⟨.inside n files h rest, 0, i :: path, rfl,
          ⟨fun g hg => ?_, fun g f hg => ?_⟩, ?_, ?_⟩
        · rw [Hole.fill, folder?, if_neg hn, hmeets.find g hg, Option.some_or]
        · rw [Hole.fill, modifyFolder?, if_neg hn, hmeets.modify g f hg]
          rfl
        · rw [indexPath?, if_neg hn, hpath]
        · rw [removeAt?, hcut]
          · rfl
          · simp
      | none =>
        rw [hin, Option.none_or] at hg
        obtain ⟨h, i, path, rfl, hmeets, hpath, hcut⟩ := ih₂ hg
        refine ⟨.after n files inner h, i + 1, path, rfl,
          ⟨fun g hg => ?_, fun g f hg => ?_⟩, ?_, ?_⟩
        · rw [Hole.fill, folder?, if_neg hn, hin, Option.none_or, hmeets.find g hg]
        · rw [Hole.fill, modifyFolder?, if_neg hn, modifyFolder?_eq_none hin,
            hmeets.modify g f hg]
          rfl
        · rw [indexPath?, if_neg hn, indexPath?_eq_none hin, hpath]
          rfl
        · rw [removeAt?, hcut]
          rfl

theorem name_of_sibling? {name : String} {a : Forest} {g : Folder}
    (hg : a.sibling? name = some g) : g.name = name := by
  rw [sibling?_eq_find?] at hg
  simpa using List.find?_some hg

/-- The place of the folder that a search among the siblings finds. -/
theorem exists_hole_of_sibling? {name : String} {a : Forest} {g : Folder}
    (hg : a.sibling? name = some g) :
    ∃ h : Hole, a = h.fill g ∧ h.Meets name sibling? modifySibling? := by
  induction a with
  | nil => cases hg
  | cons n files inner rest _ ih =>
    by_cases hn : n = name
    · rw [sibling?, if_pos hn] at hg
      cases hg
      refine ⟨.here rest, rfl, fun g hg => ?_, fun g f hg => ?_⟩
      · rw [Hole.fill, sibling?, if_pos hg]
      · rw [Hole.fill, modifySibling?, if_pos hg]
        rfl
    · rw [sibling?, if_neg hn] at hg
      obtain ⟨h, rfl, hmeets⟩ := ih hg
      refine ⟨.after n files inner h, rfl, fun g hg => ?_, fun g f hg => ?_⟩
      · rw [Hole.fill, sibling?, if_neg hn, hmeets.find g hg]
      · rw [Hole.fill, modifySibling?, if_neg hn, hmeets.modify g f hg]
        rfl

theorem file?_cons (id : FileId) (n : String) (files : List File) (inner rest : Forest) :
    (cons n files inner rest).file? id =
      ((files.find? (·.id = id)).or (inner.file? id)).or (rest.file? id) := rfl

theorem file?_eq_none_iff {id : FileId} {a : Forest} : a.file? id = none ↔ id ∉ a.fileIds := by
  rw [file?, fileWhere?_eq_find?, List.find?_eq_none, fileIds, List.mem_map]
  simp

theorem modifyFilesWith?_eq_none {id : FileId} {a : Forest} (ha : a.file? id = none)
    (f : List File → List File) : a.modifyFilesWith? id f = none := by
  induction a with
  | nil => rfl
  | cons n files inner rest ih₁ ih₂ =>
    rw [file?_cons, Option.or_eq_none_iff, Option.or_eq_none_iff] at ha
    obtain ⟨⟨hown, hinner⟩, hrest⟩ := ha
    have hany : ¬ files.any (·.id = id) = true := by simpa using hown
    rw [modifyFilesWith?, if_neg hany, ih₁ hinner, ih₂ hrest]
    rfl

/-- The place of the folder that directly holds the file that a search finds. -/
theorem exists_hole_of_file? {id : FileId} {a : Forest} {x : File} (hx : a.file? id = some x) :
    ∃ (h : Hole) (g : Folder), a = h.fill g ∧ g.files.find? (·.id = id) = some x ∧
      ∀ f, a.modifyFilesWith? id f = some (h.fill { g with files := f g.files }) := by
  induction a with
  | nil => cases hx
  | cons n files inner rest ih₁ ih₂ =>
    rw [file?_cons, Option.or_assoc] at hx
    cases hown : files.find? (·.id = id) with
    | some y =>
      rw [hown, Option.some_or] at hx
      cases hx
      have hid := List.find?_some hown
      have hany : files.any (·.id = id) = true :=
        List.any_eq_true.2 ⟨x, List.mem_of_find?_eq_some hown, hid⟩
      refine ⟨.here rest, ⟨n, files, inner⟩, rfl, hown, fun f => ?_⟩
      rw [modifyFilesWith?, if_pos hany]
      rfl
    | none =>
      have hany : ¬ files.any (·.id = id) = true := by simpa using hown
      rw [hown, Option.none_or] at hx
      cases hin : inner.file? id with
      | some y =>
        rw [hin, Option.some_or] at hx
        cases hx
        obtain ⟨h, g, rfl, hfind, hmod⟩ := ih₁ hin
        refine ⟨.inside n files h rest, g, rfl, hfind, fun f => ?_⟩
        rw [modifyFilesWith?, if_neg hany, hmod]
        rfl
      | none =>
        rw [hin, Option.none_or] at hx
        obtain ⟨h, g, rfl, hfind, hmod⟩ := ih₂ hx
        refine ⟨.after n files inner h, g, rfl, hfind, fun f => ?_⟩
        rw [modifyFilesWith?, if_neg hany, modifyFilesWith?_eq_none hin, hmod]
        rfl

/-- Another text of a file does not show in anything else of the files. -/
theorem map_setContentIn {α : Type} {p : File → α}
    (hp : ∀ (x : File) (content : String), p { x with content } = p x) (id : FileId)
    (content : String) (files : List File) :
    (setContentIn id content files).map p = files.map p := by
  induction files with
  | nil => rfl
  | cons x files ih =>
    by_cases hx : x.id = id
    · rw [setContentIn, if_pos hx, List.map_cons, hp, List.map_cons]
    · rw [setContentIn, if_neg hx, List.map_cons, ih, List.map_cons]

end Forest

end WorkspaceConsole

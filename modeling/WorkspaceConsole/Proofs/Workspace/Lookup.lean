import WorkspaceConsole.Proofs.Tree.Outline
import WorkspaceConsole.Proofs.Workspace.Operation

/-!
# Look-ups and edits meet

A look-up and an edit each search the tree on their own. On every tree they come to the same node,
the first match in pre-order, also where names or identifiers are repeated (`editsFirstMatch`).

What an edit leaves alone is told by outlines: those of the two trees are the same but for one
place, before which nothing matches (`Altered`). An edit goes down through folders that do not match
(`Altered.inside`), and past folders in which nothing does (`Altered.after`). Their lines all lie
around the place, so the induction carries the same change up to the whole tree.
For folders this is one induction for all edits that take the way of the look-up
(`Descends.altered`).
-/

namespace WorkspaceConsole

/-- Two outlines are the same but for one place, and nothing before it is accepted by `p`. At the
depth of the place, one of them has `old` there, and the other has `new`. -/
def Altered (p : Mark → Bool) (old new : Nat → List Heading) (xs ys : List Heading) : Prop :=
  ∃ before depth after, (∀ e ∈ before, p e.mark = false) ∧
    xs = before ++ (old depth ++ after) ∧ ys = before ++ (new depth ++ after)

namespace Altered

variable {p : Mark → Bool} {old new : Nat → List Heading} {xs ys : List Heading}

theorem append_left (h : Altered p old new xs ys) {pre : List Heading}
    (hpre : ∀ e ∈ pre, p e.mark = false) : Altered p old new (pre ++ xs) (pre ++ ys) := by
  obtain ⟨before, depth, after, hbefore, rfl, rfl⟩ := h
  refine ⟨pre ++ before, depth, after, List.forall_mem_append.2 ⟨hpre, hbefore⟩, ?_, ?_⟩
  · rw [List.append_assoc]
  · rw [List.append_assoc]

theorem append_right (h : Altered p old new xs ys) (post : List Heading) :
    Altered p old new (xs ++ post) (ys ++ post) := by
  obtain ⟨before, depth, after, hbefore, rfl, rfl⟩ := h
  refine ⟨before, depth, after ++ post, hbefore, ?_, ?_⟩
  · simp only [List.append_assoc]
  · simp only [List.append_assoc]

/-- The change is inside the first folder. -/
theorem inside {name : String} {files : List File} {inner inner' : Forest} {depth : Nat}
    (h : Altered p old new (inner.outline (depth + 1)) (inner'.outline (depth + 1)))
    (hname : p (.folder name) = false) (hfiles : ∀ f ∈ files, p (.file f) = false)
    (rest : Forest) :
    Altered p old new ((Forest.cons name files inner rest).outline depth)
      ((Forest.cons name files inner' rest).outline depth) := by
  have hown : ∀ e ∈ files.map (Heading.ofFile (depth + 1)), p e.mark = false :=
    List.forall_mem_map.2 hfiles
  exact ((h.append_right (rest.outline depth)).append_left hown).append_left
    (List.forall_mem_singleton.2 hname)

/-- The change is in the siblings after the first folder. -/
theorem after {name : String} {files : List File} {inner rest rest' : Forest} {depth : Nat}
    (h : Altered p old new (rest.outline depth) (rest'.outline depth))
    (hname : p (.folder name) = false) (hfiles : ∀ f ∈ files, p (.file f) = false)
    (hinner : ∀ e ∈ inner.outline (depth + 1), p e.mark = false) :
    Altered p old new ((Forest.cons name files inner rest).outline depth)
      ((Forest.cons name files inner rest').outline depth) := by
  have hown : ∀ e ∈ files.map (Heading.ofFile (depth + 1)), p e.mark = false :=
    List.forall_mem_map.2 hfiles
  exact ((h.append_left hinner).append_left hown).append_left
    (List.forall_mem_singleton.2 hname)

end Altered

namespace Forest

variable {a b : Forest} {name content : String} {id : FileId} {g : Folder} {x : File}

/-! ## Changing a folder -/

theorem forall_outline_of_folder?_eq_none (h : a.folder? name = none) (depth : Nat) :
    ∀ e ∈ a.outline depth, e.mark.isFolder name = false := by
  refine (forall_mem_outline depth a).2 ((firstMatch_folder? name a).none_iff.1 ?_)
  rw [h, Option.map_none]

/-- In the outline, the block of the folder that a look-up gives becomes what is put there. -/
theorem Descends.altered {put : Folder → Forest → Forest} {edit : Forest → Option Forest}
    {new : Nat → List Heading} (h : Descends name put edit) (hg : a.folder? name = some g)
    (hput : ∀ rest depth, (put g rest).outline depth = new depth ++ rest.outline depth)
    (depth : Nat) :
    ∃ b, edit a = some b ∧
      Altered (·.isFolder name) g.outline new (a.outline depth) (b.outline depth) := by
  induction a generalizing depth with
  | nil => cases hg
  | cons n files inner rest ihinner ihrest =>
    rw [folder?] at hg
    rw [h.cons]
    by_cases hn : n = name
    · rw [if_pos hn] at hg ⊢
      cases hg
      refine ⟨_, rfl, [], depth, rest.outline depth, List.forall_mem_nil _, ?_, hput rest depth⟩
      exact outline_cons ..
    · have hself : Mark.isFolder name (.folder n) = false := decide_eq_false hn
      have hfiles : ∀ f ∈ files, Mark.isFolder name (.file f) = false := fun _ _ => rfl
      rw [if_neg hn] at hg ⊢
      cases hin : inner.folder? name with
      | some g' =>
        rw [hin, Option.some_or] at hg
        cases hg
        obtain ⟨inner', hedit, halt⟩ := ihinner hin (depth + 1)
        rw [hedit]
        exact ⟨_, rfl, halt.inside hself hfiles rest⟩
      | none =>
        rw [hin, Option.none_or] at hg
        obtain ⟨rest', hedit, halt⟩ := ihrest hg depth
        rw [h.eq_none hin, hedit]
        exact ⟨_, rfl, halt.after hself hfiles (forall_outline_of_folder?_eq_none hin _)⟩

/-- The change of a folder changes the one that a look-up gives. -/
theorem altered_modifyFolder? (hg : a.folder? name = some g) (f : Folder → Folder) (depth : Nat) :
    ∃ b, a.modifyFolder? name f = some b ∧
      Altered (·.isFolder name) g.outline (f g).outline (a.outline depth) (b.outline depth) :=
  (descends_modifyFolder? name f).altered hg (fun _ _ => outline_cons ..) depth

/-- The folder that a look-up gives becomes what `f` makes of it, and nothing else changes. -/
def FolderChanged (name : String) (f : Folder → Folder) (a b : Forest) : Prop :=
  ∃ g, a.folder? name = some g ∧ b.folder? name = some (f g) ∧
    Altered (·.isFolder name) g.outline (f g).outline (a.outline 0) (b.outline 0)

/-! ## Changing a file -/

theorem forall_outline_of_file?_eq_none (h : a.file? id = none) (depth : Nat) :
    ∀ e ∈ a.outline depth, e.mark.isFile (·.id = id) = false := by
  refine (forall_mem_outline depth a).2 ((firstMatch_fileWhere? (·.id = id) a).none_iff.1 ?_)
  rw [show a.fileWhere? (·.id = id) = none from h, Option.map_none]

/-- Among the files of a folder, the first with the identifier gets the text. -/
theorem exists_setContentIn {files : List File} (hx : files.find? (·.id = id) = some x)
    (content : String) :
    ∃ before after, files = before ++ x :: after ∧ (∀ f ∈ before, ¬ f.id = id) ∧
      setContentIn id content files = before ++ { x with content } :: after := by
  induction files with
  | nil => cases hx
  | cons f files ih =>
    rw [List.find?_cons] at hx
    by_cases hf : f.id = id
    · rw [decide_eq_true hf] at hx
      cases hx
      exact ⟨[], files, rfl, List.forall_mem_nil _, if_pos hf⟩
    · rw [decide_eq_false hf] at hx
      obtain ⟨before, after, rfl, hbefore, hset⟩ := ih hx
      refine ⟨f :: before, after, rfl, List.forall_mem_cons.2 ⟨hf, hbefore⟩, ?_⟩
      rw [setContentIn, if_neg hf, hset]
      rfl

/-- The change is among the files of the first folder. -/
theorem altered_setContentIn {files : List File} (hx : files.find? (·.id = id) = some x)
    (content n : String) (inner rest : Forest) (depth : Nat) :
    Altered (·.isFile (·.id = id)) (fun d => [.ofFile d x])
      (fun d => [.ofFile d { x with content }]) ((cons n files inner rest).outline depth)
      ((cons n (setContentIn id content files) inner rest).outline depth) := by
  obtain ⟨before, after, rfl, hbefore, hset⟩ := exists_setContentIn hx content
  refine ⟨⟨depth, .folder n⟩ :: before.map (.ofFile (depth + 1)), depth + 1,
    after.map (.ofFile (depth + 1)) ++ (inner.outline (depth + 1) ++ rest.outline depth),
    ?_, ?_, ?_⟩
  · have hfiles : ∀ e ∈ before.map (Heading.ofFile (depth + 1)),
        e.mark.isFile (·.id = id) = false :=
      List.forall_mem_map.2 fun f hf => decide_eq_false (hbefore f hf)
    exact List.forall_mem_cons.2 ⟨rfl, hfiles⟩
  · simp only [outline, List.map_append, List.map_cons, List.append_assoc, List.cons_append,
      List.nil_append]
  · simp only [outline, hset, List.map_append, List.map_cons, List.append_assoc, List.cons_append,
      List.nil_append]

/-- Another text is given to the file that a look-up gives. -/
theorem altered_setContent? (hx : a.file? id = some x) (content : String) (depth : Nat) :
    ∃ b, a.setContent? id content = some b ∧
      Altered (·.isFile (·.id = id)) (fun d => [.ofFile d x])
        (fun d => [.ofFile d { x with content }]) (a.outline depth) (b.outline depth) := by
  rw [setContent?]
  induction a generalizing depth with
  | nil => cases hx
  | cons n files inner rest ihinner ihrest =>
    rw [file?_cons, Option.or_assoc] at hx
    rw [modifyFilesWith?]
    cases hown : files.find? (·.id = id) with
    | some y =>
      rw [hown, Option.some_or] at hx
      cases hx
      have hid := List.find?_some hown
      have hany : files.any (·.id = id) = true :=
        List.any_eq_true.2 ⟨x, List.mem_of_find?_eq_some hown, hid⟩
      rw [if_pos hany]
      exact ⟨_, rfl, altered_setContentIn hown content n inner rest depth⟩
    | none =>
      have hself : Mark.isFile (·.id = id) (.folder n) = false := rfl
      have hfiles : ∀ f ∈ files, Mark.isFile (·.id = id) (.file f) = false := by
        simpa [Mark.isFile] using hown
      have hany : ¬ files.any (·.id = id) = true := by simpa using hown
      rw [if_neg hany]
      rw [hown, Option.none_or] at hx
      cases hin : inner.file? id with
      | some y =>
        rw [hin, Option.some_or] at hx
        cases hx
        obtain ⟨inner', hmod, halt⟩ := ihinner hin (depth + 1)
        rw [hmod]
        exact ⟨_, rfl, halt.inside hself hfiles rest⟩
      | none =>
        rw [hin, Option.none_or] at hx
        obtain ⟨rest', hmod, halt⟩ := ihrest hx depth
        rw [modifyFilesWith?_eq_none hin, hmod]
        exact ⟨_, rfl, halt.after hself hfiles (forall_outline_of_file?_eq_none hin _)⟩

/-- The look-up of a file gives the first line of the outline that it accepts. -/
theorem file?_eq_find?_outline (id : FileId) (depth : Nat) (a : Forest) :
    (a.file? id).map Mark.file =
      ((a.outline depth).map Heading.mark).find? (·.isFile (·.id = id)) := by
  have h := (firstMatch_fileWhere? (·.id = id) a).first
  rw [map_mark_outline, List.find?_map, Function.comp_def, ← h, Option.map_map]
  rfl

/-- The file that a look-up gives becomes what `f` makes of it, and nothing else changes. -/
def FileChanged (id : FileId) (f : File → File) (a b : Forest) : Prop :=
  ∃ x, a.file? id = some x ∧ b.file? id = some (f x) ∧
    Altered (·.isFile (·.id = id)) (fun d => [.ofFile d x]) (fun d => [.ofFile d (f x)])
      (a.outline 0) (b.outline 0)

/-- A changed file that keeps its identifier is the one that a look-up then gives. -/
theorem file?_of_altered {y : File}
    (h : Altered (·.isFile (·.id = id)) (fun d => [.ofFile d x]) (fun d => [.ofFile d y])
      (a.outline 0) (b.outline 0)) (hy : y.id = id) : b.file? id = some y := by
  obtain ⟨before, depth, after, hbefore, -, hb⟩ := h
  have hnone : (before.map Heading.mark).find? (·.isFile (·.id = id)) = none :=
    List.find?_eq_none.2 (List.forall_mem_map.2 fun e he => by simp [hbefore e he])
  have hself : Mark.isFile (·.id = id) (Heading.ofFile depth y).mark = true := decide_eq_true hy
  have hfirst := file?_eq_find?_outline id 0 b
  rw [hb, List.map_append, List.find?_append, hnone, Option.none_or, List.map_append,
    List.map_singleton, List.singleton_append, List.find?_cons_of_pos hself] at hfirst
  obtain ⟨z, hz, heq⟩ := Option.map_eq_some_iff.1 hfirst
  cases heq
  exact hz

theorem id_of_file? (hx : a.file? id = some x) : x.id = id := by
  rw [file?, fileWhere?_eq_find?] at hx
  simpa using List.find?_some hx

theorem exists_setContent? (hx : a.file? id = some x) (content : String) :
    ∃ b, a.setContent? id content = some b ∧ FileChanged id (fun x => { x with content }) a b := by
  obtain ⟨b, hset, halt⟩ := altered_setContent? hx content 0
  have hid : x.id = id := id_of_file? hx
  exact ⟨b, hset, x, hx, file?_of_altered halt hid, halt⟩

theorem setContent?_eq_none (hx : a.file? id = none) (content : String) :
    a.setContent? id content = none :=
  modifyFilesWith?_eq_none hx _

end Forest

namespace Workspace

variable {w w' : Workspace} {parent name content : String} {id : FileId} {h : Hole} {g : Folder}

/-- What is written to the folder of a reference is written to the one that a look-up gives. -/
theorem ParentAt.folderChanged (hat : w.ParentAt (.anywhere parent) h g) {f : Folder → Folder}
    (hf : (f g).name = g.name) : Forest.FolderChanged parent f w.roots (h.fill (f g)) := by
  obtain ⟨b, hmod, halt⟩ := Forest.altered_modifyFolder? hat.found f 0
  have hfill : w.roots.modifyFolder? parent f = some (h.fill (f g)) := by
    rw [hat.roots]
    exact hat.meets.modify g f hat.name
  obtain rfl := Option.some.inj (hmod.symm.trans hfill)
  exact ⟨g, hat.found, (hat.refill (f g) hf w.ids).found, halt⟩

theorem updateFileContent_eq_ok_iff :
    w.updateFileContent id content = .ok w' ↔
      ∃ b, w.roots.setContent? id content = some b ∧ w' = ⟨b, w.ids⟩ := by
  rw [updateFileContent]
  cases w.roots.setContent? id content with
  | none => simp
  | some b => simp [eq_comm]

/-- **Look-ups give the first match, and edits change what look-ups give.** The first match is that
in the enumeration of folders, their files and then the folders inside them. -/
structure EditsFirstMatch (w : Workspace) : Prop where
  folder : ∀ name, w.roots.FirstMatch (·.isFolder name) ((w.roots.folder? name).map .folder)
  file : ∀ id, w.roots.FirstMatch (·.isFile (·.id = id)) ((w.roots.file? id).map .file)
  fileNamed : ∀ name,
    w.roots.FirstMatch (·.isFile (·.name = name)) ((w.roots.fileNamed? name).map .file)
  createFolder : ∀ parent name w', w.createFolder (.anywhere parent) name = .ok w' →
    Forest.FolderChanged parent (fun g => { g with inside := g.inside.push (.empty name) })
      w.roots w'.roots ∧ w'.ids = w.ids
  createFile : ∀ parent name content id w',
    w.createFile (.anywhere parent) name content = .ok (id, w') →
      Forest.FolderChanged parent (fun g => { g with files := g.files ++ [⟨id, name, content⟩] })
        w.roots w'.roots ∧ w.ids.take = (id, w'.ids)
  updates_iff : ∀ id content,
    (∃ w', w.updateFileContent id content = .ok w') ↔ (w.roots.file? id).isSome
  update : ∀ id content w', w.updateFileContent id content = .ok w' →
    Forest.FileChanged id (fun x => { x with content }) w.roots w'.roots ∧ w'.ids = w.ids

theorem editsFirstMatch (w : Workspace) : w.EditsFirstMatch where
  folder name := Forest.firstMatch_folder? name w.roots
  file id := Forest.firstMatch_fileWhere? (·.id = id) w.roots
  fileNamed name := Forest.firstMatch_fileWhere? (·.name = name) w.roots
  createFolder parent name w' hok := by
    obtain ⟨-, h, g, hat, -, rfl⟩ := createFolder_eq_ok_iff.1 hok
    exact ⟨hat.folderChanged rfl, rfl⟩
  createFile parent name content id w' hok := by
    obtain ⟨-, h, g, hat, -, rfl, rfl⟩ := createFile_eq_ok_iff.1 hok
    exact ⟨hat.folderChanged rfl, rfl⟩
  updates_iff id content := by
    simp only [updateFileContent_eq_ok_iff]
    cases hx : w.roots.file? id with
    | none => simp [Forest.setContent?_eq_none hx]
    | some x =>
      obtain ⟨b, hset, -⟩ := Forest.exists_setContent? hx content
      simp [hset]
  update id content w' hok := by
    obtain ⟨b, hset, rfl⟩ := updateFileContent_eq_ok_iff.1 hok
    cases hx : w.roots.file? id with
    | none => cases hset.symm.trans (Forest.setContent?_eq_none hx content)
    | some x =>
      obtain ⟨b', hset', hchanged⟩ := Forest.exists_setContent? hx content
      obtain rfl := Option.some.inj (hset.symm.trans hset')
      exact ⟨hchanged, rfl⟩

/-- Two folders have one name, and their files one identifier. What lies deeper comes first in
pre-order, and is changed. -/
example :
    let file : File := ⟨⟨1⟩, "f", ""⟩
    let second : Forest := .cons "a" [file] .nil .nil
    let w : Workspace := ⟨.cons "b" [] (.cons "a" [file] .nil .nil) second, .start⟩
    w.createFolder (.anywhere "a") "d" = .ok
        ⟨.cons "b" [] (.cons "a" [file] (.cons "d" [] .nil .nil) .nil) second, .start⟩ ∧
      w.updateFileContent ⟨1⟩ "x" = .ok
        ⟨.cons "b" [] (.cons "a" [{ file with content := "x" }] .nil .nil) second, .start⟩ :=
  ⟨rfl, rfl⟩

end Workspace

end WorkspaceConsole

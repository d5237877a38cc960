import WorkspaceConsole.Proofs.Workspace.Lookup

/-!
# Edits of single files

A file is known by its identifier, and an edit of a file gives it another text or removes it
(`FileEdit`). Among the files of a folder both are one operation: the first file with the identifier
is replaced by what the edit makes of it, or by nothing (`reviseFirst`). In a tree the folder is the
first that holds such a file (`Forest.revise`), and an edit is refused exactly when there is none
(`perform_eq`).

An edit does not show to a search for another identifier (`file?_revise`), although the removal of a
file moves those after it. So two edits of different files meet the same files in either order, and
they commute (**`commute_of_ne`**). Identifiers may be repeated: an edit leaves alone all files with
its identifier but the first, so the first one with another identifier stays the first.
-/

namespace WorkspaceConsole

/-- What is done to a file: it gets another text, or it is removed. -/
inductive FileEdit where
  | write (content : String)
  | remove
deriving DecidableEq, Repr

namespace FileEdit

/-- What becomes of the file. -/
def revise : FileEdit → File → Option File
  | write content, x => some { x with content }
  | remove, _ => none

/-- What is said about the file: a removal gives the file back. -/
def answer : FileEdit → File → Option File
  | write _, _ => none
  | remove, x => some x

/-- Edits the file with an identifier. -/
def perform (id : FileId) (w : Workspace) :
    FileEdit → Except TreeError (Option File × Workspace)
  | write content => (w.updateFileContent id content).map (none, ·)
  | remove => (w.removeFile id).map fun (x, w') => (some x, w')

/-- The result of an edit, and the workspace after it. If the edit is refused this is the workspace
before it. -/
def outcome (e : FileEdit) (id : FileId) (w : Workspace) :
    Except TreeError (Option File) × Workspace :=
  match e.perform id w with
  | .ok (r, w') => (.ok r, w')
  | .error cause => (.error cause, w)

end FileEdit

variable {id other : FileId} {d e : FileEdit}

/-! ## The files of a folder -/

/-- Edits the first of the files with the identifier. -/
def reviseFirst (id : FileId) (e : FileEdit) : List File → List File
  | [] => []
  | x :: xs => if x.id = id then (e.revise x).toList ++ xs else x :: reviseFirst id e xs

theorem setContentIn_eq (id : FileId) (content : String) (files : List File) :
    Forest.setContentIn id content files = reviseFirst id (.write content) files := by
  induction files with
  | nil => rfl
  | cons x files ih => rw [Forest.setContentIn, reviseFirst, ih]; rfl

theorem eraseP_eq (id : FileId) (files : List File) :
    files.eraseP (·.id = id) = reviseFirst id .remove files := by
  induction files with
  | nil => rfl
  | cons x files ih =>
    rw [List.eraseP_cons, reviseFirst, ih]
    by_cases hx : x.id = id
    · simp [hx, FileEdit.revise]
    · simp [hx]

/-- An edit of a file leaves its identifier as it is. -/
theorem FileEdit.id_of_mem_revise {x : File} : ∀ y ∈ (e.revise x).toList, y.id = x.id := by
  cases e <;> simp [revise]

theorem find?_reviseFirst (hne : other ≠ id) (files : List File) :
    (reviseFirst id e files).find? (·.id = other) = files.find? (·.id = other) := by
  induction files with
  | nil => rfl
  | cons x files ih =>
    rw [reviseFirst]
    by_cases hx : x.id = id
    · have hnot : x.id ≠ other := fun h => hne (h.symm.trans hx)
      have hedited : (e.revise x).toList.find? (·.id = other) = none :=
        List.find?_eq_none.2 fun y hy => by
          simpa only [FileEdit.id_of_mem_revise y hy, decide_eq_true_eq] using hnot
      rw [if_pos hx, List.find?_append, hedited, Option.none_or, List.find?_cons,
        decide_eq_false hnot]
    · rw [if_neg hx, List.find?_cons, List.find?_cons, ih]

theorem any_reviseFirst (hne : other ≠ id) (files : List File) :
    (reviseFirst id e files).any (·.id = other) = files.any (·.id = other) := by
  rw [← List.isSome_find?, find?_reviseFirst hne, List.isSome_find?]

/-- What is left of an edited file is passed by an edit of another one. -/
theorem reviseFirst_append {xs : List File} (hxs : ∀ x ∈ xs, x.id ≠ id) (files : List File) :
    reviseFirst id e (xs ++ files) = xs ++ reviseFirst id e files := by
  induction xs with
  | nil => rfl
  | cons x xs ih =>
    obtain ⟨hx, hxs⟩ := List.forall_mem_cons.1 hxs
    rw [List.cons_append, reviseFirst, if_neg hx, ih hxs, List.cons_append]

theorem reviseFirst_comm (hne : id ≠ other) (files : List File) :
    reviseFirst other e (reviseFirst id d files) =
      reviseFirst id d (reviseFirst other e files) := by
  have hpass {x : File} {i j : FileId} {c : FileEdit} (hx : x.id = i) (hij : i ≠ j) :
      ∀ y ∈ (c.revise x).toList, y.id ≠ j := fun y hy => by
    rwa [FileEdit.id_of_mem_revise y hy, hx]
  induction files with
  | nil => rfl
  | cons x files ih =>
    by_cases hx : x.id = id
    · have hx' : x.id ≠ other := fun h => hne (hx.symm.trans h)
      simp only [reviseFirst, if_pos hx, if_neg hx', reviseFirst_append (hpass hx hne)]
    · by_cases hx' : x.id = other
      · simp only [reviseFirst, if_pos hx', if_neg hx, reviseFirst_append (hpass hx' hne.symm)]
      · simp only [reviseFirst, if_neg hx, if_neg hx', ih]

/-! ## The files of a tree -/

namespace Forest

/-- Edits the first file with the identifier, if there is one. -/
def revise (id : FileId) (e : FileEdit) : Forest → Forest
  | nil => nil
  | cons n files inside rest =>
    if files.any (·.id = id) then cons n (reviseFirst id e files) inside rest
    else if (inside.file? id).isSome then cons n files (revise id e inside) rest
    else cons n files inside (revise id e rest)

theorem isSome_file?_cons (id : FileId) (n : String) (files : List File) (inner rest : Forest) :
    ((cons n files inner rest).file? id).isSome =
      (files.any (·.id = id) || ((inner.file? id).isSome || (rest.file? id).isSome)) := by
  rw [file?_cons, Option.isSome_or, Option.isSome_or, List.isSome_find?, Bool.or_assoc]

theorem revise_eq_self {a : Forest} (h : a.file? id = none) (e : FileEdit) : a.revise id e = a := by
  induction a with
  | nil => rfl
  | cons n files inner rest _ ih =>
    rw [file?_cons, Option.or_eq_none_iff, Option.or_eq_none_iff] at h
    obtain ⟨⟨hown, hinner⟩, hrest⟩ := h
    have hany : ¬ files.any (·.id = id) = true := by simpa using hown
    have hnot : ¬ (inner.file? id).isSome = true := by simp [hinner]
    rw [revise, if_neg hany, if_neg hnot, ih hrest]

theorem modifyFilesWith?_reviseFirst (id : FileId) (e : FileEdit) (a : Forest) :
    a.modifyFilesWith? id (reviseFirst id e) =
      if (a.file? id).isSome then some (a.revise id e) else none := by
  induction a with
  | nil => rfl
  | cons n files inner rest ihinner ihrest =>
    rw [modifyFilesWith?, revise, isSome_file?_cons, ihinner, ihrest]
    cases files.any (·.id = id) <;> cases (inner.file? id).isSome <;>
      cases (rest.file? id).isSome <;> rfl

/-- An edit does not show to a search for another identifier. -/
theorem file?_revise (hne : other ≠ id) (a : Forest) :
    (a.revise id e).file? other = a.file? other := by
  induction a with
  | nil => rfl
  | cons n files inner rest ihinner ihrest =>
    rw [revise]
    split
    next => rw [file?_cons, file?_cons, find?_reviseFirst hne]
    next => split <;> rw [file?_cons, file?_cons] <;> simp only [ihinner, ihrest]

/-- **Edits of different files commute** in every tree. -/
theorem revise_comm (hne : id ≠ other) (a : Forest) :
    (a.revise id d).revise other e = (a.revise other e).revise id d := by
  induction a with
  | nil => rfl
  | cons n files inner rest ihinner ihrest =>
    have hany := any_reviseFirst (e := d) hne.symm files
    have hany' := any_reviseFirst (e := e) hne files
    have hfile := file?_revise (e := d) hne.symm inner
    have hfile' := file?_revise (e := e) hne inner
    -- Each of the two files is among the own files, inside, or in a later sibling.
    cases hown : files.any (·.id = id) <;> cases hown' : files.any (·.id = other) <;>
      cases hin : (inner.file? id).isSome <;> cases hin' : (inner.file? other).isSome <;>
      simp only [revise, hown, hown', hin, hin', hany, hany', hfile, hfile', reduceIte,
        Bool.false_eq_true, reviseFirst_comm hne, ihinner, ihrest]

theorem setContent?_eq (id : FileId) (content : String) (a : Forest) :
    a.setContent? id content =
      if (a.file? id).isSome then some (a.revise id (.write content)) else none := by
  rw [setContent?, funext (setContentIn_eq id content), modifyFilesWith?_reviseFirst]

theorem removeFile?_eq (id : FileId) (a : Forest) :
    a.removeFile? id = if (a.file? id).isSome then some (a.revise id .remove) else none := by
  rw [removeFile?, funext (eraseP_eq id), modifyFilesWith?_reviseFirst]

end Forest

/-! ## Operations -/

namespace FileEdit

/-- An edit changes the file that a look-up gives, and is refused when there is none. -/
theorem perform_eq (e : FileEdit) (id : FileId) (w : Workspace) :
    e.perform id w =
      match w.roots.file? id with
      | some x => .ok (e.answer x, { w with roots := w.roots.revise id e })
      | none => .error (.fileNotFound id.display) := by
  cases e with
  | write content =>
    rw [perform, Workspace.updateFileContent, Forest.setContent?_eq]
    cases w.roots.file? id <;> rfl
  | remove =>
    rw [perform, Workspace.removeFile, Forest.removeFile?_eq]
    cases w.roots.file? id <;> rfl

theorem fst_outcome (e : FileEdit) (id : FileId) (w : Workspace) :
    (e.outcome id w).1 =
      match w.roots.file? id with
      | some x => .ok (e.answer x)
      | none => .error (.fileNotFound id.display) := by
  rw [outcome, perform_eq]
  cases w.roots.file? id <;> rfl

theorem snd_outcome (e : FileEdit) (id : FileId) (w : Workspace) :
    (e.outcome id w).2 = { w with roots := w.roots.revise id e } := by
  rw [outcome, perform_eq]
  cases hx : w.roots.file? id with
  | none => rw [Forest.revise_eq_self hx]
  | some x => rfl

/-- The edits `d` of `id` and `e` of `other` come to the same in either order: each has the result
that it has on its own, and the workspace after both is the same. -/
structure Commute (w : Workspace) (id other : FileId) (d e : FileEdit) : Prop where
  first : (d.outcome id (e.outcome other w).2).1 = (d.outcome id w).1
  second : (e.outcome other (d.outcome id w).2).1 = (e.outcome other w).1
  workspace : (e.outcome other (d.outcome id w).2).2 = (d.outcome id (e.outcome other w).2).2

/-- The result of an edit does not depend on whether another file was edited before. -/
theorem fst_outcome_after (hne : id ≠ other) (w : Workspace) :
    (d.outcome id (e.outcome other w).2).1 = (d.outcome id w).1 := by
  rw [snd_outcome, fst_outcome, fst_outcome, Forest.file?_revise hne]

theorem commute_of_ne (w : Workspace) (hne : id ≠ other) (d e : FileEdit) :
    Commute w id other d e where
  first := fst_outcome_after hne w
  second := fst_outcome_after hne.symm w
  workspace := by
    rw [snd_outcome, snd_outcome, snd_outcome, snd_outcome, Forest.revise_comm hne]

/-- One folder holds two files with the identifier that is removed, and the other file between
them. Another folder repeats both identifiers. -/
theorem commute_of_ne_repeated :
    let files : List File := [⟨⟨1⟩, "f", "x"⟩, ⟨⟨2⟩, "g", ""⟩, ⟨⟨1⟩, "h", "y"⟩]
    let w : Workspace :=
      ⟨.cons "b" [] (.cons "a" files .nil .nil) (.cons "a" files .nil .nil), ⟨⟨3⟩⟩⟩
    (⟨1⟩ : FileId) ≠ ⟨2⟩ ∧ Commute w ⟨1⟩ ⟨2⟩ .remove (.write "z") :=
  ⟨by decide, commute_of_ne _ (by decide) _ _⟩

end FileEdit

end WorkspaceConsole

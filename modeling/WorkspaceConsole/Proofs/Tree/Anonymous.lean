import WorkspaceConsole.Proofs.Tree.Template
import WorkspaceConsole.Tree.Edit

/-!
# Trees without identifiers

Two trees are the same but for the identifiers of their files if they are equal once these are
erased (`Forest.anonymous`). What a batch of templates builds is the same in this sense, whatever
source its identifiers come from.

A change of one sibling (`Forest.adjust`) is not seen by a search for another one, and it commutes
with a change of another one, provided that neither changes names.
-/

namespace WorkspaceConsole

/-! ## Erasing identifiers -/

/-- A file without its identifier. -/
def File.anonymous (x : File) : File :=
  { x with id := ⟨0⟩ }

/-- A tree without the identifiers of its files. -/
def Forest.anonymous : Forest → Forest
  | nil => nil
  | cons name files inside rest =>
    cons name (files.map File.anonymous) inside.anonymous rest.anonymous

/-- A folder without the identifiers of its files. -/
def Folder.anonymous (g : Folder) : Folder :=
  ⟨g.name, g.files.map File.anonymous, g.inside.anonymous⟩

theorem Forest.anonymous_append (a b : Forest) :
    (a ++ b).anonymous = a.anonymous ++ b.anonymous := by
  induction a with
  | nil => rfl
  | cons name files inside rest _ ih => rw [cons_append, anonymous, ih, anonymous, cons_append]

namespace FolderTemplate

theorem anonymous_buildFiles (ids : IdSource) (files : List (String × String)) :
    (buildFiles ids files).1.map File.anonymous =
      files.map fun file => ⟨⟨0⟩, file.1, file.2⟩ := by
  induction files generalizing ids with
  | nil => rfl
  | cons file files ih => exact congrArg (_ :: ·) (ih ids.take.2)

/-- What is built depends on the source only in its identifiers. -/
theorem anonymous_buildAll (ids ids' : IdSource) (ts : List FolderTemplate) :
    (buildAll ids ts).1.anonymous = (buildAll ids' ts).1.anonymous := by
  induction ts generalizing ids ids' with
  | nil => rfl
  | cons t ts ih =>
    simp only [buildAll, Forest.anonymous, anonymous_buildFiles]
    rw [ih _ (buildFiles ids' t.files).2]

end FolderTemplate

/-! ## Changing one sibling -/

namespace Forest

variable {name other : String} {f g : Folder → Folder}

/-- Changes the first of the siblings with this name, if there is one. -/
def adjust (name : String) (f : Folder → Folder) : Forest → Forest
  | nil => nil
  | cons n files inside rest =>
    if n = name then
      let g := f ⟨n, files, inside⟩
      cons g.name g.files g.inside rest
    else cons n files inside (adjust name f rest)

theorem adjust_of_modifySibling? {a b : Forest} (h : a.modifySibling? name f = some b) :
    a.adjust name f = b := by
  induction a generalizing b with
  | nil => cases h
  | cons n files inside rest _ ih =>
    rw [modifySibling?] at h
    rw [adjust]
    by_cases hn : n = name
    · rw [if_pos hn] at h ⊢
      exact Option.some.inj h
    · rw [if_neg hn] at h ⊢
      obtain ⟨rest', hrest, rfl⟩ := Option.map_eq_some_iff.1 h
      rw [ih hrest]

theorem adjust_id (name : String) (a : Forest) : a.adjust name id = a := by
  induction a with
  | nil => rfl
  | cons n files inside rest _ ih =>
    rw [adjust, ih]
    exact ite_self _

/-- A search for another sibling does not see the change. -/
theorem sibling?_adjust (hf : ∀ x, (f x).name = x.name) (hne : other ≠ name) (a : Forest) :
    (a.adjust name f).sibling? other = a.sibling? other := by
  induction a with
  | nil => rfl
  | cons n files inside rest _ ih =>
    rw [adjust]
    by_cases hn : n = name
    · have hother : n ≠ other := fun h => hne (h.symm.trans hn)
      have hname : (f ⟨n, files, inside⟩).name ≠ other := by rwa [hf]
      rw [if_pos hn, sibling?, if_neg hname, sibling?, if_neg hother]
    · rw [if_neg hn, sibling?, sibling?, ih]

/-- **Changes of different siblings commute.** -/
theorem adjust_comm (hf : ∀ x, (f x).name = x.name) (hg : ∀ x, (g x).name = x.name)
    (hne : name ≠ other) (a : Forest) :
    (a.adjust name f).adjust other g = (a.adjust other g).adjust name f := by
  induction a with
  | nil => rfl
  | cons n files inside rest _ ih =>
    by_cases hn : n = name
    · have hother : n ≠ other := fun h => hne (hn.symm.trans h)
      have hname : (f ⟨n, files, inside⟩).name ≠ other := by rwa [hf]
      simp only [adjust, if_pos hn, if_neg hother, if_neg hname]
    · by_cases hother : n = other
      · have hname : (g ⟨n, files, inside⟩).name ≠ name := by rwa [hg]
        simp only [adjust, if_pos hother, if_neg hn, if_neg hname]
      · simp only [adjust, if_neg hother, if_neg hn, ih]

/-- The change of a tree without identifiers is the change without identifiers. -/
theorem anonymous_adjust (hfg : ∀ x, (f x).anonymous = g x.anonymous) (a : Forest) :
    (a.adjust name f).anonymous = a.anonymous.adjust name g := by
  induction a with
  | nil => rfl
  | cons n files inside rest _ ih =>
    rw [adjust, anonymous, adjust]
    by_cases hn : n = name
    · have hfolder : (⟨n, files.map File.anonymous, inside.anonymous⟩ : Folder) =
          Folder.anonymous ⟨n, files, inside⟩ := rfl
      rw [if_pos hn, if_pos hn, hfolder, ← hfg]
      rfl
    · rw [if_neg hn, if_neg hn, anonymous, ih]

end Forest

end WorkspaceConsole

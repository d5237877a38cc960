import WorkspaceConsole.Proofs.Workspace.Lookup

/-!
# Cutting out a folder

A folder is removed in two steps: one search gives the positions that lead to it, and then what
stands there is cut out. This search is not the one of the look-ups, and a position means something
only among siblings that are many enough.

`cutAlong` makes every step of the cut as an access to a list of siblings, and says how one can go
wrong (`Astray`). It is the same cut (`removeAt?_eq_toOption`), and the positions that the search
gives never lead astray (`exists_cutAlong`). So the two steps are one recursion, which goes the way
of the look-up (`removeFolder?_cons`): the folder that a look-up finds is the one that is cut out,
and the outline loses the block of this folder and nothing else (`folderCut_removeFolder?`).
-/

namespace WorkspaceConsole

/-- How positions can fail to lead to a folder: there is none, or one of them is not among the
siblings that it is taken from. -/
inductive Astray where
  | noPosition
  | outOfRange (position count : Nat)
deriving DecidableEq, Repr

namespace Forest

/-- Cuts out the folder at a path of positions. Each position is looked up among its siblings. -/
def cutAlong : List Nat → Forest → Except Astray (Folder × Forest)
  | [], _ => .error .noPosition
  | [i], a =>
    match a.toList[i]? with
    | none => .error (.outOfRange i a.toList.length)
    | some g => .ok (g, ofList (a.toList.eraseIdx i))
  | i :: j :: path, a =>
    match a.toList[i]? with
    | none => .error (.outOfRange i a.toList.length)
    | some f => (cutAlong (j :: path) f.inside).map fun (cut, inside) =>
        (cut, ofList (a.toList.set i { f with inside }))

/-- The tree has lost the first folder with the name, which is `g`, and all that `g` holds. -/
def FolderCut (name : String) (g : Folder) (a b : Forest) : Prop :=
  Altered (·.isFolder name) g.outline (fun _ => []) (a.outline 0) (b.outline 0)

variable {a b : Forest} {name : String} {g : Folder}

/-! ## Positions -/

theorem removeAt?_singleton (i : Nat) (a : Forest) :
    a.removeAt? [i] = a.toList[i]?.map fun g => (g, ofList (a.toList.eraseIdx i)) := by
  induction a generalizing i with
  | nil => rfl
  | cons n files inner rest _ ih =>
    cases i with
    | zero =>
      rw [removeAt?, toList, List.getElem?_cons_zero, List.eraseIdx_cons_zero, ofList_toList]
      rfl
    | succ i =>
      rw [removeAt?, ih, toList, List.getElem?_cons_succ, List.eraseIdx_cons_succ, Option.map_map]
      rfl

theorem removeAt?_cons_cons (i j : Nat) (path : List Nat) (a : Forest) :
    a.removeAt? (i :: j :: path) = a.toList[i]?.bind fun f =>
      (f.inside.removeAt? (j :: path)).map fun (cut, inside) =>
        (cut, ofList (a.toList.set i { f with inside })) := by
  induction a generalizing i with
  | nil => rfl
  | cons n files inner rest _ ih =>
    cases i with
    | zero =>
      simp only [removeAt?, toList, List.getElem?_cons_zero, Option.bind_some, List.set_cons_zero,
        ofList, ofList_toList]
    | succ i =>
      rw [removeAt?, ih, toList, List.getElem?_cons_succ]
      simp only [Option.map_bind, Function.comp_def, Option.map_map]
      rfl

/-- With every access made explicit it is the same cut. -/
theorem removeAt?_eq_toOption (path : List Nat) (a : Forest) :
    a.removeAt? path = (a.cutAlong path).toOption := by
  induction path generalizing a with
  | nil => cases a <;> rfl
  | cons i path ih =>
    cases path with
    | nil =>
      rw [removeAt?_singleton, cutAlong]
      cases a.toList[i]? <;> rfl
    | cons j path =>
      rw [removeAt?_cons_cons, cutAlong]
      cases a.toList[i]? with
      | none => rfl
      | some f =>
        rw [Option.bind_some, ih]
        dsimp only
        cases cutAlong (j :: path) f.inside <;> rfl

/-- Positions that the search gives lead to a folder. -/
theorem exists_cutAlong {path : List Nat} (hpath : a.indexPath? name = some path) :
    path ≠ [] ∧ ∃ g b, a.cutAlong path = .ok (g, b) := by
  cases hg : a.folder? name with
  | none => cases hpath.symm.trans (indexPath?_eq_none hg)
  | some g =>
    obtain ⟨h, i, path', -, -, hfound, hcut⟩ := exists_hole_of_folder? hg
    obtain rfl := Option.some.inj (hpath.symm.trans hfound)
    rw [removeAt?_eq_toOption] at hcut
    cases hok : a.cutAlong (i :: path') with
    | error e =>
      rw [hok] at hcut
      cases hcut
    | ok cut => exact ⟨List.cons_ne_nil i path', cut.1, cut.2, rfl⟩

/-! ## The two steps as one -/

theorem removeFolder?_eq_none (hg : a.folder? name = none) : a.removeFolder? name = none := by
  rw [removeFolder?, indexPath?_eq_none hg, Option.bind_none]

/-- The removal goes down the tree as the look-up does. -/
theorem removeFolder?_cons (name n : String) (files : List File) (inner rest : Forest) :
    (cons n files inner rest).removeFolder? name =
      if n = name then some (⟨n, files, inner⟩, rest)
      else match inner.removeFolder? name with
        | some (cut, inner') => some (cut, cons n files inner' rest)
        | none => (rest.removeFolder? name).map fun (cut, rest') =>
            (cut, cons n files inner rest') := by
  rw [removeFolder?, indexPath?]
  by_cases hn : n = name
  · rw [if_pos hn, if_pos hn]
    rfl
  · rw [if_neg hn, if_neg hn]
    cases hin : inner.folder? name with
    | some g =>
      obtain ⟨h, i, path, -, -, hpath, hcut⟩ := exists_hole_of_folder? hin
      rw [removeFolder?, hpath]
      simp only [Option.bind_some, removeAt?, hcut, Option.map_some]
    | none =>
      rw [removeFolder?_eq_none hin, indexPath?_eq_none hin, removeFolder?]
      cases hrest : rest.folder? name with
      | none => rw [indexPath?_eq_none hrest]; rfl
      | some g =>
        obtain ⟨h, i, path, -, -, hpath, hcut⟩ := exists_hole_of_folder? hrest
        rw [hpath]
        simp only [Option.map_some, nextSibling, Option.bind_some, removeAt?]

/-! ## The outline -/

theorem descends_removeFolder? (name : String) :
    Descends name (fun _ rest => rest) (fun a => (a.removeFolder? name).map Prod.snd) where
  nil := rfl
  cons n files inner rest := by
    rw [removeFolder?_cons]
    by_cases hn : n = name
    · rw [if_pos hn, if_pos hn]
      rfl
    · rw [if_neg hn, if_neg hn]
      cases inner.removeFolder? name with
      | some cut => rfl
      | none => cases rest.removeFolder? name <;> rfl

/-- The folder that a look-up gives is cut out, and its block is gone from the outline. -/
theorem folderCut_removeFolder? (hg : a.folder? name = some g) :
    ∃ b, a.removeFolder? name = some (g, b) ∧ FolderCut name g a b := by
  obtain ⟨h, i, path, -, -, hpath, hcut⟩ := exists_hole_of_folder? hg
  have hremove : a.removeFolder? name = some (g, h.close) := by
    rw [removeFolder?, hpath, Option.bind_some, hcut]
  have hput : ∀ (rest : Forest) depth, rest.outline depth = [] ++ rest.outline depth :=
    fun _ _ => rfl
  obtain ⟨b, hb, halt⟩ := (descends_removeFolder? name).altered hg hput 0
  rw [hremove] at hb
  cases hb
  exact ⟨h.close, hremove, halt⟩

end Forest

namespace Workspace

variable {w : Workspace} {name : String} {g : Folder}

/-- **The removal cuts out the folder that a look-up finds.** -/
structure CutsFound (w : Workspace) (name : String) : Prop where
  refuses_iff : ∀ e, w.removeFolder name = .error e ↔
    w.roots.folder? name = none ∧ e = .folderNotFound name
  cuts : ∀ g, w.roots.folder? name = some g →
    ∃ b, w.removeFolder name = .ok (g, ⟨b, w.ids⟩) ∧ Forest.FolderCut name g w.roots b
  neverAstray : ∀ path, w.roots.indexPath? name = some path → path ≠ [] ∧
    ∃ g b, w.roots.cutAlong path = .ok (g, b) ∧ w.removeFolder name = .ok (g, ⟨b, w.ids⟩)

theorem removeFolder_eq_ok {b : Forest} (h : w.roots.removeFolder? name = some (g, b)) :
    w.removeFolder name = .ok (g, ⟨b, w.ids⟩) := by
  rw [removeFolder, h]

theorem removeFolder_eq_error (hg : w.roots.folder? name = none) :
    w.removeFolder name = .error (.folderNotFound name) := by
  rw [removeFolder, Forest.removeFolder?_eq_none hg]

theorem cutsFound (w : Workspace) (name : String) : w.CutsFound name where
  refuses_iff e := by
    cases hg : w.roots.folder? name with
    | none => simp [removeFolder_eq_error hg, eq_comm]
    | some g =>
      obtain ⟨b, hcut, -⟩ := Forest.folderCut_removeFolder? hg
      simp [removeFolder_eq_ok hcut]
  cuts g hg := by
    obtain ⟨b, hcut, hlost⟩ := Forest.folderCut_removeFolder? hg
    exact ⟨b, removeFolder_eq_ok hcut, hlost⟩
  neverAstray path hpath := by
    obtain ⟨hne, g, b, hcut⟩ := Forest.exists_cutAlong hpath
    refine ⟨hne, g, b, hcut, removeFolder_eq_ok ?_⟩
    rw [Forest.removeFolder?, hpath, Option.bind_some, Forest.removeAt?_eq_toOption, hcut]
    rfl

/-- Of two folders with one name the deeper one comes first in pre-order, and is cut out. -/
example :
    let inner : Folder := ⟨"a", [⟨⟨1⟩, "f", ""⟩], .nil⟩
    let second : Forest := .cons "a" [] .nil .nil
    let w : Workspace := ⟨.cons "b" [] inner.toForest second, .start⟩
    w.removeFolder "a" = .ok (inner, ⟨.cons "b" [] .nil second, .start⟩) :=
  rfl

end Workspace

end WorkspaceConsole

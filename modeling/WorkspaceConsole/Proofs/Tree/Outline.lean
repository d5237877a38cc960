import WorkspaceConsole.Proofs.Tree.Rows
import WorkspaceConsole.Tree.Lookup

/-!
# The outline of a tree

`Forest.preorder` enumerates the nodes of a tree: a folder, its files, then what the folders inside
it hold. A look-up gives the first node of this enumeration that it accepts (`FirstMatch`), on every
tree, with repeated names and identifiers or without.

The items of the enumeration overlap, since each folder comes with all that it holds. The outline
tells of each node only what it is itself (`Mark`), and how deep it lies. It lists the same nodes in
the same order (`map_mark_outline`), and there is only one tree for it (`outline_injective`): what
follows the outline of some siblings never lies as deep as they do (`Shallower`), so one sees where
they end.
-/

namespace WorkspaceConsole

/-- What a node is itself, without what it holds. -/
inductive Mark where
  | folder (name : String)
  | file (f : File)
deriving DecidableEq, Repr

namespace Mark

/-- Whether this is a folder with the name. -/
def isFolder (name : String) : Mark → Bool
  | folder n => n = name
  | file _ => false

/-- Whether this is a file that `p` accepts. -/
def isFile (p : File → Bool) : Mark → Bool
  | folder _ => false
  | file f => p f

end Mark

/-- What an item is itself. -/
def Item.mark : Item → Mark
  | .folder f => .folder f.name
  | .file f => .file f

/-- A line of an outline. -/
structure Heading where
  depth : Nat
  mark : Mark
deriving DecidableEq, Repr

/-- The line of a file. -/
def Heading.ofFile (depth : Nat) (f : File) : Heading :=
  ⟨depth, .file f⟩

namespace Forest

/-- The nodes of a tree: each folder, then its files, then the nodes inside it. -/
def preorder : Forest → List Item
  | nil => []
  | cons name files inside rest =>
    .folder ⟨name, files, inside⟩ :: (files.map .file ++ (inside.preorder ++ rest.preorder))

/-- The outline of siblings at a depth. -/
def outline (depth : Nat) : Forest → List Heading
  | nil => []
  | cons name files inside rest =>
    ⟨depth, .folder name⟩ ::
      (files.map (.ofFile (depth + 1)) ++ (inside.outline (depth + 1) ++ rest.outline depth))

end Forest

/-- The outline of a folder at a depth. -/
def Folder.outline (g : Folder) (depth : Nat) : List Heading :=
  ⟨depth, .folder g.name⟩ ::
    (g.files.map (.ofFile (depth + 1)) ++ g.inside.outline (depth + 1))

namespace Forest

variable {a : Forest} {name : String} {depth : Nat}

theorem outline_cons (depth : Nat) (name : String) (files : List File) (inside rest : Forest) :
    (cons name files inside rest).outline depth =
      Folder.outline ⟨name, files, inside⟩ depth ++ rest.outline depth := by
  simp only [outline, Folder.outline, List.cons_append, List.append_assoc]

/-- The outline lists the nodes of the enumeration. -/
theorem map_mark_outline (depth : Nat) (a : Forest) :
    (a.outline depth).map Heading.mark = a.preorder.map Item.mark := by
  induction a generalizing depth with
  | nil => rfl
  | cons name files inside rest ihinside ihrest =>
    simp only [outline, preorder, List.map_cons, List.map_append, List.map_map, ihinside, ihrest]
    rfl

theorem forall_mem_outline {p : Mark → Bool} (depth : Nat) (a : Forest) :
    (∀ e ∈ a.outline depth, p e.mark = false) ↔ ∀ x ∈ a.preorder, p x.mark = false := by
  have h := List.forall_mem_map (f := Heading.mark) (l := a.outline depth) (P := (p · = false))
  rw [← h, map_mark_outline, List.forall_mem_map]

/-! ## Look-ups -/

/-- The node that was found is the first of the enumeration that `p` accepts. If none was found,
then `p` accepts no node. -/
structure FirstMatch (a : Forest) (p : Mark → Bool) (found : Option Item) : Prop where
  first : found = a.preorder.find? (p ·.mark)
  none_iff : found = none ↔ ∀ x ∈ a.preorder, p x.mark = false

theorem firstMatch_of_eq_find? {p : Mark → Bool} {found : Option Item}
    (h : found = a.preorder.find? (p ·.mark)) : a.FirstMatch p found where
  first := h
  none_iff := by simp only [h, List.find?_eq_none, Bool.not_eq_true]

theorem firstMatch_folder? (name : String) (a : Forest) :
    a.FirstMatch (·.isFolder name) ((a.folder? name).map .folder) := by
  refine firstMatch_of_eq_find? ?_
  induction a with
  | nil => rfl
  | cons n files inside rest ihinside ihrest =>
    have hfiles : (files.map Item.file).find? (·.mark.isFolder name) = none := by
      rw [List.find?_map, Option.map_eq_none_iff]
      exact List.find?_eq_none.2 fun _ _ => Bool.false_ne_true
    have hself : (Item.folder ⟨n, files, inside⟩).mark.isFolder name = decide (n = name) := rfl
    rw [folder?, preorder, List.find?_cons, hself]
    by_cases hn : n = name
    · rw [if_pos hn, decide_eq_true hn]
      rfl
    · rw [if_neg hn, decide_eq_false hn, List.find?_append, List.find?_append, hfiles,
        Option.none_or, Option.map_or, ihinside, ihrest]

theorem firstMatch_fileWhere? (p : File → Bool) (a : Forest) :
    a.FirstMatch (·.isFile p) ((a.fileWhere? p).map .file) := by
  refine firstMatch_of_eq_find? ?_
  induction a with
  | nil => rfl
  | cons n files inside rest ihinside ihrest =>
    have hself : (Item.folder ⟨n, files, inside⟩).mark.isFile p = false := rfl
    have hfiles : (files.map Item.file).find? (·.mark.isFile p) = (files.find? p).map .file :=
      List.find?_map
    rw [fileWhere?, preorder, List.find?_cons, hself, List.find?_append, List.find?_append, hfiles,
      Option.map_or, Option.map_or, ihinside, ihrest, Option.or_assoc]

/-! ## One tree for an outline -/

/-- The first line, if there is one, lies less deep. -/
def Shallower (depth : Nat) (xs : List Heading) : Prop :=
  ∀ e ∈ xs.head?, e.depth < depth

theorem Shallower.outline_append {xs : List Heading} (h : Shallower depth xs) (a : Forest) :
    Shallower (depth + 1) (a.outline depth ++ xs) := by
  cases a with
  | nil => exact fun e he => Nat.lt_succ_of_lt (h e he)
  | cons name files inside rest =>
    rintro e he
    cases he
    exact Nat.lt_succ_self _

/-- The files of a folder end where the next line is not that of a file at their depth. -/
theorem eq_of_map_ofFile_append {fs gs : List File} {xs ys : List Heading}
    (hxs : ∀ f, Heading.ofFile depth f ∉ xs.head?) (hys : ∀ f, Heading.ofFile depth f ∉ ys.head?)
    (h : fs.map (.ofFile depth) ++ xs = gs.map (.ofFile depth) ++ ys) : fs = gs ∧ xs = ys := by
  induction fs generalizing gs with
  | nil =>
    cases gs with
    | nil => exact ⟨rfl, h⟩
    | cons g gs => exact absurd (congrArg List.head? h) fun hg => hxs g hg
  | cons f fs ih =>
    cases gs with
    | nil => exact absurd (congrArg List.head? h) fun hf => hys f hf.symm
    | cons g gs =>
      simp only [List.map_cons, List.cons_append, List.cons.injEq, Heading.ofFile, Heading.mk.injEq,
        Mark.file.injEq, true_and] at h
      obtain ⟨rfl, hrest⟩ := h
      obtain ⟨rfl, hend⟩ := ih hrest
      exact ⟨rfl, hend⟩

/-- What a folder holds begins, after its files, with a folder, or it ends. -/
theorem ofFile_notMem_head? {xs : List Heading} (h : Shallower depth xs) (a : Forest) (f : File) :
    Heading.ofFile depth f ∉ (a.outline depth ++ xs).head? := by
  cases a with
  | nil => exact fun hf => Nat.lt_irrefl _ (h _ hf)
  | cons name files inside rest => exact fun hf => nomatch hf

theorem eq_of_outline_append {a b : Forest} {xs ys : List Heading} (hxs : Shallower depth xs)
    (hys : Shallower depth ys) (h : a.outline depth ++ xs = b.outline depth ++ ys) :
    a = b ∧ xs = ys := by
  induction a generalizing depth b xs ys with
  | nil =>
    cases b with
    | nil => exact ⟨rfl, h⟩
    | cons name files inside rest =>
      exact absurd (hxs _ (congrArg List.head? h)) (Nat.lt_irrefl _)
  | cons name files inside rest ihinside ihrest =>
    cases b with
    | nil => exact absurd (hys _ (congrArg List.head? h).symm) (Nat.lt_irrefl _)
    | cons name' files' inside' rest' =>
      have hx := hxs.outline_append rest
      have hy := hys.outline_append rest'
      simp only [outline, List.cons_append, List.append_assoc, List.cons.injEq, Heading.mk.injEq,
        Mark.folder.injEq, true_and] at h
      obtain ⟨rfl, hbelow⟩ := h
      obtain ⟨rfl, hinner⟩ := eq_of_map_ofFile_append (ofFile_notMem_head? hx inside)
        (ofFile_notMem_head? hy inside') hbelow
      obtain ⟨rfl, hlater⟩ := ihinside hx hy hinner
      obtain ⟨rfl, hend⟩ := ihrest hxs hys hlater
      exact ⟨rfl, hend⟩

/-- **Different trees have different outlines.** -/
theorem outline_injective (depth : Nat) : Function.Injective (outline depth) := by
  intro a b h
  have hend : Shallower depth [] := fun e he => nomatch he
  refine (eq_of_outline_append hend hend ?_).1
  rw [List.append_nil, List.append_nil]
  exact h

end Forest

end WorkspaceConsole

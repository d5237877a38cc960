import Mathlib.Data.List.Flatten
import Mathlib.Data.List.Perm.Subperm
import WorkspaceConsole.Proofs.Tree.Template
import WorkspaceConsole.Tree.Audit
import WorkspaceConsole.Tree.Edit

/-!
# What the audit finds

The audit takes folders from a worklist, and a folder that passes is replaced there by its child
folders. `Sweeps` follows this loop step by step, with the place in the tree of each folder, and up
to the first folder that does not pass. What waits in the worklist stands for the subtrees below it:
taking a folder out and putting its child folders in takes just this folder from their sum
(`Sweeps.subperm`). So no place is visited twice, the loop comes to an end, and a tree in which
nothing was found has been visited everywhere.

The audit accepts a tree exactly if no folder holds two files with one identifier, and what it
refuses it refuses for a reason that is in the tree (`Forest.audited`).
-/

namespace WorkspaceConsole

/-! ## The files of one folder -/

/-- No two of the folder's own files have the same identifier. -/
def Folder.Distinct (f : Folder) : Prop :=
  (f.files.map File.id).Nodup

theorem firstRepeat_eq_none_iff {seen ids : List FileId} :
    firstRepeat seen ids = none ↔ ids.Nodup ∧ ∀ id ∈ ids, id ∉ seen := by
  induction ids generalizing seen with
  | nil => simp [firstRepeat]
  | cons id ids ih =>
    rw [nodup_cons_and_fresh_iff, firstRepeat, ← ih]
    by_cases hid : id ∈ seen <;> simp [hid]

/-- An identifier that is found to repeat stands twice among those looked at. -/
theorem two_le_count_of_firstRepeat {seen ids : List FileId} {id : FileId}
    (h : firstRepeat seen ids = some id) : 2 ≤ (seen ++ ids).count id := by
  induction ids generalizing seen with
  | nil => cases h
  | cons i ids ih =>
    rw [firstRepeat] at h
    by_cases hi : i ∈ seen
    · rw [if_pos (by simpa using hi)] at h
      cases h
      have hseen : 0 < seen.count id := List.count_pos_iff.2 hi
      rw [List.count_append, List.count_cons_self]
      omega
    · rw [if_neg (by simpa using hi)] at h
      have hcount := ih h
      have hperm : (i :: seen ++ ids).Perm (seen ++ i :: ids) := List.perm_middle.symm
      rwa [hperm.count_eq] at hcount

namespace Folder

theorem repeatedId?_eq_none_iff {f : Folder} : f.repeatedId? = none ↔ f.Distinct := by
  rw [repeatedId?, Option.map_eq_none_iff, firstRepeat_eq_none_iff, Distinct]
  simp

/-- The error names the folder, and an identifier that two of its files have. -/
theorem of_repeatedId? {f : Folder} {e : TreeError} (h : f.repeatedId? = some e) :
    ∃ id, e = .duplicateFileId f.name id ∧ 2 ≤ (f.files.map File.id).count id := by
  obtain ⟨id, hid, rfl⟩ := Option.map_eq_some_iff.1 h
  exact ⟨id, rfl, two_le_count_of_firstRepeat hid⟩

end Folder

/-! ## Places -/

/-- A folder with the positions that lead to it: one among the roots, then one among the child
folders of each folder on the way. -/
structure Placed where
  place : List Nat
  folder : Folder

namespace Forest

/-- Siblings with their places, in the folder at `above` and from position `i` on. -/
def siblingsAt (above : List Nat) (i : Nat) : Forest → List Placed
  | nil => []
  | cons name files inside rest =>
    ⟨above ++ [i], ⟨name, files, inside⟩⟩ :: siblingsAt above (i + 1) rest

/-- Every folder at every depth with its place, in pre-order. -/
def placedAt (above : List Nat) (i : Nat) : Forest → List Placed
  | nil => []
  | cons name files inside rest =>
    ⟨above ++ [i], ⟨name, files, inside⟩⟩ ::
      (placedAt (above ++ [i]) 0 inside ++ placedAt above (i + 1) rest)

end Forest

namespace Placed

/-- The child folders of a folder, with their places. -/
def children (x : Placed) : List Placed :=
  x.folder.inside.siblingsAt x.place 0

/-- A folder and all folders in it, with their places. -/
def subtree (x : Placed) : List Placed :=
  x :: x.folder.inside.placedAt x.place 0

end Placed

namespace Forest

variable (a : Forest) (above : List Nat) (i : Nat)

theorem map_folder_siblingsAt : (a.siblingsAt above i).map Placed.folder = a.toList := by
  induction a generalizing i with
  | nil => rfl
  | cons name files inside rest _ ih => simp [siblingsAt, toList, ih]

theorem map_folder_placedAt : (a.placedAt above i).map Placed.folder = a.folders := by
  induction a generalizing above i with
  | nil => rfl
  | cons name files inside rest ih₁ ih₂ => simp [placedAt, folders, ih₁, ih₂]

/-- The siblings and what is in them make up the whole. -/
theorem flatMap_subtree_siblingsAt :
    (a.siblingsAt above i).flatMap Placed.subtree = a.placedAt above i := by
  induction a generalizing i with
  | nil => rfl
  | cons name files inside rest _ ih =>
    simp [siblingsAt, placedAt, Placed.subtree, ih]

variable {a above i}

/-- A place leads to its folder. -/
theorem exists_removeAt?_of_mem_placedAt {x : Placed} (hx : x ∈ a.placedAt above i) :
    ∃ j path rest, x.place = above ++ (i + j) :: path ∧
      a.removeAt? (j :: path) = some (x.folder, rest) := by
  induction a generalizing above i with
  | nil => cases hx
  | cons name files inside rest ih₁ ih₂ =>
    rw [placedAt, List.mem_cons, List.mem_append] at hx
    rcases hx with rfl | hx | hx
    · exact ⟨0, [], rest, rfl, rfl⟩
    · obtain ⟨j, path, inside', hplace, hcut⟩ := ih₁ hx
      refine ⟨0, j :: path, cons name files inside' rest, by simp [hplace], ?_⟩
      rw [removeAt?, hcut]
      · rfl
      · simp
    · obtain ⟨j, path, rest', hplace, hcut⟩ := ih₂ hx
      refine ⟨j + 1, path, cons name files inside rest', ?_, ?_⟩
      · rw [hplace, Nat.add_assoc, Nat.add_comm 1]
      · rw [removeAt?, hcut]
        rfl

/-- No two folders have the same place. -/
theorem nodup_place_placedAt (a : Forest) (above : List Nat) (i : Nat) :
    ((a.placedAt above i).map Placed.place).Nodup := by
  induction a generalizing above i with
  | nil => exact List.nodup_nil
  | cons name files inside rest ih₁ ih₂ =>
    have hinside : ∀ p ∈ (inside.placedAt (above ++ [i]) 0).map Placed.place,
        ∃ j path, p = above ++ i :: j :: path := by
      rintro _ hp
      obtain ⟨x, hx, rfl⟩ := List.mem_map.1 hp
      obtain ⟨j, path, -, hplace, -⟩ := exists_removeAt?_of_mem_placedAt hx
      exact ⟨j, path, by simp [hplace]⟩
    have hrest : ∀ p ∈ (rest.placedAt above (i + 1)).map Placed.place,
        ∃ j path, p = above ++ (i + 1 + j) :: path := by
      rintro _ hp
      obtain ⟨x, hx, rfl⟩ := List.mem_map.1 hp
      obtain ⟨j, path, -, hplace, -⟩ := exists_removeAt?_of_mem_placedAt hx
      exact ⟨j, path, hplace⟩
    rw [placedAt, List.map_cons, List.map_append, List.nodup_cons, List.nodup_append]
    refine ⟨?_, ih₁ _ _, ih₂ _ _, ?_⟩
    · intro hmem
      rcases List.mem_append.1 hmem with hmem | hmem
      · obtain ⟨j, path, hp⟩ := hinside _ hmem
        simp at hp
      · obtain ⟨j, path, hp⟩ := hrest _ hmem
        simp at hp
        omega
    · rintro p hp q hq rfl
      obtain ⟨j, path, rfl⟩ := hinside p hp
      obtain ⟨k, path', hq⟩ := hrest _ hq
      simp at hq
      omega

end Forest

/-! ## The loop -/

/-- The loop of the audit, with the worklist `stack`: it visits `visited` in this order and ends
with the verdict. -/
inductive Sweeps : List Placed → List Placed → Except TreeError Unit → Prop
  | accepts : Sweeps [] [] (.ok ())
  | refuses {x : Placed} {stack : List Placed} {e : TreeError} :
      x.folder.repeatedId? = some e → Sweeps (x :: stack) [x] (.error e)
  | passes {x : Placed} {stack visited : List Placed} {verdict : Except TreeError Unit} :
      x.folder.repeatedId? = none → Sweeps (x.children.reverse ++ stack) visited verdict →
      Sweeps (x :: stack) (x :: visited) verdict

namespace Sweeps

variable {stack visited : List Placed} {verdict : Except TreeError Unit} {e : TreeError}

/-- What stands in the worklist after a folder has passed, is that folder's subtree without the
folder itself, and what stood there before. -/
theorem subtrees_perm (x : Placed) (stack : List Placed) :
    (x :: (x.children.reverse ++ stack).flatMap Placed.subtree).Perm
      ((x :: stack).flatMap Placed.subtree) := by
  have hchildren : (x.children.reverse.flatMap Placed.subtree).Perm
      (x.folder.inside.placedAt x.place 0) := by
    rw [← Forest.flatMap_subtree_siblingsAt]
    exact (List.reverse_perm _).flatMap_right _
  rw [List.flatMap_append, List.flatMap_cons, Placed.subtree, List.cons_append]
  exact (hchildren.append_right _).cons x

/-- Only what is in the worklist or below it is visited, and each of it once. -/
theorem subperm (h : Sweeps stack visited verdict) :
    visited.Subperm (stack.flatMap Placed.subtree) := by
  induction h with
  | accepts => exact .refl _
  | @refuses x stack e _ =>
    refine (List.singleton_sublist.2 ?_).subperm
    simp [Placed.subtree]
  | @passes x stack visited verdict _ _ ih =>
    exact ((List.subperm_cons x).2 ih).trans (subtrees_perm x stack).subperm

/-- All of it is visited before the loop accepts. -/
theorem perm_of_ok (h : Sweeps stack visited verdict) (hok : verdict = .ok ()) :
    visited.Perm (stack.flatMap Placed.subtree) := by
  induction h with
  | accepts => exact .refl _
  | refuses _ => cases hok
  | @passes x stack visited verdict _ _ ih => exact ((ih hok).cons x).trans (subtrees_perm x stack)

theorem distinct_of_ok (h : Sweeps stack visited verdict) (hok : verdict = .ok ()) :
    ∀ x ∈ visited, x.folder.Distinct := by
  induction h with
  | accepts => simp
  | refuses _ => cases hok
  | passes hpass _ ih =>
    exact List.forall_mem_cons.2 ⟨Folder.repeatedId?_eq_none_iff.1 hpass, ih hok⟩

theorem exists_of_error (h : Sweeps stack visited verdict) (herror : verdict = .error e) :
    ∃ x ∈ visited, x.folder.repeatedId? = some e := by
  induction h with
  | accepts => cases herror
  | refuses hfound =>
    cases herror
    exact ⟨_, List.mem_cons_self, hfound⟩
  | passes _ _ ih =>
    obtain ⟨x, hx, hfound⟩ := ih herror
    exact ⟨x, List.mem_cons_of_mem _ hx, hfound⟩

end Sweeps

/-- What the audit says of a worklist. -/
def verdict (stack : List Folder) : Except TreeError Unit :=
  ((sweep stack).findSome? Folder.repeatedId?).elim (.ok ()) .error

theorem Forest.audit_eq_verdict (a : Forest) : a.audit = verdict a.toList.reverse := by
  unfold audit verdict
  cases (sweep a.toList.reverse).findSome? Folder.repeatedId? <;> rfl

/-- The loop comes to an end, with what the audit says of its worklist. It goes the way of the
sweep, up to the first folder that does not pass. -/
theorem exists_sweeps (stack : List Placed) :
    ∃ visited, visited.map Placed.folder <+: sweep (stack.map Placed.folder) ∧
      Sweeps stack visited (verdict (stack.map Placed.folder)) := by
  unfold verdict
  generalize hfolders : stack.map Placed.folder = fs
  induction fs using sweep.induct generalizing stack with
  | case1 =>
    rw [List.map_eq_nil_iff] at hfolders
    subst hfolders
    rw [sweep]
    exact ⟨[], List.nil_prefix, .accepts⟩
  | case2 f fs ih =>
    obtain ⟨x, stack, rfl, rfl, rfl⟩ := List.map_eq_cons_iff.1 hfolders
    rw [sweep, List.findSome?_cons]
    cases hfound : x.folder.repeatedId? with
    | some e => exact ⟨[x], by simp, .refuses hfound⟩
    | none =>
      have hnext : (x.children.reverse ++ stack).map Placed.folder =
          x.folder.inside.toList.reverse ++ stack.map Placed.folder := by
        rw [List.map_append, List.map_reverse, Placed.children, Forest.map_folder_siblingsAt]
      obtain ⟨visited, hway, h⟩ := ih _ hnext
      exact ⟨x :: visited, (List.prefix_cons_inj _).2 hway, .passes hfound h⟩

namespace Forest

variable {a : Forest}

/-- **What the audit does.** -/
structure Audited (a : Forest) : Prop where
  /-- Its loop comes to an end. It visits no place twice, and each folder where it stands, and it
  has visited all of them if it accepts. -/
  sweeps : ∃ visited, Sweeps (a.siblingsAt [] 0).reverse visited a.audit ∧
    visited.map Placed.folder <+: sweep a.toList.reverse ∧
    (visited.map Placed.place).Nodup ∧
    (∀ x ∈ visited, ∃ rest, a.removeAt? x.place = some (x.folder, rest)) ∧
    (a.audit = .ok () → (visited.map Placed.folder).Perm a.folders)
  /-- It accepts exactly if identifiers are distinct within each folder. -/
  accepts : a.audit = .ok () ↔ ∀ f ∈ a.folders, (f.files.map File.id).Nodup
  /-- It refuses for an identifier that two files of the named folder have. -/
  refuses : ∀ e, a.audit = .error e →
    ∃ f ∈ a.folders, ∃ id, e = .duplicateFileId f.name id ∧ 2 ≤ (f.files.map File.id).count id

theorem exists_sweeps_audit (a : Forest) :
    ∃ visited, visited.map Placed.folder <+: sweep a.toList.reverse ∧
      Sweeps (a.siblingsAt [] 0).reverse visited a.audit := by
  have hsweeps := exists_sweeps (a.siblingsAt [] 0).reverse
  rwa [List.map_reverse, map_folder_siblingsAt, ← audit_eq_verdict] at hsweeps

/-- The worklist begins with all of the tree. -/
theorem flatMap_subtree_roots_perm (a : Forest) :
    ((a.siblingsAt [] 0).reverse.flatMap Placed.subtree).Perm (a.placedAt [] 0) := by
  rw [← flatMap_subtree_siblingsAt]
  exact (List.reverse_perm _).flatMap_right _

theorem mem_folders_of_mem_placedAt {x : Placed} (hx : x ∈ a.placedAt [] 0) :
    x.folder ∈ a.folders := by
  rw [← map_folder_placedAt a [] 0]
  exact List.mem_map_of_mem hx

/-- **The audit accepts** exactly the trees in which no folder holds two files with one
identifier. -/
theorem audit_eq_ok_iff : a.audit = .ok () ↔ ∀ f ∈ a.folders, f.Distinct := by
  obtain ⟨visited, -, h⟩ := a.exists_sweeps_audit
  constructor
  · intro hok f hf
    rw [← map_folder_placedAt a [] 0] at hf
    obtain ⟨x, hx, rfl⟩ := List.mem_map.1 hf
    refine h.distinct_of_ok hok x ?_
    exact ((h.perm_of_ok hok).trans a.flatMap_subtree_roots_perm).mem_iff.2 hx
  · intro hdistinct
    cases haudit : a.audit with
    | ok u => rfl
    | error e =>
      obtain ⟨x, hx, hfound⟩ := h.exists_of_error haudit
      have hplaced : x ∈ a.placedAt [] 0 :=
        a.flatMap_subtree_roots_perm.mem_iff.1 (h.subperm.subset hx)
      have hnone := Folder.repeatedId?_eq_none_iff.2
        (hdistinct x.folder (mem_folders_of_mem_placedAt hplaced))
      rw [hnone] at hfound
      cases hfound

/-- **The audit decides whether identifiers are distinct within each folder**, for every tree. -/
theorem audited (a : Forest) : a.Audited := by
  obtain ⟨visited, hway, h⟩ := a.exists_sweeps_audit
  have hsubperm : visited.Subperm (a.placedAt [] 0) :=
    h.subperm.trans a.flatMap_subtree_roots_perm.subperm
  refine ⟨⟨visited, h, hway, ?_, ?_, ?_⟩, audit_eq_ok_iff, ?_⟩
  · obtain ⟨l, hperm, hsub⟩ := hsubperm
    have hnodup : (l.map Placed.place).Nodup :=
      (a.nodup_place_placedAt [] 0).sublist (hsub.map Placed.place)
    exact (hperm.map Placed.place).nodup_iff.1 hnodup
  · intro x hx
    obtain ⟨j, path, rest, hplace, hcut⟩ := exists_removeAt?_of_mem_placedAt (hsubperm.subset hx)
    refine ⟨rest, ?_⟩
    rw [hplace, List.nil_append, Nat.zero_add, hcut]
  · intro hok
    rw [← map_folder_placedAt a [] 0]
    exact ((h.perm_of_ok hok).trans a.flatMap_subtree_roots_perm).map Placed.folder
  · intro e herror
    obtain ⟨x, hx, hfound⟩ := h.exists_of_error herror
    obtain ⟨id, rfl, hcount⟩ := Folder.of_repeatedId? hfound
    exact ⟨x.folder, mem_folders_of_mem_placedAt (hsubperm.subset hx), id, rfl, hcount⟩

/-- Two folders may share an identifier, two files of one folder may not. -/
example :
    let file (name : String) : File := ⟨⟨7⟩, name, ""⟩
    (cons "a" [file "x"] (cons "b" [file "x"] nil nil) nil).audit = .ok () ∧
      (cons "a" [file "x"] (cons "b" [file "x", file "y"] nil nil) nil).audit =
        .error (.duplicateFileId "b" ⟨7⟩) := by
  cbv

end Forest

end WorkspaceConsole

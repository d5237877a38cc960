import Mathlib.Data.List.Induction
import WorkspaceConsole.Proofs.Tree.Audit
import WorkspaceConsole.Proofs.Workspace.Operation
import WorkspaceConsole.Startup

/-!
# Seeding

A name is passed over for two reasons: it is not valid, or a root has it already. The roots are
those that earlier names have left. So after each name the roots are empty folders called like the
valid names so far, each where it first came (`Workspace.seeded_eq`).

Such a tree passes the audit, and what has been passed over leaves nothing behind. So a store is
always made, and neither repeated names nor invalid ones make it another (`Store.seeds_anyNames`).
-/

namespace WorkspaceConsole

/-! ## Empty folders side by side -/

namespace Forest

/-- Empty folders with these names. -/
def bare (names : List String) : Forest :=
  .ofList (names.map .empty)

theorem bare_concat (names : List String) (name : String) :
    bare (names ++ [name]) = (bare names).push (.empty name) := by
  induction names with
  | nil => rfl
  | cons n names ih => exact congrArg (cons n [] nil) ih

theorem names_bare (names : List String) : (bare names).names = names := by
  induction names with
  | nil => rfl
  | cons n names ih => exact congrArg (n :: ·) ih

theorem folders_bare (names : List String) : (bare names).folders = names.map .empty := by
  induction names with
  | nil => rfl
  | cons n names ih => exact congrArg (Folder.empty n :: ·) ih

theorem audit_bare (names : List String) : (bare names).audit = .ok () := by
  rw [audit_eq_ok_iff, folders_bare, List.forall_mem_map]
  exact fun _ _ => List.nodup_nil

end Forest

/-! ## One name after the other -/

/-- The valid names of a list, each where it first occurs. -/
def firstValid (names : List String) : List String :=
  (names.filter isValidName).eraseDups

theorem mem_firstValid {name : String} {names : List String} :
    name ∈ firstValid names ↔ name ∈ names ∧ ValidName name := by
  rw [firstValid, List.mem_eraseDups, List.mem_filter, isValidName_iff]

theorem firstValid_append (names more : List String) :
    firstValid (names ++ more) =
      firstValid names ++
        ((more.filter isValidName).removeAll (names.filter isValidName)).eraseDups := by
  rw [firstValid, List.filter_append, List.eraseDups_append, firstValid]

theorem firstValid_concat_of_new {name : String} {names : List String} (hname : ValidName name)
    (hnew : name ∉ firstValid names) :
    firstValid (names ++ [name]) = firstValid names ++ [name] := by
  have hvalid : isValidName name = true := (isValidName_iff name).2 hname
  have hbefore : name ∉ names := fun hmem => hnew (mem_firstValid.2 ⟨hmem, hname⟩)
  rw [firstValid_append]
  simp [hvalid, hbefore, List.removeAll, List.eraseDups_cons]

theorem firstValid_concat_of_passed {name : String} {names : List String}
    (h : ¬ (ValidName name ∧ name ∉ firstValid names)) :
    firstValid (names ++ [name]) = firstValid names := by
  rw [firstValid_append]
  by_cases hname : ValidName name
  · have hvalid : isValidName name = true := (isValidName_iff name).2 hname
    have hmem : name ∈ names := (mem_firstValid.1 (not_not.1 fun hnew => h ⟨hname, hnew⟩)).1
    simp [hvalid, hmem, List.removeAll]
  · simp [isValidName_eq_false_iff.2 hname, List.removeAll]

namespace Workspace

variable {w : Workspace} {name : String}

theorem seed_of_new (hname : ValidName name) (hnew : name ∉ w.roots.names) :
    w.seed name = ⟨w.roots.push (.empty name), w.ids⟩ := by
  rw [seed, createRootFolder_eq_ok_iff.2 ⟨hname, hnew, rfl⟩]

theorem seed_of_passed (h : ¬ (ValidName name ∧ name ∉ w.roots.names)) : w.seed name = w := by
  rw [seed]
  cases hroot : w.createRootFolder name with
  | error e => rfl
  | ok w' =>
    obtain ⟨hname, hnew, -⟩ := createRootFolder_eq_ok_iff.1 hroot
    exact absurd ⟨hname, hnew⟩ h

/-- The roots are called like the valid names so far. The induction is on the last name: it meets
the roots that the names before it have left. -/
theorem seeded_eq (names : List String) :
    seeded names = ⟨.bare (firstValid names), .start⟩ := by
  induction names using List.reverseRecOn with
  | nil => rfl
  | append_singleton names name ih =>
    have hlast : seeded (names ++ [name]) = (seeded names).seed name :=
      List.foldl_concat seed empty name names
    rw [hlast, ih]
    by_cases hnew : ValidName name ∧ name ∉ firstValid names
    · rw [seed_of_new hnew.1 (by rw [Forest.names_bare]; exact hnew.2),
        firstValid_concat_of_new hnew.1 hnew.2, Forest.bare_concat]
    · rw [seed_of_passed (by rw [Forest.names_bare]; exact hnew),
        firstValid_concat_of_passed hnew]

end Workspace

/-! ## The store -/

theorem firstValid_append_self (names : List String) :
    firstValid (names ++ names) = firstValid names := by
  have hnone : (names.filter isValidName).removeAll (names.filter isValidName) = [] := by
    rw [List.removeAll, List.filter_eq_nil_iff]
    intro name hname
    rw [List.elem_eq_true_of_mem hname]
    decide
  rw [firstValid_append, hnone, List.eraseDups_nil, List.append_nil]

/-- The second list is the first one with invalid names anywhere in between. -/
inductive Padded : List String → List String → Prop
  | nil : Padded [] []
  | keep {names padded : List String} (name : String) :
      Padded names padded → Padded (name :: names) (name :: padded)
  | skip {names padded : List String} {name : String} :
      ¬ ValidName name → Padded names padded → Padded names (name :: padded)

theorem Padded.firstValid_eq {names padded : List String} (h : Padded names padded) :
    firstValid padded = firstValid names := by
  have hfilter : padded.filter isValidName = names.filter isValidName := by
    induction h with
    | nil => rfl
    | keep name _ ih => rw [List.filter_cons, List.filter_cons, ih]
    | skip hname _ ih =>
      rw [List.filter_cons_of_neg (by rw [isValidName_iff]; exact hname), ih]
  rw [firstValid, hfilter, firstValid]

namespace Store

theorem seeded_eq_ok (names : List String) :
    seeded names = .ok ⟨⟨.bare (firstValid names), .start⟩, 0⟩ := by
  rw [seeded, Workspace.seeded_eq, ofWorkspace, Forest.audit_bare]
  rfl

/-- What seeding with these names comes to. -/
structure Seeds (names : List String) : Prop where
  /-- It gives a store without a change. The roots are empty folders, one for each valid name, in
  the order in which the names first occur. -/
  made : seeded names = .ok ⟨⟨.bare ((names.filter isValidName).eraseDups), .start⟩, 0⟩
  /-- Repeating the names makes no difference, -/
  repeated : seeded (names ++ names) = seeded names
  /-- and neither do invalid names, wherever they stand. -/
  padded : ∀ more, Padded names more → seeded more = seeded names

/-- **Seeding never fails**, and leaves out only what is invalid or there already. -/
theorem seeds_anyNames (names : List String) : Seeds names where
  made := seeded_eq_ok names
  repeated := by rw [seeded_eq_ok, seeded_eq_ok, firstValid_append_self]
  padded more hmore := by rw [seeded_eq_ok, seeded_eq_ok, hmore.firstValid_eq]

/-- A blank, a slash and an empty name are left out, and so is a name that comes again. -/
example :
    seeded ["b", "a b", "a", "b", "", "x/y", "a", "c"] =
      .ok ⟨⟨.bare ["b", "a", "c"], .start⟩, 0⟩ := by
  decide +kernel

end Store

end WorkspaceConsole

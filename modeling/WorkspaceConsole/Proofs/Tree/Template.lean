import WorkspaceConsole.Proofs.FileId
import WorkspaceConsole.Tree.Template

/-!
# Checking and building templates

A batch passes `checkBatch` exactly when every template is well named and the template names are
pairwise distinct (`checkBatch_eq_ok_iff`). Building keeps names and texts in order, gives folders
without child folders, and takes one identifier for each file in order.
-/

namespace WorkspaceConsole

theorem isValidName_eq_false_iff {name : String} :
    isValidName name = false ↔ ¬ ValidName name := by
  rw [← isValidName_iff, Bool.not_eq_true]

theorem requireName_eq_ok_iff {name : String} : requireName name = .ok () ↔ ValidName name := by
  rw [requireName, ← isValidName_iff]
  by_cases h : isValidName name = true <;> simp [h]

theorem requireFreshName_eq_ok_iff {seen : List String} {name : String} :
    requireFreshName seen name = .ok () ↔ ValidName name ∧ name ∉ seen := by
  rw [requireFreshName, ← isValidName_iff]
  by_cases hv : isValidName name = true
  · by_cases hs : name ∈ seen <;> simp [hv, hs]
  · simp [hv]

theorem checkNames_cons_eq_ok_iff {seen names : List String} {name : String} :
    checkNames seen (name :: names) = .ok () ↔
      (ValidName name ∧ name ∉ seen) ∧ checkNames (name :: seen) names = .ok () := by
  rw [← requireFreshName_eq_ok_iff, checkNames]
  cases requireFreshName seen name <;> simp

/-- Items taken one by one, each compared with those before it, are distinct. -/
theorem nodup_cons_and_fresh_iff {α : Type} {seen names : List α} {name : α} :
    (name :: names).Nodup ∧ (∀ n ∈ name :: names, n ∉ seen) ↔
      name ∉ seen ∧ names.Nodup ∧ ∀ n ∈ names, n ∉ name :: seen := by
  rw [List.nodup_cons, List.forall_mem_cons]
  constructor
  · rintro ⟨⟨hmem, hnodup⟩, hfresh, hseen⟩
    refine ⟨hfresh, hnodup, fun n hn hmem' => ?_⟩
    rcases List.mem_cons.1 hmem' with rfl | hmem'
    · exact hmem hn
    · exact hseen n hn hmem'
  · rintro ⟨hfresh, hnodup, hseen⟩
    exact ⟨⟨fun hmem => hseen name hmem List.mem_cons_self, hnodup⟩, hfresh,
      fun n hn hmem => hseen n hn (List.mem_cons_of_mem name hmem)⟩

theorem checkNames_eq_ok_iff {seen names : List String} :
    checkNames seen names = .ok () ↔
      (∀ n ∈ names, ValidName n) ∧ names.Nodup ∧ ∀ n ∈ names, n ∉ seen := by
  induction names generalizing seen with
  | nil => simp [checkNames]
  | cons name names ih =>
    rw [checkNames_cons_eq_ok_iff, ih, nodup_cons_and_fresh_iff, List.forall_mem_cons]
    constructor
    · rintro ⟨⟨hvalid, hfresh⟩, hall, hrest⟩
      exact ⟨⟨hvalid, hall⟩, hfresh, hrest⟩
    · rintro ⟨⟨hvalid, hall⟩, hfresh, hrest⟩
      exact ⟨⟨hvalid, hfresh⟩, hall, hrest⟩

namespace FolderTemplate

/-- The template and its files have valid names, and no two files share one. -/
structure WellNamed (t : FolderTemplate) : Prop where
  name : ValidName t.name
  fileNames : ∀ n ∈ t.files.map Prod.fst, ValidName n
  distinct : (t.files.map Prod.fst).Nodup

theorem checkBatch_cons_eq_ok_iff {seen : List String} {t : FolderTemplate}
    {ts : List FolderTemplate} :
    checkBatch seen (t :: ts) = .ok () ↔
      (t.WellNamed ∧ t.name ∉ seen) ∧ checkBatch (t.name :: seen) ts = .ok () := by
  have hone : (t.WellNamed ∧ t.name ∉ seen) ↔
      requireFreshName seen t.name = .ok () ∧ checkNames [] (t.files.map Prod.fst) = .ok () := by
    rw [requireFreshName_eq_ok_iff, checkNames_eq_ok_iff]
    constructor
    · rintro ⟨⟨hname, hfiles, hdistinct⟩, hfresh⟩
      exact ⟨⟨hname, hfresh⟩, hfiles, hdistinct, fun _ _ => List.not_mem_nil⟩
    · rintro ⟨⟨hname, hfresh⟩, hfiles, hdistinct, _⟩
      exact ⟨⟨hname, hfiles, hdistinct⟩, hfresh⟩
  rw [hone, checkBatch]
  cases requireFreshName seen t.name with
  | error e => simp
  | ok u => cases checkNames [] (t.files.map Prod.fst) <;> simp

/-- **A batch passes** exactly when its templates are well named and their names are distinct. -/
theorem checkBatch_eq_ok_iff {seen : List String} {ts : List FolderTemplate} :
    checkBatch seen ts = .ok () ↔
      (∀ t ∈ ts, t.WellNamed) ∧ (ts.map name).Nodup ∧ ∀ n ∈ ts.map name, n ∉ seen := by
  induction ts generalizing seen with
  | nil => simp [checkBatch]
  | cons t ts ih =>
    rw [checkBatch_cons_eq_ok_iff, ih, List.map_cons, nodup_cons_and_fresh_iff,
      List.forall_mem_cons]
    constructor
    · rintro ⟨⟨hwell, hfresh⟩, hall, hrest⟩
      exact ⟨⟨hwell, hall⟩, hfresh, hrest⟩
    · rintro ⟨⟨hwell, hall⟩, hfresh, hrest⟩
      exact ⟨⟨hwell, hfresh⟩, hall, hrest⟩

/-! ## Building -/

theorem names_buildFiles (ids : IdSource) (files : List (String × String)) :
    (buildFiles ids files).1.map File.name = files.map Prod.fst := by
  induction files generalizing ids with
  | nil => rfl
  | cons f files ih => simp [buildFiles, ih]

theorem texts_buildFiles (ids : IdSource) (files : List (String × String)) :
    (buildFiles ids files).1.map (fun x => (x.name, x.content)) = files := by
  induction files generalizing ids with
  | nil => rfl
  | cons f files ih => simp [buildFiles, ih]

theorem handsOut_buildFiles (ids : IdSource) (files : List (String × String)) :
    ids.HandsOut ((buildFiles ids files).1.map File.id) (buildFiles ids files).2 := by
  induction files generalizing ids with
  | nil => exact .none ids
  | cons f files ih => exact .more (ih ids.take.2)

theorem names_buildAll (ids : IdSource) (ts : List FolderTemplate) :
    (buildAll ids ts).1.names = ts.map name := by
  induction ts generalizing ids with
  | nil => rfl
  | cons t ts ih => simp [buildAll, Forest.names, ih]

/-- A built folder has no child folders, and the names of a template. -/
theorem of_mem_folders_buildAll {ids : IdSource} {ts : List FolderTemplate} {f : Folder}
    (hf : f ∈ (buildAll ids ts).1.folders) :
    f.inside = .nil ∧ ∃ t ∈ ts, f.name = t.name ∧ f.files.map File.name = t.files.map Prod.fst := by
  induction ts generalizing ids with
  | nil => cases hf
  | cons t ts ih =>
    rcases List.mem_cons.1 hf with rfl | hf
    · exact ⟨rfl, t, List.mem_cons_self, rfl, names_buildFiles _ _⟩
    · obtain ⟨hnil, t', ht', hname⟩ := ih hf
      exact ⟨hnil, t', List.mem_cons_of_mem t ht', hname⟩

theorem handsOut_buildAll (ids : IdSource) (ts : List FolderTemplate) :
    ids.HandsOut (buildAll ids ts).1.fileIds (buildAll ids ts).2 := by
  induction ts generalizing ids with
  | nil => exact .none ids
  | cons t ts ih =>
    have happ := (handsOut_buildFiles ids t.files).append (ih (buildFiles ids t.files).2)
    simpa [buildAll, Forest.fileIds, Forest.files] using happ

end FolderTemplate

end WorkspaceConsole

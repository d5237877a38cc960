import WorkspaceConsole.Proofs.Manifest
import WorkspaceConsole.Proofs.Store.Growth
import WorkspaceConsole.Proofs.Store.Identity

/-!
# What commands can build

Three kinds of commands change the tree, and from the store without folders they build little. A new
application brings the folder for packages with it, so a second application in the same root clashes
with that folder: a root holds no child folder, or the two of one application. Packages are
installed in roots only, even where the working path ends in the name of an application's folder.

So the shape of every tree that commands can build is known (`Folder.Made`), and each command that
was not refused shows in it, as a root, as a file directly in a root, or as a root with an
application. The version is the number of these (`built_evaluateAll`).
-/

namespace WorkspaceConsole

/-- The name and the text of a file. -/
def File.entry (x : File) : String × String := (x.name, x.content)

theorem FolderTemplate.entries_buildFiles (ids : IdSource) (files : List (String × String)) :
    (buildFiles ids files).1.map File.entry = files := by
  induction files generalizing ids with
  | nil => rfl
  | cons f files ih => simp [buildFiles, File.entry, ih]

namespace Folder

/-- The files that an application starts with: a line of text in each of four, and a manifest that
names the application. -/
def StartsApp (app : String) (files : List File) : Prop :=
  ∃ manifest,
    files.map File.entry =
      [("index.js", "// Entry point for React app"), ("App.js", "// Main App component"),
        ("index.html", "<!DOCTYPE html>"), ("styles.css", "/* Styles for the app */"),
        ("package.json", manifest)] ∧
      manifest = (Manifest.initial app).toJson ∧
      Manifest.ofJson? manifest = some ⟨app, "1.0.0", .empty⟩

theorem startsApp_of_entries {app : String} {files : List File}
    (h : files.map File.entry = Scaffold.files app) : StartsApp app files := by
  refine ⟨_, h, rfl, ?_⟩
  rw [Manifest.ofJson?_toJson]
  rfl

/-- The folder of an application with the files that it starts with, and after it the folder for
packages. Both have no child folders, and the latter is empty. -/
def HoldsApp (f : Folder) : Prop :=
  ∃ app files, f.inside = .cons app files .nil (.cons "node_modules" [] .nil .nil) ∧
    ValidName app ∧ app ≠ "node_modules" ∧ StartsApp app files

/-- A root folder as commands make it. -/
structure Made (f : Folder) : Prop where
  /-- Its own files are empty. -/
  files : ∀ x ∈ f.files, x.content = ""
  /-- It has no child folders, or those of one application. -/
  inside : f.inside = .nil ∨ f.HoldsApp

theorem made_empty (name : String) : (empty name).Made :=
  ⟨fun _ hx => absurd hx List.not_mem_nil, .inl rfl⟩

theorem Made.addFile {f : Folder} (hf : f.Made) {x : File} (hx : x.content = "") :
    Made { f with files := f.files ++ [x] } := by
  refine ⟨List.forall_mem_append.2 ⟨hf.files, fun y hy => ?_⟩, hf.inside⟩
  rw [List.mem_singleton.1 hy]
  exact hx

/-- A folder without the name of the folder for packages among its children has no child folders. -/
theorem Made.inside_eq_nil {f : Folder} (hf : f.Made)
    (hfree : Scaffold.packageFolder ∉ f.childNames) : f.inside = .nil := by
  refine hf.inside.resolve_right ?_
  rintro ⟨app, files, hinside, -⟩
  refine hfree (List.mem_append_right _ ?_)
  rw [hinside]
  exact List.mem_cons_of_mem app List.mem_cons_self

theorem Made.addApp {f : Folder} (hf : f.Made) (hinside : f.inside = .nil) (ids : IdSource)
    {app : String} (hvalid : ValidName app) (happ : app ≠ Scaffold.packageFolder) :
    Made { f with
      inside := f.inside ++ (FolderTemplate.buildAll ids (Scaffold.templates app)).1 } := by
  have hentries := FolderTemplate.entries_buildFiles ids (Scaffold.files app)
  refine ⟨hf.files, .inr ⟨app, _, ?_, hvalid, happ, startsApp_of_entries hentries⟩⟩
  rw [hinside]
  rfl

end Folder

namespace Forest

/-- The number of roots, of files directly in them, and of roots with child folders. -/
def count (a : Forest) : Nat :=
  a.toList.length + (a.toList.flatMap Folder.files).length +
    (a.toList.filter (·.inside ≠ nil)).length

theorem count_append (a b : Forest) : (a ++ b).count = a.count + b.count := by
  simp only [count, toList_append, List.length_append, List.flatMap_append, List.filter_append]
  omega

theorem count_cons (name : String) (files : List File) (inside rest : Forest) :
    (cons name files inside rest).count =
      1 + files.length + (if inside = nil then 0 else 1) + rest.count := by
  simp only [count, toList, List.length_cons, List.flatMap_cons, List.length_append]
  by_cases hinside : inside = nil
  · rw [List.filter_cons_of_neg (by simp [hinside]), if_pos hinside]
    omega
  · rw [List.filter_cons_of_pos (by simp [hinside]), if_neg hinside, List.length_cons]
    omega

end Forest

namespace Store

variable {s s' : Store} {cwd : WorkingPath} {command : Command} {action : Action}
  {success : String} {e : Evaluation} {w w' : Workspace} {r : Option FileId}

/-! ## One command -/

/-- A change that a command asks for keeps the shape of the tree, and shows in it. -/
theorem Requests.made (h : Requests cwd command action success) (hchange : Change w action r w')
    (hw : ∀ f ∈ w.roots.toList, f.Made) :
    (∀ f ∈ w'.roots.toList, f.Made) ∧ w'.roots.count = w.roots.count + 1 := by
  cases h with
  | makeDir name =>
    cases hchange with
    | createRootFolder _ _ =>
      rw [Forest.push, Forest.toList_append, Forest.count_append, Forest.count_cons]
      refine ⟨List.forall_mem_append.2 ⟨hw, fun f hf => ?_⟩, rfl⟩
      rw [List.mem_singleton.1 hf]
      exact Folder.made_empty name
  | npmInstall package hcwd =>
    obtain ⟨name, -, rfl⟩ := last?_of_currentFolder? hcwd
    cases hchange with
    | @createFile _ _ _ h g _ hat _ =>
      obtain ⟨-, before, after, -, hfill⟩ := hat.among_roots
      rw [hat.roots, hfill] at hw ⊢
      rw [hfill]
      simp only [Forest.toList_append, Forest.toList, List.forall_mem_append,
        List.forall_mem_cons] at hw ⊢
      refine ⟨⟨hw.1, hw.2.1.addFile rfl, hw.2.2⟩, ?_⟩
      simp only [Forest.count_append, Forest.count_cons, List.length_append, List.length_singleton]
      omega
  | createReactApp app hcwd =>
    obtain ⟨name, -, rfl⟩ := last?_of_currentFolder? hcwd
    cases hchange with
    | @insertTemplates _ _ h g hwell hdistinct hat hfree =>
      obtain ⟨-, before, after, -, hfill⟩ := hat.among_roots
      have hvalid : ValidName app := (hwell _ List.mem_cons_self).name
      have happ : app ≠ Scaffold.packageFolder := fun happ =>
        (List.nodup_cons.1 hdistinct).1 (happ ▸ List.mem_cons_self)
      rw [hat.roots, hfill] at hw ⊢
      rw [hfill]
      simp only [Forest.toList_append, Forest.toList, List.forall_mem_append,
        List.forall_mem_cons] at hw ⊢
      have hinside : g.inside = .nil :=
        hw.2.1.inside_eq_nil (hfree _ (List.mem_cons_of_mem _ List.mem_cons_self))
      refine ⟨⟨hw.1, hw.2.1.addApp hinside w.ids hvalid happ, hw.2.2⟩, ?_⟩
      simp only [Forest.count_append, Forest.count_cons, if_pos hinside]
      rw [hinside, if_neg (by rintro ⟨⟩)]
      omega

/-- No command takes a file away. -/
theorem Requests.removed_eq_nil (h : Requests cwd command action success) (w : Workspace) :
    action.removed w = [] := by
  cases h <;> rfl

/-! ## Lines one after the other -/

/-- What holds of a store in which only commands have made changes: the shape of its roots, the
files that identifiers were handed out to, and the number of changes. -/
structure Grown (s : Store) : Prop where
  roots : ∀ f ∈ s.roots.toList, f.Made
  ids : ∃ ids, IdSource.start.HandsOut ids s.workspace.ids ∧ ids.Perm s.roots.fileIds
  version : s.version = UInt64.ofNat s.roots.count

theorem grown_empty : empty.Grown :=
  ⟨fun _ hf => absurd hf List.not_mem_nil, ⟨[], .none _, .refl _⟩, rfl⟩

theorem Grown.carriesOut (hs : s.Grown) (h : CarriesOut s cwd command e s') : s'.Grown := by
  rcases h.cases with rfl | ⟨action, success, r, w, hrequests, happly, rfl⟩
  · exact hs
  · obtain ⟨hroots, hcount⟩ := hrequests.made (change_of_apply happly) hs.roots
    obtain ⟨ids, hgiven, hperm⟩ := hs.ids
    obtain ⟨hgives, hmoved⟩ := fileIds_apply happly
    rw [hrequests.removed_eq_nil] at hmoved
    refine ⟨hroots, ⟨_, hgiven.append hgives, ?_⟩, ?_⟩
    · exact (hperm.append_right _).trans (List.perm_append_comm.trans hmoved)
    · show s.version + 1 = UInt64.ofNat w.roots.count
      rw [hcount, UInt64.ofNat_add, hs.version]
      rfl

/-- **What commands can build**, and how it is numbered and counted. -/
structure Built (s : Store) : Prop where
  /-- Every root has the shape that commands give it. -/
  roots : ∀ f ∈ s.roots.toList, f.Made
  /-- The files are numbered from 1 on, without gap or repetition. -/
  ids : s.roots.files.length < UInt64.size - 1 →
    (s.roots.fileIds.map (·.raw.toNat)).Perm (List.range' 1 s.roots.files.length)
  /-- The version is the number of roots, of files directly in them, and of roots with child
  folders, up to wrap-around. -/
  version : s.version = UInt64.ofNat (s.roots.toList.length +
    (s.roots.toList.flatMap Folder.files).length + (s.roots.toList.filter (·.inside ≠ .nil)).length)

theorem Grown.built (hs : s.Grown) : s.Built := by
  refine ⟨hs.roots, fun hfew => ?_, hs.version⟩
  obtain ⟨ids, hgiven, hperm⟩ := hs.ids
  have hlength : ids.length = s.roots.files.length := by
    rw [hperm.length_eq, Forest.fileIds, List.length_map]
  have hroom : IdSource.start.next.raw.toNat + ids.length < UInt64.size := by
    show 1 + ids.length < UInt64.size
    omega
  have hnumbers := (hgiven.numbers hroom).1
  rw [hlength] at hnumbers
  exact (hperm.map _).symm.trans (.of_eq hnumbers)

/-- **The shape of everything that commands can build.** Whatever lines are carried out from the
store without folders on, in whatever working paths, every root is one that commands make, the files
are numbered from 1 on, and the version counts what has been built. -/
theorem built_evaluateAll (lines : List (String × WorkingPath)) :
    (empty.evaluateAll lines).Built :=
  (evaluateAll_preserves (fun _ _ _ _ _ hs h => hs.carriesOut h) grown_empty lines).built

/-- A package is not installed in the folder of the application, and a second application is
refused. -/
example :
    let lines : List (String × WorkingPath) :=
      [("mkdir shop", .root), ("npx create-react-app web", ⟨["shop"]⟩),
        ("npm install react", ⟨["shop", "web"]⟩), ("npx create-react-app api", ⟨["shop"]⟩),
        ("npm install react", ⟨["shop"]⟩)]
    let s := empty.evaluateAll lines
    s.roots.folders.map (fun f => (f.name, f.files.map (·.id.raw))) =
        [("shop", [6]), ("web", [1, 2, 3, 4, 5]), ("node_modules", [])] ∧
      s.version = 3 := by
  decide

end Store

end WorkspaceConsole

import WorkspaceConsole.Proofs.Manifest
import WorkspaceConsole.Proofs.Store.Growth
import WorkspaceConsole.Proofs.Store.Reserve

/-!
# New applications

A new application goes into the first root folder that has the last name of the working path. It is
made exactly if that folder has room for its names (`Store.CanCreate`), and then the folder gains
two child folders and nothing else happens (`Store.Creates`). Otherwise nothing happens at all, and
one line tells why. Of several reasons it tells the first one in the order of the checks
(`Store.refusal?`): the names of the application, then the root folder, then what that holds
already.

Main result: `evaluate_createReactApp`, for every store, working path and name.
-/

namespace WorkspaceConsole

/-! ## The batch of folders -/

namespace Scaffold

/-- The names of the files of an application. -/
def fileNames : List String :=
  ["index.js", "App.js", "index.html", "styles.css", "package.json"]

theorem checkNames_fileNames : checkNames [] fileNames = .ok () := by
  decide

theorem validName_packageFolder : ValidName packageFolder := by
  rw [← isValidName_iff]
  decide

theorem checkBatch_of_not_validName {app : String} (h : ¬ ValidName app) :
    FolderTemplate.checkBatch [] (templates app) = .error (.invalidName app) := by
  have hfresh : requireFreshName [] app = .error (.invalidName app) := by
    simp [requireFreshName, isValidName_eq_false_iff.2 h]
  rw [templates, FolderTemplate.checkBatch, hfresh]

theorem checkBatch_packageFolder :
    FolderTemplate.checkBatch [] (templates packageFolder) =
      .error (.nameExists packageFolder) := by
  decide

theorem wellNamed_templates {app : String} (h : ValidName app) :
    ∀ t ∈ templates app, t.WellNamed := by
  obtain ⟨hnames, hdistinct, -⟩ := checkNames_eq_ok_iff.1 checkNames_fileNames
  rw [templates, List.forall_mem_cons, List.forall_mem_singleton]
  have hnone : ∀ n ∈ ([] : List String), ValidName n := List.forall_mem_nil ValidName
  exact ⟨⟨h, hnames, hdistinct⟩, validName_packageFolder, hnone, List.nodup_nil⟩

end Scaffold

/-! ## Refusals of a batch -/

namespace Workspace

variable {w : Workspace} {ref : ParentRef} {ts : List FolderTemplate} {e : TreeError}

theorem insertTemplates_of_checkBatch (h : FolderTemplate.checkBatch [] ts = .error e) :
    w.insertTemplates ref ts = .error e := by
  rw [insertTemplates, h]
  rfl

theorem insertTemplates_of_parent? (hbatch : FolderTemplate.checkBatch [] ts = .ok ())
    (h : w.parent? ref = none) : w.insertTemplates ref ts = .error (.parentNotFound ref.name) := by
  rw [insertTemplates, hbatch, h]
  rfl

theorem insertTemplates_of_clash {g : Folder} {clash : FolderTemplate}
    (hbatch : FolderTemplate.checkBatch [] ts = .ok ()) (hg : w.parent? ref = some g)
    (h : (ts.find? fun t => g.hasChild t.name) = some clash) :
    w.insertTemplates ref ts = .error (.nameExists clash.name) := by
  simp only [insertTemplates, hbatch, hg, h]
  rfl

end Workspace

namespace Store

open Workspace

variable {s : Store} {cwd : WorkingPath} {root app : String}

/-! ## When it can be done -/

/-- The first root folder with this name. -/
def root? (s : Store) (name : String) : Option Folder :=
  s.roots.toList.find? (·.name = name)

/-- An application with this name can be created in the root folder with that name. -/
structure CanCreate (s : Store) (root app : String) : Prop where
  name : ValidName app
  notPackages : app ≠ "node_modules"
  /-- The first such root folder holds neither of the names. -/
  free : ∃ g, s.root? root = some g ∧ app ∉ g.childNames ∧ "node_modules" ∉ g.childNames

/-- What is said when the application is refused: the first reason in this order. -/
def refusal? (s : Store) (root app : String) : Option String :=
  if !isValidName app then some ("Invalid name: " ++ app)
  else if app = "node_modules" then some "Already exists: node_modules"
  else
    match s.root? root with
    | none => some ("Folder not found: " ++ root)
    | some g =>
      if app ∈ g.childNames then some ("Already exists: " ++ app)
      else if "node_modules" ∈ g.childNames then some "Already exists: node_modules"
      else none

theorem parent?_amongRoots (s : Store) (root : String) :
    s.workspace.parent? (.amongRoots root) = s.root? root :=
  Forest.sibling?_eq_find? root s.workspace.roots

/-- A valid name other than that of the packages passes all checks of the batch. -/
theorem checkBatch_templates (hname : ValidName app) (hpackages : app ≠ "node_modules") :
    FolderTemplate.checkBatch [] (Scaffold.templates app) = .ok () := by
  refine FolderTemplate.checkBatch_eq_ok_iff.2 ⟨Scaffold.wellNamed_templates hname, ?_, by simp⟩
  show [app, "node_modules"].Nodup
  simpa using hpackages

/-- The first folder of the batch whose name is taken. -/
theorem find?_templates (g : Folder) (app : String) :
    ((Scaffold.templates app).find? fun t => g.hasChild t.name) =
      if app ∈ g.childNames then some ⟨app, Scaffold.files app⟩
      else if "node_modules" ∈ g.childNames then some (.empty "node_modules")
      else none := by
  have hchild (name : String) : g.hasChild name = decide (name ∈ g.childNames) := by
    simp [Folder.hasChild]
  simp only [Scaffold.templates, List.find?_cons, hchild]
  by_cases happ : app ∈ g.childNames
  · simp [happ]
  · by_cases hheld : "node_modules" ∈ g.childNames <;>
      simp [happ, hheld, Scaffold.packageFolder, FolderTemplate.empty]

/-- **It can be done, or the store refuses** for the reason that is said. -/
theorem canCreate_or_refused (s : Store) (root app : String) :
    s.refusal? root app = none ∧ s.CanCreate root app ∨
      ∃ e : TreeError, s.refusal? root app = some e.notice ∧
        s.workspace.insertTemplates (.amongRoots root) (Scaffold.templates app) = .error e := by
  unfold refusal?
  by_cases hname : ValidName app
  · rw [(isValidName_iff app).2 hname]
    by_cases hpackages : app = "node_modules"
    · subst hpackages
      refine .inr ⟨.nameExists "node_modules", rfl, ?_⟩
      exact insertTemplates_of_checkBatch Scaffold.checkBatch_packageFolder
    · have hbatch := checkBatch_templates hname hpackages
      have hparent := s.parent?_amongRoots root
      rw [if_neg hpackages]
      cases hroot : s.root? root with
      | none =>
        have hrefused := insertTemplates_of_parent? hbatch (hparent.trans hroot)
        exact .inr ⟨.parentNotFound root, rfl, hrefused⟩
      | some g =>
        have hclash := find?_templates g app
        have hrefused {clash : FolderTemplate}
            (hfind : ((Scaffold.templates app).find? fun t => g.hasChild t.name) = some clash) :=
          insertTemplates_of_clash hbatch (hparent.trans hroot) hfind
        by_cases happ : app ∈ g.childNames
        · rw [if_pos happ] at hclash
          exact .inr ⟨.nameExists app, by simp only [if_pos happ]; rfl, hrefused hclash⟩
        · rw [if_neg happ] at hclash
          by_cases hheld : "node_modules" ∈ g.childNames
          · rw [if_pos hheld] at hclash
            refine .inr ⟨.nameExists "node_modules", ?_, hrefused hclash⟩
            simp only [if_neg happ, if_pos hheld]
            rfl
          · refine .inl ⟨?_, hname, hpackages, g, hroot, happ, hheld⟩
            simp only [if_neg happ, if_neg hheld]
            rfl
  · rw [isValidName_eq_false_iff.2 hname]
    refine .inr ⟨.invalidName app, rfl, ?_⟩
    exact insertTemplates_of_checkBatch (Scaffold.checkBatch_of_not_validName hname)

/-! ## What is made -/

/-- The store has come about by changes of a tree that it has taken over. -/
def Arises (s : Store) : Prop :=
  ∃ roots version actions, s.workspace = (run ⟨.ofRoots roots, version⟩ actions).workspace

/-- The files of a new application. -/
structure NewFiles (s : Store) (app : String) (new : List File) : Prop where
  names : new.map File.name =
    ["index.js", "App.js", "index.html", "styles.css", "package.json"]
  texts : new.map (fun x => (x.name, x.content)) = Scaffold.files app
  manifest : ∀ x ∈ new, x.name = "package.json" →
    Manifest.ofJson? x.content = some ⟨app, "1.0.0", .empty⟩
  /-- The identifiers are the next five of the store, in this order. -/
  numbers : new.map (·.id.raw.toNat) = List.range' s.workspace.ids.next.raw.toNat 5
  fresh : s.Arises → ∀ x ∈ new, x.id ∉ s.roots.fileIds

/-- **The application is created** in the first root folder with this name: after the child folders
of that stand the folder of the application and an empty one for packages, and everything else in
the tree is as it was. -/
structure Creates (s : Store) (root app : String) (e : Evaluation) (s' : Store) : Prop where
  evaluation : e = ⟨["Created React app: " ++ app], [.refreshTree]⟩
  version : s'.version = s.version + 1
  next : s'.workspace.ids.next.raw.toNat =
    min (s.workspace.ids.next.raw.toNat + 5) (UInt64.size - 1)
  roots : ∃ before files inside after new, s.NewFiles app new ∧ root ∉ before.names ∧
    s.roots = before ++ .cons root files inside after ∧
    s'.roots = before ++ .cons root files
      (inside ++ .cons app new .nil (.cons "node_modules" [] .nil .nil)) after

theorem Arises.ahead (h : s.Arises) : s.workspace.Ahead := by
  obtain ⟨roots, version, actions, hs⟩ := h
  rw [hs]
  exact ahead_run (Workspace.ahead_ofRoots roots) actions

/-- Files with the names and texts of an application and the next identifiers of the store. -/
theorem newFiles_of_handsOut {new : List File} {ids : IdSource}
    (hroom : s.workspace.ids.next.raw.toNat + 5 ≤ UInt64.size)
    (htexts : new.map (fun x => (x.name, x.content)) = Scaffold.files app)
    (hgive : s.workspace.ids.HandsOut (new.map File.id) ids) :
    s.NewFiles app new ∧
      ids.next.raw.toNat = min (s.workspace.ids.next.raw.toNat + 5) (UInt64.size - 1) := by
  have hlength : (new.map File.id).length = 5 := by
    simpa [Scaffold.files] using congrArg List.length htexts
  have hnumbers := hgive.consecutive (by rw [hlength]; exact hroom)
  rw [hlength, List.map_map] at hnumbers
  refine ⟨⟨?_, htexts, fun x hx hname => ?_, hnumbers.1, fun hs x hx hid => ?_⟩, hnumbers.2⟩
  · have hnames := congrArg (List.map Prod.fst) htexts
    rwa [List.map_map] at hnames
  · have hmem : (x.name, x.content) ∈ Scaffold.files app := by
      rw [← htexts]
      exact List.mem_map_of_mem (f := fun x : File => (x.name, x.content)) hx
    have hcontent : x.content = (Manifest.initial app).toJson := by
      simpa [Scaffold.files, hname] using hmem
    rw [hcontent, Manifest.ofJson?_toJson]
    rfl
  · have hmem : x.id.raw.toNat ∈ List.range' s.workspace.ids.next.raw.toNat 5 := by
      rw [← hnumbers.1]
      exact List.mem_map_of_mem (f := fun x : File => x.id.raw.toNat) hx
    have hnext := (List.mem_range'_1.1 hmem).1
    rcases hs.ahead x.id hid with hbelow | htop
    · omega
    · rw [UInt64.size] at hroom htop
      omega

/-- Where it can be done, the application is created. -/
theorem creates_of_canCreate (hroom : s.workspace.ids.next.raw.toNat + 5 ≤ UInt64.size)
    (h : s.CanCreate root app) :
    ∃ w, s.workspace.insertTemplates (.amongRoots root) (Scaffold.templates app) = .ok w ∧
      s.Creates root app ⟨["Created React app: " ++ app], [.refreshTree]⟩ ⟨w, s.version + 1⟩ := by
  obtain ⟨hname, hpackages, g, hroot, happ, hheld⟩ := h
  have hfound := (s.parent?_amongRoots root).trans hroot
  obtain ⟨place, hat⟩ := exists_parentAt hfound
  obtain ⟨hwell, hdistinct, -⟩ :=
    FolderTemplate.checkBatch_eq_ok_iff.1 (checkBatch_templates hname hpackages)
  have hfree : ∀ t ∈ Scaffold.templates app, t.name ∉ g.childNames := by
    rw [Scaffold.templates, List.forall_mem_cons, List.forall_mem_singleton]
    exact ⟨happ, hheld⟩
  have hinsert := insertTemplates_eq_ok_iff.2 ⟨hwell, hdistinct, place, g, hat, hfree, rfl⟩
  obtain ⟨hg, before, after, hbefore, hfill⟩ := hat.among_roots
  obtain ⟨hnew, hnext⟩ := newFiles_of_handsOut hroom
    (FolderTemplate.texts_buildFiles s.workspace.ids (Scaffold.files app))
    (FolderTemplate.handsOut_buildFiles s.workspace.ids (Scaffold.files app))
  refine ⟨_, hinsert, rfl, rfl, hnext, before, g.files, g.inside, after, _, hnew, hbefore, ?_, ?_⟩
  · rw [← hg]
    exact hat.roots.trans (hfill g)
  · rw [← hg]
    exact hfill _

theorem evaluate_eq_perform (s : Store) (hcwd : cwd.last? = some root) (hne : app.toList ≠ [])
    (hword : ∀ c ∈ app.toList, Text.isWordBreak c = false) (htrim : Text.trimmed app = app) :
    s.evaluate ("npx create-react-app " ++ app) cwd =
      s.perform (.insertTemplates (.amongRoots root) (Scaffold.templates app))
        ("Created React app: " ++ app) := by
  have hfolder : currentFolder? cwd = some (.amongRoots root) := by
    rw [currentFolder?, hcwd]
    rfl
  rw [evaluate, Command.parse_createReactApp hne hword htrim]
  simp only [carryOut, hfolder]

/-- **A new application is created exactly when it can be, and otherwise nothing happens.** The
store has room for five more identifiers, the working path ends in `root`, and `app` is a word
without blanks around it. -/
theorem evaluate_createReactApp
    (hroom : s.workspace.ids.next.raw.toNat + 5 ≤ UInt64.size)
    (hcwd : cwd.last? = some root) (hne : app.toList ≠ [])
    (hword : ∀ c ∈ app.toList, Text.isWordBreak c = false) (htrim : Text.trimmed app = app) :
    let e := (s.evaluate ("npx create-react-app " ++ app) cwd).1
    let s' := (s.evaluate ("npx create-react-app " ++ app) cwd).2
    (e = ⟨["Created React app: " ++ app], [.refreshTree]⟩ ↔ s.CanCreate root app) ∧
      match s.refusal? root app with
      | none => s.CanCreate root app ∧ s.Creates root app e s'
      | some notice => ¬ s.CanCreate root app ∧ e = ⟨[notice], []⟩ ∧ s' = s := by
  intro e s'
  have hperform := s.evaluate_eq_perform hcwd hne hword htrim
  rcases s.canCreate_or_refused root app with ⟨hnone, hcan⟩ | ⟨error, hnotice, hrefused⟩
  · obtain ⟨w, hinsert, hcreates⟩ := creates_of_canCreate hroom hcan
    have hevaluate : s.evaluate ("npx create-react-app " ++ app) cwd =
        (⟨["Created React app: " ++ app], [.refreshTree]⟩, ⟨w, s.version + 1⟩) := by
      rw [hperform, perform, dispatch, Action.apply, hinsert]
      rfl
    have he : e = ⟨["Created React app: " ++ app], [.refreshTree]⟩ := congrArg Prod.fst hevaluate
    have hs' : s' = ⟨w, s.version + 1⟩ := congrArg Prod.snd hevaluate
    rw [hnone, he, hs']
    exact ⟨⟨fun _ => hcan, fun _ => rfl⟩, hcan, hcreates⟩
  · have hcannot : ¬ s.CanCreate root app := by
      intro hcan
      obtain ⟨w, hinsert, -⟩ := creates_of_canCreate hroom hcan
      rw [hrefused] at hinsert
      cases hinsert
    have hevaluate : s.evaluate ("npx create-react-app " ++ app) cwd = (.line error.notice, s) := by
      rw [hperform, perform, dispatch, Action.apply, hrefused]
      rfl
    have he : e = ⟨[error.notice], []⟩ := congrArg Prod.fst hevaluate
    have hs' : s' = s := congrArg Prod.snd hevaluate
    rw [hnotice, he, hs']
    refine ⟨⟨fun h => ?_, fun hcan => absurd hcan hcannot⟩, hcannot, rfl, rfl⟩
    cases congrArg Evaluation.effects h

/-- The first of two root folders with one name gets the application, with the last identifiers that
there are. A name with a slash is refused before anything is looked up. -/
theorem evaluate_createReactApp_last :
    let file : File := ⟨⟨18446744073709551610⟩, "shop.txt", ""⟩
    let roots : Forest := .cons "course" [file] .nil (.cons "course" [] .nil .nil)
    let s : Store := ⟨.ofRoots roots, 0⟩
    let created := s.evaluate "npx create-react-app shop" ⟨["src", "course"]⟩
    s.workspace.ids.next.raw.toNat + 5 ≤ UInt64.size ∧ s.CanCreate "course" "shop" ∧
      s.Creates "course" "shop" created.1 created.2 ∧
      s.evaluate "npx create-react-app a/b" ⟨["missing"]⟩ = (⟨["Invalid name: a/b"], []⟩, s) := by
  intro file roots s created
  have hroom : s.workspace.ids.next.raw.toNat + 5 ≤ UInt64.size := Nat.le_refl _
  have hcreated := @evaluate_createReactApp s ⟨["src", "course"]⟩ "course" "shop" hroom rfl
    (by decide) (by simp [Text.isWordBreak]) (by decide)
  have hrefused := @evaluate_createReactApp s ⟨["missing"]⟩ "missing" "a/b" hroom rfl
    (by decide) (by simp [Text.isWordBreak]) (by decide)
  exact ⟨hroom, hcreated.2.1, hcreated.2.2, Prod.ext hrefused.2.2.1 hrefused.2.2.2⟩

end Store

end WorkspaceConsole

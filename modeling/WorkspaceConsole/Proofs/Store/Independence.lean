import WorkspaceConsole.Proofs.Store.Growth
import WorkspaceConsole.Proofs.Tree.Anonymous

/-!
# Commands on different roots

A command that installs a package or creates an application works on one root folder, the first one
that has the last name of the working path. What it says and what it adds depends on that folder and
on nothing else in the store, but for the identifiers of new files (`Store.Plan`). A command that
works on a root folder with another name does not touch it (`Store.Plan.Done`).

So two such commands can be carried out in either order (`commutes_evaluate`), whether they succeed
or not. Only the identifiers of the new files show which came first, as both commands take them from
one source.
-/

namespace WorkspaceConsole

/-- A change at the place of the parent folder is a change of a root folder. -/
theorem Workspace.ParentAt.fill_eq_adjust {w : Workspace} {root : String} {h : Hole} {g : Folder}
    (hat : w.ParentAt (.amongRoots root) h g) (f : Folder → Folder) :
    h.fill (f g) = w.roots.adjust root f := by
  have hmodify := hat.modify f
  rw [modifyParent] at hmodify
  cases hroots : w.modifyParent? (.amongRoots root) f with
  | none =>
    rw [hroots] at hmodify
    cases hmodify
  | some roots =>
    rw [hroots] at hmodify
    rw [← Except.ok.inj hmodify]
    exact (Forest.adjust_of_modifySibling? hroots).symm

/-! ## Additions to a root folder -/

/-- What is to be added to a root folder. -/
inductive Addition where
  | file (name content : String)
  | folders (ts : List FolderTemplate)

namespace Addition

variable {root : String} {w w' : Workspace} {r : Option FileId}

/-- The change that adds it to the first root folder with this name. -/
def action (root : String) : Addition → Action
  | file name content => .createFile (.amongRoots root) name content
  | folders ts => .insertTemplates (.amongRoots root) ts

/-- The check of the names that are to be added. -/
def checkNames : Addition → Except TreeError Unit
  | file name _ => requireName name
  | folders ts => FolderTemplate.checkBatch [] ts

/-- The first name to be added that a folder holds already. -/
def clash? (g : Folder) : Addition → Option String
  | file name _ => if g.hasChild name then some name else none
  | folders ts => (ts.find? fun t => g.hasChild t.name).map (·.name)

/-- What is checked, in this order, if `g?` is the folder that is to get the addition. -/
def checks (root : String) (g? : Option Folder) (x : Addition) : Except TreeError Unit := do
  x.checkNames
  match g? with
  | none => throw (.parentNotFound root)
  | some g =>
    match x.clash? g with
    | some name => throw (.nameExists name)
    | none => return ()

/-- A folder without identifiers, with the addition. -/
def extend : Addition → Folder → Folder
  | file name content, g => { g with files := g.files ++ [⟨⟨0⟩, name, content⟩] }
  | folders ts, g =>
    { g with inside := g.inside ++ (FolderTemplate.buildAll .start ts).1.anonymous }

theorem name_extend (x : Addition) (g : Folder) : (x.extend g).name = g.name := by
  cases x <;> rfl

/-- **The checks decide**, and they look at one folder. -/
theorem apply_checks (x : Addition) (root : String) (w : Workspace) :
    ((x.action root).apply w).map (fun _ => ()) = x.checks root (w.roots.sibling? root) := by
  have hparent : w.parent? (.amongRoots root) = w.roots.sibling? root := rfl
  unfold checks
  rw [← hparent]
  cases x with
  | file name content =>
    rw [action, Action.apply, Workspace.createFile, checkNames]
    cases requireName name with
    | error e => rfl
    | ok u =>
      rw [Workspace.parentWithout]
      cases hg : w.parent? (.amongRoots root) with
      | none => rfl
      | some g =>
        obtain ⟨place, hat⟩ := Workspace.exists_parentAt hg
        by_cases hchild : g.hasChild name = true
        · simp only [clash?, if_pos hchild]
          rfl
        · simp only [clash?, if_neg hchild, IdSource.take, hat.modify]
          rfl
  | folders ts =>
    rw [action, Action.apply, Workspace.insertTemplates, checkNames]
    cases FolderTemplate.checkBatch [] ts with
    | error e => rfl
    | ok u =>
      cases hg : w.parent? (.amongRoots root) with
      | none => rfl
      | some g =>
        obtain ⟨place, hat⟩ := Workspace.exists_parentAt hg
        cases hclash : ts.find? fun t => g.hasChild t.name with
        | some clash =>
          simp only [clash?, hclash]
          rfl
        | none =>
          simp only [clash?, hclash, hat.modify]
          rfl

/-- **What is made** is made in one folder, and depends on the source in its identifiers only. -/
theorem exists_adjust {x : Addition} (happly : (x.action root).apply w = .ok (r, w')) :
    ∃ f : Folder → Folder, (∀ g, (f g).name = g.name) ∧
      (∀ g, (f g).anonymous = x.extend g.anonymous) ∧ w'.roots = w.roots.adjust root f := by
  have hchange := change_of_apply happly
  cases x with
  | file name content =>
    cases hchange with
    | createFile _ hat _ =>
      refine ⟨_, fun g => ?_, fun g => ?_, hat.fill_eq_adjust fun g =>
        { g with files := g.files ++ [⟨w.ids.take.1, name, content⟩] }⟩
      · rfl
      · rw [Folder.anonymous, List.map_append]
        rfl
  | folders ts =>
    cases hchange with
    | insertTemplates _ _ hat _ =>
      refine ⟨_, fun g => ?_, fun g => ?_, hat.fill_eq_adjust fun g =>
        { g with inside := g.inside ++ (FolderTemplate.buildAll w.ids ts).1 }⟩
      · rfl
      · rw [Folder.anonymous, Forest.anonymous_append,
          FolderTemplate.anonymous_buildAll w.ids .start]
        rfl

end Addition

namespace Store

/-! ## Commands on one root folder -/

/-- What a command does, as far as it depends on the root folder that it works on. -/
structure Plan where
  evaluation : Evaluation
  changes : UInt64
  change : Folder → Folder
  keepsName : ∀ g, (change g).name = g.name

/-- The plan for the root folder `root` is what has been done, and no root folder with another name
has been touched. -/
structure Plan.Done (p : Plan) (root : String) (s : Store) (e : Evaluation) (s' : Store) :
    Prop where
  evaluation : e = p.evaluation
  version : s'.version = s.version + p.changes
  tree : s'.roots.anonymous = s.roots.anonymous.adjust root p.change
  elsewhere : ∀ other, other ≠ root → s'.roots.sibling? other = s.roots.sibling? other

/-- Says something, and leaves everything as it is. -/
def Plan.say (e : Evaluation) : Plan :=
  ⟨e, 0, id, fun _ => rfl⟩

theorem Plan.done_say (root : String) (s : Store) (e : Evaluation) :
    (say e).Done root s e s where
  evaluation := rfl
  version := (UInt64.add_zero s.version).symm
  tree := (Forest.adjust_id root s.roots.anonymous).symm
  elsewhere _ _ := rfl

/-- Adds something to the folder if the checks let it. -/
def Plan.add (root : String) (x : Addition) (success : String) (g? : Option Folder) : Plan :=
  match x.checks root g? with
  | .ok () => ⟨(Evaluation.line success).withEffect .refreshTree, 1, x.extend, x.name_extend⟩
  | .error e => .say (.line e.notice)

/-- **An addition goes by the plan** for the folder as it is found. -/
theorem Plan.done_add (root : String) (x : Addition) (success : String) (s : Store) :
    (add root x success (s.roots.sibling? root)).Done root s
      (s.perform (x.action root) success).1 (s.perform (x.action root) success).2 := by
  have hchecks : _ = x.checks root (s.roots.sibling? root) := x.apply_checks root s.workspace
  rw [perform, add, ← hchecks]
  rcases s.dispatch_cases (x.action root) with ⟨r, w, happly, hd⟩ | ⟨e, happly, hd⟩
  · obtain ⟨f, hname, hf, hroots⟩ := Addition.exists_adjust happly
    rw [hd, happly]
    refine ⟨rfl, rfl, ?_, fun other hne => ?_⟩
    · show w.roots.anonymous = _
      rw [hroots]
      exact Forest.anonymous_adjust hf s.roots
    · show w.roots.sibling? other = _
      rw [hroots]
      exact Forest.sibling?_adjust hname hne s.roots
  · rw [hd, happly]
    exact Plan.done_say root s _

end Store

/-! ## Two commands -/

/-- The command installs a package or creates an application, or it lacks the name for that. -/
inductive Command.Adds : Command → Prop
  | npmInstall (package : Option String) : Adds (.npmInstall package)
  | createReactApp (app : Option String) : Adds (.createReactApp app)

/-- So it is with these words, whatever comes after them. -/
theorem Command.adds_append (arg : String) :
    (parse ("npm install " ++ arg)).Adds ∧ (parse ("npx create-react-app " ++ arg)).Adds := by
  obtain ⟨package, hpackage⟩ := parse_npmInstall_append arg
  obtain ⟨app, happ⟩ := parse_createReactApp_append arg
  rw [hpackage, happ]
  exact ⟨.npmInstall package, .createReactApp app⟩

namespace Store

variable {cwd : WorkingPath} {root : String}

/-- **A command goes by a plan** for the root folder that it works on. -/
theorem exists_plan {line : String} (hadds : (Command.parse line).Adds)
    (hcwd : cwd.last? = some root) :
    ∃ plan : Option Folder → Plan, ∀ s : Store, (plan (s.roots.sibling? root)).Done root s
      (s.evaluate line cwd).1 (s.evaluate line cwd).2 := by
  have hparent : currentFolder? cwd = some (.amongRoots root) := by
    rw [currentFolder?, hcwd]
    rfl
  simp only [evaluate]
  generalize Command.parse line = command at hadds ⊢
  cases hadds with
  | npmInstall package =>
    cases package with
    | none => exact ⟨fun _ => .say _, fun s => Plan.done_say root s _⟩
    | some package =>
      refine ⟨.add root (.file package "") ("Installed package " ++ package), fun s => ?_⟩
      simp only [carryOut, hparent]
      exact Plan.done_add root _ _ s
  | createReactApp app =>
    cases app with
    | none => exact ⟨fun _ => .say _, fun s => Plan.done_say root s _⟩
    | some app =>
      refine ⟨.add root (.folders (Scaffold.templates app)) ("Created React app: " ++ app),
        fun s => ?_⟩
      simp only [carryOut, hparent]
      exact Plan.done_add root _ _ s

theorem embeds_evaluate (s : Store) (line : String) (cwd : WorkingPath) :
    s.roots.Embeds (s.evaluate line cwd).2.roots :=
  (s.carriesOut_carryOut (Command.parse line) cwd).grows.embeds

/-- It does not matter in which order two lines are carried out, each in its working path. -/
structure Commutes (s : Store) (one two : String × WorkingPath) : Prop where
  first : (s.evaluate one.1 one.2).1 = ((s.evaluateAll [two]).evaluate one.1 one.2).1
  second : (s.evaluate two.1 two.2).1 = ((s.evaluateAll [one]).evaluate two.1 two.2).1
  version : (s.evaluateAll [one, two]).version = (s.evaluateAll [two, one]).version
  tree : (s.evaluateAll [one, two]).roots.anonymous = (s.evaluateAll [two, one]).roots.anonymous
  /-- The files that were there before are still there, with their identifiers. -/
  kept : s.roots.Embeds (s.evaluateAll [one, two]).roots ∧
    s.roots.Embeds (s.evaluateAll [two, one]).roots

/-- **Commands on different roots commute.** -/
theorem commutes_evaluate (s : Store) {line₁ line₂ : String} {cwd₁ cwd₂ : WorkingPath}
    {root₁ root₂ : String} (hadds₁ : (Command.parse line₁).Adds)
    (hadds₂ : (Command.parse line₂).Adds) (hcwd₁ : cwd₁.last? = some root₁)
    (hcwd₂ : cwd₂.last? = some root₂) (hne : root₁ ≠ root₂) :
    s.Commutes (line₁, cwd₁) (line₂, cwd₂) := by
  obtain ⟨plan₁, hplan₁⟩ := exists_plan hadds₁ hcwd₁
  obtain ⟨plan₂, hplan₂⟩ := exists_plan hadds₂ hcwd₂
  have h₁ := hplan₁ s
  have h₂ := hplan₂ s
  -- The second command finds its folder as it was, so it goes by the same plan.
  have h₁₂ := hplan₂ (s.evaluate line₁ cwd₁).2
  have h₂₁ := hplan₁ (s.evaluate line₂ cwd₂).2
  rw [show (s.evaluate line₁ cwd₁).2.roots.sibling? root₂ = _ from h₁.elsewhere root₂ hne.symm]
    at h₁₂
  rw [show (s.evaluate line₂ cwd₂).2.roots.sibling? root₁ = _ from h₂.elsewhere root₁ hne] at h₂₁
  constructor
  all_goals simp only [evaluateAll_cons, evaluateAll_nil]
  · exact h₁.evaluation.trans h₂₁.evaluation.symm
  · exact h₂.evaluation.trans h₁₂.evaluation.symm
  · rw [h₁₂.version, h₁.version, h₂₁.version, h₂.version, UInt64.add_assoc, UInt64.add_assoc,
      UInt64.add_comm (plan₁ _).changes]
  · rw [h₁₂.tree, h₁.tree, h₂₁.tree, h₂.tree]
    exact Forest.adjust_comm (plan₁ _).keepsName (plan₂ _).keepsName hne _
  · exact ⟨(s.embeds_evaluate line₁ cwd₁).trans (embeds_evaluate _ line₂ cwd₂),
      (s.embeds_evaluate line₂ cwd₂).trans (embeds_evaluate _ line₁ cwd₁)⟩

/-- Two packages are installed in different folders: the identifiers show which came first. -/
theorem commutes_evaluate_packages :
    let s : Store :=
      ⟨⟨.cons "app" [⟨⟨4⟩, "a", "edited"⟩] .nil (.cons "web" [] .nil .nil), ⟨⟨5⟩⟩⟩, 7⟩
    let react : String × WorkingPath := ("npm install " ++ "react", ⟨["app"]⟩)
    let vue : String × WorkingPath := ("npm install " ++ "vue", ⟨["app", "web"]⟩)
    (Command.parse react.1).Adds ∧ (Command.parse vue.1).Adds ∧ react.2.last? = some "app" ∧
      vue.2.last? = some "web" ∧ "app" ≠ "web" ∧ s.Commutes react vue ∧
      (s.evaluateAll [react, vue]).roots =
        .cons "app" [⟨⟨4⟩, "a", "edited"⟩, ⟨⟨5⟩, "react", ""⟩] .nil
          (.cons "web" [⟨⟨6⟩, "vue", ""⟩] .nil .nil) ∧
      (s.evaluateAll [vue, react]).roots =
        .cons "app" [⟨⟨4⟩, "a", "edited"⟩, ⟨⟨6⟩, "react", ""⟩] .nil
          (.cons "web" [⟨⟨5⟩, "vue", ""⟩] .nil .nil) := by
  intro s react vue
  have hreact := (Command.adds_append "react").1
  have hvue := (Command.adds_append "vue").1
  exact ⟨hreact, hvue, rfl, rfl, by decide, commutes_evaluate s hreact hvue rfl rfl (by decide),
    by decide, by decide⟩

end Store

end WorkspaceConsole

import WorkspaceConsole.Interpreter
import WorkspaceConsole.Proofs.Command
import WorkspaceConsole.Proofs.Store.Atomic

/-!
# A simulated command says what it has changed

Three kinds of commands ask for a change of the store (`Requests`), and one moves the session. Each
of them can be refused, for a reason that is told in one line. `CarriesOut` has one case for every
way in which a command can end, with what has been found in the store.

A front end sees only the effects. They tell all that it has to know (`honest_evaluate`): it is
asked to read the tree again exactly when the tree has changed, and to move exactly when there is a
folder to move to.
-/

namespace WorkspaceConsole

/-- A tree with more siblings is another tree. -/
theorem Forest.append_cons_ne (a : Forest) (name : String) (files : List File)
    (inside rest : Forest) : a ++ cons name files inside rest ≠ a := by
  intro h
  have hfolders := congrArg (List.length ∘ folders) h
  simp only [Function.comp, folders_append, List.length_append, folders, List.length_cons]
    at hfolders
  omega

namespace Store

variable {s : Store} {cwd : WorkingPath} {command : Command} {action : Action} {success : String}

/-! ## Requests -/

/-- In this working path the command asks for the change, and says `success` when it is made. -/
inductive Requests (cwd : WorkingPath) : Command → Action → String → Prop
  | makeDir (name : String) :
      Requests cwd (.makeDir (some name)) (.createRootFolder name) ("Created directory: " ++ name)
  | npmInstall {parent : ParentRef} (package : String) : currentFolder? cwd = some parent →
      Requests cwd (.npmInstall (some package)) (.createFile parent package "")
        ("Installed package " ++ package)
  | createReactApp {parent : ParentRef} (app : String) : currentFolder? cwd = some parent →
      Requests cwd (.createReactApp (some app))
        (.insertTemplates parent (Scaffold.templates app)) ("Created React app: " ++ app)

/-- A change that a command asks for makes another tree. -/
theorem Requests.roots_ne {w w' : Workspace} {r : Option FileId}
    (h : Requests cwd command action success) (hchange : Change w action r w') :
    w'.roots ≠ w.roots := by
  cases h with
  | makeDir name =>
    cases hchange with
    | createRootFolder _ _ => exact Forest.append_cons_ne w.roots name [] .nil .nil
  | npmInstall package _ =>
    cases hchange with
    | createFile _ hat _ =>
      intro hsame
      rw [hat.roots] at hsame
      have hfiles := congrArg (List.length ∘ Folder.files) (Hole.fill_injective _ hsame)
      simp at hfiles
  | createReactApp app _ =>
    cases hchange with
    | insertTemplates _ _ hat _ =>
      intro hsame
      rw [hat.roots] at hsame
      exact Forest.append_cons_ne _ _ _ _ _ (congrArg Folder.inside (Hole.fill_injective _ hsame))

/-- A command asks for one change. -/
theorem Requests.unique {action' : Action} {success' : String}
    (h : Requests cwd command action success) (h' : Requests cwd command action' success') :
    action' = action := by
  cases h with
  | makeDir name => cases h'; rfl
  | npmInstall package hcwd =>
    cases h' with
    | npmInstall _ hcwd' =>
      rw [hcwd] at hcwd'
      cases hcwd'
      rfl
  | createReactApp app hcwd =>
    cases h' with
    | createReactApp _ hcwd' =>
      rw [hcwd] at hcwd'
      cases hcwd'
      rfl

/-! ## Commands -/

/-- What carrying out a command in this working path can yield, and make of the store. -/
inductive CarriesOut (s : Store) (cwd : WorkingPath) : Command → Evaluation → Store → Prop
  | blank : CarriesOut s cwd .blank .silent s
  | changes {command : Command} {action : Action} {success : String} {r : Option FileId}
      {w : Workspace} : Requests cwd command action success →
      action.apply s.workspace = .ok (r, w) →
      CarriesOut s cwd command ⟨[success], [.refreshTree]⟩ ⟨w, s.version + 1⟩
  | refuses {command : Command} {action : Action} {success : String} {e : TreeError} :
      Requests cwd command action success → action.apply s.workspace = .error e →
      CarriesOut s cwd command (.line e.notice) s
  | notInside {command : Command} {argument : String} : currentFolder? cwd = none →
      command = .npmInstall (some argument) ∨ command = .createReactApp (some argument) →
      CarriesOut s cwd command (.line notInFolder) s
  | moves {name : String} {g : Folder} : s.roots.folder? name = some g →
      CarriesOut s cwd (.changeDir (some name))
        ⟨["Changed directory to " ++ name], [.changeDirectory (cwd.join name)]⟩ s
  | missesFolder {name : String} : s.roots.folder? name = none →
      CarriesOut s cwd (.changeDir (some name)) (.line ("Folder not found: " ++ name)) s
  | runs {file : String} {x : File} : isJavaFile file = true →
      s.roots.fileNamed? file = some x →
      CarriesOut s cwd (.java (some file))
        ⟨["Running " ++ file ++ "...", "Output of " ++ file ++ ": Hello World!"], []⟩ s
  | missesFile {file : String} : isJavaFile file = false ∨ s.roots.fileNamed? file = none →
      CarriesOut s cwd (.java (some file)) (.line ("File not found: " ++ file)) s
  | misused {command : Command} {usage : String} : command.argument? = none →
      command.usage? = some usage → CarriesOut s cwd command (.line usage) s
  | unknown (line : String) :
      CarriesOut s cwd (.unknown line) (.line ("Command not recognized: " ++ line)) s

theorem carriesOut_perform (s : Store) (h : Requests cwd command action success) :
    CarriesOut s cwd command (s.perform action success).1 (s.perform action success).2 := by
  rw [perform]
  rcases s.dispatch_cases action with ⟨r, w, happly, hd⟩ | ⟨e, happly, hd⟩
  · rw [hd]
    exact .changes h happly
  · rw [hd]
    exact .refuses h happly

theorem carriesOut_changeDir (s : Store) (name : String) (cwd : WorkingPath) :
    CarriesOut s cwd (.changeDir (some name)) (s.changeDir name cwd) s := by
  rw [changeDir]
  cases hg : s.roots.folder? name with
  | none => exact .missesFolder hg
  | some g => exact .moves hg

theorem carriesOut_runJava (s : Store) (file : String) (cwd : WorkingPath) :
    CarriesOut s cwd (.java (some file)) (s.runJava file) s := by
  rw [runJava]
  cases hjava : isJavaFile file with
  | false => exact .missesFile (.inl hjava)
  | true =>
    cases hx : s.roots.fileNamed? file with
    | none => exact .missesFile (.inr hx)
    | some x => exact .runs hjava hx

/-- **What a command does.** -/
theorem carriesOut_carryOut (s : Store) (command : Command) (cwd : WorkingPath) :
    CarriesOut s cwd command (s.carryOut command cwd).1 (s.carryOut command cwd).2 := by
  cases command with
  | blank => exact .blank
  | unknown line => exact .unknown line
  | changeDir arg =>
    cases arg with
    | none => exact .misused rfl rfl
    | some name => exact s.carriesOut_changeDir name cwd
  | makeDir arg =>
    cases arg with
    | none => exact .misused rfl rfl
    | some name => exact s.carriesOut_perform (.makeDir name)
  | npmInstall arg =>
    cases arg with
    | none => exact .misused rfl rfl
    | some package =>
      rw [carryOut]
      cases hcwd : currentFolder? cwd with
      | none => exact .notInside hcwd (.inl rfl)
      | some parent => exact s.carriesOut_perform (.npmInstall package hcwd)
  | createReactApp arg =>
    cases arg with
    | none => exact .misused rfl rfl
    | some app =>
      rw [carryOut]
      cases hcwd : currentFolder? cwd with
      | none => exact .notInside hcwd (.inr rfl)
      | some parent => exact s.carriesOut_perform (.createReactApp app hcwd)
  | java arg =>
    cases arg with
    | none => exact .misused rfl rfl
    | some file => exact s.carriesOut_runJava file cwd

/-- Only a blank line says nothing. -/
theorem CarriesOut.lines_eq_nil_iff {e : Evaluation} {s' : Store}
    (h : CarriesOut s cwd command e s') : e.lines = [] ↔ command = .blank := by
  cases h with
  | blank => exact ⟨fun _ => rfl, fun _ => rfl⟩
  | changes h _ => cases h <;> exact ⟨nofun, nofun⟩
  | refuses h _ => cases h <;> exact ⟨nofun, nofun⟩
  | notInside _ h => rcases h with rfl | rfl <;> exact ⟨nofun, nofun⟩
  | misused _ husage =>
    refine ⟨nofun, ?_⟩
    rintro rfl
    cases husage
  | _ => exact ⟨nofun, nofun⟩

/-- The store is the one that the change leaves behind when it is made in place. -/
theorem CarriesOut.inPlace {e : Evaluation} {s' : Store} (h : CarriesOut s cwd command e s')
    (hasked : Requests cwd command action success) : (s.dispatchInPlace action).2 = s' := by
  rw [dispatchInPlace_eq_dispatch]
  cases h with
  | changes hrequests happly => rw [hrequests.unique hasked, dispatch, happly]
  | refuses hrequests happly => rw [hrequests.unique hasked, dispatch, happly]
  | notInside hcwd h =>
    rcases h with rfl | rfl
    · cases hasked with
      | npmInstall _ hparent => rw [hcwd] at hparent; cases hparent
    · cases hasked with
      | createReactApp _ hparent => rw [hcwd] at hparent; cases hparent
  | misused hargument _ => cases hasked <;> cases hargument
  | _ => cases hasked

/-! ## Effects -/

/-- The tree has changed, and the front end is told. -/
structure Mutates (s : Store) (cwd : WorkingPath) (command : Command) (e : Evaluation)
    (s' : Store) : Prop where
  effects : e.effects = [.refreshTree]
  version : s'.version = s.version + 1
  roots : s'.roots ≠ s.roots
  /-- There is one line, which says what has been made. -/
  lines : ∃ action success, Requests cwd command action success ∧ e.lines = [success]

/-- The session is told to enter a folder, which is somewhere in the tree. -/
structure Moves (s : Store) (cwd : WorkingPath) (command : Command) (name : String)
    (e : Evaluation) (s' : Store) : Prop where
  command : command = .changeDir (some name)
  effects : e.effects = [.changeDirectory (cwd.join name)]
  store : s' = s
  lines : e.lines = ["Changed directory to " ++ name]
  folder : ∃ g ∈ s.roots.folders, g.name = name

/-- Nothing has happened, and nobody is told anything. -/
structure Rests (s : Store) (e : Evaluation) (s' : Store) : Prop where
  effects : e.effects = []
  roots : s'.roots = s.roots
  ids : s'.workspace.ids = s.workspace.ids
  version : s'.version = s.version

/-- What the effects say is what has been done. -/
def Told (s : Store) (cwd : WorkingPath) (command : Command) (e : Evaluation)
    (s' : Store) : Prop :=
  match e.effects with
  | [] => s.Rests e s'
  | [.refreshTree] => s.Mutates cwd command e s'
  | [.changeDirectory path] => ∃ name, path = cwd.join name ∧ s.Moves cwd command name e s'
  | _ => False

theorem rests_of_effects {e : Evaluation} (he : e.effects = []) : s.Told cwd command e s := by
  rw [Told, he]
  exact ⟨he, rfl, rfl, rfl⟩

theorem CarriesOut.told {e : Evaluation} {s' : Store} (h : CarriesOut s cwd command e s') :
    s.Told cwd command e s' := by
  cases h with
  | changes hrequests happly =>
    have hchange := change_of_apply happly
    exact ⟨rfl, rfl, hrequests.roots_ne hchange, _, _, hrequests, rfl⟩
  | @moves name g hg =>
    have hfolder := Forest.mem_folders_of_folder? hg
    exact ⟨name, rfl, rfl, rfl, rfl, rfl, g, hfolder, Forest.name_of_folder? hg⟩
  | _ => exact rests_of_effects rfl

/-- The front end is asked to read the tree again exactly if that has changed. -/
theorem CarriesOut.refresh {e : Evaluation} {s' : Store} (h : CarriesOut s cwd command e s') :
    .refreshTree ∈ e.effects ↔ s'.roots ≠ s.roots := by
  cases h with
  | changes hrequests happly =>
    have hne := hrequests.roots_ne (change_of_apply happly)
    exact ⟨fun _ => hne, fun _ => List.mem_cons_self⟩
  | moves _ => simp
  | _ => exact ⟨nofun, fun hne => absurd rfl hne⟩

/-! ## Lines -/

/-- The lines that a command yields which runs a file of the tree. -/
def RunLines (s : Store) (command : Command) (lines : List String) : Prop :=
  ∃ file, command = .java (some file) ∧ isJavaFile file = true ∧
    (∃ x ∈ s.roots.files, x.name = file) ∧
    lines = ["Running " ++ file ++ "...", "Output of " ++ file ++ ": Hello World!"]

/-- A command that is not blank yields one line, unless it runs a file. -/
theorem CarriesOut.lines {e : Evaluation} {s' : Store} (h : CarriesOut s cwd command e s')
    (hcommand : command ≠ .blank) : e.lines.length = 1 ∨ s.RunLines command e.lines := by
  cases h with
  | blank => exact absurd rfl hcommand
  | @runs file x hjava hx =>
    rw [Forest.fileNamed?, Forest.fileWhere?_eq_find?] at hx
    have hname : x.name = file := by simpa using List.find?_some hx
    exact .inr ⟨file, rfl, hjava, ⟨x, List.mem_of_find?_eq_some hx, hname⟩, rfl⟩
  | _ => exact .inl rfl

/-- **A line says what it has done**, to the front end in its effects and to the user in its
output. -/
structure Honest (s : Store) (line : String) (cwd : WorkingPath) (e : Evaluation)
    (s' : Store) : Prop where
  told : s.Told cwd (Command.parse line) e s'
  /-- What a change leaves behind that is made in place is all that has been done. -/
  inPlace : ∀ action success, Requests cwd (Command.parse line) action success →
    (s.dispatchInPlace action).2 = s'
  /-- The tree has changed exactly if the front end is asked to read it again. -/
  refresh : .refreshTree ∈ e.effects ↔ s'.roots ≠ s.roots
  silent : e.lines = [] ↔ ∀ c ∈ line.toList, Text.isBlank c = true
  spoken : ¬ (∀ c ∈ line.toList, Text.isBlank c = true) →
    e.lines.length = 1 ∨ s.RunLines (Command.parse line) e.lines

/-- **Simulated commands are honest**, for every store, line and working path. -/
theorem honest_evaluate (s : Store) (line : String) (cwd : WorkingPath) :
    s.Honest line cwd (s.evaluate line cwd).1 (s.evaluate line cwd).2 := by
  have hcarries := s.carriesOut_carryOut (Command.parse line) cwd
  rw [evaluate]
  generalize s.carryOut (Command.parse line) cwd = yielded at hcarries ⊢
  refine ⟨hcarries.told, fun _ _ => hcarries.inPlace, hcarries.refresh, ?_, ?_⟩
  · rw [← Command.parse_eq_blank_iff]
    exact hcarries.lines_eq_nil_iff
  · rw [← Command.parse_eq_blank_iff]
    exact hcarries.lines

/-- One line of each kind: a change, a move, a refusal and a blank line. -/
example :
    let s := (Store.empty.evaluate "mkdir src" .root).2
    s = ⟨⟨.cons "src" [] .nil .nil, .start⟩, 1⟩ ∧
      s.evaluate " cd src " ⟨["bin"]⟩ =
        (⟨["Changed directory to src"], [.changeDirectory ⟨["bin", "src"]⟩]⟩, s) ∧
      s.evaluate "mkdir src" .root = (⟨["Already exists: src"], []⟩, s) ∧
      s.evaluate "\t \u00a0" .root = (⟨[], []⟩, s) := by
  decide

end Store

end WorkspaceConsole

import WorkspaceConsole.Proofs.Session.Line
import WorkspaceConsole.Proofs.Store.Growth
import WorkspaceConsole.Proofs.Store.Naming

/-!
# Valid names as arguments

Four rules meet in a command line. One says which names are valid, one which characters are trimmed
off a line, one where it is cut into words, and one which line breaks a paste ends at. They fit
together: a valid name is a word of its line, whatever other characters are in it.

So a folder that `mkdir` has made, or has found to be there, can be entered any number of times
(`runAll_cd`), and a package can be installed in it. **`runAll_validNames`** says this for every
store, session and name.
-/

namespace WorkspaceConsole

variable {name package : String}

/-! ## Roots -/

namespace Forest

theorem exists_sibling?_of_mem_names {a : Forest} (h : name ∈ a.names) :
    ∃ g, a.sibling? name = some g := by
  induction a with
  | nil => cases h
  | cons n files inside rest _ ih =>
    rw [sibling?]
    by_cases hn : n = name
    · exact ⟨_, if_pos hn⟩
    · rw [if_neg hn]
      exact ih (List.mem_of_ne_of_mem (Ne.symm hn) h)

theorem exists_folder?_of_mem_names {a : Forest} (h : name ∈ a.names) :
    ∃ g, a.folder? name = some g := by
  induction a with
  | nil => cases h
  | cons n files inside rest _ ih =>
    rw [folder?]
    by_cases hn : n = name
    · exact ⟨_, if_pos hn⟩
    · obtain ⟨g, hg⟩ := ih (List.mem_of_ne_of_mem (Ne.symm hn) h)
      rw [if_neg hn, hg]
      cases folder? name inside with
      | none => exact ⟨g, rfl⟩
      | some inner => exact ⟨inner, rfl⟩

end Forest

/-! ## Names that are taken -/

namespace Workspace

variable {w : Workspace} {ref : ParentRef} {content : String} {g : Folder}

theorem createRootFolder_of_mem (hname : ValidName name) (h : name ∈ w.roots.names) :
    w.createRootFolder name = .error (.nameExists name) := by
  have htaken : w.roots.names.contains name = true := by simpa using h
  rw [createRootFolder, requireName_eq_ok_iff.2 hname]
  exact if_pos htaken

theorem createFile_of_mem (hname : ValidName name) (hg : w.parent? ref = some g)
    (h : name ∈ g.childNames) : w.createFile ref name content = .error (.nameExists name) := by
  have htaken : w.parentWithout ref name = .error (.nameExists name) := by
    rw [parentWithout, hg]
    exact if_pos (hasChild_iff.2 h)
  rw [createFile, requireName_eq_ok_iff.2 hname, htaken]
  rfl

end Workspace

/-! ## Lines with a valid name -/

namespace Command

theorem parse_mkdir (hname : ValidName name) :
    Text.trimmed ("mkdir " ++ name) = "mkdir " ++ name ∧
      parse ("mkdir " ++ name) = .makeDir (some name) :=
  parse_append ["mkdir"] String.toList_append rfl rfl (by simp [Text.isWordBreak])
    hname.nonempty hname.isWordBreak hname.trimmed

theorem parse_cd (hname : ValidName name) :
    Text.trimmed ("cd " ++ name) = "cd " ++ name ∧
      parse ("cd " ++ name) = .changeDir (some name) :=
  parse_append ["cd"] String.toList_append rfl rfl (by simp [Text.isWordBreak])
    hname.nonempty hname.isWordBreak hname.trimmed

theorem parse_npmInstall (hname : ValidName name) :
    Text.trimmed ("npm install " ++ name) = "npm install " ++ name ∧
      parse ("npm install " ++ name) = .npmInstall (some name) :=
  parse_append ["npm", "install"] String.toList_append rfl rfl
    (by simp [Text.isWordBreak]) hname.nonempty hname.isWordBreak hname.trimmed

end Command

namespace Store

variable {s : Store} {cwd : WorkingPath}

/-- What `mkdir` yields, and makes of the store: the root folder is new, or there is one of that
name already. -/
inductive Makes (s : Store) (name : String) : Evaluation → Store → Prop
  | made : name ∉ s.roots.names →
      Makes s name ⟨["Created directory: " ++ name], [.refreshTree]⟩
        ⟨⟨s.roots.push (.empty name), s.workspace.ids⟩, s.version + 1⟩
  | found : name ∈ s.roots.names → Makes s name ⟨["Already exists: " ++ name], []⟩ s

/-- What `npm install` yields, and makes of the store: the first root folder called `root` has one
more file, the last and an empty one, or it has a child of that name already. -/
inductive Installs (s : Store) (root package : String) : Evaluation → Store → Prop
  | installed {before inside after : Forest} {files : List File} : root ∉ before.names →
      s.roots = before ++ .cons root files inside after →
      package ∉ Folder.childNames ⟨root, files, inside⟩ →
      Installs s root package ⟨["Installed package " ++ package], [.refreshTree]⟩
        ⟨⟨before ++ .cons root (files ++ [⟨s.workspace.ids.next, package, ""⟩]) inside after,
          s.workspace.ids.take.2⟩, s.version + 1⟩
  | found {before inside after : Forest} {files : List File} : root ∉ before.names →
      s.roots = before ++ .cons root files inside after →
      package ∈ Folder.childNames ⟨root, files, inside⟩ →
      Installs s root package ⟨["Already exists: " ++ package], []⟩ s

theorem makes_evaluate (s : Store) (hname : ValidName name) (cwd : WorkingPath) :
    s.Makes name (s.evaluate ("mkdir " ++ name) cwd).1 (s.evaluate ("mkdir " ++ name) cwd).2 := by
  rw [evaluate, (Command.parse_mkdir hname).2, carryOut, perform, dispatch, Action.apply]
  by_cases hroot : name ∈ s.roots.names
  · rw [Workspace.createRootFolder_of_mem hname hroot]
    exact .found hroot
  · rw [Workspace.createRootFolder_eq_ok_iff.2 ⟨hname, hroot, rfl⟩]
    exact .made hroot

theorem Makes.mem_names {e : Evaluation} {s' : Store} (h : s.Makes name e s') :
    name ∈ s'.roots.names := by
  cases h with
  | made _ =>
    show name ∈ (s.roots ++ .cons name [] .nil .nil).names
    rw [Forest.names_append]
    exact List.mem_append_right _ List.mem_cons_self
  | found hroot => exact hroot

/-- Neither of the two moves the session. -/
theorem Makes.destination {e : Evaluation} {s' : Store} (h : s.Makes name e s') :
    e.destination cwd = cwd := by
  cases h <;> rfl

theorem Installs.destination {e : Evaluation} {s' : Store} {root : String}
    (h : s.Installs root package e s') : e.destination cwd = cwd := by
  cases h <;> rfl

theorem evaluate_cd (hname : ValidName name) (hroot : name ∈ s.roots.names) (cwd : WorkingPath) :
    s.evaluate ("cd " ++ name) cwd =
      (⟨["Changed directory to " ++ name], [.changeDirectory (cwd.join name)]⟩, s) := by
  obtain ⟨g, hg⟩ := Forest.exists_folder?_of_mem_names hroot
  rw [evaluate, (Command.parse_cd hname).2, carryOut, changeDir, hg]
  rfl

theorem installs_evaluate (hpackage : ValidName package) (hcwd : cwd.last? = some name)
    (hroot : name ∈ s.roots.names) :
    s.Installs name package (s.evaluate ("npm install " ++ package) cwd).1
      (s.evaluate ("npm install " ++ package) cwd).2 := by
  obtain ⟨g, hg⟩ := Forest.exists_sibling?_of_mem_names hroot
  have hparent : s.workspace.parent? (.amongRoots name) = some g := hg
  obtain ⟨place, hat⟩ := Workspace.exists_parentAt hparent
  obtain ⟨hgname, before, after, hbefore, hfill⟩ := hat.among_roots
  have hroots : s.roots = before ++ .cons name g.files g.inside after := by
    rw [← hgname, ← hfill g]
    exact hat.roots
  have hfolder : currentFolder? cwd = some (.amongRoots name) := by
    rw [currentFolder?, hcwd]
    rfl
  rw [evaluate, (Command.parse_npmInstall hpackage).2]
  simp only [carryOut, hfolder, perform, dispatch, Action.apply]
  by_cases hheld : package ∈ g.childNames
  · rw [Workspace.createFile_of_mem hpackage hparent hheld]
    exact .found hbefore hroots hheld
  · rw [Workspace.createFile_eq_ok_iff.2 ⟨hpackage, place, g, hat, hheld, rfl, rfl⟩, hfill, hgname]
    exact .installed hbefore hroots hheld

end Store

/-! ## Sessions -/

/-- Line breaks are blanks, so a valid name is one line. -/
theorem ValidName.oneLine (hname : ValidName name) : Text.OneLine name :=
  Text.oneLine_of_forall (by decide) (by decide) hname.noBlank

/-- So is a line that ends in a valid name. -/
theorem ValidName.oneLine_append (hname : ValidName name) {before : String}
    (hbefore : Text.OneLine before) : Text.OneLine (before ++ name) :=
  hbefore.append hname.oneLine

namespace Session

variable {σ : Type} {s : Session} {b : Backend σ} {line : String}

/-- A whole line without blanks around it, which is simulated at once. -/
theorem runLine_simulated (hfree : s.inFlight = none) (hline : Text.OneLine line)
    (htrim : Text.trimmed line = line) (hne : line ≠ "") :
    (s.runLine .simulated line b).2 =
      ({ s with
          buffer := ""
          transcript := s.transcript ++ (echoMark ++ line) :: (b.store.evaluate line s.cwd).1.lines
          cwd := (b.store.evaluate line s.cwd).1.destination s.cwd
          nextTicket := s.nextTicket + 1 },
        { b with store := (b.store.evaluate line s.cwd).2 }) := by
  rw [runLine_eq hfree hline, enter, htrim, if_neg hne]
  simp [echo, Interpreter.evaluate]

/-- The session after a line that leaves it where it is. -/
def took (s : Session) (line : String) (e : Evaluation) : Session :=
  { s with
    buffer := ""
    transcript := s.transcript ++ (echoMark ++ line) :: e.lines
    nextTicket := s.nextTicket + 1 }

theorem runLine_mkdir (hname : ValidName name) (hfree : s.inFlight = none) (b : Backend σ) :
    ∃ e store, b.store.Makes name e store ∧
      (s.runLine .simulated ("mkdir " ++ name) b).2 =
        (s.took ("mkdir " ++ name) e, { b with store }) := by
  have hmakes := b.store.makes_evaluate hname s.cwd
  refine ⟨_, _, hmakes, ?_⟩
  rw [runLine_simulated hfree (hname.oneLine_append (by decide)) (Command.parse_mkdir hname).1
    (by simp), hmakes.destination, took]

theorem runLine_npmInstall (hpackage : ValidName package) (hfree : s.inFlight = none)
    (hcwd : s.cwd.last? = some name) (hroot : name ∈ b.store.roots.names) :
    ∃ e store, b.store.Installs name package e store ∧
      (s.runLine .simulated ("npm install " ++ package) b).2 =
        (s.took ("npm install " ++ package) e, { b with store }) := by
  have hinstalls := Store.installs_evaluate hpackage hcwd hroot
  refine ⟨_, _, hinstalls, ?_⟩
  rw [runLine_simulated hfree (hpackage.oneLine_append (by decide))
    (Command.parse_npmInstall hpackage).1 (by simp), hinstalls.destination, took]

/-- What entering the folder `name` adds to the transcript. -/
def moved (name : String) : List String :=
  [echoMark ++ ("cd " ++ name), "Changed directory to " ++ name]

theorem runLine_cd (hname : ValidName name) (hfree : s.inFlight = none)
    (hroot : name ∈ b.store.roots.names) :
    (s.runLine .simulated ("cd " ++ name) b).2 =
      ({ s with
          buffer := ""
          transcript := s.transcript ++ moved name
          cwd := s.cwd.join name
          nextTicket := s.nextTicket + 1 }, b) := by
  rw [runLine_simulated hfree (hname.oneLine_append (by decide)) (Command.parse_cd hname).1
    (by simp), Store.evaluate_cd hname hroot]
  rfl

/-- **A folder is entered** as often as one likes, if there is a root folder of that name. -/
theorem runAll_cd (hname : ValidName name) (hfree : s.inFlight = none)
    (hroot : name ∈ b.store.roots.names) (k : Nat) :
    let inside := s.runAll .simulated (List.replicate k ("cd " ++ name)) b
    inside.2 = b ∧ inside.1.inFlight = none ∧
      inside.1.transcript = s.transcript ++ (List.replicate k (moved name)).flatten ∧
      inside.1.cwd.segments = s.cwd.segments ++ List.replicate k name := by
  induction k generalizing s with
  | zero => simp [runAll, hfree]
  | succ k ih =>
    rw [List.replicate_succ, runAll, runLine_cd hname hfree hroot]
    obtain ⟨hback, hfree', htext, hcwd⟩ := ih (s := { s with
      buffer := ""
      transcript := s.transcript ++ moved name
      cwd := s.cwd.join name
      nextTicket := s.nextTicket + 1 }) hfree
    refine ⟨hback, hfree', ?_, ?_⟩
    · rw [htext, List.append_assoc]
      rfl
    · rw [hcwd, WorkingPath.join, List.append_assoc]
      rfl

/-- What comes of a session `s` and a backend `b` when the folder `name` is `made`, then entered `k`
times, and when `package` is installed there `after` that. -/
structure NamesWork (s : Session) (b : Backend σ) (name package : String) (k : Nat)
    (made inside after : Session × Backend σ) : Prop where
  /-- The root folder `name` is made unless it is there already. -/
  mkdir : ∃ e store, b.store.Makes name e store ∧
    made = (s.took ("mkdir " ++ name) e, { b with store })
  transcript : inside.1.transcript =
    made.1.transcript ++ (List.replicate k (moved name)).flatten
  cwd : inside.1.cwd.segments = s.cwd.segments ++ List.replicate k name
  /-- Moving changes nothing but the session. -/
  backend : inside.2 = made.2
  /-- The file `package` is added to the folder unless that has a child of this name. -/
  npmInstall : ∃ e store, made.2.store.Installs name package e store ∧
    after = (inside.1.took ("npm install " ++ package) e, { inside.2 with store })

/-- **Valid names work as arguments**, in every store and for every session that waits for
nothing. -/
theorem runAll_validNames (hname : ValidName name) (hpackage : ValidName package)
    (hfree : s.inFlight = none) (b : Backend σ) {k : Nat} (hk : 1 ≤ k) :
    let made := s.runAll .simulated ["mkdir " ++ name] b
    let inside := made.1.runAll .simulated (List.replicate k ("cd " ++ name)) made.2
    let after := inside.1.runAll .simulated ["npm install " ++ package] inside.2
    s.NamesWork b name package k made inside after := by
  intro made inside after
  obtain ⟨e, store, hmakes, hmade⟩ := s.runLine_mkdir hname hfree b
  rw [← runAll_singleton] at hmade
  have hfree' : made.1.inFlight = none := by
    rw [show made = _ from hmade]
    exact hfree
  have hroot : name ∈ made.2.store.roots.names := by
    rw [show made = _ from hmade]
    exact hmakes.mem_names
  have hcwd : made.1.cwd = s.cwd := by
    rw [show made = _ from hmade]
    rfl
  obtain ⟨hback, hwaits, htext, hpath⟩ := runAll_cd hname hfree' hroot k
  have hlast : inside.1.cwd.last? = some name := by
    obtain ⟨k, rfl⟩ := Nat.exists_eq_add_of_le' hk
    rw [WorkingPath.last?, hpath, List.replicate_succ', ← List.append_assoc,
      List.getLast?_concat]
  have hroot' : name ∈ inside.2.store.roots.names := by
    rw [show inside.2 = made.2 from hback]
    exact hroot
  obtain ⟨e', store', hinstalls, hafter⟩ := runLine_npmInstall hpackage hwaits hlast hroot'
  rw [← runAll_singleton] at hafter
  refine ⟨⟨e, store, hmakes, hmade⟩, htext, hcwd ▸ hpath, hback, e', store', ?_, hafter⟩
  rwa [show inside.2 = made.2 from hback] at hinstalls

/-- There are two root folders of that name already, and the session has been elsewhere: the file is
added to the first of them. -/
theorem runAll_validNames_twice :
    let s : Session := { id := 7, transcript := ["hi"], buffer := "ls", cwd := ⟨["bin"]⟩ }
    let roots : Forest := .cons "été" [] .nil (.cons "été" [] .nil .nil)
    let b : Backend Unit := ⟨⟨.ofRoots roots, 4⟩, ()⟩
    let made := s.runAll .simulated ["mkdir été"] b
    let inside := made.1.runAll .simulated ["cd été", "cd été"] made.2
    let after := inside.1.runAll .simulated ["npm install $x"] inside.2
    ValidName "été" ∧ ValidName "$x" ∧ s.inFlight = none ∧ 1 ≤ 2 ∧
      s.NamesWork b "été" "$x" 2 made inside after ∧
      after.1.transcript = ["hi", "$ mkdir été", "Already exists: été", "$ cd été",
        "Changed directory to été", "$ cd été", "Changed directory to été",
        "$ npm install $x", "Installed package $x"] ∧
      after.2.store.roots =
        .cons "été" [⟨IdSource.start.next, "$x", ""⟩] .nil (.cons "été" [] .nil .nil) := by
  intro s roots b made inside after
  have hname : ValidName "été" := (isValidName_iff _).1 (by decide)
  have hpackage : ValidName "$x" := (isValidName_iff _).1 (by decide)
  have hworks := runAll_validNames (s := s) hname hpackage rfl b (k := 2) (by decide)
  exact ⟨hname, hpackage, rfl, by decide, hworks, by decide +kernel, by decide +kernel⟩

end Session

end WorkspaceConsole

import WorkspaceConsole.Proofs.Store.Evaluation

/-!
# Simulated commands only add

A change that a command asks for adds a root folder, or it adds children to one root folder: the
first one that has the last name of the working path (`Forest.Grows`). Nothing else moves. So
whatever lines are carried out, each folder stays at its place, and its old files and child folders
stand before the new ones (`Forest.Embeds`).

**`embeds_evaluateAll`**: this holds for every store, also one with folders and files that no
command could have made.
-/

namespace WorkspaceConsole

namespace Forest

variable {a b c : Forest}

/-- Every folder of `a` stands in `b` at its old place and under its old name, with its old files
before any new ones. Folders that are new in `b` come after their old siblings. -/
inductive Embeds : Forest → Forest → Prop
  | nil (b : Forest) : Embeds nil b
  | cons {name : String} {files files' : List File} {inside inside' rest rest' : Forest} :
      files <+: files' → Embeds inside inside' → Embeds rest rest' →
      Embeds (cons name files inside rest) (cons name files' inside' rest')

theorem embeds_refl (a : Forest) : a.Embeds a := by
  induction a with
  | nil => exact .nil nil
  | cons name files inside rest ih₁ ih₂ => exact .cons List.prefix_rfl ih₁ ih₂

theorem Embeds.trans (hab : a.Embeds b) (hbc : b.Embeds c) : a.Embeds c := by
  induction hab generalizing c with
  | nil b => exact .nil c
  | cons hfiles _ _ ih₁ ih₂ =>
    cases hbc with
    | cons hfiles' hinside hrest => exact .cons (hfiles.trans hfiles') (ih₁ hinside) (ih₂ hrest)

theorem embeds_append (a b : Forest) : a.Embeds (a ++ b) := by
  induction a with
  | nil => exact .nil b
  | cons name files inside rest _ ih => exact .cons List.prefix_rfl inside.embeds_refl ih

theorem Embeds.append_left (before : Forest) (h : a.Embeds b) :
    (before ++ a).Embeds (before ++ b) := by
  induction before with
  | nil => exact h
  | cons name files inside rest _ ih => exact .cons List.prefix_rfl inside.embeds_refl ih

/-- The tree `a` is as it was, or it has one more root, or one of its folders has more children.
That folder is the first root called `last`. -/
inductive Grows (last : Option String) : Forest → Forest → Prop
  | same (a : Forest) : Grows last a a
  | root (a : Forest) (new : Folder) : Grows last a (a.push new)
  | children {name : String} {before : Forest} (files newFiles : List File)
      (inside newInside after : Forest) : last = some name → name ∉ before.names →
      Grows last (before ++ cons name files inside after)
        (before ++ cons name (files ++ newFiles) (inside ++ newInside) after)

theorem Grows.embeds {last : Option String} (h : Grows last a b) : a.Embeds b := by
  cases h with
  | same => exact a.embeds_refl
  | root new => exact a.embeds_append _
  | children files newFiles inside newInside after _ _ =>
    refine Embeds.append_left _ (.cons (List.prefix_append files newFiles) ?_ after.embeds_refl)
    exact inside.embeds_append newInside

/-! ## Places among the roots -/

/-- What a search among the siblings finds stands after siblings with other names. -/
theorem exists_split_of_sibling? {name : String} {g : Folder} (hg : a.sibling? name = some g) :
    ∃ before after, name ∉ before.names ∧ a = before ++ cons g.name g.files g.inside after := by
  induction a with
  | nil => cases hg
  | cons n files inside rest _ ih =>
    by_cases hn : n = name
    · rw [sibling?, if_pos hn] at hg
      cases hg
      exact ⟨nil, rest, List.not_mem_nil, rfl⟩
    · rw [sibling?, if_neg hn] at hg
      obtain ⟨before, after, hbefore, rfl⟩ := ih hg
      refine ⟨cons n files inside before, after, ?_, rfl⟩
      exact List.not_mem_cons_of_ne_of_not_mem (Ne.symm hn) hbefore

theorem modifySibling?_append {name : String} {before : Forest} (hbefore : name ∉ before.names)
    (f : Folder → Folder) (files : List File) (inside after : Forest) :
    (before ++ cons name files inside after).modifySibling? name f =
      some (before ++ cons (f ⟨name, files, inside⟩).name (f ⟨name, files, inside⟩).files
        (f ⟨name, files, inside⟩).inside after) := by
  induction before with
  | nil => rw [nil_append, modifySibling?, if_pos rfl]; rfl
  | cons n files' inside' rest _ ih =>
    obtain ⟨hn, hrest⟩ := List.ne_and_not_mem_of_not_mem_cons hbefore
    rw [cons_append, modifySibling?, if_neg (Ne.symm hn), ih hrest]
    rfl

end Forest

/-- A folder that is looked up among the roots is one of them, and an edit at its place leaves the
other roots alone. -/
theorem Workspace.ParentAt.among_roots {w : Workspace} {name : String} {h : Hole} {g : Folder}
    (hat : w.ParentAt (.amongRoots name) h g) :
    g.name = name ∧ ∃ before after, name ∉ before.names ∧
      ∀ f : Folder, h.fill f = before ++ .cons f.name f.files f.inside after := by
  obtain ⟨before, after, hbefore, hroots⟩ := Forest.exists_split_of_sibling? hat.found
  refine ⟨hat.name, before, after, hbefore, fun f => ?_⟩
  have hmodify := hat.modify fun _ => f
  rw [modifyParent, modifyParent?, hroots, show g.name = name from hat.name,
    Forest.modifySibling?_append hbefore] at hmodify
  exact (Except.ok.inj hmodify).symm

namespace Store

variable {s s' : Store} {cwd : WorkingPath} {command : Command} {action : Action}
  {success : String} {e : Evaluation}

theorem last?_of_currentFolder? {parent : ParentRef} (h : currentFolder? cwd = some parent) :
    ∃ name, cwd.last? = some name ∧ parent = .amongRoots name := by
  obtain ⟨name, hlast, hparent⟩ := Option.map_eq_some_iff.1 h
  exact ⟨name, hlast, hparent.symm⟩

/-- A change that a command asks for adds one root, or children to one root. -/
theorem Requests.grows {w w' : Workspace} {r : Option FileId}
    (h : Requests cwd command action success) (hchange : Change w action r w') :
    w.roots.Grows cwd.last? w'.roots := by
  cases h with
  | makeDir name =>
    cases hchange with
    | createRootFolder _ _ => exact .root w.roots (.empty name)
  | npmInstall package hcwd =>
    obtain ⟨name, hlast, rfl⟩ := last?_of_currentFolder? hcwd
    cases hchange with
    | @createFile _ _ _ h g _ hat _ =>
      obtain ⟨hname, before, after, hbefore, hfill⟩ := hat.among_roots
      rw [hat.roots, hfill, hfill, hname]
      have hgrows := Forest.Grows.children g.files [⟨w.ids.take.1, package, ""⟩] g.inside .nil
        after hlast hbefore
      rwa [Forest.append_nil] at hgrows
  | createReactApp app hcwd =>
    obtain ⟨name, hlast, rfl⟩ := last?_of_currentFolder? hcwd
    cases hchange with
    | @insertTemplates _ _ h g _ _ hat _ =>
      obtain ⟨hname, before, after, hbefore, hfill⟩ := hat.among_roots
      rw [hat.roots, hfill, hfill, hname]
      have hgrows := Forest.Grows.children g.files [] g.inside
        (FolderTemplate.buildAll w.ids (Scaffold.templates app)).1 after hlast hbefore
      rwa [List.append_nil] at hgrows

/-- A command makes the change that it asks for, or it leaves the store as it was. -/
theorem CarriesOut.cases (h : CarriesOut s cwd command e s') :
    s' = s ∨ ∃ action success r w, Requests cwd command action success ∧
      action.apply s.workspace = .ok (r, w) ∧ s' = ⟨w, s.version + 1⟩ := by
  cases h with
  | changes hrequests happly => exact .inr ⟨_, _, _, _, hrequests, happly, rfl⟩
  | _ => exact .inl rfl

theorem CarriesOut.grows (h : CarriesOut s cwd command e s') :
    s.roots.Grows cwd.last? s'.roots := by
  rcases h.cases with rfl | ⟨action, success, r, w, hrequests, happly, rfl⟩
  · exact .same s'.roots
  · exact hrequests.grows (change_of_apply happly)

/-! ## Lines one after the other -/

/-- The store after a list of lines, each carried out in a working path of its own. -/
def evaluateAll (s : Store) (lines : List (String × WorkingPath)) : Store :=
  lines.foldl (fun s call => (s.evaluate call.1 call.2).2) s

theorem evaluateAll_nil (s : Store) : s.evaluateAll [] = s := rfl

theorem evaluateAll_cons (s : Store) (call : String × WorkingPath)
    (lines : List (String × WorkingPath)) :
    s.evaluateAll (call :: lines) = (s.evaluate call.1 call.2).2.evaluateAll lines := rfl

/-- **What every command keeps, every list of lines keeps.** -/
theorem evaluateAll_preserves {P : Store → Prop}
    (hstep : ∀ s cwd command e s', P s → CarriesOut s cwd command e s' → P s') (hs : P s)
    (lines : List (String × WorkingPath)) : P (s.evaluateAll lines) := by
  induction lines generalizing s with
  | nil => exact hs
  | cons call lines ih =>
    exact ih (hstep s call.2 _ _ _ hs (s.carriesOut_carryOut (Command.parse call.1) call.2))

/-- **Simulated commands lose nothing.** After any lines the old tree stands unchanged in the new
one, and each single line adds at most one root, or children to the first root that has the last
name of its working path. -/
theorem embeds_evaluateAll (s : Store) :
    (∀ lines : List (String × WorkingPath), s.roots.Embeds (s.evaluateAll lines).roots) ∧
      ∀ line cwd, s.roots.Grows cwd.last? (s.evaluate line cwd).2.roots := by
  constructor
  · refine evaluateAll_preserves (P := fun t => s.roots.Embeds t.roots) ?_ s.roots.embeds_refl
    intro t cwd command e t' ht hcarries
    exact ht.trans hcarries.grows.embeds
  · intro line cwd
    exact (s.carriesOut_carryOut (Command.parse line) cwd).grows

/-- Two roots called `web`, as no command makes them: what is installed goes to the first. The
folder called `web` inside `app` stays as it is, since only roots are looked at. -/
example :
    let s : Store :=
      ⟨⟨.cons "app" [] (.cons "web" [] .nil .nil) (.cons "web" [⟨⟨7⟩, "a", "edited"⟩] .nil
        (.cons "web" [] .nil .nil)), ⟨⟨8⟩⟩⟩, 3⟩
    (s.evaluateAll [("npm install react", ⟨["x", "web"]⟩), ("npm install a", ⟨["web"]⟩)]).roots =
      .cons "app" [] (.cons "web" [] .nil .nil)
        (.cons "web" [⟨⟨7⟩, "a", "edited"⟩, ⟨⟨8⟩, "react", ""⟩] .nil
          (.cons "web" [] .nil .nil)) := by
  decide

end Store

end WorkspaceConsole

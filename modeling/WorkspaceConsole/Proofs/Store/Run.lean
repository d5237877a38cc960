import WorkspaceConsole.Proofs.Workspace.Operation
import WorkspaceConsole.Store

/-!
# Runs of the store

`Change w a r w'` tells everything that a successful change can do: its constructors are the seven
kinds of changes, each with what has been checked. A property of workspaces that every `Change`
keeps holds after any list of changes, whether or not each of them succeeds (`run_preserves`).
-/

namespace WorkspaceConsole

open Workspace

/-- The change `a` turns the workspace `w` into `w'` and reports `r`. -/
inductive Change (w : Workspace) : Action → Option FileId → Workspace → Prop
  | createRootFolder {name : String} :
      ValidName name → name ∉ w.roots.names →
      Change w (.createRootFolder name) none ⟨w.roots.push (.empty name), w.ids⟩
  | createFolder {ref : ParentRef} {name : String} {h : Hole} {g : Folder} :
      ValidName name → w.ParentAt ref h g → name ∉ g.childNames →
      Change w (.createFolder ref name) none
        ⟨h.fill { g with inside := g.inside.push (.empty name) }, w.ids⟩
  | createFile {ref : ParentRef} {name content : String} {h : Hole} {g : Folder} :
      ValidName name → w.ParentAt ref h g → name ∉ g.childNames →
      Change w (.createFile ref name content) (some w.ids.take.1)
        ⟨h.fill { g with files := g.files ++ [⟨w.ids.take.1, name, content⟩] }, w.ids.take.2⟩
  | insertTemplates {ref : ParentRef} {ts : List FolderTemplate} {h : Hole} {g : Folder} :
      (∀ t ∈ ts, t.WellNamed) → (ts.map FolderTemplate.name).Nodup → w.ParentAt ref h g →
      (∀ t ∈ ts, t.name ∉ g.childNames) →
      Change w (.insertTemplates ref ts) none
        ⟨h.fill { g with inside := g.inside ++ (FolderTemplate.buildAll w.ids ts).1 },
          (FolderTemplate.buildAll w.ids ts).2⟩
  | updateFileContent {id : FileId} {content : String} {h : Hole} {g : Folder} {x : File} :
      w.roots.file? id = some x → w.roots = h.fill g → g.files.find? (·.id = id) = some x →
      Change w (.updateFileContent id content) none
        ⟨h.fill { g with files := Forest.setContentIn id content g.files }, w.ids⟩
  | removeFolder {name : String} {h : Hole} {cut : Folder} :
      w.roots.folder? name = some cut → w.roots = h.fill cut →
      Change w (.removeFolder name) none ⟨h.close, w.ids⟩
  | removeFile {id : FileId} {h : Hole} {g : Folder} {x : File} :
      w.roots.file? id = some x → w.roots = h.fill g → g.files.find? (·.id = id) = some x →
      Change w (.removeFile id) none
        ⟨h.fill { g with files := g.files.eraseP (·.id = id) }, w.ids⟩

theorem change_of_apply {w w' : Workspace} {a : Action} {r : Option FileId}
    (h : a.apply w = .ok (r, w')) : Change w a r w' := by
  cases a with
  | createRootFolder name =>
    obtain ⟨v, hv, he⟩ := map_eq_ok_iff.1 h
    cases he
    obtain ⟨hname, hnew, rfl⟩ := createRootFolder_eq_ok_iff.1 hv
    exact .createRootFolder hname hnew
  | createFolder ref name =>
    obtain ⟨v, hv, he⟩ := map_eq_ok_iff.1 h
    cases he
    obtain ⟨hname, h, g, hat, hfree, rfl⟩ := createFolder_eq_ok_iff.1 hv
    exact .createFolder hname hat hfree
  | createFile ref name content =>
    obtain ⟨⟨id, v⟩, hv, he⟩ := map_eq_ok_iff.1 h
    cases he
    obtain ⟨hname, h, g, hat, hfree, rfl, rfl⟩ := createFile_eq_ok_iff.1 hv
    exact .createFile hname hat hfree
  | insertTemplates ref ts =>
    obtain ⟨v, hv, he⟩ := map_eq_ok_iff.1 h
    cases he
    obtain ⟨hwell, hdistinct, h, g, hat, hfree, rfl⟩ := insertTemplates_eq_ok_iff.1 hv
    exact .insertTemplates hwell hdistinct hat hfree
  | updateFileContent id content =>
    obtain ⟨v, hv, he⟩ := map_eq_ok_iff.1 h
    cases he
    obtain ⟨h, g, x, hx, hroots, hfind, rfl⟩ := of_updateFileContent_eq_ok hv
    exact .updateFileContent hx hroots hfind
  | removeFolder name =>
    obtain ⟨⟨cut, v⟩, hv, he⟩ := map_eq_ok_iff.1 h
    cases he
    obtain ⟨h, hcut, hroots, rfl⟩ := of_removeFolder_eq_ok hv
    exact .removeFolder hcut hroots
  | removeFile id =>
    obtain ⟨⟨x, v⟩, hv, he⟩ := map_eq_ok_iff.1 h
    cases he
    obtain ⟨h, g, hx, hroots, hfind, rfl⟩ := of_removeFile_eq_ok hv
    exact .removeFile hx hroots hfind

namespace Store

/-- The store after a list of changes, each applied or refused in turn. -/
def run (s : Store) : List Action → Store
  | [] => s
  | a :: as => (s.dispatch a).2.run as

@[simp] theorem run_nil (s : Store) : s.run [] = s := rfl

@[simp] theorem run_cons (s : Store) (a : Action) (as : List Action) :
    s.run (a :: as) = (s.dispatch a).2.run as := rfl

theorem run_append (s : Store) (as bs : List Action) :
    s.run (as ++ bs) = (s.run as).run bs := by
  induction as generalizing s with
  | nil => rfl
  | cons a as ih => exact ih (s.dispatch a).2

/-- A dispatched change takes effect, or it leaves the store as it was. -/
theorem dispatch_cases (s : Store) (a : Action) :
    (∃ r w, a.apply s.workspace = .ok (r, w) ∧ s.dispatch a = (.ok r, ⟨w, s.version + 1⟩)) ∨
      ∃ e, a.apply s.workspace = .error e ∧ s.dispatch a = (.error e, s) := by
  unfold dispatch
  cases a.apply s.workspace with
  | ok p => exact .inl ⟨p.1, p.2, rfl, rfl⟩
  | error e => exact .inr ⟨e, rfl, rfl⟩

/-- **What every change keeps, every run keeps.** -/
theorem run_preserves {P : Workspace → Prop}
    (hstep : ∀ w a r w', P w → Change w a r w' → P w') {s : Store} (hs : P s.workspace)
    (as : List Action) : P (s.run as).workspace := by
  induction as generalizing s with
  | nil => exact hs
  | cons a as ih =>
    refine ih ?_
    rcases dispatch_cases s a with ⟨r, w, happly, hd⟩ | ⟨e, -, hd⟩
    · rw [hd]
      exact hstep s.workspace a r w hs (change_of_apply happly)
    · rw [hd]
      exact hs

end Store

end WorkspaceConsole

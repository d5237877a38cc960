import WorkspaceConsole.Proofs.Store.Run
import WorkspaceConsole.Proofs.Workspace.InPlace

/-!
# Refused changes leave no trace

`Store.dispatch` gives back the old store when a change is refused. A store whose workspace is
edited in place has no old store to give back: it keeps whatever was written
(`Store.dispatchInPlace`). The two agree all the same, since a refused change has written nothing.

So a refused change can be left out of a run: the changes that remain have the same results and
lead to the same store (`refused_leave_no_trace`).
-/

namespace WorkspaceConsole

theorem Change.isSome_iff {w w' : Workspace} {a : Action} {r : Option FileId}
    (h : Change w a r w') :
    r.isSome ↔ ∃ parent name content, a = .createFile parent name content := by
  cases h <;> simp

namespace Store

/-- Applies a change to the workspace of the store itself, and counts it if it was not refused. What
a refused change has written stays. -/
def dispatchInPlace (s : Store) (a : Action) : Except TreeError (Option FileId) × Store :=
  match a.perform.run s.workspace with
  | .ok file w => (.ok file, ⟨w, s.version + 1⟩)
  | .error e w => (.error e, ⟨w, s.version⟩)

theorem dispatchInPlace_eq_dispatch (s : Store) (a : Action) :
    s.dispatchInPlace a = s.dispatch a := by
  rw [dispatchInPlace, dispatch, Edit.run_perform]
  cases a.apply s.workspace <;> rfl

/-! ## Leaving out what is refused -/

/-- What a run reports, change by change. -/
def results (s : Store) : List Action → List (Except TreeError (Option FileId))
  | [] => []
  | a :: as => (s.dispatch a).1 :: (s.dispatch a).2.results as

/-- The changes of a run that are not refused. -/
def accepted (s : Store) : List Action → List Action
  | [] => []
  | a :: as =>
    let rest := (s.dispatch a).2.accepted as
    if (s.dispatch a).1.isOk then a :: rest else rest

variable {s : Store} {a : Action}

theorem dispatch_snd_of_error (h : (s.dispatch a).1.isOk = false) : (s.dispatch a).2 = s := by
  rcases s.dispatch_cases a with ⟨r, w, -, hd⟩ | ⟨e, -, hd⟩
  · rw [hd] at h
    cases h
  · rw [hd]

theorem run_accepted (s : Store) (as : List Action) : s.run (s.accepted as) = s.run as := by
  induction as generalizing s with
  | nil => rfl
  | cons a as ih =>
    cases hok : (s.dispatch a).1.isOk with
    | true => rw [accepted, if_pos hok, run_cons, ih, run_cons]
    | false =>
      have hsame := dispatch_snd_of_error hok
      have hnot : ¬ (s.dispatch a).1.isOk = true := by simp [hok]
      rw [accepted, if_neg hnot, run_cons, hsame, ih]

theorem results_accepted (s : Store) (as : List Action) :
    s.results (s.accepted as) = (s.results as).filter (·.isOk) := by
  induction as generalizing s with
  | nil => rfl
  | cons a as ih =>
    cases hok : (s.dispatch a).1.isOk with
    | true =>
      rw [accepted, if_pos hok, results, ih, results, List.filter_cons_of_pos hok]
    | false =>
      have hsame := dispatch_snd_of_error hok
      have hnot : ¬ (s.dispatch a).1.isOk = true := by simp [hok]
      rw [accepted, if_neg hnot, results, List.filter_cons_of_neg hnot, hsame, ih]

end Store

/-- **Refused changes leave no trace.** At every moment of a run, a change that is made in place and
refused leaves roots, identifiers and version as they are; one that succeeds raises the version by
one and reports an identifier exactly if it creates a file. Without the refused changes the run ends
in the same store, with the same results for the others. -/
theorem refused_leave_no_trace (s : Store) (actions : List Action) :
    (∀ before a, before ++ [a] <+: actions →
      let t := s.run before
      t.dispatchInPlace a = t.dispatch a ∧
        match t.dispatchInPlace a with
        | (.error _, t') =>
          t'.roots = t.roots ∧ t'.workspace.ids = t.workspace.ids ∧ t'.version = t.version
        | (.ok r, t') =>
          t'.version = t.version + 1 ∧
            (r.isSome ↔ ∃ parent name content, a = .createFile parent name content)) ∧
      s.run (s.accepted actions) = s.run actions ∧
      s.results (s.accepted actions) = (s.results actions).filter (·.isOk) := by
  refine ⟨fun before a _ => ?_, s.run_accepted actions, s.results_accepted actions⟩
  intro t
  refine ⟨t.dispatchInPlace_eq_dispatch a, ?_⟩
  rw [t.dispatchInPlace_eq_dispatch a]
  rcases t.dispatch_cases a with ⟨r, w, happly, hd⟩ | ⟨e, -, hd⟩
  · rw [hd]
    exact ⟨rfl, (change_of_apply happly).isSome_iff⟩
  · rw [hd]
    exact ⟨rfl, rfl, rfl⟩

/-- A batch that clashes with a child of its parent takes no identifier: the file created after it
gets the first one. -/
theorem refused_leave_no_trace_batch :
    let clashing : Action :=
      .insertTemplates (.anywhere "src") [⟨"new", [("a", ""), ("b", "")]⟩, ⟨"bin", []⟩]
    let before : List Action :=
      [.createRootFolder "src", .createFolder (.amongRoots "src") "bin"]
    let actions := before ++ [clashing, .createFile (.anywhere "bin") "x" ""]
    let t := Store.empty.run before
    before ++ [clashing] <+: actions ∧
      t.dispatchInPlace clashing = (.error (.nameExists "bin"), t) ∧
      Store.empty.accepted actions = before ++ [.createFile (.anywhere "bin") "x" ""] ∧
      Store.empty.run (Store.empty.accepted actions) = Store.empty.run actions ∧
      Store.empty.results (Store.empty.accepted actions) =
        [.ok none, .ok none, .ok (some ⟨1⟩)] := by
  intro clashing before actions t
  have hbefore : before ++ [clashing] <+: actions := ⟨_, rfl⟩
  obtain ⟨hstep, hrun, hresults⟩ := refused_leave_no_trace Store.empty actions
  refine ⟨hbefore, (hstep before clashing hbefore).1.trans ?_, by decide, hrun, ?_⟩
  · rfl
  · rw [hresults]
    rfl

end WorkspaceConsole

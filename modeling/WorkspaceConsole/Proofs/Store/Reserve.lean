import WorkspaceConsole.Proofs.Store.Identity

/-!
# Identifiers in reserve

The next identifier of a store lies above all identifiers in its tree, unless the source stands at
the end of its range (`Workspace.Ahead`). A source that has been told of all identifiers of a tree
is ahead of it, and every change keeps it ahead (`ahead_run`). So identifiers for which there is
room are free, whatever tree the store has taken over and whatever changes it has gone through.
-/

namespace WorkspaceConsole

/-- The source of the workspace is above every identifier in the tree. -/
def Workspace.Ahead (w : Workspace) : Prop :=
  ∀ id ∈ w.roots.fileIds, w.ids.Above id

theorem Workspace.ahead_ofRoots (roots : Forest) : (ofRoots roots).Ahead :=
  (IdSource.start.above_observeAll roots.fileIds).2

namespace Store

variable {s : Store}

theorem ahead_dispatch (hs : s.workspace.Ahead) (a : Action) :
    (s.dispatch a).2.workspace.Ahead := by
  intro id hid
  obtain ⟨hgive, hperm⟩ := fileIds_dispatch s a
  obtain ⟨hle, hgiven⟩ := hgive.above
  rcases List.mem_append.1 (hperm.mem_iff.2 (List.mem_append_right _ hid)) with hnew | hold
  · exact hgiven id hnew
  · exact (hs id hold).mono hle

/-- **Every change keeps the source ahead of the tree.** -/
theorem ahead_run (hs : s.workspace.Ahead) (as : List Action) : (s.run as).workspace.Ahead := by
  induction as generalizing s with
  | nil => exact hs
  | cons a as ih => exact ih (ahead_dispatch hs a)

end Store

end WorkspaceConsole

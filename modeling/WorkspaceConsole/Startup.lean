import WorkspaceConsole.Options
import WorkspaceConsole.Store

/-!
# Starting up

The command line overrides the settings, and its seed folders come after theirs. The store starts
with one root folder for each seed name that is valid and new; the others are left out. Seeding
counts as no change of the store.
-/

namespace WorkspaceConsole

/-- The settings as the command line overrides them. -/
def Settings.override (s : Settings) (o : Options) : Settings :=
  { s with
    bridge := {
      mode := o.mode.getD s.bridge.mode
      endpoint := o.endpoint.getD s.bridge.endpoint
      timeoutMs := o.timeoutMs.getD s.bridge.timeoutMs
      shellRoot := o.shellRoot.or s.bridge.shellRoot }
    workspace := { seedFolders := s.workspace.seedFolders ++ o.seeds } }

namespace Workspace

/-- Adds a root folder, or leaves the workspace as it is when that is refused. -/
def seed (w : Workspace) (name : String) : Workspace :=
  match w.createRootFolder name with
  | .ok w' => w'
  | .error _ => w

/-- The workspace that starts with root folders of the given names. -/
def seeded (names : List String) : Workspace :=
  names.foldl seed empty

end Workspace

/-- The store that starts with root folders of the given names. -/
def Store.seeded (names : List String) : Except TreeError Store :=
  Store.ofWorkspace (Workspace.seeded names)

end WorkspaceConsole

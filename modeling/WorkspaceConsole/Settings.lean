import WorkspaceConsole.Json.Document
import WorkspaceConsole.Json.Fields

/-!
# Settings

Where commands are carried out, what greets the user, and which folders exist from the start. Each
field and each section has a default, so a settings file need say only what differs.
-/

namespace WorkspaceConsole

/-- Where commands are carried out: on the tree itself, by an HTTP server, or by a shell. -/
inductive ExecutionMode where
  | simulated
  | http
  | shell
deriving DecidableEq, Repr, Inhabited

namespace ExecutionMode

/-- The name of a mode. -/
def label : ExecutionMode → String
  | .simulated => "local"
  | .http => "http"
  | .shell => "shell"

/-- The mode with a name. -/
def ofLabel? : String → Option ExecutionMode
  | "local" => some .simulated
  | "http" => some .http
  | "shell" => some .shell
  | _ => none

theorem ofLabel?_label (m : ExecutionMode) : ofLabel? m.label = some m := by
  cases m <;> rfl

end ExecutionMode

/-- How commands are carried out. -/
structure BridgeSettings where
  mode : ExecutionMode := .simulated
  endpoint : String := "http://localhost:5000"
  timeoutMs : UInt64 := 30000
  shellRoot : Option String := none
deriving DecidableEq, Repr, Inhabited

/-- What the terminal shows at the start. -/
structure TerminalSettings where
  welcome : Option String := some "Welcome to the terminal!"
deriving DecidableEq, Repr, Inhabited

/-- The folders that exist from the start. -/
structure WorkspaceSettings where
  seedFolders : List String := []
deriving DecidableEq, Repr, Inhabited

/-- All settings. -/
structure Settings where
  bridge : BridgeSettings := {}
  terminal : TerminalSettings := {}
  workspace : WorkspaceSettings := {}
deriving DecidableEq, Repr, Inhabited

namespace Settings

open Json

/-! ## Writing -/

/-- The document of an optional text. -/
def optionalText : Option String → Document
  | none => .null
  | some s => .text s

/-- The members of the section on the bridge. A missing shell root is left out. -/
def bridgeMembers (b : BridgeSettings) : List (String × Document) :=
  [ ("mode", .text b.mode.label),
    ("endpoint", .text b.endpoint),
    ("timeout_ms", .number b.timeoutMs.toNat) ] ++
  match b.shellRoot with
  | none => []
  | some root => [("shell_root", .text root)]

/-- The document of the settings. -/
def toDocument (s : Settings) : Document :=
  .ofList [
    ("bridge", .ofList (bridgeMembers s.bridge)),
    ("terminal", .ofList [("welcome", optionalText s.terminal.welcome)]),
    ("workspace", .ofList [("seed_folders", .texts s.workspace.seedFolders)])]

/-- The text of the settings. -/
def toJson (s : Settings) : String :=
  s.toDocument.pretty

/-! ## Reading -/

/-- A mode is its name, or an object whose one member has that name and the value `null`. -/
def mode? : Value → Option ExecutionMode
  | .string name => ExecutionMode.ofLabel? name
  | .object [(some name, .null)] => ExecutionMode.ofLabel? name
  | _ => none

/-- The section on the bridge. -/
def bridge? (v : Value) : Option BridgeSettings := do
  match ← v.fields? ["mode", "endpoint", "timeout_ms", "shell_root"] with
  | [mode, endpoint, timeoutMs, shellRoot] =>
    let fallback : BridgeSettings := {}
    let mode ← fieldOr fallback.mode mode? mode
    let endpoint ← fieldOr fallback.endpoint Value.text? endpoint
    let timeoutMs ← fieldOr fallback.timeoutMs Value.word? timeoutMs
    let shellRoot ← fieldOr fallback.shellRoot (nullable Value.text?) shellRoot
    return { mode, endpoint, timeoutMs, shellRoot }
  | _ => none

/-- The section on the terminal. -/
def terminal? (v : Value) : Option TerminalSettings := do
  match ← v.fields? ["welcome"] with
  | [welcome] =>
    let fallback : TerminalSettings := {}
    let welcome ← fieldOr fallback.welcome (nullable Value.text?) welcome
    return { welcome }
  | _ => none

/-- The section on the workspace. -/
def workspace? (v : Value) : Option WorkspaceSettings := do
  match ← v.fields? ["seed_folders"] with
  | [seedFolders] =>
    let fallback : WorkspaceSettings := {}
    let seedFolders ← fieldOr fallback.seedFolders Value.texts? seedFolders
    return { seedFolders }
  | _ => none

/-- The settings that a value stands for. -/
def ofValue? (v : Value) : Option Settings := do
  match ← v.fields? ["bridge", "terminal", "workspace"] with
  | [bridge, terminal, workspace] =>
    let bridge ← fieldOr {} bridge? bridge
    let terminal ← fieldOr {} terminal? terminal
    let workspace ← fieldOr {} workspace? workspace
    return { bridge, terminal, workspace }
  | _ => none

/-- Reads the text of settings. -/
def ofJson? (s : String) : Option Settings :=
  (read? s.toList).bind ofValue?

end Settings

end WorkspaceConsole

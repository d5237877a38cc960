import WorkspaceConsole.Directories
import WorkspaceConsole.Http.Exchange
import WorkspaceConsole.LineMode
import WorkspaceConsole.Screen.Guard
import WorkspaceConsole.Shell.Bridge
import WorkspaceConsole.Startup

/-!
# The program as a whole

What a call of the program prints, with what code it ends, and what it leaves on disk, as a function
of its arguments, its environment, its input and the disk. Nobody answers on its network, and it has
no terminal whose screen it could take.

Arguments that cannot be read, and requests for help, end the program before it touches the disk.
After that the directory for logs and the settings file are made if they are missing; if that fails,
the program goes on without them.
-/

namespace WorkspaceConsole

namespace Environment

/-- The variables with their names. -/
def toList (e : Environment) : List (String × String) :=
  [("HOME", e.home), ("XDG_CACHE_HOME", e.cacheHome), ("XDG_DATA_HOME", e.dataHome)].filterMap
    fun (name, value) => value.map (name, ·)

end Environment

namespace Console

/-- A call of the program. -/
structure Call where
  arguments : List String
  environment : Environment
  input : List UInt8
  interactive : Bool := false
  disk : Disk

/-- What comes of a call. -/
structure Result where
  stdout : String
  exitCode : UInt8
  disk : Disk

/-- The disk after an attempt to change it. -/
def attempt {α : Type} (d : Disk) : Except DiskError (α × Disk) → Disk
  | .ok (_, d') => d'
  | .error _ => d

/-- The disk with the directory for logs and the settings file, as far as they can be made. -/
def prepare (e : Environment) (d : Disk) : Disk :=
  let d := attempt d (d.ensureLogDirectory e)
  attempt d (d.ensureSettings e)

/-- How commands are carried out. A shell works below the root that the settings give, or else below
the directory that the program was called in. -/
def interpreter (e : Environment) (d : Disk) (s : BridgeSettings) : Interpreter Disk :=
  match s.mode with
  | .simulated => .simulated
  | .http => .bridged (Http.bridge (.unreachable Disk) s.endpoint) s.timeoutMs
  | .shell =>
    let root := s.shellRoot.getD ("/" ++ "/".intercalate d.start)
    .bridged (Shell.bridge e.toList root) s.timeoutMs

/-- What gives a terminal back: no bracketed paste, the main screen, the usual cursor. -/
def restoreSequences : String :=
  "\x1b[?2004l\x1b[?1049l\x1b[0 q"

/-- The screen where there is no terminal: it cannot be entered. -/
def noTerminal : ScreenSwitch String :=
  { enter := fun printed => (.error "no terminal", printed)
    leave := fun printed => (.ok (), printed ++ restoreSequences) }

/-- Runs the console on the full screen. -/
def runScreen (d : Disk) : Result :=
  match ScreenGuard.enter noTerminal "" with
  | .ok g => ⟨g.drop noTerminal, 0, d⟩
  | .error (_, printed) => ⟨printed, 1, d⟩

/-- Runs the console line by line. -/
def runLines (c : Call) (d : Disk) (s : Settings) (store : Store) : Result :=
  let outcome := LineMode.run (interpreter c.environment d s.bridge) c.interactive
    (.openWith 1 s.terminal.welcome) ⟨store, d⟩ c.input
  ⟨String.join outcome.output, if outcome.malformed then 1 else 0, outcome.backend.bridge⟩

/-- Runs the program with its options read. -/
def start (c : Call) (o : Options) : Result :=
  let d := prepare c.environment c.disk
  let settings := ((d.loadSettings? c.environment).getD {}).override o
  match Store.seeded settings.workspace.seedFolders with
  | .error _ => ⟨"", 1, d⟩
  | .ok store => if o.lineMode then runLines c d settings store else runScreen d

/-- Runs the program. -/
def run (c : Call) : Result :=
  match Options.parse c.arguments with
  | .error stop =>
    let text := match stop with
      | .help => Options.helpText
      | .version => Options.versionText
      | .usage => ""
    ⟨text, stop.exitCode, c.disk⟩
  | .ok options => start c options

end Console

end WorkspaceConsole

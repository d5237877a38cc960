import WorkspaceConsole.Disk
import WorkspaceConsole.Settings

/-!
# Where the console keeps its files

The cache directory holds the settings file and the data directory the logs. Each is named by a
variable of the environment or, without it, lies in the home directory; a variable that is set to
nothing counts as set.
-/

namespace WorkspaceConsole

/-- The variables of the environment that name directories. -/
structure Environment where
  home : Option String := none
  cacheHome : Option String := none
  dataHome : Option String := none
deriving DecidableEq, Repr

namespace Environment

/-- The cache directory. -/
def cacheDirectory? (e : Environment) : Option String :=
  e.cacheHome.or (e.home.map (joinPath · ".cache"))

/-- The directory of the console's own data. -/
def dataDirectory? (e : Environment) : Option String :=
  (e.dataHome.or (e.home.map (joinPath · ".local/share"))).map (joinPath · "wsterm")

/-- The directory for logs. -/
def logDirectory? (e : Environment) : Option String :=
  e.dataDirectory?.map (joinPath · "logs")

/-- The directory of the settings file. -/
def settingsDirectory? (e : Environment) : Option String :=
  e.cacheDirectory?.map (joinPath · ".wsterm")

/-- The settings file. -/
def settingsPath? (e : Environment) : Option String :=
  e.settingsDirectory?.map (joinPath · "settings.json")

end Environment

namespace Disk

/-- Makes a directory with whatever is missing on the way to it, unless something stands there. -/
def ensureDirectory (d : Disk) (path : String) : Except DiskError Disk :=
  if d.exists? path then .ok d else d.makeDirectories path

/-- Makes the directory for logs, and says where it is. -/
def ensureLogDirectory (d : Disk) (e : Environment) : Except DiskError (String × Disk) :=
  match e.logDirectory? with
  | none => .error .notFound
  | some path => (d.ensureDirectory path).map (path, ·)

/-- Writes the default settings into a directory that is made if it is missing, unless there is
already something in the place of the file. -/
def ensureSettingsIn (d : Disk) (directory path : String) : Except DiskError Disk := do
  let d ← d.ensureDirectory directory
  if d.exists? path then return d
  d.writeFrom d.start path (Text.Utf8.encode ({} : Settings).toJson)

/-- Makes the settings file, and says where it is. -/
def ensureSettings (d : Disk) (e : Environment) : Except DiskError (String × Disk) :=
  match e.settingsDirectory?, e.settingsPath? with
  | some directory, some path => (d.ensureSettingsIn directory path).map (path, ·)
  | _, _ => .error .notFound

/-- The settings in the settings file, if it can be read. -/
def loadSettings? (d : Disk) (e : Environment) : Option Settings :=
  e.settingsPath?.bind fun path => (d.readText? path).bind Settings.ofJson?

end Disk

end WorkspaceConsole

import WorkspaceConsole.Shell.Execution

/-!
# Whole scripts

A script is carried out by a shell of its own on a disk. What it has written, how it ended and how
long that took is left behind, with the disk as it is then.
-/

namespace WorkspaceConsole.Shell

/-- What a script leaves behind. -/
structure Aftermath where
  ending : Ending
  stdout : Octets
  stderr : Octets
  milliseconds : Nat
  disk : Disk

/-- How deep the commands of a script may be nested. -/
def nestingLimit : Nat := 20000

/-- The number of the shell that carries out a script. -/
def shellNumber : Nat := 1000

/-- The directories that every disk has for a shell. -/
def standardDirectories : List Place :=
  [["bin"], ["dev"], ["etc"], ["home"], ["lib"], ["proc"], ["root"], ["sys"], ["tmp"], ["usr"],
    ["usr", "bin"], ["var"]]

/-- A machine in a directory of a disk, with variables from outside. There is no input. -/
def startMachine (disk : Disk) (directory : Place) (environment : List (String × String)) :
    Machine :=
  let exported : List (String × Variable) := environment.map fun (name, value) =>
    (name, { value := some (Octets.ofText value), exported := true })
  let path := "/usr/local/sbin:/usr/local/bin:/usr/sbin:/usr/bin:/sbin:/bin"
  let exported :=
    if (exported.lookup "PATH").isSome then exported
    else exported ++ [("PATH", { value := some path.toList, exported := true })]
  { disk := standardDirectories.foldl Disk.putDirectories disk
    channels := #[.null, .buffer [], .buffer []]
    lastProcess := shellNumber
    shell :=
      { directory, bindings := exported, handles := [(0, 0), (1, 1), (2, 2)]
        limits := Builtin.startLimits } }

/-- The disk without the directories that were only there for a shell. -/
def withoutStandard (before after : Disk) : Disk :=
  let isSpare (place : Place) : Bool :=
    standardDirectories.contains place && (before.at? place).isNone &&
      after.entries.all fun e => !place.isPrefixOf e.1 || standardDirectories.contains e.1
  { after with entries := after.entries.filter fun (place, _) => !isSpare place }

/-- Carries out a script in a directory of a disk. A script that begins like an option is taken for
one. -/
def runScript (disk : Disk) (directory : Place) (environment : List (String × String))
    (source : Octets) : Aftermath :=
  let x : Executor := ⟨execute nestingLimit, nestingLimit⟩
  let shell := x.startShell ['s', 'h'] shellNumber (shellNumber - 1) [['-', 'c'], source]
  let (result, m) := (x.toEnd shell).run.run (startMachine disk directory environment)
  let out (number : Nat) : Octets := match ((Run.written number).run.run m).1 with
    | .ok s => s
    | .error _ => []
  let finishes := (m.processes.filter fun p =>
    p.channels.contains 1 || p.channels.contains 2).map Process.finish
  { ending := match result with
      | .ok ending => ending
      | .error _ => .endless
    stdout := out 1
    stderr := out 2
    milliseconds := finishes.foldl max m.clock
    disk := withoutStandard disk m.disk }

end WorkspaceConsole.Shell

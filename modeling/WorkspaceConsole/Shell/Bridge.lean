import WorkspaceConsole.Bridge
import WorkspaceConsole.Shell.Session
import WorkspaceConsole.Text.Blank

/-!
# Carrying out commands in a shell

Each command is a script of its own, carried out in the requested directory below a root. A
directory that cannot be entered is noticed at once; everything else takes a moment. A failure is
told in the words of the script, or by the way it ended if it said nothing.
-/

namespace WorkspaceConsole.Shell

/-- The directory for a request: slashes in front of it do not lead out of the root. -/
def workingDirectory (root directory : String) : String :=
  match directory.toList.dropWhile (· == '/') with
  | [] => root
  | cs => joinPath root (String.ofList cs)

/-- How a script ended, as a phrase. -/
def Ending.phrase : Ending → String
  | .status n => "exit status: " ++ Text.Decimal.write n
  | .signal n =>
    "signal: " ++ Text.Decimal.write n ++
      match Signal.endingName? n with
      | some name => " (SIG" ++ name ++ ")"
      | none => ""
  | .endless => "no end"

/-- The result that a script stands for. -/
def Aftermath.result (a : Aftermath) : Except BridgeError Output :=
  match a.ending with
  | .status 0 => .ok ⟨Octets.toText a.stdout, none⟩
  | ending =>
    let said := String.ofList (Text.trimRight (Octets.toText a.stderr).toList)
    .error (.remote (if said.isEmpty then "exited with " ++ ending.phrase else said))

/-- How long a script takes. One without an end takes longer than any limit. -/
def Aftermath.delayMs (a : Aftermath) : Nat :=
  match a.ending with
  | .endless => UInt64.size
  | _ => max 1 a.milliseconds

/-- Carries out a request on a disk. -/
def answer (environment : List (String × String)) (root : String) (r : Request) (disk : Disk) :
    Reply × Disk :=
  let directory := workingDirectory root r.directory
  let unusable (why : String) : Reply × Disk :=
    (⟨.error (.transport (directory ++ ": " ++ why)), none⟩, disk)
  if (directory ++ r.command).toList.contains '\x00' then
    unusable "nul byte found in provided data"
  else
    let failed (e : DiskError) : Reply × Disk :=
      unusable (e.reason ++ " (os error " ++ Text.Decimal.write e.number ++ ")")
    match disk.entryFrom disk.start directory with
    | .error e => failed e
    | .ok (_, .file _) => failed .notDirectory
    | .ok (place, .directory) =>
      let a := runScript disk place environment (Octets.ofText r.command)
      (⟨a.result, some a.delayMs⟩, a.disk)

/-- The bridge to a shell that works below a root. -/
def bridge (environment : List (String × String)) (root : String) : Bridge Disk :=
  ⟨"shell", answer environment root⟩

end WorkspaceConsole.Shell

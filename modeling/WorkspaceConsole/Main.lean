import WorkspaceConsole.Console

/-!
# The command line

Reads what a call of the program depends on, and carries out what comes of it. Of the disk, the
program sees the directory that it was called in and its settings file.
-/

namespace WorkspaceConsole.Main

/-- All that a stream has to offer. -/
partial def readAll (stream : IO.FS.Stream) (front : ByteArray) : IO ByteArray := do
  let more ← stream.read 65536
  if more.isEmpty then return front else readAll stream (front ++ more)

/-- What is seen of the disk. -/
def readDisk (environment : Environment) : IO Disk := do
  let start := Disk.names (toString (← IO.currentDir))
  let disk := { Disk.empty with start }.putDirectories start
  match environment.settingsPath? with
  | none => return disk
  | some path =>
    try
      let bytes ← IO.FS.readBinFile path
      let place := if path.front = '/' then Disk.names path else start ++ Disk.names path
      return (disk.putDirectories place.dropLast).put place (.file bytes.data.toList)
    catch _ => return disk

/-- Carries over to the disk what is new on it. -/
def writeDisk (before after : Disk) : IO Unit := do
  for (place, entry) in after.entries do
    if before.at? place ≠ some entry then
      let path := "/" ++ "/".intercalate place
      try
        match entry with
        | .directory => IO.FS.createDirAll path
        | .file bytes => IO.FS.writeBinFile path ⟨bytes.toArray⟩
      catch _ => pure ()

end WorkspaceConsole.Main

open WorkspaceConsole

/-- Runs the program. -/
def main (arguments : List String) : IO UInt32 := do
  let environment : Environment :=
    { home := ← IO.getEnv "HOME"
      cacheHome := ← IO.getEnv "XDG_CACHE_HOME"
      dataHome := ← IO.getEnv "XDG_DATA_HOME" }
  let disk ← Main.readDisk environment
  let stdin ← IO.getStdin
  let input ← Main.readAll stdin .empty
  let result := Console.run
    { arguments, environment, disk, input := input.data.toList, interactive := ← stdin.isTty }
  Main.writeDisk disk result.disk
  IO.print result.stdout
  return result.exitCode.toUInt32

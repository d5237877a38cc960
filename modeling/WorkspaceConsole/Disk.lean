import WorkspaceConsole.Text.Split
import WorkspaceConsole.Text.Utf8

/-!
# Directories and files on disk

A `Disk` is what the console sees of a file system: directories and files with their bytes, each
at a place given by the names from the root down. A path is resolved name by name, so that a file on
the way, or a missing directory, is noticed where it occurs.
-/

namespace WorkspaceConsole

/-- A place on disk: the names from the root down. -/
abbrev Place := List String

/-- What stands at a place. -/
inductive Entry where
  | directory
  | file (bytes : List UInt8)
deriving DecidableEq, Repr

/-- Why an operation on a disk fails. -/
inductive DiskError where
  | notFound
  | notDirectory
  | isDirectory
  | exists
  | nameTooLong
deriving DecidableEq, Repr

/-- The words of the operating system for a failure. -/
def DiskError.reason : DiskError → String
  | .notFound => "No such file or directory"
  | .notDirectory => "Not a directory"
  | .isDirectory => "Is a directory"
  | .exists => "File exists"
  | .nameTooLong => "File name too long"

/-- The number of the operating system for a failure. -/
def DiskError.number : DiskError → Nat
  | .notFound => 2
  | .notDirectory => 20
  | .isDirectory => 21
  | .exists => 17
  | .nameTooLong => 36

/-- The most bytes that a name on disk can have. -/
def longestName : Nat := 255

/-- Whether a name has too many bytes for a disk. -/
def isTooLong (name : String) : Bool :=
  decide (longestName < name.utf8ByteSize)

/-- Joins a path to a base: an absolute path replaces the base, and a slash is put between them
unless the base is empty or ends in one. -/
def joinPath (base path : String) : String :=
  match path.toList with
  | '/' :: _ => path
  | _ =>
    match base.toList.getLast? with
    | none => path
    | some c => if c = '/' then base ++ path else base ++ "/" ++ path

/-- Directories and files, each at its place, and the directory from which relative paths start.
The root is always a directory. -/
structure Disk where
  entries : List (Place × Entry)
  start : Place
deriving Repr

namespace Disk

/-- The disk that holds nothing but the root. -/
def empty : Disk := ⟨[], []⟩

/-- What stands at a place. -/
def at? (d : Disk) (place : Place) : Option Entry :=
  if place.isEmpty then some .directory
  else (d.entries.find? (·.1 = place)).map Prod.snd

/-- Follows names down from a place. What the last name leads to need not exist. -/
def follow (d : Disk) (place : Place) : List String → Except DiskError Place
  | [] => .ok place
  | name :: names =>
    match d.at? place with
    | none => .error .notFound
    | some (.file _) => .error .notDirectory
    | some .directory =>
      if name = "." then follow d place names
      else if name = ".." then follow d place.dropLast names
      else if isTooLong name then .error .nameTooLong
      else follow d (place ++ [name]) names

/-- The names in a path. -/
def names (path : String) : List String :=
  (Text.runs (· == '/') path.toList).map String.ofList

/-- The place that a path leads to from a directory. -/
def resolveFrom (d : Disk) (base : Place) (path : String) : Except DiskError Place :=
  match path.toList with
  | [] => .error .notFound
  | '/' :: _ => d.follow [] (names path)
  | _ => d.follow base (names path)

/-- What stands where a path leads. A path that ends in a slash leads to a directory only. -/
def entryFrom (d : Disk) (base : Place) (path : String) : Except DiskError (Place × Entry) := do
  let place ← d.resolveFrom base path
  match d.at? place with
  | none => throw .notFound
  | some (.file bytes) =>
    if path.toList.getLast? = some '/' then throw .notDirectory
    return (place, .file bytes)
  | some .directory => return (place, .directory)

/-- Whether anything stands where a path leads. -/
def exists? (d : Disk) (path : String) : Bool :=
  match d.entryFrom d.start path with
  | .ok _ => true
  | .error _ => false

/-- Whether a directory stands where a path leads. -/
def isDirectory (d : Disk) (path : String) : Bool :=
  match d.entryFrom d.start path with
  | .ok (_, .directory) => true
  | _ => false

/-- Puts an entry at a place, in the stead of what stood there. -/
def put (d : Disk) (place : Place) (entry : Entry) : Disk :=
  { d with entries := d.entries.filter (·.1 ≠ place) ++ [(place, entry)] }

/-- Makes a directory at a place and at every place on the way to it. -/
def putDirectories (d : Disk) (place : Place) : Disk :=
  (List.range place.length).foldl
    (fun d n =>
      let here := place.take (n + 1)
      if (d.at? here).isSome then d else d.put here .directory) d

/-- Makes a directory whose parent exists. -/
def makeDirectoryFrom (d : Disk) (base : Place) (path : String) : Except DiskError Disk := do
  let place ← d.resolveFrom base path
  if (d.at? place).isSome then throw .exists
  match d.at? place.dropLast with
  | none => throw .notFound
  | some (.file _) => throw .notDirectory
  | some .directory => return d.put place .directory

/-- Makes directories name by name where they are missing. -/
def makeWay (d : Disk) (place : Place) : List String → Except DiskError Disk
  | [] => .ok d
  | name :: names =>
    if name = "." then makeWay d place names
    else if name = ".." then makeWay d place.dropLast names
    else if isTooLong name then .error .nameTooLong
    else
      let next := place ++ [name]
      match d.at? next with
      | none => makeWay (d.put next .directory) next names
      | some .directory => makeWay d next names
      | some (.file _) => .error .notDirectory

/-- Makes a directory and whatever is missing on the way to it. -/
def makeDirectoriesFrom (d : Disk) (base : Place) (path : String) : Except DiskError Disk :=
  match path.toList with
  | '/' :: _ => d.makeWay [] (names path)
  | _ => d.makeWay base (names path)

/-- Makes a directory and whatever is missing on the way to it, from where relative paths start. -/
def makeDirectories (d : Disk) (path : String) : Except DiskError Disk :=
  d.makeDirectoriesFrom d.start path

/-- The bytes of a file. -/
def readFrom (d : Disk) (base : Place) (path : String) : Except DiskError (List UInt8) := do
  match ← d.entryFrom base path with
  | (_, .file bytes) => return bytes
  | (_, .directory) => throw .isDirectory

/-- Writes a file whose directory exists. -/
def writeFrom (d : Disk) (base : Place) (path : String) (bytes : List UInt8) :
    Except DiskError Disk := do
  let place ← d.resolveFrom base path
  match d.at? place with
  | some .directory => throw .isDirectory
  | some (.file _) =>
    if path.toList.getLast? = some '/' then throw .notDirectory
    return d.put place (.file bytes)
  | none =>
    if path.toList.getLast? = some '/' then throw .isDirectory
    match d.at? place.dropLast with
    | none => throw .notFound
    | some (.file _) => throw .notDirectory
    | some .directory => return d.put place (.file bytes)

/-- The text of a file that is well-formed UTF-8. -/
def readText? (d : Disk) (path : String) : Option String :=
  match d.readFrom d.start path with
  | .ok bytes => Text.Utf8.decode? bytes
  | .error _ => none

/-- The names in a directory, sorted. -/
def children (d : Disk) (place : Place) : List String :=
  let inside := d.entries.filterMap fun (p, _) =>
    if p.dropLast = place && !p.isEmpty then p.getLast? else none
  inside.mergeSort fun a b => decide (a ≤ b)

end Disk

end WorkspaceConsole

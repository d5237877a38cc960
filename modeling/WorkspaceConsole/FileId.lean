import WorkspaceConsole.Text.Decimal

/-!
# File identifiers

A file is known by a 64-bit number, written `file-<n>`. An `IdSource` hands numbers out in
increasing order and can be told of numbers that are taken already; at the top of the range it
stays where it is.
-/

namespace WorkspaceConsole

open Text

/-- The identifier of a file. -/
structure FileId where
  raw : UInt64
deriving DecidableEq, Repr, Inhabited

namespace FileId

/-- The written form, `file-` and the decimal number. -/
def display (id : FileId) : String :=
  "file-" ++ Decimal.write id.raw.toNat

/-- Reads `file-` and a 64-bit decimal number, which may carry a single `+` and leading zeros. -/
def ofChars? : List Char → Option FileId
  | 'f' :: 'i' :: 'l' :: 'e' :: '-' :: cs => (Decimal.readWord? cs).map FileId.mk
  | _ => none

/-- Reads the written form of an identifier. -/
def ofString? (s : String) : Option FileId :=
  ofChars? s.toList

/-- The identifier after `id`; the last one of the range is followed by itself. -/
def succ (id : FileId) : FileId :=
  if id.raw.toNat + 1 < UInt64.size then ⟨id.raw + 1⟩ else id

end FileId

/-- A source of fresh identifiers: `next` is the one that it hands out next. -/
structure IdSource where
  next : FileId
deriving DecidableEq, Repr

namespace IdSource

/-- The first identifier is `file-1`. -/
def start : IdSource := ⟨⟨1⟩⟩

instance : Inhabited IdSource := ⟨start⟩

/-- Hands out the next identifier. -/
def take (s : IdSource) : FileId × IdSource :=
  (s.next, ⟨s.next.succ⟩)

/-- Makes sure that the identifiers to come lie above `seen`. -/
def observe (s : IdSource) (seen : FileId) : IdSource :=
  if s.next.raw ≤ seen.raw then ⟨seen.succ⟩ else s

/-- Observes a list of identifiers, one after the other. -/
def observeAll (s : IdSource) (seen : List FileId) : IdSource :=
  seen.foldl observe s

end IdSource

end WorkspaceConsole

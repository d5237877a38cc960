import WorkspaceConsole.Http.Percent
import WorkspaceConsole.Text.Split

/-!
# Paths of addresses

A path is read segment by segment. A segment of one point stands for the place where it is, and one
of two points for the place above, also if the points are written by their bytes. A letter with a
colon or a bar is the name of a drive: no place is above it, and at the start of the path of a file
it is written with a colon and takes the place of a server.
-/

namespace WorkspaceConsole.Http

/-! ## What may not stand in an address -/

/-- The characters that may not stand in a fragment. -/
def inFragmentSet (c : Char) : Bool :=
  [' ', '"', '<', '>', '\x60'].contains c

/-- The characters that may not stand in a path. -/
def inPathSet (c : Char) : Bool :=
  inFragmentSet c || ['#', '?', '\x7b', '\x7d'].contains c

/-- The characters that may not stand in the name or the password of a user. -/
def inUserSet (c : Char) : Bool :=
  inPathSet c || ['/', ':', ';', '=', '@', '[', '\\', ']', '^', '|'].contains c

/-- The characters that may not stand in a query. -/
def inQuerySet (c : Char) : Bool :=
  [' ', '"', '#', '<', '>'].contains c

/-- The characters that may not stand in the query of a web address. -/
def inWebQuerySet (c : Char) : Bool :=
  inQuerySet c || c == '\x27'

/-! ## Segments -/

/-- Whether a segment stands for the same place. -/
def isSingleDot (segment : List Char) : Bool :=
  [".", "%2e", "%2E"].contains (String.ofList segment)

/-- Whether a segment stands for the place above. -/
def isDoubleDot (segment : List Char) : Bool :=
  ["..", ".%2e", ".%2E", "%2e.", "%2E.", "%2e%2e", "%2E%2E", "%2e%2E", "%2E%2e"].contains
    (String.ofList segment)

/-- The letter of a drive. -/
def drive? : List Char → Option Char
  | [c, mark] => if c.isAlpha && (mark == ':' || mark == '|') then some c else none
  | _ => none

/-- What the addresses of a scheme have in common: those of the web and of files take a backslash
for a slash, and those of files may begin with a drive. -/
inductive SchemeKind where
  | web
  | file
  | other
deriving DecidableEq, Repr

namespace SchemeKind

/-- Whether addresses follow the rules of the web. -/
def isSpecial (k : SchemeKind) : Bool :=
  k != .other

/-- Whether a character separates segments. -/
def separates (k : SchemeKind) (c : Char) : Bool :=
  c == '/' || (k.isSpecial && c == '\\')

end SchemeKind

/-! ## Reading -/

/-- A path that is being read, from its end, and whether it has begun with a drive. -/
structure PathReading where
  back : List Char
  onDrive : Bool := false

namespace PathReading

/-- Puts a slash at the end if there is none. -/
def withSlash (back : List Char) : List Char :=
  if back.head? = some '/' then back else '/' :: back

/-- Goes to the place above: drops the last segment with the slash before it, but neither the first
slash nor a drive. -/
def above (back : List Char) : List Char :=
  match back with
  | '/' :: rest =>
    let last := rest.takeWhile (· != '/')
    if rest.contains '/' && (drive? last.reverse).isNone then rest.drop last.length else back
  | _ => back.dropWhile (· != '/')

/-- Reads a segment in its written form, and whether a separator follows it. -/
def step (kind : SchemeKind) (r : PathReading) (segment : List Char) (more : Bool) : PathReading :=
  let ended (back : List Char) : List Char := if more then '/' :: back else back
  if isDoubleDot segment then
    let back := above r.back
    { r with back := if more then withSlash back else back }
  else if isSingleDot segment then { r with back := withSlash r.back }
  else
    match drive? segment with
    | some c =>
      if kind = .file && r.back = ['/'] then ⟨ended [':', c, '/'], true⟩
      else { r with back := ended (segment.reverse ++ r.back) }
    | none => { r with back := ended (segment.reverse ++ r.back) }

/-- Reads segments. -/
def steps (kind : SchemeKind) (r : PathReading) : List (List Char) → PathReading
  | [] => r
  | segment :: rest =>
    (r.step kind (Percent.encode inPathSet segment) !rest.isEmpty).steps kind rest

/-- The path that has been read. The path of a file begins with one slash. -/
def path (kind : SchemeKind) (r : PathReading) : String :=
  let path := r.back.reverse
  String.ofList (if kind = .file then '/' :: path.dropWhile (· == '/') else path)

end PathReading

/-- Reads a path after the slash that it begins with. -/
def readPath (kind : SchemeKind) (cs : List Char) : PathReading :=
  PathReading.steps kind ⟨['/'], false⟩ (Text.pieces kind.separates cs)

end WorkspaceConsole.Http

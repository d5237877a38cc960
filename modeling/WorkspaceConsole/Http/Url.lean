import WorkspaceConsole.Http.Host
import WorkspaceConsole.Http.Path

/-!
# Addresses of servers

An address is read as the web reads it: blanks at the ends and line breaks inside do not count, the
scheme and the host are put into their usual form, a port that goes without saying is dropped, dot
segments of the path are followed, and what may not stand in an address is written by its bytes.
`display` is the address in that form.
-/

namespace WorkspaceConsole.Http

/-- An address. The host is missing in addresses that do not name a server, and empty in those that
leave it out. -/
structure Url where
  scheme : String
  user : String := ""
  password : Option String := none
  host : Option String
  port : Option Nat := none
  path : String
  query : Option String := none
  fragment : Option String := none
deriving DecidableEq, Repr

/-! ## Schemes -/

/-- The kind of a scheme. -/
def SchemeKind.of (scheme : String) : SchemeKind :=
  if ["http", "https", "ftp", "ws", "wss"].contains scheme then .web
  else if scheme = "file" then .file
  else .other

/-- The port that goes without saying. -/
def standardPort? : String → Option Nat
  | "http" | "ws" => some 80
  | "https" | "wss" => some 443
  | "ftp" => some 21
  | _ => none

/-- Reads a scheme and the colon after it, and gives it in lower case. -/
def scheme? (cs : List Char) : Option (String × List Char) :=
  match cs with
  | c :: _ =>
    if c.isAlpha then
      let name := cs.takeWhile fun c => c.isAlphanum || c == '+' || c == '-' || c == '.'
      match cs.drop name.length with
      | ':' :: rest => some (String.ofList (name.map Char.toLower), rest)
      | _ => none
    else none
  | [] => none

/-! ## Authorities -/

/-- The text before the first character of a class, and the text from there on. -/
def cutAt (stop : Char → Bool) (cs : List Char) : List Char × List Char :=
  (cs.takeWhile (!stop ·), cs.dropWhile (!stop ·))

/-- Whether a character ends the part of an address that names a server. -/
def endsAuthority (kind : SchemeKind) (c : Char) : Bool :=
  kind.separates c || c == '?' || c == '#'

/-- The name and the password of a user, which end at the last at sign before the path, and the
rest. If they are empty, a host must follow. -/
def user? (kind : SchemeKind) (cs : List Char) :
    Option (String × Option String × List Char) :=
  let (authority, _) := cutAt (endsAuthority kind) cs
  if authority.contains '@' then
    let info := ((authority.reverse.dropWhile (· != '@')).drop 1).reverse
    let rest := cs.drop (info.length + 1)
    if info.isEmpty && ((rest.head?.map (endsAuthority kind)).getD true) then none
    else
      let (name, password) := cutAt (· == ':') info
      let written (cs : List Char) : String := String.ofList (Percent.encode inUserSet cs)
      let password := password.drop 1
      some (written name, if password.isEmpty then none else some (written password), rest)
  else some ("", none, cs)

/-- The text that names a host, and the rest. A colon within brackets belongs to the host. -/
def hostText (kind : SchemeKind) (inside : Bool) : List Char → List Char × List Char
  | [] => ([], [])
  | c :: rest =>
    if endsAuthority kind c || (c == ':' && !inside) then ([], c :: rest)
    else
      let inside := if c = '[' then true else if c = ']' then false else inside
      let (host, after) := hostText kind inside rest
      (c :: host, after)

/-- Reads a port if there is one; the standard one, and an empty one, are left out. -/
def port? (scheme : String) : List Char → Option (Option Nat × List Char)
  | ':' :: rest =>
    let (digits, rest) := cutAt (fun c => !c.isDigit) rest
    let n := Text.Decimal.accumulate 0 digits
    let ended := (rest.head?.map ['/', '\\', '?', '#'].contains).getD true
    if 65535 < n || !ended then none
    else if digits.isEmpty || standardPort? scheme = some n then some (none, rest)
    else some (some n, rest)
  | cs => some (none, cs)

/-! ## The parts of an address -/

/-- The query and the fragment after a path. -/
def queryAndFragment (kind : SchemeKind) (cs : List Char) : Option String × Option String :=
  let (before, after) := cutAt (· == '#') cs
  let inSet := if kind.isSpecial then inWebQuerySet else inQuerySet
  let query := match before with
    | '?' :: q => some (String.ofList (Percent.encode inSet q))
    | _ => none
  let fragment := match after with
    | '#' :: f => some (String.ofList (Percent.encode inFragmentSet f))
    | _ => none
  (query, fragment)

/-- The path that a text begins with, and the rest. -/
def cutPath (cs : List Char) : List Char × List Char :=
  cutAt (fun c => c == '?' || c == '#') cs

/-- The path after a host, without the slash that it begins with. -/
def afterSlash (kind : SchemeKind) (cs : List Char) : List Char :=
  match cs with
  | c :: rest => if kind.separates c then rest else cs
  | [] => []

/-- The text without control characters and spaces at its ends, and without tabs and line breaks. -/
def cleaned (s : String) : List Char :=
  let isEdge := fun c : Char => decide (c.toNat ≤ 0x20)
  let cs := ((s.toList.dropWhile isEdge).reverse.dropWhile isEdge).reverse
  cs.filter fun c => c != '\t' && c != '\n' && c != '\r'

/-- Reads an address that names a server, after the two slashes. -/
def serverUrl? (scheme : String) (kind : SchemeKind) (cs : List Char) : Option Url := do
  let (user, password, cs) ← user? kind cs
  let (name, cs) := hostText kind false cs
  let host ← if kind.isSpecial then host? name else opaqueHost? name
  if host.isEmpty && (cs.head? = some ':' || !user.isEmpty || password.isSome) then none
  let (port, cs) ← port? scheme cs
  let (path, tail) := cutPath cs
  let (query, fragment) := queryAndFragment kind tail
  let path :=
    if path.isEmpty && !kind.isSpecial then "" else (readPath kind (afterSlash kind path)).path kind
  return { scheme, user, password, host := some host, port, path, query, fragment }

/-- The host in the address of a file. The server that is meant without saying is left out. -/
def fileHost? (cs : List Char) : Option String :=
  if cs.isEmpty then some ""
  else (host? cs).map fun host => if host = "localhost" then "" else host

/-- Reads the address of a file after its scheme. A drive in the place of the host belongs to the
path, and a path that begins with a drive is on no server. -/
def fileUrl? (cs : List Char) : Option Url := do
  let kind := SchemeKind.file
  let (path, tail) := cutPath cs
  let (query, fragment) := queryAndFragment kind tail
  let finish (host : String) (r : PathReading) : Url :=
    { scheme := "file", host := some (if r.onDrive then "" else host), path := r.path kind,
      query, fragment }
  match path with
  | a :: b :: rest =>
    if kind.separates a && kind.separates b then
      let (name, path) := cutAt kind.separates rest
      if (drive? name).isSome then return finish "" (readPath kind rest)
      else return finish (← fileHost? name) (readPath kind (afterSlash kind path))
    else return finish "" (readPath kind (afterSlash kind path))
  | _ => return finish "" (readPath kind (afterSlash kind path))

/-- Reads an address of another scheme after that scheme. With two slashes it names a server; a path
that does not begin with a slash is left as it is. -/
def otherUrl? (scheme : String) (cs : List Char) : Option Url :=
  let kind := SchemeKind.other
  let (path, tail) := cutPath cs
  let (query, fragment) := queryAndFragment kind tail
  match path with
  | '/' :: '/' :: _ => serverUrl? scheme kind (cs.drop 2)
  | '/' :: rest =>
    some { scheme, host := none, path := (readPath kind rest).path kind, query, fragment }
  | _ =>
    let kept := String.ofList (Percent.encode (fun _ => false) path)
    some { scheme, host := none, path := kept, query, fragment }

namespace Url

/-- Reads an address. A text without a scheme is none. -/
def parse? (s : String) : Option Url := do
  let (scheme, rest) ← scheme? (cleaned s)
  match SchemeKind.of scheme with
  | .web => serverUrl? scheme .web (rest.dropWhile SchemeKind.web.separates)
  | .file => fileUrl? rest
  | .other => otherUrl? scheme rest

/-! ## Writing -/

/-- The path with the query: what a request to the server asks for. -/
def target (u : Url) : String :=
  u.path ++ match u.query with
    | some q => "?" ++ q
    | none => ""

/-- The user and the password as they stand before a host. -/
def credentials (u : Url) : String :=
  match u.password with
  | some password => u.user ++ ":" ++ password ++ "@"
  | none => if u.user.isEmpty then "" else u.user ++ "@"

/-- The part that names a server, with its two slashes. Without one, a path must not begin like it,
and a segment that changes nothing goes before it. -/
def authority (u : Url) : String :=
  match u.host with
  | none => if ['/', '/'].isPrefixOf u.path.toList then "/." else ""
  | some host =>
    let port := match u.port with
      | some port => ":" ++ Text.Decimal.write port
      | none => ""
    "//" ++ u.credentials ++ host ++ port

/-- The written form. -/
def display (u : Url) : String :=
  let fragment := match u.fragment with
    | some f => "#" ++ f
    | none => ""
  u.scheme ++ ":" ++ u.authority ++ u.target ++ fragment

/-! ## Use -/

/-- The address that a request is sent to: a user and a password that are texts are sent apart from
it. -/
def withoutCredentials (u : Url) : Url :=
  match Percent.decode? u.user.toList with
  | some user =>
    if user.isEmpty && ((u.password.bind fun p => Percent.decode? p.toList).isNone) then u
    else { u with user := "", password := none }
  | none => u

/-- The most bytes that the address of a request has. -/
def longest : Nat := 65534

/-- The signs that stand in the usual form of a host but not in the address of a request. -/
def unsendable : List Char :=
  ['"', '\x60', '\x7b', '\x7d']

/-- Whether requests can be sent to an address. -/
def isHttp (u : Url) : Bool :=
  (u.scheme == "http" || u.scheme == "https") &&
    !(u.host.getD "").toList.any unsendable.contains && u.display.utf8ByteSize ≤ longest

end Url

end WorkspaceConsole.Http

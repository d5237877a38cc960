import WorkspaceConsole.Shell.Expansion

/-!
# Redirections

A redirection makes a handle lead to a file, to where another handle leads, to a text, or nowhere.
The targets of a command are all expanded before the first one is opened; the text of a document is
expanded only when its turn comes.
-/

namespace WorkspaceConsole.Shell

namespace Run

/-- Expands what a redirection is to lead to. -/
def expandTarget (capture : Node → Run Octets) (fuel : Nat) (r : Redirect Word) :
    Run (Redirect Word) := do
  if r.kind = .document then return r
  let text ← textOf capture fuel { atStart := true } r.target
  if r.kind = .duplicate && text != ['-'] && !(text.length = 1 && text.all Char.isDigit) then
    modifyShell fun s => { s with errorLine := s.readLine }
    fail SyntaxError.badHandle.message.toList
  return { r with target := [.text true text] }

/-! ## Files -/

/-- Fails because a file cannot be opened. -/
def failFile {α : Type} (what : String) (path : Octets) (missing : String) (e : DiskError) :
    Run α :=
  let why := if e = .notFound || e = .notDirectory then missing else e.reason
  fail (what.toList ++ path ++ ": ".toList ++ why.toList)

/-- The handle that a path stands for. -/
def handleOfPath? (path : String) : Option Nat :=
  [("/dev/stdin", 0), ("/dev/stdout", 1), ("/dev/stderr", 2), ("/dev/fd/0", 0), ("/dev/fd/1", 1),
    ("/dev/fd/2", 2)].lookup path

/-- Opens a file to be read. -/
def openForReading (path : Octets) : Run Nat := do
  let m ← get
  match m.disk.entryFrom m.shell.directory (Octets.toText path) with
  | .ok (place, _) => openChannel (.file place 0 false true false)
  | .error e => failFile "cannot open " path "No such file" e

/-- Opens a file to be written: it is made if it is missing, and keeps what is in it if that is
asked for. -/
def openForWriting (path : Octets) (keeps appends reads : Bool) : Run Nat := do
  let m ← get
  let base := m.shell.directory
  let text := Octets.toText path
  let refuse {α : Type} (e : DiskError) : Run α :=
    failFile "cannot create " path "Directory nonexistent" e
  let kept? : Option (List UInt8) := match m.disk.readFrom base text with
    | .ok bytes => if keeps then some bytes else none
    | .error _ => none
  match m.disk.writeFrom base text (kept?.getD []) with
  | .error e => refuse e
  | .ok disk =>
    set { m with disk }
    match disk.resolveFrom base text with
    | .error e => refuse e
    | .ok place =>
      if kept?.isNone then noteChange place
      openChannel (.file place 0 appends reads true)

/-- Whether a regular file stands where a path leads. -/
def isFile (path : Octets) : Run Bool := do
  let m ← get
  match m.disk.entryFrom m.shell.directory (Octets.toText path) with
  | .ok (_, .file _) => return true
  | _ => return false

/-- Opens a file for a redirection. -/
def openFile (kind : RedirectKind) (path : Octets) : Run Nat := do
  let text := Octets.toText path
  if text = "/dev/null" then return ← openChannel .null
  if text = "/dev/full" then return ← openChannel (.source [] 0)
  if let some handle := handleOfPath? text then
    if let some number := (← shell).handles.lookup handle then return number
  match kind with
  | .read => openForReading path
  | .readWrite => openForWriting path true false true
  | .append => openForWriting path true true false
  | .create =>
    if (← isOn "noclobber") && (← isFile path) then
      fail ("cannot create ".toList ++ path ++ ": File exists".toList)
    openForWriting path false false false
  | _ => openForWriting path false false false

/-! ## Applying them -/

/-- Applies a redirection whose target is expanded. -/
def applyRedirect (capture : Node → Run Octets) (fuel : Nat) (r : Redirect Word) : Run Unit := do
  match r.kind with
  | .document =>
    let text ← textOf capture fuel { quoted := true } r.target
    setHandle r.handle (some (← openChannel (.source [(0, text)] 0)))
  | .duplicate =>
    match r.target.characters with
    | [d] =>
      if d = '-' then setHandle r.handle none
      else
        let other := d.toNat - '0'.toNat
        if other ≠ r.handle then
          let some number := (← shell).handles.lookup other
            | fail (d :: ": Bad file descriptor".toList)
          setHandle r.handle (some number)
    | _ => fail SyntaxError.badHandle.message.toList
  | kind => setHandle r.handle (some (← openFile kind r.target.characters))

/-- Applies redirections in their order, and says whether all could be applied. -/
def applyRedirects (capture : Node → Run Octets) (fuel : Nat) (rs : List (Redirect Word)) :
    Run Bool := do
  let all : Run Bool := do
    for r in rs do applyRedirect capture fuel r
    return true
  tryCatch all fun stop => if stop = .failing then return false else throw stop

/-- Carries out an action with redirections, and puts the handles back however it ends. -/
def redirected (capture : Node → Run Octets) (fuel : Nat) (rs : List (Redirect Word))
    (action : Run Nat) : Run Nat := do
  let targets ← rs.mapM (expandTarget capture fuel)
  let saved := (← shell).handles
  ensuring (do if ← applyRedirects capture fuel targets then action else return 2)
    (modifyShell fun s => { s with handles := saved })

end Run

end WorkspaceConsole.Shell

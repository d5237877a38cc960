import WorkspaceConsole.Shell.Machine
import WorkspaceConsole.Shell.Printing

/-!
# Programs outside the shell

The few programs that a shell is expected to find: `cat`, `echo`, `false`, `ls`, `mkdir`, `pwd`,
`rm`, `rmdir`, `sleep`, `touch` and `true`. A program yields its status.
-/

namespace WorkspaceConsole.Shell.Program

open Run

/-- Writes a message of a program. -/
def complain (message : String) : Run Unit := do
  let _ ← write 2 (Octets.ofText message ++ ['\n'])

/-- Splits off the options before the operands, and collects their letters. -/
def options : List Octets → List Char × List Octets
  | ['-', '-'] :: rest => ([], rest)
  | ('-' :: c :: cs) :: rest =>
    let (letters, operands) := options rest
    (c :: cs ++ letters, operands)
  | args => ([], args)

/-- What stands where a path leads. -/
def look (path : String) : Run (Except DiskError (Place × Entry)) := do
  let m ← get
  return m.disk.entryFrom m.shell.directory path

/-- Carries out an action for each operand, and fails in the end if one of them failed. -/
def forAll (operands : List Octets) (action : String → Run Bool) : Run Nat := do
  let mut status := 0
  for o in operands do
    if !(← action (Octets.toText o)) then status := 1
  return status

/-- Changes the disk where a path leads, or says what could not be done. -/
def change (what path : String) (f : Disk → Place → String → Except DiskError Disk) :
    Run Bool := do
  let m ← get
  match f m.disk m.shell.directory path with
  | .ok disk =>
    modify fun m => { m with disk }
    if let .ok (place, _) ← look path then noteChange place
    return true
  | .error e =>
    complain (what ++ ": " ++ e.reason)
    return false

/-! ## Names in messages -/

/-- Whether a character has a meaning for a shell, so that a name with it is quoted. -/
def isSpecial (c : Char) : Bool :=
  [' ', '!', '"', '$', '&', '(', ')', '*', ';', '<', '=', '>', '[', '^', '\x60', '|', '?', '\\',
    '\x27'].contains c

/-- Whether a byte is shown as it is. -/
def isPrintable (c : Char) : Bool :=
  ' ' ≤ c && c ≤ '~'

/-- A byte by a letter, if there is one, or by its octal digits. -/
def escapeByte : Char → Octets
  | '\x07' => ['\\', 'a']
  | '\x08' => ['\\', 'b']
  | '\t' => ['\\', 't']
  | '\n' => ['\\', 'n']
  | '\x0b' => ['\\', 'v']
  | '\x0c' => ['\\', 'f']
  | '\r' => ['\\', 'r']
  | c => '\\' :: [c.toNat / 64, c.toNat / 8 % 8, c.toNat % 8].map Text.Decimal.digit

/-- A name between single quotes, with escapes. -/
def inPlainQuotes (name : String) : String :=
  let inside := (Octets.ofText name).flatMap fun c =>
    if c = '\x27' || c = '\\' then ['\\', c] else if isPrintable c then [c] else escapeByte c
  Octets.toText ('\x27' :: inside ++ ['\x27'])

/-- The inside of a quoted name. What cannot be shown stands in stretches of escapes between quotes
of their own. -/
def quotedInside : Bool → Octets → Octets
  | _, [] => []
  | escaping, c :: cs =>
    if isPrintable c then
      (if escaping then ['\x27', '\x27'] else []) ++
        (if c = '\x27' then ['\x27', '\\', '\x27', '\x27'] else [c]) ++ quotedInside false cs
    else
      (if escaping then [] else ['\x27', '$', '\x27']) ++ escapeByte c ++ quotedInside true cs

/-- A name in quotes, such that a shell would read it back. -/
def inQuotes (name : String) : String :=
  let s := Octets.ofText name
  let isPlainInside (c : Char) : Bool :=
    isPrintable c && !(['"', '$', '\x60', '\\', '!'].contains c)
  if s.contains '\x27' && s.all isPlainInside then "\"" ++ name ++ "\""
  else Octets.toText ('\x27' :: quotedInside false s ++ ['\x27'])

/-- A name, in quotes if a shell would not read it back as it is. -/
def inQuotesIfNeeded (name : String) : String :=
  let s := Octets.ofText name
  if s.isEmpty || s.any (fun c => isSpecial c || !isPrintable c) ||
    s.head? = some '#' || s.head? = some '~' then inQuotes name else name

/-! ## The programs -/

/-- Refuses an option. -/
def refuseOption (program : String) (letter : Octets) : Run Nat := do
  complain (program ++ ": invalid option -- " ++ inQuotes (Octets.toText letter) ++ "\nTry '" ++
    program ++ " --help' for more information.")
  return 1

/-- Passes on what can be read, piece by piece as it comes, and says whether that could be done. -/
def passOn : Nat → Run Bool
  | 0 => return true
  | fuel + 1 => do
    let piece ← readPiece 0
    if piece.isEmpty then return true
    if ← write 1 piece then passOn fuel else return false

/-- Whether a handle leads to a directory. -/
def isDirectory (handle : Nat) : Run Bool := do
  match ← channel? handle with
  | some (_, .file place _ _ _ _) => return (← get).disk.at? place = some .directory
  | _ => return false

/-- Prints files one after the other; a dash, or no operand at all, means what can be read. -/
def cat (args : List Octets) : Run Nat := do
  let (letters, operands) := options args
  if let some letter := letters.find? (· != 'u') then return ← refuseOption "cat" [letter]
  forAll (if operands.isEmpty then [['-']] else operands) fun path => do
    if path = "/dev/null" then return true
    if path = "-" || path = "/dev/stdin" then
      if ← isDirectory 0 then
        complain ("cat: " ++ path ++ ": " ++ DiskError.reason .isDirectory)
        return false
      passOn (← pieceCount 0)
    else match ← look path with
      | .ok (_, .file bytes) => write 1 (Octets.ofBytes bytes)
      | .ok (_, .directory) =>
        complain ("cat: " ++ inQuotesIfNeeded path ++ ": " ++ DiskError.reason .isDirectory)
        return false
      | .error e =>
        complain ("cat: " ++ inQuotesIfNeeded path ++ ": " ++ e.reason)
        return false

/-- The milliseconds that a text asks for: a decimal number of seconds, or of another unit. -/
def duration? (s : Octets) : Option Nat :=
  let (number, unit) : Octets × Nat := match s.getLast? with
    | some 's' => (s.dropLast, 1)
    | some 'm' => (s.dropLast, 60)
    | some 'h' => (s.dropLast, 3600)
    | some 'd' => (s.dropLast, 86400)
    | _ => (s, 1)
  let whole := number.takeWhile Char.isDigit
  let fraction := match number.dropWhile Char.isDigit with
    | [] => some []
    | '.' :: ds => if ds.all Char.isDigit then some ds else none
    | _ => none
  match fraction with
  | none => none
  | some ds =>
    if whole.isEmpty && ds.isEmpty then none
    else
      let thousandths := Text.Decimal.accumulate 0 ((ds ++ ['0', '0', '0']).take 3)
      some ((Text.Decimal.accumulate 0 whole * 1000 + thousandths) * unit)

/-- Waits. -/
def sleep (args : List Octets) : Run Nat := do
  if args.isEmpty then
    complain "sleep: missing operand\nTry 'sleep --help' for more information."
    return 1
  if let some a := args.find? fun a => a.length > 1 && a.head? = some '-' then
    return ← refuseOption "sleep" ((a.drop 1).take 1)
  let wrong := args.filter fun a => (duration? a).isNone
  for a in wrong do complain ("sleep: invalid time interval " ++ inPlainQuotes (Octets.toText a))
  if !wrong.isEmpty then
    complain "Try 'sleep --help' for more information."
    return 1
  modify fun m => { m with clock := (args.filterMap duration?).foldl (· + ·) m.clock }
  return 0

/-- Makes directories, with `-p` also those on the way. -/
def mkdir (args : List Octets) : Run Nat := do
  let (letters, operands) := options args
  if operands.isEmpty then
    complain "mkdir: missing operand\nTry 'mkdir --help' for more information."
    return 1
  forAll operands fun path =>
    change ("mkdir: cannot create directory " ++ inPlainQuotes path) path
      (if letters.contains 'p' then Disk.makeDirectoriesFrom else Disk.makeDirectoryFrom)

/-- Removes an entry. -/
def removeEntry (disk : Disk) (place : Place) : Disk :=
  { disk with entries := disk.entries.filter fun (p, _) => !place.isPrefixOf p }

/-- Removes directories that are empty. -/
def rmdir (args : List Octets) : Run Nat := do
  forAll (options args).2 fun path => do
    let failed (why : String) : Run Bool := do
      complain ("rmdir: failed to remove " ++ inQuotes path ++ ": " ++ why)
      return false
    match ← look path with
    | .error e => failed e.reason
    | .ok (_, .file _) => failed (DiskError.reason .notDirectory)
    | .ok (place, .directory) =>
      if !((← get).disk.children place).isEmpty then failed "Directory not empty"
      else
        modify fun m => { m with disk := removeEntry m.disk place }
        return true

/-- Removes files, with `-r` also directories. -/
def rm (args : List Octets) : Run Nat := do
  let (letters, operands) := options args
  let deep := letters.contains 'r' || letters.contains 'R'
  forAll operands fun path => do
    let failed (why : String) : Run Bool := do
      complain ("rm: cannot remove " ++ inQuotes path ++ ": " ++ why)
      return false
    match ← look path with
    | .error e => if letters.contains 'f' then return true else failed e.reason
    | .ok (place, entry) =>
      if entry = .directory && !deep then failed (DiskError.reason .isDirectory)
      else
        modify fun m => { m with disk := removeEntry m.disk place }
        return true

/-- Makes files that are missing. -/
def touch (args : List Octets) : Run Nat := do
  forAll (options args).2 fun path => do
    match ← look path with
    | .ok (place, _) =>
      noteChange place
      return true
    | .error _ =>
      change ("touch: cannot touch " ++ inQuotes path) path fun disk base path =>
        disk.writeFrom base path []

/-- Lists files and what is in directories. -/
def ls (args : List Octets) : Run Nat := do
  let (letters, operands) := options args
  let operands := if operands.isEmpty then [['.']] else operands
  let every := letters.contains 'a' || letters.contains 'A'
  let mut status := 0
  let mut files : Array String := #[]
  let mut directories : Array (String × Place) := #[]
  for o in operands do
    let path := Octets.toText o
    match ← look path with
    | .error e =>
      complain ("ls: cannot access " ++ inQuotes path ++ ": " ++ e.reason)
      status := 2
    | .ok (place, .directory) =>
      if letters.contains 'd' then files := files.push path
      else directories := directories.push (path, place)
    | .ok _ => files := files.push path
  let show' (names : List String) : Run Unit := do
    let _ ← write 1 (names.flatMap fun n => Octets.ofText n ++ ['\n'])
  let sorted (names : List String) := names.mergeSort fun a b => decide (a ≤ b)
  show' (sorted files.toList)
  let mut first := files.isEmpty
  for (path, place) in directories.toList.mergeSort fun a b => decide (a.1 ≤ b.1) do
    if operands.length > 1 then
      let _ ← write 1 ((if first then [] else ['\n']) ++ Octets.ofText path ++ ":\n".toList)
    first := false
    let names := ((← get).disk.children place).filter fun n => every || n.toList.head? != some '.'
    show' ((if letters.contains 'a' then [".", ".."] else []) ++ names)
  return status

/-- Takes the options of `echo`: whether the line ends, and whether backslashes have a meaning. -/
def echoOptions : Bool → Bool → List Octets → Bool × Bool × List Octets
  | ends, escapes, ('-' :: c :: cs) :: rest =>
    let letters := c :: cs
    if letters.all ['n', 'e', 'E'].contains then
      let signs := letters.filter (· != 'n')
      echoOptions (ends && !letters.contains 'n')
        ((signs.getLast?.map (· == 'e')).getD escapes) rest
    else (ends, escapes, ('-' :: letters) :: rest)
  | ends, escapes, args => (ends, escapes, args)

/-- Prints words on a line. -/
def echo (args : List Octets) : Run Nat := do
  let (ends, escapes, words) := echoOptions true false args
  let text := Text.joinWith ' ' words
  let (text, isCut) := if escapes then Printing.unescape (text.length + 1) text else (text, false)
  let _ ← write 1 (if ends && !isCut then text ++ ['\n'] else text)
  return 0

/-- Prints the directory. -/
def pwd (_ : List Octets) : Run Nat := do
  let _ ← write 1 (Octets.ofText (← directoryPath) ++ ['\n'])
  return 0

/-! ## All of them -/

/-- The directories that programs stand in. -/
def directories : List String :=
  ["/usr/bin/", "/bin/"]

/-- The program with a name. -/
def ofName? : String → Option (List Octets → Run Nat)
  | "cat" => some cat
  | "echo" => some echo
  | "false" => some fun _ => return 1
  | "ls" => some ls
  | "mkdir" => some mkdir
  | "pwd" => some pwd
  | "rm" => some rm
  | "rmdir" => some rmdir
  | "sleep" => some sleep
  | "touch" => some touch
  | "true" => some fun _ => return 0
  | _ => none

/-- The name of the program that a path leads to, which may be a shell. -/
def nameOfPath? (path : Octets) : Option String :=
  let path := String.ofList path
  let name? := directories.findSome? fun d =>
    if d.toList.isPrefixOf path.toList then some (String.ofList (path.toList.drop d.length))
    else none
  name?.filter fun name => (ofName? name).isSome || name = "sh" || name = "dash"

/-- What is found where a program is looked for. -/
inductive Finding where
  | program (name : String)
  | denied
  | missing
deriving DecidableEq, Repr

/-- What a path leads to when a program is wanted. No file of a disk is a program. -/
def find (path : Octets) : Run Finding := do
  match nameOfPath? path with
  | some name => return .program name
  | none =>
    match ← look (Octets.toText path) with
    | .ok _ => return .denied
    | .error _ => return .missing

end WorkspaceConsole.Shell.Program

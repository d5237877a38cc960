import WorkspaceConsole.Shell.Builtin.Basic
import WorkspaceConsole.Shell.Printing

/-!
# Commands about files

Changing and printing the directory, checking conditions, and the limits that a process has: which
rights its new files are denied, and how much it may use.
-/

namespace WorkspaceConsole.Shell.Builtin

open Run

/-! ## Directories -/

/-- Takes the options for links, which have no effect where there are none. -/
def linkOptions (args : List Octets) : Run (List Octets) := do
  return (← options "LP" args).2

/-- Prints the directory. -/
def printDirectory : Command := fun args => do
  let _ ← linkOptions args
  printLine (Octets.ofText (← directoryPath))

/-- A path below a directory of a list; an empty entry of the list stands for no directory. -/
def below (directory path : Octets) : Octets :=
  if directory.isEmpty then path else directory ++ '/' :: path

/-- Whether a path begins with a slash, or with dots up to a slash or its end. -/
def isFixed (path : Octets) : Bool :=
  match path with
  | '/' :: _ | ['.'] | '.' :: '/' :: _ | ['.', '.'] | '.' :: '.' :: '/' :: _ => true
  | _ => false

/-- The directory that a path leads to. -/
def directoryAt? (path : Octets) : Run (Option Place) := do
  let m ← get
  match m.disk.entryFrom m.shell.directory (Octets.toText path) with
  | .ok (place, .directory) => return some place
  | _ => return none

/-- The first directory that a path leads to from the entries of a list, and whether it was found
through an entry that is not empty. -/
def searchDirectory (path : Octets) : List Octets → Run (Option (Place × Bool))
  | [] => return none
  | entry :: entries => do
    match ← directoryAt? (below entry path) with
    | some place => return some (place, !entry.isEmpty)
    | none => searchDirectory path entries

/-- Changes the directory. Where it is not the one that was written, it is printed. -/
def changeDirectory : Command := fun args => do
  let args ← linkOptions args
  let target ← match args with
    | [] => do pure ((← value? "HOME").getD [])
    | ['-'] :: _ => do pure ((← value? "OLDPWD").getD [])
    | path :: _ => pure path
  let entries ← if isFixed target then pure [] else do
    match ← value? "CDPATH" with
      | some list => pure (list.splitOn ':')
      | none => pure []
  let target := if target.isEmpty then ['.'] else target
  let (place, isElsewhere) ← match ← searchDirectory target entries with
    | some found => pure found
    | none => do
      match ← directoryAt? target with
      | some place => pure (place, false)
      | none => fail ("can't cd to ".toList ++ target)
  let old := Octets.ofText (← directoryPath)
  modifyShell fun s => { s with directory := place }
  let mark (v : Variable) : Variable := { v with exported := true }
  change "OLDPWD" (some old) mark
  change "PWD" (some (Octets.ofText (← directoryPath))) mark
  if isElsewhere || args.head? = some ['-'] then
    let _ ← printLine (Octets.ofText (← directoryPath))
  return 0

/-! ## Conditions -/

/-- What is seen where a path leads. -/
def look (m : Machine) : Condition.Look := fun path =>
  let text := Octets.toText path
  if ["/dev/null", "/dev/zero", "/dev/tty", "/dev/full", "/dev/random"].contains text then
    some ⟨none, Disk.names text, none⟩
  else match m.disk.entryFrom m.shell.directory text with
    | .ok (place, entry) => some ⟨some entry, place, m.changed.lookup place⟩
    | .error _ => none

/-- Checks a condition. -/
def test : Command := fun args => do
  match Condition.evaluate (look (← get)) 4 false args with
  | .ok result => return if result then 0 else 1
  | .error message => fail message

/-- Checks a condition between brackets. -/
def bracket : Command := fun args => do
  if args.getLast? = some [']'] then test args.dropLast else fail "missing ]".toList

/-! ## Rights -/

/-- The rights of one group of users, as letters. -/
def rightsText (n : Nat) : Octets :=
  (if n / 4 % 2 = 1 then ['r'] else []) ++ (if n / 2 % 2 = 1 then ['w'] else []) ++
    (if n % 2 = 1 then ['x'] else [])

/-- The groups of users with the place of their rights. -/
def groups : List (Char × Nat) :=
  [('u', 64), ('g', 8), ('o', 1)]

/-- The rights that letters ask for, where other letters stand for what a group has. -/
def rightsOf (rights : Nat) (letters : Octets) : Nat :=
  letters.foldl (fun n c =>
    n ||| (match c with
      | 'r' => 4
      | 'w' => 2
      | 'x' | 'X' => 1
      | c => ((groups.lookup c).map fun place => rights / place % 8).getD 0)) 0

/-- Applies changes of rights for some groups: a sign with letters, again and again. -/
def changeRights (places : List Nat) : Nat → Octets → Nat → Option Nat
  | 0, _, _ => none
  | _, [], rights => some rights
  | fuel + 1, sign :: cs, rights =>
    let letters := cs.takeWhile ['r', 'w', 'x', 'X', 's', 't', 'u', 'g', 'o'].contains
    let asked := rightsOf rights letters
    let all := (places.map (asked * ·)).sum
    let group := (places.map (7 * ·)).sum
    let next (rights : Nat) := changeRights places fuel (cs.drop letters.length) rights
    match sign with
    | '+' => next (rights ||| all)
    | '-' => next (rights &&& (511 - all))
    | '=' => next ((rights &&& (511 - group)) ||| all)
    | _ => none

/-- The rights after changes that are written with letters, between commas. -/
def symbolicRights? (text : Octets) (rights : Nat) : Option Nat :=
  (text.splitOn ',').foldl (fun rights? clause =>
    rights?.bind fun rights =>
      let who := clause.takeWhile ['u', 'g', 'o', 'a'].contains
      let places := groups.filterMap fun (c, place) =>
        if who.isEmpty || who.contains c || who.contains 'a' then some place else none
      let rest := clause.drop who.length
      if rest.isEmpty then none else changeRights places (rest.length + 1) rest rights)
    (some rights)

/-- Prints or sets the rights that new files are denied. -/
def umask : Command := fun args => do
  let (found, rest) ← options "S" args
  let mask := (← shell).mask
  match rest with
  | [] =>
    if found.isEmpty then
      return ← printLine (Text.Floating.padded 4 (Nat.toDigits 8 mask))
    let shown := groups.map fun (c, place) => c :: '=' :: rightsText ((511 - mask) / place % 8)
    printLine (Text.joinWith ',' shown)
  | text :: _ =>
    let new ← if text.head?.any Char.isDigit then
        if text.all Printing.isOctal then pure (Arithmetic.ofDigits 8 text % 512)
        else failNumber text
      else match symbolicRights? text (511 - mask) with
        | some rights => pure (511 - rights)
        | none => fail ("Illegal mode: ".toList ++ text)
    modifyShell fun s => { s with mask := new }
    return 0

/-! ## Limits -/

/-- A resource that may be limited: the letter that it is asked for by, its name, and how many
units its number counts. -/
structure Resource where
  letter : Char
  name : String
  unit : Nat

/-- The resources that may be limited. -/
def resources : List Resource :=
  [⟨'t', "time(seconds)", 1⟩, ⟨'f', "file(blocks)", 512⟩, ⟨'d', "data(kbytes)", 1024⟩,
    ⟨'s', "stack(kbytes)", 1024⟩, ⟨'c', "coredump(blocks)", 512⟩, ⟨'m', "memory(kbytes)", 1024⟩,
    ⟨'l', "locked memory(kbytes)", 1024⟩, ⟨'p', "process", 1⟩, ⟨'n', "nofiles", 1⟩,
    ⟨'v', "vmemory(kbytes)", 1024⟩, ⟨'w', "locks", 1⟩, ⟨'r', "rtprio", 1⟩]

/-- The limits that a process has from the beginning. -/
def startLimits : List Limit :=
  [⟨'s', some 8388608, none⟩, ⟨'c', some 0, none⟩, ⟨'l', some 8388608, some 8388608⟩,
    ⟨'p', some 128604, some 128604⟩, ⟨'n', some 20000, some 20000⟩, ⟨'r', some 0, some 0⟩]

/-- The limit on a resource. -/
def limitOf (letter : Char) : Run Limit := do
  return ((← shell).limits.find? (·.letter == letter)).getD ⟨letter, none, none⟩

/-- A limit as it is printed. -/
def limitText (r : Resource) (value : Option Nat) : Octets :=
  match value with
  | some n => Text.Decimal.digits (n / r.unit)
  | none => "unlimited".toList

/-- The number of a limit that a text asks for. -/
def limitNumber? (r : Resource) (text : Octets) : Option (Option Nat) :=
  if text = "unlimited".toList then some none
  else (Text.Decimal.read? text).map fun n => some (n * r.unit)

/-- Whether one limit is beyond another one. -/
def isBeyond (a b : Option Nat) : Bool :=
  match a, b with
  | _, none => false
  | none, some _ => true
  | some m, some n => n < m

/-- Prints limits or sets one: the soft one, the hard one, or both. -/
def ulimit : Command := fun args => do
  let letters := String.ofList ("HSa".toList ++ resources.map Resource.letter)
  let (found, rest) ← options letters args
  let chosen := found.map Prod.fst
  let modes := chosen.filter ['H', 'S'].contains
  let isHard := modes.getLast? != some 'S'
  let isSoft := modes.getLast? != some 'H'
  let wanted := (chosen.filter fun c => !(['H', 'S'].contains c)).getLast?.getD 'f'
  let valueOf (l : Limit) : Option Nat := if isSoft then l.soft else l.hard
  if wanted = 'a' && rest.isEmpty then
    for r in resources do
      let name := r.name.toList ++ List.replicate (20 - r.name.length) ' '
      let _ ← printLine (name ++ ' ' :: limitText r (valueOf (← limitOf r.letter)))
    return 0
  let some r := resources.find? (·.letter == wanted) | fail "too many arguments".toList
  match rest with
  | [] => printLine (limitText r (valueOf (← limitOf r.letter)))
  | [text] =>
    let some new := limitNumber? r text | fail "bad number".toList
    let old ← limitOf r.letter
    let limit : Limit := { old with
      soft := if isSoft then new else old.soft
      hard := if isHard then new else old.hard }
    if isBeyond limit.soft limit.hard then
      fail "error setting limit (Invalid argument)".toList
    modifyShell fun s =>
      { s with limits := limit :: s.limits.filter (·.letter != r.letter) }
    return 0
  | _ => fail "too many arguments".toList

end WorkspaceConsole.Shell.Builtin

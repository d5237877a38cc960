import WorkspaceConsole.Disk
import WorkspaceConsole.Shell.Script
import WorkspaceConsole.Text.Decimal

/-!
# The state of a shell

A `Machine` is a shell with what it shares with others: the disk, the channels that handles lead to,
the processes and a clock. Waiting moves the clock and nothing else, so a script with pauses is run
at once. What is written to a buffer is stamped with the time and the writer, for the sake of
commands that run side by side.

`Run` is an action on a machine. It may be cut short by a `Stop`: by leaving a loop, a function or
the shell, by an error, by a signal, or because the script does not come to an end.
-/

namespace WorkspaceConsole.Shell

/-- A variable. One without a value has only been marked. -/
structure Variable where
  value : Option Octets := none
  exported : Bool := false
  readOnly : Bool := false
deriving DecidableEq, Repr, Inhabited

/-- A piece of what has been written to a buffer. -/
structure Piece where
  time : Nat
  writer : Nat
  text : Octets
deriving Repr, Inhabited

/-- What a handle leads to: nothing, what has been written, what is left to read with the times at
which it comes up to the end, or a file with the position in it. -/
inductive Channel where
  | null
  | buffer (written : List Piece)
  | source (rest : List (Nat × Octets)) (finish : Nat)
  | file (place : Place) (position : Nat) (appends readable writable : Bool)
deriving Repr, Inhabited

/-- How a process ended: with a status, by a signal, or not at all. -/
inductive Ending where
  | status (n : Nat)
  | signal (n : Nat)
  | endless
deriving DecidableEq, Repr, Inhabited

/-- The status that an ending stands for. -/
def Ending.code : Ending → Nat
  | .status n => n
  | .signal n => 128 + n
  | .endless => 0

/-- A process in the background: its number, when and how it ends, the channels that it can write
to, and whether its shell knows that it has ended. -/
structure Process where
  number : Nat
  finish : Nat
  ending : Ending
  channels : List Nat
  isKnown : Bool := false
deriving DecidableEq, Repr, Inhabited

/-- A command in the background by the number that its shell gives it, and whether it has been
waited for. -/
structure Job where
  number : Nat
  process : Nat
  isAwaited : Bool := false
deriving DecidableEq, Repr, Inhabited

/-- What a function keeps to itself: the value that a variable had before, or the switches. -/
inductive Saved where
  | variable (name : String) (old : Option Variable)
  | switches (old : List String)

/-- A limit on a resource. Without a number there is none. -/
structure Limit where
  letter : Char
  soft : Option Nat
  hard : Option Nat
deriving Repr, Inhabited

/-- What belongs to one shell. A shell that is split off begins with a copy, and the one that was
started is the main one. The process is the one in the background that the shell is a part of, the
speaker the command in whose name it complains. The option place is how far `getopts` has come: the
number of the next argument, and how much has been taken of the one before. -/
structure ShellState where
  name : Octets := ['s', 'h']
  number : Nat := 0
  process : Nat := 0
  isMain : Bool := true
  bindings : List (String × Variable) := []
  functions : List (String × Nat × Node) := []
  aliases : List (String × Octets) := []
  traps : List (Nat × Octets) := []
  arguments : List Octets := []
  directory : Place := []
  status : Nat := 0
  substituted : Nat := 0
  trapStatus : Option Nat := none
  background : Option Nat := none
  jobs : List Job := []
  handles : List (Nat × Nat) := []
  line : Nat := 1
  errorLine : Nat := 1
  readLine : Nat := 1
  isReadToEnd : Bool := false
  functionLine : Nat := 0
  countsLines : Bool := true
  speaker : Option Octets := none
  loops : Nat := 0
  depth : Nat := 0
  locals : List (List Saved) := []
  optionPlace : Nat × Option Nat := (1, none)
  switches : List String := []
  isTracing : Bool := false
  hashed : List String := []
  mask : Nat := 18
  limits : List Limit := []
deriving Inhabited

/-- A signal on its way to a shell. -/
structure Sent where
  process : Nat
  signal : Nat
  time : Nat
deriving DecidableEq, Repr, Inhabited

/-- A shell and what it shares with others: what was changed on the disk and when, the processes
that were sent to the background, the shells that are at work, and the signals for them. -/
structure Machine where
  disk : Disk
  changed : List (Place × Nat) := []
  channels : Array Channel := #[]
  clock : Nat := 0
  processes : List Process := []
  lastProcess : Nat := 1
  shells : List Nat := []
  signals : List Sent := []
  shell : ShellState := {}

/-- Why an action is cut short. -/
inductive Stop where
  | breaking (levels : Nat)
  | continuing (levels : Nat)
  | returning (isPlain : Bool)
  | exiting
  | ending
  | failing
  | killed (signal : Nat)
  | stuck
deriving DecidableEq, Repr

/-- An action on a machine. -/
abbrev Run := ExceptT Stop (StateM Machine)

namespace Run

/-- The state of the shell. -/
def shell : Run ShellState := do
  return (← get).shell

/-- Changes the state of the shell. -/
def modifyShell (f : ShellState → ShellState) : Run Unit :=
  modify fun m => { m with shell := f m.shell }

/-- Sets the status of the last command. -/
def setStatus (status : Nat) : Run Unit :=
  modifyShell fun s => { s with status }

/-- Whether a switch is on. -/
def isOn (switch : String) : Run Bool := do
  return (← shell).switches.contains switch

/-- Carries out an action, and another one after it however it ends. -/
def ensuring {α : Type} (action : Run α) (after : Run Unit) : Run α := do
  let result ← tryCatch action fun stop => do
    after
    throw stop
  after
  return result

/-- A number for a new process. -/
def newProcess : Run Nat := do
  let number := (← get).lastProcess + 1
  modify fun m => { m with lastProcess := number }
  return number

/-! ## Channels -/

/-- Opens a channel and gives its number. -/
def openChannel (c : Channel) : Run Nat := do
  let number := (← get).channels.size
  modify fun m => { m with channels := m.channels.push c }
  return number

/-- Makes a handle lead to a channel, or closes it. -/
def setHandle (handle : Nat) (channel : Option Nat) : Run Unit :=
  modifyShell fun s =>
    let others := s.handles.filter (·.1 ≠ handle)
    { s with handles := match channel with
        | some number => (handle, number) :: others
        | none => others }

/-- The channel that a handle leads to. -/
def channel? (handle : Nat) : Run (Option (Nat × Channel)) := do
  let m ← get
  match m.shell.handles.lookup handle with
  | some number => return m.channels[number]?.map (number, ·)
  | none => return none

/-- Changes a channel. -/
def setChannel (number : Nat) (c : Channel) : Run Unit :=
  modify fun m => { m with channels := m.channels.set! number c }

/-- Notes that the file at a place is changed now. -/
def noteChange (place : Place) : Run Unit :=
  modify fun m => { m with changed := (place, m.clock) :: m.changed.filter (·.1 ≠ place) }

/-- Puts a file at a place. -/
def putFile (place : Place) (s : Octets) : Run Unit := do
  modify fun m => { m with disk := m.disk.put place (.file (Octets.toBytes s)) }
  noteChange place

/-- The bytes of the file at a place. -/
def fileBytes (place : Place) : Run Octets := do
  match (← get).disk.at? place with
  | some (.file bytes) => return Octets.ofBytes bytes
  | _ => return []

/-- Writes to a channel, and says whether that could be done. -/
def writeChannel (number : Nat) (s : Octets) : Run Bool := do
  let m ← get
  match m.channels[number]? with
  | none | some (.source _ _) => return false
  | some .null => return true
  | some (.buffer written) =>
    setChannel number (.buffer (⟨m.clock, m.shell.process, s⟩ :: written))
    return true
  | some (.file place position appends readable writable) =>
    if !writable then return false
    let old ← fileBytes place
    let position := if appends then old.length else position
    let gap := List.replicate (position - old.length) '\x00'
    let new := old.take position ++ gap ++ s ++ old.drop (position + s.length)
    putFile place new
    setChannel number (.file place (position + s.length) appends readable writable)
    return true

/-- Writes to a handle, and says whether that could be done. -/
def write (handle : Nat) (s : Octets) : Run Bool := do
  match (← shell).handles.lookup handle with
  | some number => writeChannel number s
  | none => return false

/-- A text up to and with the first character of a kind, and the rest; the flag says that there is
such a character. -/
def cutAfter (isEnd : Char → Bool) (s : Octets) : Octets × Octets × Bool :=
  let front := s.takeWhile (!isEnd ·)
  match s.dropWhile (!isEnd ·) with
  | [] => (front, [], false)
  | c :: rest => (front ++ [c], rest, true)

/-- What pieces have to offer up to a character of a kind, what is left, and the time when that is
known. -/
def takePieces (isEnd : Char → Bool) (finish : Nat) :
    Octets → List (Nat × Octets) → Octets × List (Nat × Octets) × Nat
  | taken, [] => (taken, [], finish)
  | taken, (time, s) :: pieces =>
    match cutAfter isEnd s with
    | (front, rest, true) => (taken ++ front, (time, rest) :: pieces, time)
    | (front, _, false) => takePieces isEnd finish (taken ++ front) pieces

/-- Takes what a handle has to offer, up to and with the first character of a kind if there is one.
-/
def readUpTo (handle : Nat) (isEnd : Char → Bool) : Run Octets := do
  match ← channel? handle with
  | some (number, .source pieces finish) =>
    let (front, rest, time) := takePieces isEnd finish [] pieces
    setChannel number (.source rest finish)
    modify fun m => { m with clock := max m.clock time }
    return front
  | some (number, .file place position appends readable writable) =>
    if !readable then return []
    let front := (cutAfter isEnd ((← fileBytes place).drop position)).1
    setChannel number (.file place (position + front.length) appends readable writable)
    return front
  | _ => return []

/-- Takes what comes next of what a handle has to offer. Nothing comes at the end. -/
def readPiece (handle : Nat) : Run Octets := do
  match ← channel? handle with
  | some (number, .source pieces finish) =>
    modify fun m => { m with clock := max m.clock ((pieces.head?.map Prod.fst).getD finish) }
    setChannel number (.source (pieces.drop 1) finish)
    return (pieces.head?.map Prod.snd).getD []
  | _ => readUpTo handle fun _ => false

/-- How many pieces a handle has to offer at most. -/
def pieceCount (handle : Nat) : Run Nat := do
  match ← channel? handle with
  | some (_, .source pieces _) => return pieces.length + 1
  | _ => return 2

/-- Takes all that a handle has to offer. -/
def readAll (handle : Nat) : Run Octets :=
  readUpTo handle fun _ => false

/-- The pieces that have been written to a channel, in the order of the times. -/
def pieces (number : Nat) : Run (List Piece) := do
  match (← get).channels[number]? with
  | some (.buffer pieces) =>
    return pieces.reverse.mergeSort fun a b => decide (a.time ≤ b.time)
  | _ => return []

/-- What has been written to a channel. -/
def written (number : Nat) : Run Octets := do
  return (← pieces number).flatMap Piece.text

/-- Takes back what a process has written after a time. -/
def silence (process time : Nat) : Run Unit :=
  modify fun m =>
    { m with channels := m.channels.map fun c =>
        match c with
        | .buffer pieces =>
          .buffer (pieces.filter fun p => !(p.writer == process && decide (time < p.time)))
        | c => c }

/-! ## Messages -/

/-- Writes a message, after the name of the shell, the line and the speaker. -/
def complain (message : Octets) : Run Unit := do
  let s ← shell
  let speaker := match s.speaker with
    | some name => name ++ [':', ' ']
    | none => []
  let place := s.name ++ [':', ' '] ++ Text.Decimal.digits s.errorLine ++ [':', ' ']
  let _ ← write 2 (place ++ speaker ++ message ++ ['\n'])

/-- Fails with a message. -/
def fail {α : Type} (message : Octets) : Run α := do
  setStatus 2
  complain message
  throw .failing

/-- Fails because of what is no number. -/
def failNumber {α : Type} (s : Octets) : Run α :=
  fail ("Illegal number: ".toList ++ s)

/-- The decimal number that a text is, with a sign and between blanks. -/
def decimal? (s : Octets) : Option Int :=
  let isSpace (c : Char) : Bool := c == ' ' || ('\t' ≤ c && c ≤ '\r')
  let cs := s.dropWhile isSpace
  let (sign, cs) : Int × Octets := match cs with
    | '-' :: cs => (-1, cs)
    | '+' :: cs => (1, cs)
    | cs => (1, cs)
  let ds := cs.takeWhile Char.isDigit
  if !ds.isEmpty && (cs.drop ds.length).all isSpace then some (sign * Text.Decimal.accumulate 0 ds)
  else none

/-- A number that is not negative, as a command is given it. -/
def number (s : Octets) : Run Nat := do
  match decimal? s with
  | some n => if 0 ≤ n && n ≤ Int32.maxValue.toInt then return n.toNat else failNumber s
  | none => failNumber s

/-! ## Variables -/

/-- The variable with a name. -/
def binding? (name : String) : Run (Option Variable) := do
  let s ← shell
  if name = "LINENO" && s.countsLines then
    return some { value := some (Text.Decimal.digits s.line) }
  return s.bindings.lookup name

/-- The value of a variable. -/
def value? (name : String) : Run (Option Octets) := do
  return (← binding? name).bind Variable.value

/-- Replaces a variable. -/
def putVariable (name : String) (v : Option Variable) : Run Unit :=
  modifyShell fun s =>
    let others := s.bindings.filter (·.1 ≠ name)
    { s with
      countsLines := s.countsLines && name != "LINENO"
      bindings := match v with
        | some v => (name, v) :: others
        | none => others }

/-- Does what goes with a new value of a variable: the place of options is set by a number, and
programs that were found are forgotten with their path. -/
def noteValue (name : String) (value : Octets) : Run Unit := do
  if name = "OPTIND" then
    let place ← number value
    modifyShell fun s => { s with optionPlace := (max 1 place, none) }
  if name = "PATH" then modifyShell fun s => { s with hashed := [] }

/-- Marks a variable and gives it a value if there is one, unless it is read-only. -/
def change (name : String) (value : Option Octets) (mark : Variable → Variable) : Run Unit := do
  let old := (← binding? name).getD {}
  match value with
  | none => putVariable name (some (mark old))
  | some v =>
    if old.readOnly then fail (name.toList ++ ": is read only".toList)
    noteValue name v
    let exported := old.exported || (← isOn "allexport")
    putVariable name (some (mark { old with value := some v, exported }))

/-- Gives a variable a value. -/
def assign (name : String) (value : Octets) : Run Unit :=
  change name (some value) id

/-- Forgets a variable, unless it is read-only. -/
def forget (name : String) : Run Unit := do
  if ((← binding? name).getD {}).readOnly then fail (name.toList ++ ": is read only".toList)
  putVariable name none

/-- The characters that separate fields. -/
def separators : Run Octets := do
  return (← value? "IFS").getD [' ', '\t', '\n']

/-- The path of the directory of the shell. -/
def directoryPath : Run String := do
  return "/" ++ "/".intercalate (← shell).directory

/-- The directories in which programs are looked for. -/
def searchPath : Run (List Octets) := do
  let standard := "/usr/local/sbin:/usr/local/bin:/usr/sbin:/usr/bin:/sbin:/bin"
  let path := (← binding? "PATH").map fun v => v.value.getD []
  return (path.getD standard.toList).splitOn ':'

end Run

end WorkspaceConsole.Shell

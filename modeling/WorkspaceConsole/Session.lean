import WorkspaceConsole.Interpreter
import WorkspaceConsole.Keystroke

/-!
# Terminal sessions

A session keeps a transcript, to which it only ever appends, a line being edited, and the path where
it stands. Submitting a line clears the buffer and gives out a ticket; until the result for that
ticket comes in, further lines are echoed and refused as busy. A result for any other ticket is
dropped.
-/

namespace WorkspaceConsole

/-- A line handed over for evaluation, with the path at that moment. -/
structure Submission where
  ticket : UInt64
  line : String
  cwd : WorkingPath
deriving DecidableEq, Repr

/-- What a session is doing: text in the buffer counts before a running command. -/
inductive InputState where
  | idle
  | editing
  | submitting
deriving DecidableEq, Repr

/-- A terminal session. -/
structure Session where
  id : UInt64
  transcript : List String := []
  buffer : String := ""
  cwd : WorkingPath := .root
  nextTicket : UInt64 := 1
  inFlight : Option UInt64 := none
deriving DecidableEq, Repr, Inhabited

namespace Session

/-- What a line says that is submitted while another one runs. -/
def busyMessage : String := "Busy: previous command is still running"

/-- What stands before the echo of a line. -/
def echoMark : String := "$ "

/-- A session that starts with a welcome, unless that is missing or empty. -/
def openWith (id : UInt64) (welcome : Option String) : Session :=
  match welcome with
  | none => { id }
  | some text => if text.isEmpty then { id } else { id, transcript := [text] }

/-- Sessions opened one after the other, with consecutive identifiers. -/
def openAll (first : UInt64) : List (Option String) → List Session
  | [] => []
  | welcome :: rest => openWith first welcome :: openAll (first + 1) rest

/-- Whether a command is running. -/
def isBusy (s : Session) : Bool := s.inFlight.isSome

/-- What the session is doing. -/
def state (s : Session) : InputState :=
  if !s.buffer.isEmpty then .editing else if s.isBusy then .submitting else .idle

/-- What stands before the buffer: the path, if a folder has been entered, and the mark. -/
def prompt (s : Session) : String :=
  if s.cwd.isRoot then echoMark else s.cwd.display ++ " " ++ echoMark

/-- The lines of the transcript from a position on. -/
def since (s : Session) (offset : Nat) : List String :=
  s.transcript.drop offset

/-- Appends lines to the transcript. -/
def record (s : Session) (lines : List String) : Session :=
  { s with transcript := s.transcript ++ lines }

/-- Submits the buffer. The line is echoed in any case; a blank line and a line that comes while
another one runs yield no submission. -/
def submit (s : Session) : Option Submission × Session :=
  let line := Text.trimmed s.buffer
  let s := { s with buffer := "" }.record [echoMark ++ line]
  if line.isEmpty then (none, s)
  else if s.isBusy then (none, s.record [busyMessage])
  else
    (some ⟨s.nextTicket, line, s.cwd⟩,
      { s with nextTicket := s.nextTicket + 1, inFlight := some s.nextTicket })

/-- Turns every carriage return, with the line feed after it if there is one, into a line feed. -/
def unifyBreaks : List Char → List Char
  | [] => []
  | '\r' :: '\n' :: cs => '\n' :: unifyBreaks cs
  | c :: cs => (if c = '\r' then '\n' else c) :: unifyBreaks cs

/-- Puts pieces of text into the buffer and submits after each but the last. The first submission
is the one that counts. -/
def feedPieces (s : Session) : List (List Char) → Option Submission × Session
  | [] => (none, s)
  | [last] => (none, { s with buffer := s.buffer ++ String.ofList last })
  | piece :: next :: more =>
    let (submission, s) := { s with buffer := s.buffer ++ String.ofList piece }.submit
    let (later, s) := feedPieces s (next :: more)
    (submission.or later, s)

/-- Pastes a text: each line break submits, and the rest after the last one stays in the buffer. -/
def paste (s : Session) (text : String) : Option Submission × Session :=
  s.feedPieces (Text.pieces (· == '\n') (unifyBreaks text.toList))

/-- The session after a keystroke, and the submission that it made. -/
def handleKey (s : Session) : Keystroke → Option Submission × Session
  | .char c => (none, if Text.isControl c then s else { s with buffer := s.buffer.push c })
  | .paste text => s.paste text
  | .backspace => (none, { s with buffer := String.ofList s.buffer.toList.dropLast })
  | .enter => s.submit
  | .interrupt => (none, { s with buffer := "" })

/-- Applies one effect, or passes it on. -/
def applyEffect : Session × List Effect → Effect → Session × List Effect
  | (s, rest), .changeDirectory path => ({ s with cwd := path }, rest)
  | (s, rest), .refreshTree => (s, rest ++ [.refreshTree])

/-- Takes the result for a ticket, and gives back the effects meant for the front end. A result that
is not awaited changes nothing. -/
def complete (s : Session) (ticket : UInt64) (e : Evaluation) : List Effect × Session :=
  if s.inFlight = some ticket then
    let (s, rest) := e.effects.foldl applyEffect ({ s with inFlight := none }.record e.lines, [])
    (rest, s)
  else ([], s)

variable {σ : Type}

/-- Enters a whole line and waits for its result. What was in the buffer is dropped. -/
def runLine (s : Session) (x : Interpreter σ) (line : String) (b : Backend σ) :
    List Effect × Session × Backend σ :=
  let (pasted, s) := { s with buffer := "" }.handleKey (.paste line)
  let (submission, s) :=
    match pasted with
    | some submission => (some submission, s)
    | none => s.handleKey .enter
  match submission with
  | none => ([], s, b)
  | some submission =>
    let (evaluation, b) := x.evaluate submission.line submission.cwd b
    let (effects, s) := s.complete submission.ticket evaluation
    (effects, s, b)

end Session

end WorkspaceConsole

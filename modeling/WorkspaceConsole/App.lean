import WorkspaceConsole.Screen.Guard
import WorkspaceConsole.Screen.View

/-!
# The full-screen console

The console feeds keys to its session. A submission is evaluated apart from the keyboard: it is
`running` until it finishes, its result waits in the `queue` until the queue is drained, and only
then does it reach the session. So a state of the console is its session, its explorer, the
evaluations that run and the messages that wait, and every order of keys, finishes and drains is a
run.

The explorer reckons over all numbers here: it moves by one row at a time, and its window takes the
height of a pane, so no result leaves the words (`Explorer.Scene.staysInRange_of_low`).
-/

namespace WorkspaceConsole

/-- An evaluation that runs, with the session that started it. -/
structure Started where
  session : UInt64
  submission : Submission
deriving DecidableEq, Repr

/-- The result of an evaluation on its way to a session. -/
structure Message where
  session : UInt64
  ticket : UInt64
  evaluation : Evaluation
deriving DecidableEq, Repr

/-- The state of the console. -/
structure App (σ : Type) where
  interpreter : Interpreter σ
  backend : Backend σ
  session : Session
  explorer : Explorer
  running : List Started := []
  queue : List Message := []
  quitting : Bool := false

namespace App

variable {σ : Type}

/-- The console at its start, with the tree as it is. -/
def start (interpreter : Interpreter σ) (backend : Backend σ) (session : Session) : App σ :=
  { interpreter, backend, session
    explorer := (({} : Explorer).refresh .natural backend.store).2 }

/-- Hands a keystroke to the session; a submission starts to run. -/
def feed (a : App σ) (k : Keystroke) : App σ :=
  let (submission, session) := a.session.handleKey k
  { a with session, running := a.running ++ (submission.map (Started.mk session.id)).toList }

/-- Handles a key: escape quits, the arrows and tab are for the explorer, the rest goes to the
session. -/
def handleKey (a : App σ) (event : KeyEvent) : App σ :=
  if event.released then a
  else match event.code with
    | .escape => { a with quitting := true }
    | .up => { a with explorer := (a.explorer.moveSelection .natural (-1)).2 }
    | .down => { a with explorer := (a.explorer.moveSelection .natural 1).2 }
    | .tab => { a with explorer := (a.explorer.toggleSelected .natural a.backend.store).2 }
    | _ =>
      match event.keystroke? with
      | some k => a.feed k
      | none => a

/-- Types a text, character by character. -/
def typeText (a : App σ) (text : String) : App σ :=
  text.toList.foldl (fun a c => a.handleKey { code := .char c }) a

/-- Lets the evaluation at a position finish: its result joins the queue. -/
def finish (a : App σ) (position : Nat) : App σ :=
  match a.running[position]? with
  | none => a
  | some ⟨session, submission⟩ =>
    let (evaluation, backend) := a.interpreter.evaluate submission.line submission.cwd a.backend
    { a with
      backend
      running := a.running.eraseIdx position
      queue := a.queue ++ [⟨session, submission.ticket, evaluation⟩] }

/-- Hands a message to the session it is meant for. The tree is read again as often as the result
asks for it. -/
def receive (a : App σ) (m : Message) : Bool × App σ :=
  if m.session = a.session.id then
    let (effects, session) := a.session.complete m.ticket m.evaluation
    let explorer := effects.foldl
      (fun e effect =>
        match effect with
        | .refreshTree => e.rebuild .natural a.backend.store
        | .changeDirectory _ => e) a.explorer
    (true, { a with session, explorer })
  else (false, a)

/-- Hands out messages in order, and says whether any was for this console. -/
def receiveAll (a : App σ) : List Message → Bool × App σ
  | [] => (false, a)
  | m :: ms =>
    let (own, a) := a.receive m
    let (later, a) := receiveAll a ms
    (own || later, a)

/-- Empties the queue. -/
def drain (a : App σ) : Bool × App σ :=
  { a with queue := [] }.receiveAll a.queue

/-- Lets all running evaluations finish in the order of their submission. -/
def finishAll (a : App σ) : App σ :=
  a.running.foldl (fun a _ => a.finish 0) a

/-- Lets all running evaluations finish, and empties the queue. -/
def settle (a : App σ) : App σ :=
  a.finishAll.drain.2

/-- One turn of the main loop: the results that have come in are taken, and the screen is drawn. -/
def turn (a : App σ) (width height : Nat) (label : String) : Frame × App σ :=
  let (_, a) := a.drain
  let (_, explorer) := (a.explorer.refresh .natural a.backend.store).run
  let (frame, explorer) := View.draw width height a.session explorer label
  (frame, { a with explorer })

/-- The main loop up to the first look at the signals: a console that is quitting draws nothing and
is ended by no signal. -/
def run (a : App σ) (raised : List QuitSignal) (width height : Nat) (label : String) :
    Frame × Option QuitSignal × App σ :=
  if a.quitting then (.blank width height, none, a)
  else
    let (frame, a) := a.turn width height label
    (frame, QuitSignal.pending? raised, a)

end App

end WorkspaceConsole

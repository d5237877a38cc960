import WorkspaceConsole.App
import WorkspaceConsole.Proofs.Session.Submission

/-!
# What an event does to the console

Keys and pastes, the ends of evaluations and the drains of the queue come in any order. Each of them
does one of four things (`Does`): it leaves session, evaluations and messages alone, it hands a
keystroke to the session, it ends an evaluation, or it drains the queue.

At every moment the console is in one of three phases (`InOrder`): it is idle, or one evaluation
runs, or one message waits. In the last two the session is busy, and the evaluation or the message
carries its identifier and its ticket. The phases follow each other in turn: a busy session makes no
further submission (`feed_of_busy`), a running evaluation comes to wait (`Runs.finish`), and a
waiting message is taken by the next drain (`Waits.drain`).
-/

namespace WorkspaceConsole.App

variable {σ : Type} {a b : App σ} {x : Started} {m : Message}

/-! ## Events -/

/-- What can happen to the console. `elsewhere` is all that goes on apart from its session: others
change the store, and the explorer reads it again when the screen is drawn. -/
inductive Event (σ : Type) where
  | key (event : KeyEvent)
  | paste (text : String)
  | finish (position : Nat)
  | drain
  | elsewhere (backend : Backend σ) (explorer : Explorer)

/-- The console after an event. -/
def step (a : App σ) : Event σ → App σ
  | .key event => a.handleKey event
  | .paste text => a.feed (.paste text)
  | .finish position => a.finish position
  | .drain => a.drain.2
  | .elsewhere backend explorer => { a with backend, explorer }

/-- The console after a list of events. -/
def after (a : App σ) (events : List (Event σ)) : App σ :=
  events.foldl step a

theorem after_append (a : App σ) (before events : List (Event σ)) :
    a.after (before ++ events) = (a.after before).after events :=
  List.foldl_append

/-! ## What happens in an event -/

/-- An evaluation that has finished. -/
structure Finished where
  started : Started
  evaluation : Evaluation

/-- The submission that it is the evaluation of. -/
def Finished.submission (x : Finished) : Submission := x.started.submission

/-- The message that it sends. -/
def Finished.message (x : Finished) : Message :=
  ⟨x.started.session, x.started.submission.ticket, x.evaluation⟩

/-- How an evaluation ends that finishes now. -/
def outcome (a : App σ) (x : Started) : Finished :=
  ⟨x, (a.interpreter.evaluate x.submission.line x.submission.cwd a.backend).1⟩

/-- What is added to the transcript at once: by input, or as the lines of a message that is handed
out. -/
inductive Block where
  | typed (lines : List String)
  | result (m : Message)

/-- The lines of a block. -/
def Block.lines : Block → List String
  | typed lines => lines
  | result m => m.evaluation.lines

/-- The message whose lines are added. -/
def Block.message? : Block → Option Message
  | typed _ => none
  | result m => some m

/-- What happens in a run: the submissions made, the evaluations finished, and what all this adds to
the transcript. -/
structure Account where
  submitted : List Submission := []
  finished : List Finished := []
  added : List Block := []

/-- The messages handed out. -/
def Account.delivered (books : Account) : List Message :=
  books.added.filterMap Block.message?

instance : Append Account where
  append x y :=
    { submitted := x.submitted ++ y.submitted
      finished := x.finished ++ y.finished
      added := x.added ++ y.added }

theorem Account.delivered_append (x y : Account) :
    (x ++ y).delivered = x.delivered ++ y.delivered :=
  List.filterMap_append

/-- What happens when a keystroke is handed to the session. -/
def typing (a : App σ) (k : Keystroke) : Account where
  submitted := (a.session.handleKey k).1.toList
  added := [.typed ((a.session.handleKey k).2.transcript.drop a.session.transcript.length)]

/-- What happens in an event. A drain hands out what waits. -/
def accountOf (a : App σ) : Event σ → Account
  | .key event =>
    match event.keystroke? with
    | some k => a.typing k
    | none => {}
  | .paste text => a.typing (.paste text)
  | .finish position => { finished := (a.running[position]?.map a.outcome).toList }
  | .drain => { added := a.queue.map .result }
  | .elsewhere _ _ => {}

/-! ## What an event does -/

/-- The two consoles differ at most in what lies apart from session, evaluations and messages. -/
structure Alike (a b : App σ) : Prop where
  session : b.session = a.session
  running : b.running = a.running
  queue : b.queue = a.queue

theorem alike_refl (a : App σ) : a.Alike a := ⟨rfl, rfl, rfl⟩

/-- What an event can do to the console `a`, what happens in it, and what comes of it. -/
inductive Does (a : App σ) : Account → App σ → Prop
  | aside {b : App σ} : a.Alike b → Does a {} b
  | feeds (k : Keystroke) : Does a (a.typing k) (a.feed k)
  | finishes {position : Nat} {x : Started} : a.running[position]? = some x →
      Does a { finished := [a.outcome x] } (a.finish position)
  | drains : Does a (a.accountOf .drain) a.drain.2

/-- A key goes to the session as the keystroke that it stands for, or not at all. -/
theorem does_handleKey (a : App σ) (event : KeyEvent) :
    Does a (a.accountOf (.key event)) (a.handleKey event) := by
  obtain ⟨code, control, released⟩ := event
  cases released with
  | true => exact .aside a.alike_refl
  | false =>
    cases code with
    | char c =>
      rw [accountOf, handleKey, if_neg Bool.false_ne_true]
      cases KeyEvent.keystroke? ⟨.char c, control, false⟩ with
      | none => exact .aside a.alike_refl
      | some k => exact .feeds k
    | backspace => exact .feeds .backspace
    | enter => exact .feeds .enter
    | _ => exact .aside ⟨rfl, rfl, rfl⟩

theorem does_finish (a : App σ) (position : Nat) :
    Does a (a.accountOf (.finish position)) (a.finish position) := by
  rw [accountOf]
  cases hx : a.running[position]? with
  | none =>
    have hsame : a.finish position = a := by simp only [finish, hx]
    rw [hsame]
    exact .aside a.alike_refl
  | some x => exact .finishes hx

theorem does_step (a : App σ) (event : Event σ) : Does a (a.accountOf event) (a.step event) := by
  cases event with
  | key event => exact a.does_handleKey event
  | paste text => exact .feeds (.paste text)
  | finish position => exact a.does_finish position
  | drain => exact .drains
  | elsewhere backend explorer => exact .aside ⟨rfl, rfl, rfl⟩

/-! ## The backend -/

/-- The two consoles run the same interpreter on the same backend. -/
structure SameBackend (a b : App σ) : Prop where
  interpreter : b.interpreter = a.interpreter
  backend : b.backend = a.backend

theorem sameBackend_receiveAll (a : App σ) (ms : List Message) :
    a.SameBackend (a.receiveAll ms).2 := by
  induction ms generalizing a with
  | nil => exact ⟨rfl, rfl⟩
  | cons m ms ih =>
    have hfirst : a.SameBackend (a.receive m).2 := by
      rw [receive]
      split <;> exact ⟨rfl, rfl⟩
    obtain ⟨hinterpreter, hbackend⟩ := ih (a.receive m).2
    exact ⟨hinterpreter.trans hfirst.interpreter, hbackend.trans hfirst.backend⟩

theorem sameBackend_feed (a : App σ) (k : Keystroke) : a.SameBackend (a.feed k) := by
  rw [feed]
  generalize a.session.handleKey k = line
  exact ⟨rfl, rfl⟩

theorem sameBackend_handleKey (a : App σ) (event : KeyEvent) :
    a.SameBackend (a.handleKey event) := by
  obtain ⟨code, control, released⟩ := event
  cases released with
  | true => exact ⟨rfl, rfl⟩
  | false =>
    cases code with
    | char c =>
      rw [handleKey, if_neg Bool.false_ne_true]
      dsimp only
      cases KeyEvent.keystroke? ⟨.char c, control, false⟩ with
      | none => exact ⟨rfl, rfl⟩
      | some k => exact a.sameBackend_feed k
    | backspace => exact a.sameBackend_feed .backspace
    | enter => exact a.sameBackend_feed .enter
    | _ => exact ⟨rfl, rfl⟩

/-- An event in which no evaluation finishes leaves the backend alone, as long as nobody else
changes it. -/
theorem sameBackend_step {event : Event σ} (hnone : (a.accountOf event).finished = [])
    (hown : ∀ backend explorer, event ≠ .elsewhere backend explorer) :
    a.SameBackend (a.step event) := by
  cases event with
  | key event => exact a.sameBackend_handleKey event
  | paste text => exact a.sameBackend_feed (.paste text)
  | finish position =>
    have hnothing : a.running[position]? = none := by
      simpa [accountOf, Option.toList_eq_nil_iff] using hnone
    have hsame : a.finish position = a := by simp only [finish, hnothing]
    rw [step, hsame]
    exact ⟨rfl, rfl⟩
  | drain =>
    obtain ⟨hinterpreter, hbackend⟩ := sameBackend_receiveAll { a with queue := [] } a.queue
    exact ⟨hinterpreter, hbackend⟩
  | elsewhere backend explorer => exact absurd rfl (hown backend explorer)

theorem interpreter_step (a : App σ) (event : Event σ) :
    (a.step event).interpreter = a.interpreter := by
  cases event with
  | key event => exact (a.sameBackend_handleKey event).interpreter
  | paste text => exact (a.sameBackend_feed (.paste text)).interpreter
  | finish position =>
    rw [step, finish]
    split <;> rfl
  | drain => exact (sameBackend_receiveAll { a with queue := [] } a.queue).interpreter
  | elsewhere backend explorer => rfl

/-- The interpreter is the same all along. -/
theorem interpreter_after (a : App σ) (events : List (Event σ)) :
    (a.after events).interpreter = a.interpreter := by
  induction events generalizing a with
  | nil => rfl
  | cons event events ih => exact (ih (a.step event)).trans (a.interpreter_step event)

/-! ## Phases -/

/-- Nothing is under way. -/
structure Idle (a : App σ) : Prop where
  running : a.running = []
  queue : a.queue = []
  inFlight : a.session.inFlight = none

/-- The evaluation of the outstanding submission runs, and nothing else is under way. -/
structure Runs (a : App σ) (x : Started) : Prop where
  running : a.running = [x]
  queue : a.queue = []
  session : x.session = a.session.id
  inFlight : a.session.inFlight = some x.submission.ticket

/-- The result for the outstanding submission waits, and nothing else is under way. -/
structure Waits (a : App σ) (m : Message) : Prop where
  running : a.running = []
  queue : a.queue = [m]
  session : m.session = a.session.id
  inFlight : a.session.inFlight = some m.ticket

/-- The console is in one of its phases. -/
inductive InOrder (a : App σ) : Prop
  | idle : a.Idle → InOrder a
  | runs (x : Started) : a.Runs x → InOrder a
  | waits (m : Message) : a.Waits m → InOrder a

theorem Idle.alike (h : a.Idle) (hab : a.Alike b) : b.Idle :=
  ⟨hab.running.trans h.running, hab.queue.trans h.queue, hab.session ▸ h.inFlight⟩

theorem Runs.alike (h : a.Runs x) (hab : a.Alike b) : b.Runs x :=
  ⟨hab.running.trans h.running, hab.queue.trans h.queue, hab.session ▸ h.session,
    hab.session ▸ h.inFlight⟩

theorem Waits.alike (h : a.Waits m) (hab : a.Alike b) : b.Waits m :=
  ⟨hab.running.trans h.running, hab.queue.trans h.queue, hab.session ▸ h.session,
    hab.session ▸ h.inFlight⟩

/-- A session with a command running makes no submission. -/
theorem feed_of_busy {ticket : UInt64} (h : a.session.inFlight = some ticket) (k : Keystroke) :
    (a.feed k).running = a.running ∧ (a.feed k).session.inFlight = some ticket := by
  have htyped := a.session.typed_handleKey k
  rw [feed]
  generalize a.session.handleKey k = line at htyped ⊢
  obtain ⟨made, t⟩ := line
  cases htyped with
  | quiet _ _ _ _ hflight => exact ⟨List.append_nil _, hflight.trans h⟩
  | submits _ _ hfree =>
    rw [h] at hfree
    cases hfree

theorem id_feed (a : App σ) (k : Keystroke) : (a.feed k).session.id = a.session.id :=
  a.session.id_handleKey k

theorem Idle.feed (h : a.Idle) (k : Keystroke) : (a.feed k).InOrder := by
  have htyped := a.session.typed_handleKey k
  rw [App.feed]
  generalize a.session.handleKey k = line at htyped ⊢
  obtain ⟨made, t⟩ := line
  cases htyped with
  | quiet _ _ _ _ hflight =>
    exact .idle ⟨by rw [h.running]; rfl, h.queue, hflight.trans h.inFlight⟩
  | @submits _ x _ _ _ _ _ _ _ _ hflight =>
    exact .runs ⟨t.id, x⟩ ⟨by rw [h.running]; rfl, h.queue, rfl, hflight⟩

theorem Runs.feed (h : a.Runs x) (k : Keystroke) : (a.feed k).Runs x := by
  obtain ⟨hrunning, hflight⟩ := feed_of_busy h.inFlight k
  exact ⟨hrunning.trans h.running, h.queue, h.session.trans (a.id_feed k).symm, hflight⟩

theorem Waits.feed (h : a.Waits m) (k : Keystroke) : (a.feed k).Waits m := by
  obtain ⟨hrunning, hflight⟩ := feed_of_busy h.inFlight k
  exact ⟨hrunning.trans h.running, h.queue, h.session.trans (a.id_feed k).symm, hflight⟩

theorem finish_eq {position : Nat} (h : a.running[position]? = some x) :
    a.finish position =
      { a with
        backend :=
          (a.interpreter.evaluate x.submission.line x.submission.cwd a.backend).2
        running := a.running.eraseIdx position
        queue := a.queue ++ [(a.outcome x).message] } := by
  simp only [finish, h]
  rfl

/-- An evaluation that finishes comes to wait. -/
theorem Runs.finish (h : a.Runs x) {position : Nat} (hx : a.running[position]? = some x) :
    (a.finish position).Waits (a.outcome x).message := by
  have heq := finish_eq hx
  rw [h.running, List.getElem?_singleton] at hx
  obtain ⟨hposition, -⟩ := Option.ite_none_right_eq_some.1 hx
  rw [heq, hposition, h.running, h.queue]
  exact ⟨rfl, rfl, h.session, h.inFlight⟩

/-- A message that waits is taken by the next drain. -/
theorem Waits.drain_eq (h : a.Waits m) :
    a.drain.1 = true ∧ ∃ explorer, a.drain.2 =
      { a with
        session := (a.session.complete m.ticket m.evaluation).2
        explorer
        queue := [] } := by
  rw [drain, h.queue, receiveAll, receive, if_pos h.session]
  exact ⟨rfl, _, rfl⟩

theorem Waits.drain (h : a.Waits m) :
    a.drain.2.Idle ∧ a.drain.2.session.nextTicket = a.session.nextTicket ∧
      a.drain.2.session.transcript = a.session.transcript ++ m.evaluation.lines := by
  obtain ⟨-, explorer, heq⟩ := h.drain_eq
  obtain ⟨cwd, hs⟩ := Session.complete_of_inFlight h.inFlight m.evaluation
  rw [heq, hs]
  exact ⟨⟨h.running, rfl, rfl⟩, rfl, rfl⟩

theorem drain_of_empty (h : a.queue = []) : a.drain = (false, a) := by
  rw [drain, h, receiveAll, ← h]

theorem InOrder.runs_of_mem (h : a.InOrder) (hx : x ∈ a.running) : a.Runs x := by
  cases h with
  | idle h => rw [h.running] at hx; cases hx
  | runs y h =>
    rw [h.running] at hx
    exact List.mem_singleton.1 hx ▸ h
  | waits m h => rw [h.running] at hx; cases hx

theorem InOrder.waits_of_mem (h : a.InOrder) (hm : m ∈ a.queue) : a.Waits m := by
  cases h with
  | idle h => rw [h.queue] at hm; cases hm
  | runs x h => rw [h.queue] at hm; cases hm
  | waits n h =>
    rw [h.queue] at hm
    exact List.mem_singleton.1 hm ▸ h

/-- **One event** keeps the console in order. -/
theorem InOrder.does {books : Account} (h : a.InOrder) (hdoes : Does a books b) : b.InOrder := by
  cases hdoes with
  | aside hab =>
    cases h with
    | idle h => exact .idle (h.alike hab)
    | runs x h => exact .runs x (h.alike hab)
    | waits m h => exact .waits m (h.alike hab)
  | feeds k =>
    cases h with
    | idle h => exact h.feed k
    | runs x h => exact .runs x (h.feed k)
    | waits m h => exact .waits m (h.feed k)
  | finishes hx => exact .waits _ ((h.runs_of_mem (List.mem_of_getElem? hx)).finish hx)
  | drains =>
    cases h with
    | idle h => exact (drain_of_empty h.queue) ▸ .idle h
    | runs x h => exact (drain_of_empty h.queue) ▸ .runs x h
    | waits m h => exact .idle h.drain.1

/-- **A run** of events keeps the console in order. -/
theorem InOrder.after (h : a.InOrder) (events : List (Event σ)) : (a.after events).InOrder := by
  induction events generalizing a with
  | nil => exact h
  | cons event events ih => exact ih (h.does (a.does_step event))

/-- One thing is under way if the session is busy, and nothing otherwise. -/
theorem InOrder.count (h : a.InOrder) :
    a.running.length + a.queue.length = if a.session.isBusy then 1 else 0 := by
  cases h with
  | idle h => rw [h.running, h.queue, Session.isBusy, h.inFlight]; rfl
  | runs x h => rw [h.running, h.queue, Session.isBusy, h.inFlight]; rfl
  | waits m h => rw [h.running, h.queue, Session.isBusy, h.inFlight]; rfl

/-- A message waits as long as nothing is handed out. -/
theorem Waits.does {books : Account} (h : a.Waits m) (hdoes : Does a books b)
    (hnone : books.delivered = []) : b.Waits m := by
  cases hdoes with
  | aside hab => exact h.alike hab
  | feeds k => exact h.feed k
  | finishes hx =>
    rw [h.running] at hx
    cases hx
  | drains =>
    rw [accountOf, h.queue] at hnone
    cases hnone

theorem delivered_accountOf {event : Event σ} (hevent : event ≠ .drain) :
    (a.accountOf event).delivered = [] := by
  cases event with
  | key event =>
    rw [accountOf]
    cases event.keystroke? <;> rfl
  | drain => exact absurd rfl hevent
  | _ => rfl

/-- A message waits until the queue is drained. -/
theorem Waits.after {events : List (Event σ)} (h : a.Waits m) (hevents : .drain ∉ events) :
    (a.after events).Waits m := by
  induction events generalizing a with
  | nil => exact h
  | cons event events ih =>
    obtain ⟨hevent, hlater⟩ := List.ne_and_not_mem_of_not_mem_cons hevents
    exact ih (h.does (a.does_step event) (delivered_accountOf (Ne.symm hevent))) hlater

/-- When everything that runs has finished and the queue is drained, the console is idle. -/
theorem InOrder.settle (h : a.InOrder) : a.settle.Idle := by
  cases h with
  | idle h =>
    rw [App.settle, finishAll, h.running, List.foldl_nil, drain_of_empty h.queue]
    exact h
  | runs x h =>
    have hfirst : a.running[0]? = some x := by rw [h.running]; rfl
    rw [App.settle, finishAll, h.running]
    exact (h.finish hfirst).drain.1
  | waits m h =>
    rw [App.settle, finishAll, h.running]
    exact h.drain.1

end WorkspaceConsole.App

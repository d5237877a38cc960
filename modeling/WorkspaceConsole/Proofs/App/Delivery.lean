import WorkspaceConsole.Proofs.App.Operation

/-!
# The console loses no result

Books are kept along a run (`account`): of the submissions made, the evaluations finished, the
messages handed out, and the lines added to the transcript. In every event they balance with what
runs and what waits before and after it, and so they do in every run (`Balanced`).

The console is always in one of its phases, and from both follows `delivers_start`: what is
submitted is evaluated once, and its lines are appended once, at the first drain after it has
finished.
-/

namespace WorkspaceConsole.App

variable {σ : Type} {a b c : App σ}

/-! ## Books -/

/-- What happens in a list of events. -/
def account (a : App σ) : List (Event σ) → Account
  | [] => {}
  | event :: events => a.accountOf event ++ (a.step event).account events

/-- The books between two moments balance. -/
structure Balanced (a : App σ) (books : Account) (b : App σ) : Prop where
  /-- What was running or has been submitted, has finished or is running. -/
  running : a.running.map Started.submission ++ books.submitted =
    books.finished.map Finished.submission ++ b.running.map Started.submission
  /-- What was waiting or has been sent, has been handed out or is waiting. -/
  queue : a.queue ++ books.finished.map Finished.message = books.delivered ++ b.queue
  /-- Tickets are given out to these submissions and to no others. -/
  tickets : b.session.nextTicket = a.session.nextTicket + UInt64.ofNat books.submitted.length
  transcript : b.session.transcript = a.session.transcript ++ books.added.flatMap Block.lines

theorem balanced_alike (hab : a.Alike b) : a.Balanced {} b where
  running := by rw [hab.running, List.append_nil]; rfl
  queue := by rw [hab.queue]; exact List.append_nil _
  tickets := by rw [hab.session]; exact (UInt64.add_zero _).symm
  transcript := by rw [hab.session]; exact (List.append_nil _).symm

theorem Balanced.trans {books later : Account} (h : a.Balanced books b)
    (hlater : b.Balanced later c) : a.Balanced (books ++ later) c where
  running := by
    show _ ++ (books.submitted ++ later.submitted) = (books.finished ++ later.finished).map _ ++ _
    rw [← List.append_assoc, h.running, List.append_assoc, hlater.running, List.map_append,
      List.append_assoc]
  queue := by
    show _ ++ (books.finished ++ later.finished).map _ = _
    rw [Account.delivered_append, List.map_append, ← List.append_assoc, h.queue, List.append_assoc,
      hlater.queue, List.append_assoc]
  tickets := by
    show _ = _ + UInt64.ofNat (books.submitted ++ later.submitted).length
    rw [hlater.tickets, h.tickets, List.length_append, UInt64.ofNat_add, UInt64.add_assoc]
  transcript := by
    show _ = _ ++ (books.added ++ later.added).flatMap _
    rw [hlater.transcript, h.transcript, List.append_assoc, List.flatMap_append]

theorem balanced_feed (a : App σ) (k : Keystroke) : a.Balanced (a.typing k) (a.feed k) := by
  have htyped := a.session.typed_handleKey k
  rw [feed, typing]
  generalize a.session.handleKey k = line at htyped ⊢
  obtain ⟨made, t⟩ := line
  refine ⟨?_, List.append_nil _, ?_, ?_⟩
  · show _ = (a.running ++ (made.map (Started.mk t.id)).toList).map _
    rw [List.map_append]
    cases made <;> rfl
  · cases htyped with
    | quiet _ _ _ hnext => exact hnext.trans (UInt64.add_zero _).symm
    | submits _ _ _ _ _ _ _ hnext => exact hnext
  · show t.transcript = _ ++ List.flatMap Block.lines [.typed _]
    rw [List.flatMap_singleton]
    exact (List.prefix_iff_eq_append.1 htyped.transcript_grows).symm

/-- **The books balance** in one event. -/
theorem InOrder.balanced {books : Account} (h : a.InOrder) (hdoes : Does a books b) :
    a.Balanced books b := by
  cases hdoes with
  | aside hab => exact balanced_alike hab
  | feeds k => exact a.balanced_feed k
  | finishes hx =>
    have hruns := h.runs_of_mem (List.mem_of_getElem? hx)
    have hwaits := hruns.finish hx
    have heq := finish_eq hx
    refine ⟨?_, ?_, ?_, ?_⟩
    · rw [hruns.running, hwaits.running]; rfl
    · rw [hruns.queue, hwaits.queue]; rfl
    · rw [heq]; exact (UInt64.add_zero _).symm
    · rw [heq]; exact (List.append_nil _).symm
  | drains =>
    cases hqueue : a.queue with
    | nil =>
      rw [drain_of_empty hqueue, accountOf, hqueue]
      exact balanced_alike a.alike_refl
    | cons m ms =>
      have hwaits := h.waits_of_mem (hqueue ▸ List.mem_cons_self)
      obtain ⟨hidle, hnext, htext⟩ := hwaits.drain
      refine ⟨?_, ?_, ?_, ?_⟩
      · rw [hwaits.running, hidle.running]; rfl
      · rw [accountOf, hwaits.queue, hidle.queue]; rfl
      · rw [hnext]; exact (UInt64.add_zero _).symm
      · rw [htext, accountOf, hwaits.queue, List.map_singleton, List.flatMap_singleton]
        rfl

/-- **The books balance** in a run. -/
theorem InOrder.balanced_after (h : a.InOrder) (events : List (Event σ)) :
    a.Balanced (a.account events) (a.after events) := by
  induction events generalizing a with
  | nil => exact balanced_alike a.alike_refl
  | cons event events ih =>
    have hdoes := a.does_step event
    exact (h.balanced hdoes).trans (ih (h.does hdoes))

/-! ## Delivery -/

/-- **The console loses no result**, seen after a list of events. -/
structure Delivers (a : App σ) (events : List (Event σ)) : Prop where
  /-- One evaluation runs or one message waits if the session is busy, and none otherwise. -/
  one : (a.after events).running.length + (a.after events).queue.length =
    if (a.after events).session.isBusy then 1 else 0
  /-- What runs, runs for the session and for its outstanding ticket. -/
  running : ∀ x ∈ (a.after events).running, x.session = (a.after events).session.id ∧
    (a.after events).session.inFlight = some x.submission.ticket
  /-- What waits, waits for the session and for its outstanding ticket. -/
  waiting : ∀ m ∈ (a.after events).queue, m.session = (a.after events).session.id ∧
    (a.after events).session.inFlight = some m.ticket
  /-- Every ticket has been given out to a submission that was made. -/
  tickets : (a.after events).session.nextTicket =
    a.session.nextTicket + UInt64.ofNat (a.account events).submitted.length
  /-- Every submission has been evaluated once, or its evaluation runs. -/
  evaluated : (a.account events).submitted =
    (a.account events).finished.map Finished.submission ++
      (a.after events).running.map Started.submission
  /-- The result of every evaluation has been handed out once, or it waits. -/
  delivered : (a.account events).finished.map Finished.message =
    (a.account events).delivered ++ (a.after events).queue
  /-- The transcript has grown by the lines of what was handed out, once each, and by those of the
  input. -/
  transcript : (a.after events).session.transcript =
    a.session.transcript ++ (a.account events).added.flatMap Block.lines
  /-- A message that waits is taken in by a drain: the session gets the whole result. -/
  taken : ∀ m ∈ (a.after events).queue, (a.after events).drain.1 = true ∧
    (a.after events).drain.2.session =
      ((a.after events).session.complete m.ticket m.evaluation).2 ∧
    (a.after events).drain.2.session.transcript =
      (a.after events).session.transcript ++ m.evaluation.lines ∧
    (a.after events).drain.2.Idle
  /-- The lines of an evaluation that finishes are appended by the next drain after it. -/
  nextDrain : ∀ position x between, (a.after events).running[position]? = some x →
    .drain ∉ between →
    let before := a.after (events ++ .finish position :: between)
    before.queue = [((a.after events).outcome x).message] ∧
      before.drain.2.session.transcript =
        before.session.transcript ++ ((a.after events).outcome x).evaluation.lines
  /-- An evaluation that finishes leaves the backend that it yields. -/
  backend : ∀ position x, (a.after events).running[position]? = some x →
    (a.after (events ++ [.finish position])).backend =
      (a.interpreter.evaluate x.submission.line x.submission.cwd (a.after events).backend).2
  /-- In any other event the backend stays, as long as nobody else changes it. -/
  untouched : ∀ event, ((a.after events).accountOf event).finished = [] →
    (∀ backend explorer, event ≠ .elsewhere backend explorer) →
    (a.after (events ++ [event])).backend = (a.after events).backend
  /-- Nothing stays under way. -/
  settles : (a.after events).settle.Idle

/-- **The console loses no result**: it runs every submission once, and takes in every result at the
first drain after it is there, whatever keys and pastes come in between. -/
theorem delivers_start (interpreter : Interpreter σ) (backend : Backend σ) (session : Session)
    (hfree : session.isBusy = false) (events : List (Event σ)) :
    (start interpreter backend session).Delivers events := by
  have hflight : session.inFlight = none := by simpa [Session.isBusy] using hfree
  have hidle : (start interpreter backend session).Idle := ⟨rfl, rfl, hflight⟩
  have horder := (InOrder.idle hidle).after events
  have hbooks := (InOrder.idle hidle).balanced_after events
  constructor
  case one => exact horder.count
  case running =>
    intro x hx
    have hruns := horder.runs_of_mem hx
    exact ⟨hruns.session, hruns.inFlight⟩
  case waiting =>
    intro m hm
    have hwaits := horder.waits_of_mem hm
    exact ⟨hwaits.session, hwaits.inFlight⟩
  case tickets => exact hbooks.tickets
  case evaluated => exact hbooks.running
  case delivered => exact hbooks.queue
  case transcript => exact hbooks.transcript
  case taken =>
    intro m hm
    have hwaits := horder.waits_of_mem hm
    obtain ⟨hown, explorer, heq⟩ := hwaits.drain_eq
    obtain ⟨hdrained, -, htext⟩ := hwaits.drain
    exact ⟨hown, by rw [heq], htext, hdrained⟩
  case nextDrain =>
    intro position x between hx hbetween before
    have hruns := horder.runs_of_mem (List.mem_of_getElem? hx)
    have hwaits := (hruns.finish hx).after hbetween
    rw [show before = _ from after_append _ events (.finish position :: between)]
    exact ⟨hwaits.queue, hwaits.drain.2.2⟩
  case backend =>
    intro position x hx
    rw [after_append, ← interpreter_after _ events]
    exact congrArg App.backend (finish_eq hx)
  case untouched =>
    intro event hnone hown
    rw [after_append]
    exact (sameBackend_step hnone hown).backend
  case settles => exact horder.settle

/-- Two lines are pasted, and the second is refused. The first is evaluated, and its result waits
while a third line is typed, which is refused as well. It is taken in by the drain. -/
theorem delivers_start_busy :
    let session := Session.openWith 7 none
    let a : App Unit := start .simulated ⟨.empty, ()⟩ session
    let before : List (Event Unit) := [.paste "mkdir src\ncd src\n"]
    let between : List (Event Unit) := [.paste "cd src", .key { code := .enter }]
    let events := before ++ .finish 0 :: between
    session.isBusy = false ∧ a.Delivers before ∧ a.Delivers (events ++ [.drain]) ∧
      (a.after before).running = [⟨7, ⟨1, "mkdir src", .root⟩⟩] ∧
      (a.after events).queue = [⟨7, 1, ⟨["Created directory: src"], [.refreshTree]⟩⟩] ∧
      (a.after events).drain.2.session.transcript =
        ["$ mkdir src", "$ cd src", Session.busyMessage, "$ cd src", Session.busyMessage,
          "Created directory: src"] := by
  intro session a before between events
  have hfree : session.isBusy = false := rfl
  refine ⟨hfree, delivers_start .simulated ⟨.empty, ()⟩ session hfree before,
    delivers_start .simulated ⟨.empty, ()⟩ session hfree _, ?_, ?_, ?_⟩
  · decide
  · decide
  · decide

end WorkspaceConsole.App

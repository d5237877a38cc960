import WorkspaceConsole.Proofs.Session.Submission

/-!
# Tickets along a run

Keystrokes and results reach a session in any order, and a result may be late, repeated or forged.
The session gives out the tickets `1, 2, 3, …`, one at a time, and takes in the result for the
ticket that is outstanding and for no other (`orderly_openWith`).

What is outstanding is told by the history of events alone (`outstanding`). The invariant `Tracks`
says that the session knows it: its record of the running command is the outstanding ticket, which
is the last one given out.
-/

namespace WorkspaceConsole.Session

/-- What can happen to a session: input, or a result for some ticket. -/
inductive Event where
  | key (k : Keystroke)
  | result (ticket : UInt64) (e : Evaluation)

/-- The session after an event. -/
def react (s : Session) : Event → Session
  | .key k => (s.handleKey k).2
  | .result ticket e => (s.complete ticket e).2

/-- The submission that an event makes. -/
def submission? (s : Session) : Event → Option Submission
  | .key k => (s.handleKey k).1
  | .result _ _ => none

/-- The session after a list of events. -/
def after (s : Session) (events : List Event) : Session :=
  events.foldl react s

/-- The submissions that a list of events makes, in order. -/
def submissions (s : Session) : List Event → List Submission
  | [] => []
  | event :: events => (s.submission? event).toList ++ (s.react event).submissions events

/-- The outstanding submission after an event, if `pending` was outstanding before it: a new
submission is, and it is so until a result for its ticket comes in. -/
def pendingAfter (s : Session) (pending : Option Submission) : Event → Option Submission
  | .key k => (s.handleKey k).1.or pending
  | .result ticket _ => pending.filter (·.ticket ≠ ticket)

/-- The outstanding submission after a list of events, if `pending` was outstanding before it. -/
def outstandingFrom (s : Session) (pending : Option Submission) : List Event → Option Submission
  | [] => pending
  | event :: events => (s.react event).outstandingFrom (s.pendingAfter pending event) events

/-- The outstanding submission after a list of events. -/
def outstanding (s : Session) (events : List Event) : Option Submission :=
  s.outstandingFrom none events

/-- After these events, the submission with this ticket is outstanding. -/
def Awaits (s : Session) (events : List Event) (ticket : UInt64) : Prop :=
  ∃ x, s.outstanding events = some x ∧ x.ticket = ticket

/-! ## Events one after the other -/

variable {s : Session} {pending : Option Submission}

theorem after_append (s : Session) (before events : List Event) :
    s.after (before ++ events) = (s.after before).after events :=
  List.foldl_append

theorem after_concat (s : Session) (before : List Event) (event : Event) :
    s.after (before ++ [event]) = (s.after before).react event :=
  after_append s before [event]

theorem submissions_append (s : Session) (before events : List Event) :
    s.submissions (before ++ events) =
      s.submissions before ++ (s.after before).submissions events := by
  induction before generalizing s with
  | nil => rfl
  | cons event before ih =>
    rw [List.cons_append, submissions, ih, ← List.append_assoc]
    rfl

theorem outstandingFrom_append (s : Session) (pending : Option Submission)
    (before events : List Event) :
    s.outstandingFrom pending (before ++ events) =
      (s.after before).outstandingFrom (s.outstandingFrom pending before) events := by
  induction before generalizing s pending with
  | nil => rfl
  | cons event before ih => exact ih (s.react event) (s.pendingAfter pending event)

/-- What is outstanding was so from the start, or an event has submitted it. -/
theorem exists_submission?_of_outstandingFrom {events : List Event} {x : Submission}
    (h : s.outstandingFrom pending events = some x) :
    pending = some x ∨ ∃ before event later, events = before ++ event :: later ∧
      (s.after before).submission? event = some x := by
  induction events generalizing s pending with
  | nil => exact .inl h
  | cons event events ih =>
    rcases ih h with hpending | ⟨before, event', later, rfl, hx⟩
    · cases event with
      | key k =>
        rcases Option.or_eq_some_iff.1 hpending with hx | ⟨-, hx⟩
        · exact .inr ⟨[], .key k, events, rfl, hx⟩
        · exact .inl hx
      | result ticket e => exact .inl (Option.filter_eq_some_iff.1 hpending).1
    · exact .inr ⟨event :: before, event', later, rfl, hx⟩

/-! ## The transcript -/

theorem transcript_react (s : Session) (event : Event) :
    s.transcript <+: (s.react event).transcript := by
  cases event with
  | key k => exact (typed_handleKey s k).transcript_grows
  | result ticket e =>
    by_cases h : s.inFlight = some ticket
    · obtain ⟨cwd, hs⟩ := complete_of_inFlight h e
      rw [react, hs]
      exact List.prefix_append s.transcript e.lines
    · have hsame : s.react (.result ticket e) = s := by rw [react, complete_of_ne h]
      exact ⟨[], by rw [hsame, List.append_nil]⟩

theorem transcript_after (s : Session) (events : List Event) :
    s.transcript <+: (s.after events).transcript := by
  induction events generalizing s with
  | nil => exact List.prefix_rfl
  | cons event events ih => exact (transcript_react s event).trans (ih (s.react event))

theorem transcript_mono (s : Session) {before events : List Event} (h : before <+: events) :
    (s.after before).transcript <+: (s.after events).transcript := by
  obtain ⟨rest, rfl⟩ := h
  rw [after_append]
  exact transcript_after (s.after before) rest

/-! ## The invariant -/

/-- The session has given out `n` tickets, and its record of the running command is the outstanding
submission, which got the last of them. -/
structure Tracks (s : Session) (n : Nat) (pending : Option Submission) : Prop where
  next : s.nextTicket.toNat = n + 1
  flight : s.inFlight = pending.map (·.ticket)
  last : ∀ x, pending = some x → x.ticket.toNat = n

theorem tracks_openWith (id : UInt64) (welcome : Option String) :
    (openWith id welcome).Tracks 0 none := by
  obtain ⟨transcript, hopen⟩ := openWith_eq welcome
  rw [hopen]
  exact ⟨rfl, rfl, fun _ hx => nomatch hx⟩

namespace Tracks

variable {n : Nat}

theorem inFlight_eq_some_iff (h : s.Tracks n pending) {ticket : UInt64} :
    s.inFlight = some ticket ↔ ∃ x, pending = some x ∧ x.ticket = ticket := by
  rw [h.flight, Option.map_eq_some_iff]

/-- A submission gets the next ticket, and is made only while none is outstanding. -/
theorem of_submission? (h : s.Tracks n pending) {event : Event} {x : Submission}
    (hx : s.submission? event = some x) : x.ticket.toNat = n + 1 ∧ pending = none := by
  cases event with
  | key k =>
    have htyped := typed_handleKey s k
    rw [show (s.handleKey k).1 = some x from hx] at htyped
    obtain ⟨hfree, hticket, -⟩ := htyped.of_some
    refine ⟨by rw [hticket, h.next], ?_⟩
    rw [h.flight] at hfree
    exact Option.map_eq_none_iff.1 hfree
  | result ticket e => cases hx

theorem typed {x : Option Submission} {t : Session} (h : s.Tracks n pending) (ht : Typed s x t)
    (hroom : n + x.toList.length + 1 < UInt64.size) :
    t.Tracks (n + x.toList.length) (x.or pending) := by
  cases ht with
  | quiet _ _ _ hnext hflight =>
    exact ⟨by rw [hnext, h.next]; rfl, hflight.trans h.flight, h.last⟩
  | submits _ _ _ _ _ _ hticket hnext hflight =>
    refine ⟨?_, hflight, fun y hy => ?_⟩
    · rw [hnext, UInt64.toNat_add, h.next]
      exact Nat.mod_eq_of_lt hroom
    · cases hy
      rw [hticket, h.next]
      rfl

/-- What the awaited result does. -/
theorem react_result (h : s.Tracks n pending) {ticket : UInt64}
    (hawaits : ∃ x, pending = some x ∧ x.ticket = ticket) (e : Evaluation) :
    (s.react (.result ticket e)).transcript = s.transcript ++ e.lines ∧
      (s.react (.result ticket e)).inFlight = none := by
  obtain ⟨cwd, hs⟩ := complete_of_inFlight (h.inFlight_eq_some_iff.2 hawaits) e
  rw [Session.react, hs]
  exact ⟨rfl, rfl⟩

/-- Every event keeps the invariant, with the submission that it makes counted. -/
theorem react (h : s.Tracks n pending) (event : Event)
    (hroom : n + (s.submission? event).toList.length + 1 < UInt64.size) :
    (s.react event).Tracks (n + (s.submission? event).toList.length)
      (s.pendingAfter pending event) := by
  cases event with
  | key k => exact h.typed (typed_handleKey s k) hroom
  | result ticket e =>
    show ((s.complete ticket e).2).Tracks n (pending.filter (·.ticket ≠ ticket))
    by_cases hticket : s.inFlight = some ticket
    · obtain ⟨cwd, hs⟩ := complete_of_inFlight hticket e
      obtain ⟨x, rfl, hx⟩ := h.inFlight_eq_some_iff.1 hticket
      have hclosed : (some x).filter (·.ticket ≠ ticket) = none := by simp [hx]
      rw [hs, hclosed]
      exact ⟨h.next, rfl, fun _ hy => nomatch hy⟩
    · have hopen : pending.filter (·.ticket ≠ ticket) = pending := by
        cases pending with
        | none => rfl
        | some x =>
          have hx : x.ticket ≠ ticket := fun hx => hticket (h.inFlight_eq_some_iff.2 ⟨x, rfl, hx⟩)
          simp [hx]
      rw [complete_of_ne hticket, hopen]
      exact h

/-- Every run keeps the invariant. -/
theorem after (h : s.Tracks n pending) (events : List Event)
    (hroom : n + (s.submissions events).length + 1 < UInt64.size) :
    (s.after events).Tracks (n + (s.submissions events).length)
      (s.outstandingFrom pending events) := by
  induction events generalizing s n pending with
  | nil => exact h
  | cons event events ih =>
    rw [submissions, List.length_append, ← Nat.add_assoc] at hroom ⊢
    exact ih (h.react event (by omega)) hroom

/-- The tickets of a run are consecutive. -/
theorem tickets (h : s.Tracks n pending) (events : List Event)
    (hroom : n + (s.submissions events).length + 1 < UInt64.size) :
    (s.submissions events).map (·.ticket.toNat) =
      List.range' (n + 1) (s.submissions events).length := by
  induction events generalizing s n pending with
  | nil => rfl
  | cons event events ih =>
    rw [submissions, List.length_append, ← Nat.add_assoc] at hroom
    have hfirst : (s.submission? event).toList.map (·.ticket.toNat) =
        List.range' (n + 1) (s.submission? event).toList.length := by
      cases hx : s.submission? event with
      | none => rfl
      | some x => simp [(h.of_submission? hx).1]
    have hrest := ih (h.react event (by omega)) hroom
    rw [submissions, List.map_append, hfirst, hrest, Nat.add_right_comm, List.range'_append_1,
      List.length_append]

end Tracks

/-! ## The protocol -/

/-- **The ticket protocol**, for a session and a list of events. -/
structure Orderly (s : Session) (events : List Event) : Prop where
  /-- The transcript only grows. -/
  appendOnly : ∀ before event, before ++ [event] <+: events →
    (s.after before).transcript <+: (s.after (before ++ [event])).transcript
  /-- The submissions carry the tickets `1, 2, 3, …`. -/
  tickets : (s.submissions events).map (·.ticket.toNat) =
    List.range' 1 (s.submissions events).length
  /-- A submission is made only while none is outstanding. -/
  exclusive : ∀ before event x, before ++ [event] <+: events →
    (s.after before).submission? event = some x → s.outstanding before = none
  /-- The result for the outstanding ticket appends all its lines; then nothing is outstanding. -/
  accepts : ∀ before ticket e, before ++ [.result ticket e] <+: events → s.Awaits before ticket →
    (s.after (before ++ [.result ticket e])).transcript = (s.after before).transcript ++ e.lines ∧
      (s.after (before ++ [.result ticket e])).inFlight = none ∧
      s.outstanding (before ++ [.result ticket e]) = none
  /-- Any other result changes nothing and has no effects. -/
  drops : ∀ before ticket e, before ++ [.result ticket e] <+: events → ¬ s.Awaits before ticket →
    (s.after before).complete ticket e = ([], s.after before)
  /-- Of two accepted results, the later one has the larger ticket, and its lines stand after those
  of the earlier one. So no ticket is accepted twice. -/
  inOrder : ∀ before between ticket e ticket' e',
    before ++ .result ticket e :: between ++ [.result ticket' e'] <+: events →
    s.Awaits before ticket → s.Awaits (before ++ .result ticket e :: between) ticket' →
    ticket < ticket' ∧
      (s.after before).transcript ++ e.lines <+:
        (s.after (before ++ .result ticket e :: between)).transcript
  /-- The lines of an accepted result stand after the echo of the submission with its ticket. That
  is the first echo, of those that the submitting input adds, which is not of a blank line. -/
  afterEcho : ∀ before ticket e, before ++ [.result ticket e] <+: events →
    s.Awaits before ticket →
    ∃ earlier k x blank rest, earlier ++ [.key k] <+: before ∧
      ((s.after earlier).handleKey k).1 = some x ∧ x.ticket = ticket ∧
      x.line ≠ "" ∧ (∀ line ∈ blank, line = echoMark) ∧
      (s.after (earlier ++ [.key k])).transcript =
        (s.after earlier).transcript ++ (blank ++ (echoMark ++ x.line) :: rest) ∧
      (s.after (earlier ++ [.key k])).transcript <+: (s.after before).transcript

/-- The invariant holds at every moment of a run. -/
theorem Tracks.at_moment {events before : List Event} (h : s.Tracks 0 none)
    (hroom : (s.submissions events).length + 1 < UInt64.size) (hbefore : before <+: events) :
    (s.after before).Tracks (s.submissions before).length (s.outstanding before) := by
  obtain ⟨rest, rfl⟩ := hbefore
  rw [submissions_append, List.length_append] at hroom
  have hafter := h.after before (by omega)
  rwa [Nat.zero_add] at hafter

theorem Awaits.outstanding_result {before : List Event} {ticket : UInt64}
    (h : s.Awaits before ticket) (e : Evaluation) :
    s.outstanding (before ++ [.result ticket e]) = none := by
  obtain ⟨x, hx, rfl⟩ := h
  rw [outstanding, outstandingFrom_append, show s.outstandingFrom none before = some x from hx]
  show (some x).filter (·.ticket ≠ x.ticket) = none
  simp

/-- Between two moments at which something is outstanding, and at the first of which a result closes
it, something is submitted. -/
theorem length_submissions_lt {before between : List Event} {ticket ticket' : UInt64}
    {e : Evaluation} (h : s.Awaits before ticket)
    (h' : s.Awaits (before ++ .result ticket e :: between) ticket') :
    (s.submissions before).length <
      (s.submissions (before ++ .result ticket e :: between)).length := by
  obtain ⟨x, hx, -⟩ := h'
  rw [List.append_cons, outstanding, outstandingFrom_append] at hx
  rw [show s.outstandingFrom none (before ++ [.result ticket e]) = none from
    h.outstanding_result e] at hx
  rcases exists_submission?_of_outstandingFrom hx with hnone | ⟨mid, event, later, rfl, hevent⟩
  · cases hnone
  · rw [after_concat] at hevent
    simp only [submissions_append, submissions, hevent, List.length_append, Option.toList_some,
      List.length_singleton]
    omega

theorem prefix_concat_of_cons {earlier later : List Event} {event : Event} :
    earlier ++ [event] <+: earlier ++ event :: later :=
  ⟨later, List.append_cons earlier event later ▸ rfl⟩

theorem Tracks.orderly {events : List Event} (h : s.Tracks 0 none)
    (hroom : (s.submissions events).length + 1 < UInt64.size) : s.Orderly events where
  appendOnly before event _ := s.transcript_mono (List.prefix_append before [event])
  tickets := by
    have htickets := h.tickets events (by omega)
    rwa [Nat.zero_add] at htickets
  exclusive before event x hevents hx :=
    have hbefore := (List.prefix_append before [event]).trans hevents
    ((h.at_moment hroom hbefore).of_submission? hx).2
  accepts before ticket e hevents hawaits := by
    have hbefore := (List.prefix_append before [.result ticket e]).trans hevents
    obtain ⟨htext, hflight⟩ := (h.at_moment hroom hbefore).react_result hawaits e
    rw [after_concat]
    exact ⟨htext, hflight, hawaits.outstanding_result e⟩
  drops before ticket e hevents hawaits := by
    have hbefore := (List.prefix_append before [.result ticket e]).trans hevents
    refine complete_of_ne (fun hflight => hawaits ?_) e
    exact (h.at_moment hroom hbefore).inFlight_eq_some_iff.1 hflight
  inOrder before between ticket e ticket' e' hevents hawaits hawaits' := by
    have hlater := (List.prefix_append _ [Event.result ticket' e']).trans hevents
    have hfirst := h.at_moment hroom ((List.prefix_append before _).trans hlater)
    constructor
    · obtain ⟨x, hx, rfl⟩ := hawaits
      obtain ⟨x', hx', rfl⟩ := hawaits'
      rw [UInt64.lt_iff_toNat_lt, hfirst.last x hx, (h.at_moment hroom hlater).last x' hx']
      exact length_submissions_lt ⟨x, hx, rfl⟩ ⟨x', hx', rfl⟩
    · rw [← (hfirst.react_result hawaits e).1, ← after_concat]
      exact s.transcript_mono prefix_concat_of_cons
  afterEcho before ticket e hevents hawaits := by
    obtain ⟨x, hx, hticket⟩ := hawaits
    rcases exists_submission?_of_outstandingFrom hx with hnone | ⟨earlier, event, later, rfl, hmade⟩
    · cases hnone
    · cases event with
      | key k =>
        have htyped := typed_handleKey (s.after earlier) k
        rw [show ((s.after earlier).handleKey k).1 = some x from hmade] at htyped
        obtain ⟨-, -, blank, rest, hline, hblank, htext⟩ := htyped.of_some
        refine ⟨earlier, k, x, blank, rest, prefix_concat_of_cons, hmade, hticket, hline, hblank,
          ?_, ?_⟩
        · rw [after_concat]
          exact htext
        · exact s.transcript_mono prefix_concat_of_cons
      | result ticket' e' => cases hmade

/-- **Sessions obey the ticket protocol**: whatever is typed and pasted, and whatever results come
in, a session that was opened with or without a welcome gives out its tickets in order and one at a
time, and takes in each result at most once, for the ticket that is outstanding. -/
theorem orderly_openWith (id : UInt64) (welcome : Option String) (events : List Event)
    (hroom : ((openWith id welcome).submissions events).length < UInt64.size - 1) :
    (openWith id welcome).Orderly events := by
  refine (tracks_openWith id welcome).orderly ?_
  omega

/-- A paste of two lines, a forged result, the awaited one, the same once more, and another line
with its result: two submissions, and two results taken in. -/
theorem orderly_openWith_interleaved :
    let s := openWith 7 (some "Welcome")
    let paste : Event := .key (.paste "ls\r\ncd src\n")
    let forged : Event := .result 9 { lines := ["forged"] }
    let listing : Event := .result 1 { lines := ["src"] }
    let events := [paste, forged, listing, listing, .key (.paste "pwd"), .key .enter,
      .result 2 { lines := ["src/"] }]
    (s.submissions events).length < UInt64.size - 1 ∧ s.Orderly events ∧
      s.submissions events = [⟨1, "ls", .root⟩, ⟨2, "pwd", .root⟩] ∧
      (s.after [paste]).complete 9 { lines := ["forged"] } = ([], s.after [paste]) ∧
      (s.after events).transcript =
        ["Welcome", "$ ls", "$ cd src", busyMessage, "src", "$ pwd", "src/"] := by
  intro s paste forged listing events
  have hmade : s.submissions events = [⟨1, "ls", .root⟩, ⟨2, "pwd", .root⟩] := by decide
  have hroom : (s.submissions events).length < UInt64.size - 1 := by
    rw [hmade]
    decide
  have horderly := orderly_openWith 7 (some "Welcome") events hroom
  refine ⟨hroom, horderly, hmade, ?_, by decide⟩
  refine horderly.drops [paste] 9 { lines := ["forged"] } ⟨_, rfl⟩ ?_
  have houtstanding : s.outstanding [paste] = some ⟨1, "ls", .root⟩ := by decide
  rintro ⟨x, hx, hticket⟩
  rw [houtstanding] at hx
  cases hx
  exact absurd hticket (by decide)

end WorkspaceConsole.Session

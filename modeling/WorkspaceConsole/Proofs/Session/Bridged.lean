import WorkspaceConsole.Proofs.Session.Entered

/-!
# Sessions whose lines go to a bridge

Every submission of such a session is handed to the bridge once, and the result comes in later. In
between there can be keys, and results that nobody waits for. The bridge answers what it likes, and
also too late.

A `Bridged` session comes with the `Entry`s of all its submissions and with a list of all calls of
the bridge. The invariant `Bridged.Sound` splits the entries into those that are completed and at
most one that is open, for which the session waits. So the calls are those of the submissions, one
for each and in the same order, and the session moves where the answers of completed calls lead it
(`Bridged.served_after`).
-/

namespace WorkspaceConsole

variable {σ : Type}

/-! ## Calls -/

/-- A call of a bridge: what it was asked for, and what it answered. -/
structure Call where
  request : Request
  reply : Reply

/-- What a session makes of the answer if it waits for a limited time. -/
def Call.evaluation (limitMs : UInt64) (c : Call) : Evaluation :=
  .ofResult (c.reply.within limitMs)

/-- The request and what the session makes of the answer. -/
def Call.account (limitMs : UInt64) (c : Call) : Request × Evaluation :=
  (c.request, c.evaluation limitMs)

/-- The answer comes after the limit. Times are not told apart beyond the longest one. -/
def Reply.IsLate (r : Reply) (limitMs : UInt64) : Prop :=
  ∃ delay, r.delayMs = some delay ∧ limitMs.toNat < min delay longestWaitMs

/-- A caller who waits for a limited time sees no answer that is late. -/
theorem Reply.within_of_isLate {r : Reply} {limitMs : UInt64} (h : r.IsLate limitMs) :
    r.within limitMs = .error (.timeout limitMs) := by
  obtain ⟨delay, hdelay, hlate⟩ := h
  rw [within, hdelay]
  exact if_neg (Nat.not_le.2 hlate)

theorem Reply.within_of_not_isLate {r : Reply} {limitMs : UInt64} (h : ¬ r.IsLate limitMs) :
    r.within limitMs = r.result := by
  rw [within]
  cases hdelay : r.delayMs with
  | none => rfl
  | some delay => exact if_pos (Nat.le_of_not_lt fun hlate => h ⟨delay, hdelay, hlate⟩)

/-- The bridge `b`, which also lists its calls. -/
def Bridge.logged (b : Bridge σ) : Bridge (σ × List Call) where
  name := b.name
  execute request state :=
    let (reply, inner) := b.execute request state.1
    (reply, inner, state.2 ++ [⟨request, reply⟩])

/-- The request that a submission stands for. -/
def Submission.request (x : Submission) : Request :=
  ⟨x.line, x.cwd.display⟩

/-- A line that a request stands for leaves the store alone. -/
theorem evaluate_of_request (b : Bridge σ) (limitMs : UInt64) {line : String} {cwd : WorkingPath}
    {request : Request} (h : Request.ofLine? line cwd = some request) (backend : Backend σ) :
    (Interpreter.bridged b limitMs).evaluate line cwd backend =
      (.ofResult ((b.execute request backend.bridge).1.within limitMs),
        ⟨backend.store, (b.execute request backend.bridge).2⟩) := by
  simp only [Interpreter.evaluate, Bridge.evaluate, h]

/-- A line that is not blank, and has no blanks around it, makes one call. -/
theorem evaluate_logged (b : Bridge σ) (limitMs : UInt64) {x : Submission} (hne : x.line ≠ "")
    (htrim : Text.trimmed x.line = x.line) (backend : Backend (σ × List Call)) :
    ∃ (call : Call) (inner : σ), call.request = x.request ∧
      (Interpreter.bridged b.logged limitMs).evaluate x.line x.cwd backend =
        (call.evaluation limitMs, ⟨backend.store, inner, backend.bridge.2 ++ [call]⟩) := by
  have hline : Request.ofLine? x.line x.cwd = some x.request := by
    have hblank : ¬ x.line.isEmpty = true := fun he => hne (String.isEmpty_iff.1 he)
    rw [Request.ofLine?, htrim, if_neg hblank]
    rfl
  refine ⟨⟨x.request, (b.execute x.request backend.bridge.1).1⟩,
    (b.execute x.request backend.bridge.1).2, rfl, ?_⟩
  rw [evaluate_of_request b.logged limitMs hline]
  rfl

/-! ## Answers -/

/-- What the result `e` of a call that ended with `result` does to the session that waits for
it. -/
def Session.Delivers (t : Session) (ticket : UInt64) (e : Evaluation) :
    Except BridgeError Output → Prop
  | .ok output =>
    e.lines = Text.lines output.stdout ∧ e.effects.getLast? = some .refreshTree ∧
      (t.complete ticket e).1 = [.refreshTree] ∧
      (t.complete ticket e).2.transcript = t.transcript ++ e.lines ∧
      (t.complete ticket e).2.cwd =
        match output.newDirectory with
        | some directory => .parse directory
        | none => t.cwd
  | .error failure =>
    e.lines = ["Error: " ++ failure.message] ∧ e.effects = [] ∧ (t.complete ticket e).1 = [] ∧
      (t.complete ticket e).2.transcript = t.transcript ++ e.lines ∧
      (t.complete ticket e).2.cwd = t.cwd

/-- **An answer moves the session** only if it names a directory. -/
theorem Session.delivers_ofResult {t : Session} {ticket : UInt64} (h : t.inFlight = some ticket)
    (result : Except BridgeError Output) : t.Delivers ticket (.ofResult result) result := by
  cases result with
  | error failure =>
    rw [Delivers, complete, if_pos h]
    exact ⟨rfl, rfl, rfl, rfl, rfl⟩
  | ok output =>
    rw [Delivers, complete, if_pos h]
    obtain ⟨stdout, newDirectory⟩ := output
    cases newDirectory with
    | none => exact ⟨rfl, rfl, rfl, rfl, rfl⟩
    | some directory => exact ⟨rfl, rfl, rfl, rfl, rfl⟩

/-! ## Runs -/

namespace Bridged

/-- How far a submission has come, and the result of its call. -/
inductive Fate where
  | waiting
  | answered (e : Evaluation)
  | completed (e : Evaluation)

/-- A submission and how far it has come. -/
structure Entry where
  submission : Submission
  fate : Fate

namespace Entry

/-- Whether the result of the submission has still to come in. -/
def isOpen (r : Entry) : Bool :=
  match r.fate with
  | .waiting | .answered _ => true
  | .completed _ => false

/-- The result of the call, if that has been made. -/
def result? (r : Entry) : Option Evaluation :=
  match r.fate with
  | .waiting => none
  | .answered e | .completed e => some e

/-- The result that has come in. -/
def delivered? (r : Entry) : Option Evaluation :=
  if r.isOpen then none else r.result?

/-- The request of the call and its result. -/
def account? (r : Entry) : Option (Request × Evaluation) :=
  r.result?.map fun e => (r.submission.request, e)

end Entry

/-- What can happen: a key, the `n`-th submission is handed to the bridge, the result of that comes
in, or some result for a ticket that is not outstanding. -/
inductive Event where
  | key (k : Keystroke)
  | evaluate (n : Nat)
  | deliver (n : Nat)
  | stray (ticket : UInt64) (e : Evaluation)

end Bridged

/-- A session with all its submissions in the order in which they were made, and what carries them
out. -/
structure Bridged (σ : Type) where
  session : Session
  entries : List Bridged.Entry
  backend : Backend (σ × List Call)

namespace Bridged

/-- The calls made so far. -/
def calls (w : Bridged σ) : List Call :=
  w.backend.bridge.2

/-- The tickets whose results have still to come in. -/
def outstanding (w : Bridged σ) : List UInt64 :=
  (w.entries.filter Entry.isOpen).map (·.submission.ticket)

/-- A session that has just been opened. -/
def start (s : Store) (state : σ) (id : UInt64) (welcome : Option String) : Bridged σ :=
  ⟨.openWith id welcome, [], ⟨s, state, []⟩⟩

/-- What an event does. A submission is carried out once, and its result comes in once on time. -/
def react (b : Bridge σ) (limitMs : UInt64) (w : Bridged σ) : Event → Bridged σ
  | .key k =>
    let (made, session) := w.session.handleKey k
    { w with session, entries := w.entries ++ made.toList.map fun x => ⟨x, .waiting⟩ }
  | .evaluate n =>
    match w.entries[n]? with
    | some ⟨x, .waiting⟩ =>
      let (e, backend) := (Interpreter.bridged b.logged limitMs).evaluate x.line x.cwd w.backend
      { w with entries := w.entries.set n ⟨x, .answered e⟩, backend }
    | _ => w
  | .deliver n =>
    match w.entries[n]? with
    | some ⟨x, .answered e⟩ =>
      { w with
        session := (w.session.complete x.ticket e).2
        entries := w.entries.set n ⟨x, .completed e⟩ }
    | _ => w
  | .stray ticket e =>
    if ticket ∈ w.outstanding then w
    else { w with session := (w.session.complete ticket e).2 }

/-- What a list of events does. -/
def after (b : Bridge σ) (limitMs : UInt64) (w : Bridged σ) (events : List Event) : Bridged σ :=
  events.foldl (react b limitMs) w

variable {limitMs : UInt64} {s : Store} {w : Bridged σ} {done : List Entry} {last : Option Entry}
  {r : Entry} {n : Nat}

/-! ## The submissions -/

/-- The submissions carry the tickets `1, 2, 3, …`, counted in words, and then comes `next`. Their
lines are not blank and have no blanks around them. -/
structure Numbered (next : UInt64) (made : List Submission) : Prop where
  next : next = .ofNat (made.length + 1)
  tickets : made.map (·.ticket) = (List.range' 1 made.length).map .ofNat
  lines : ∀ x ∈ made, x.line ≠ "" ∧ Text.trimmed x.line = x.line

theorem Numbered.concat {next : UInt64} {made : List Submission} {x : Submission}
    (h : Numbered next made) (hticket : x.ticket = next) (hne : x.line ≠ "")
    (htrim : Text.trimmed x.line = x.line) : Numbered (next + 1) (made ++ [x]) := by
  refine ⟨?_, ?_, List.forall_mem_append.2 ⟨h.lines, List.forall_mem_singleton.2 ⟨hne, htrim⟩⟩⟩
  · rw [h.next, List.length_append, List.length_singleton]
    exact (UInt64.ofNat_add (made.length + 1) 1).symm
  · rw [List.map_append, h.tickets, List.length_append, List.length_singleton,
      Session.tickets_succ, List.map_singleton, hticket, h.next]

/-! ## The invariant -/

/-- Where the results of completed calls lead a session that has just been opened. -/
def pathOf (results : List Evaluation) : WorkingPath :=
  results.foldl (fun cwd e => e.destination cwd) .root

/-- The invariant: the entries are completed ones, and at most one that is open. The session waits
for that, and stands where the completed ones have led it. -/
structure Sound (limitMs : UInt64) (s : Store) (w : Bridged σ) (done : List Entry)
    (last : Option Entry) : Prop where
  store : w.backend.store = s
  entries : w.entries = done ++ last.toList
  closed : ∀ r ∈ done, r.isOpen = false
  opened : ∀ r ∈ last, r.isOpen = true
  flight : w.session.inFlight = last.map (·.submission.ticket)
  numbered : Numbered w.session.nextTicket (w.entries.map (·.submission))
  accounts : w.entries.filterMap Entry.account? = w.calls.map (Call.account limitMs)
  path : w.session.cwd = pathOf (done.filterMap Entry.result?)

theorem sound_start (limitMs : UInt64) (s : Store) (state : σ) (id : UInt64)
    (welcome : Option String) : Sound limitMs s (start s state id welcome) [] none := by
  obtain ⟨transcript, hopen⟩ := Session.openWith_eq welcome
  rw [start, hopen]
  exact ⟨rfl, rfl, nofun, nofun, rfl, ⟨rfl, rfl, nofun⟩, rfl, rfl⟩

/-- An open entry is the last one. -/
theorem Sound.of_open (h : Sound limitMs s w done last) (hn : w.entries[n]? = some r)
    (hr : r.isOpen = true) :
    last = some r ∧ n = done.length ∧ ∀ r', w.entries.set n r' = done ++ [r'] := by
  rw [h.entries] at hn ⊢
  rcases Nat.lt_or_ge n done.length with hlt | hge
  · rw [List.getElem?_append_left hlt] at hn
    rw [h.closed r (List.mem_of_getElem? hn)] at hr
    cases hr
  · rw [List.getElem?_append_right hge] at hn
    cases last with
    | none => cases hn
    | some last =>
      cases hoffset : n - done.length with
      | zero =>
        rw [hoffset] at hn
        cases hn
        refine ⟨rfl, by omega, fun r' => ?_⟩
        rw [List.set_append_right _ _ hge, hoffset]
        rfl
      | succ k =>
        rw [hoffset] at hn
        cases hn

/-- A session that only has more text goes on as before. -/
theorem Sound.congr {session : Session} (h : Sound limitMs s w done last)
    (hflight : session.inFlight = w.session.inFlight)
    (hnext : session.nextTicket = w.session.nextTicket) (hcwd : session.cwd = w.session.cwd) :
    Sound limitMs s { w with session } done last :=
  ⟨h.store, h.entries, h.closed, h.opened, hflight.trans h.flight,
    by rw [hnext]; exact h.numbered, h.accounts, hcwd.trans h.path⟩

/-- A submission is made while nothing is open. -/
theorem Sound.submits {session : Session} {x : Submission} (h : Sound limitMs s w done last)
    (hfree : w.session.inFlight = none) (hticket : x.ticket = w.session.nextTicket)
    (hne : x.line ≠ "") (htrim : Text.trimmed x.line = x.line)
    (hflight : session.inFlight = some x.ticket)
    (hnext : session.nextTicket = w.session.nextTicket + 1) (hcwd : session.cwd = w.session.cwd) :
    Sound limitMs s { w with session, entries := w.entries ++ [⟨x, .waiting⟩] } done
      (some ⟨x, .waiting⟩) := by
  have hnone : last = none := by
    rw [h.flight] at hfree
    exact Option.map_eq_none_iff.1 hfree
  subst hnone
  have hdone : w.entries = done := h.entries.trans (List.append_nil done)
  refine ⟨h.store, ?_, h.closed, ?_, hflight, ?_, ?_, hcwd.trans h.path⟩
  · rw [hdone]
    rfl
  · rintro r ⟨⟩
    rfl
  · rw [hnext, List.map_append]
    exact h.numbered.concat hticket hne htrim
  · rw [List.filterMap_append]
    exact (List.append_nil _).trans h.accounts

/-- The open entry makes its call. -/
theorem Sound.calls {x : Submission} {call : Call} {backend : Backend (σ × List Call)}
    (h : Sound limitMs s w done (some ⟨x, .waiting⟩)) (hcall : call.request = x.request)
    (hstore : backend.store = w.backend.store) (hcalls : backend.bridge.2 = w.calls ++ [call]) :
    Sound limitMs s
      { w with entries := done ++ [⟨x, .answered (call.evaluation limitMs)⟩], backend } done
      (some ⟨x, .answered (call.evaluation limitMs)⟩) := by
  have hnumbered := h.numbered
  have haccounts := h.accounts
  rw [h.entries] at hnumbered haccounts
  refine ⟨hstore.trans h.store, rfl, h.closed, ?_, h.flight, ?_, ?_, h.path⟩
  · rintro r ⟨⟩
    rfl
  · rw [List.map_append] at hnumbered ⊢
    exact hnumbered
  · have hbefore : done.filterMap Entry.account? = w.calls.map (Call.account limitMs) := by
      rw [List.filterMap_append] at haccounts
      exact (List.append_nil _).symm.trans haccounts
    have hnew : [⟨x, .answered (call.evaluation limitMs)⟩].filterMap Entry.account? =
        [call].map (Call.account limitMs) := by
      rw [List.map_singleton, Call.account, hcall]
      rfl
    have hall : Bridged.calls
        { w with entries := done ++ [⟨x, .answered (call.evaluation limitMs)⟩], backend } =
          w.calls ++ [call] := hcalls
    rw [hall, List.filterMap_append, List.map_append, hbefore, hnew]

/-- The result of the open entry comes in. -/
theorem Sound.completes {x : Submission} {e : Evaluation}
    (h : Sound limitMs s w done (some ⟨x, .answered e⟩)) :
    Sound limitMs s
      { w with
        session := (w.session.complete x.ticket e).2
        entries := done ++ [⟨x, .completed e⟩] } (done ++ [⟨x, .completed e⟩]) none := by
  have hnumbered := h.numbered
  have haccounts := h.accounts
  rw [h.entries] at hnumbered haccounts
  rw [Session.complete_eq h.flight]
  refine ⟨h.store, (List.append_nil _).symm, ?_, nofun, rfl, ?_, ?_, ?_⟩
  · exact List.forall_mem_append.2 ⟨h.closed, List.forall_mem_singleton.2 rfl⟩
  · rw [List.map_append] at hnumbered ⊢
    exact hnumbered
  · rw [List.filterMap_append] at haccounts ⊢
    exact haccounts
  · rw [List.filterMap_append, pathOf, List.foldl_append]
    exact congrArg e.destination h.path

/-- The session waits for exactly the outstanding tickets. -/
theorem Sound.inFlight_iff (h : Sound limitMs s w done last) (ticket : UInt64) :
    w.session.inFlight = some ticket ↔ ticket ∈ w.outstanding := by
  have hclosed : done.filter Entry.isOpen = [] :=
    List.filter_eq_nil_iff.2 fun r hr => by simp [h.closed r hr]
  rw [outstanding, h.entries, h.flight, List.filter_append, hclosed, List.nil_append]
  cases last with
  | none => simp
  | some r => simp [h.opened r rfl, eq_comm]

/-- **Every event keeps the invariant.** -/
theorem Sound.react (h : Sound limitMs s w done last) (b : Bridge σ) (event : Event) :
    ∃ done' last', Sound limitMs s (w.react b limitMs event) done' last' := by
  cases event with
  | key k =>
    have htyped := w.session.typed_handleKey k
    have henters := w.session.enters_handleKey k
    rw [Bridged.react]
    generalize w.session.handleKey k = typed at htyped henters ⊢
    obtain ⟨made, session⟩ := typed
    cases htyped with
    | quiet _ _ _ hnext hflight =>
      refine ⟨done, last, ?_⟩
      simp only [Option.toList_none, List.map_nil, List.append_nil]
      exact h.congr hflight hnext henters.cwd
    | @submits _ x _ _ hfree _ _ _ hticket hnext hflight =>
      obtain ⟨-, -, -, hne, htrim⟩ := Session.of_accepted henters.made.symm
      exact ⟨done, _, h.submits hfree hticket hne htrim hflight hnext henters.cwd⟩
  | evaluate n =>
    rw [Bridged.react]
    split
    next x hn =>
      obtain ⟨rfl, -, hset⟩ := h.of_open hn rfl
      have hmem : x ∈ w.entries.map (·.submission) :=
        List.mem_map_of_mem (f := Entry.submission) (List.mem_of_getElem? hn)
      obtain ⟨hne, htrim⟩ := h.numbered.lines x hmem
      obtain ⟨call, inner, hcall, heval⟩ := evaluate_logged b limitMs hne htrim w.backend
      simp only [heval, hset]
      exact ⟨done, _, h.calls hcall rfl rfl⟩
    next => exact ⟨done, last, h⟩
  | deliver n =>
    rw [Bridged.react]
    split
    next x e hn =>
      obtain ⟨rfl, -, hset⟩ := h.of_open hn rfl
      rw [hset]
      exact ⟨_, none, h.completes⟩
    next => exact ⟨done, last, h⟩
  | stray ticket e =>
    rw [Bridged.react]
    split
    next => exact ⟨done, last, h⟩
    next hstray =>
      have hflight : w.session.inFlight ≠ some ticket := fun hflight =>
        hstray ((h.inFlight_iff ticket).1 hflight)
      rw [Session.complete_of_ne hflight]
      exact ⟨done, last, h⟩

/-- **Every run keeps the invariant.** -/
theorem Sound.after (h : Sound limitMs s w done last) (b : Bridge σ) (events : List Event) :
    ∃ done' last', Sound limitMs s (w.after b limitMs events) done' last' := by
  induction events generalizing w done last with
  | nil => exact ⟨done, last, h⟩
  | cons event events ih =>
    obtain ⟨done', last', h'⟩ := h.react b event
    exact ih h'

/-! ## Every moment -/

/-- **What holds of a session on a bridge** at every moment, if its calls are given up after a
limited time and `s` was the store at first. -/
structure Served (limitMs : UInt64) (s : Store) (w : Bridged σ) : Prop where
  /-- The tree and its version are as they were. -/
  store : w.backend.store = s
  /-- The submissions carry the tickets `1, 2, 3, …`, counted in words. -/
  tickets : w.entries.map (·.submission.ticket) = (List.range' 1 w.entries.length).map .ofNat
  /-- The calls are those of the submissions that have been carried out, in this order. -/
  requests : w.calls.map (·.request) =
    (w.entries.filter (·.result?.isSome)).map (·.submission.request)
  /-- Only the last submission can still have to be carried out. -/
  waits : ∀ r ∈ w.entries.dropLast, r.result?.isSome
  /-- The session waits for the outstanding ticket, and for no other. -/
  outstanding : ∀ ticket, w.session.inFlight = some ticket ↔ ticket ∈ w.outstanding
  /-- The session stands where the answers have led it whose results have come in. -/
  path : w.session.cwd = pathOf (w.entries.filterMap Entry.delivered?)
  /-- A key makes the submission that the lines make which it ends, and moves the session nowhere.
  The submission has the next ticket, the path of the session, and a line that is not blank and has
  no blanks around it. -/
  submits : ∀ k,
    w.session.Enters (w.session.ended k) (w.session.handleKey k).1 (w.session.handleKey k).2 ∧
      ∀ x, (w.session.handleKey k).1 = some x →
        w.outstanding = [] ∧ x.ticket = .ofNat (w.entries.length + 1) ∧ x.cwd = w.session.cwd ∧
          x.line ≠ "" ∧ Text.trimmed x.line = x.line
  /-- A result that has still to come in is that of the call at the place of its submission. -/
  delivers : ∀ (n : Nat) (x : Submission) (e : Evaluation),
    w.entries[n]? = some ⟨x, .answered e⟩ →
      ∃ call, w.calls[n]? = some call ∧ call.request = x.request ∧
        w.session.Delivers x.ticket e (call.reply.within limitMs)
  /-- An answer that comes after the limit is a failure, whatever it says. Any other one is taken as
  it is. -/
  late : ∀ (n : Nat) (x : Submission) (e : Evaluation) (call : Call),
    w.entries[n]? = some ⟨x, .answered e⟩ → w.calls[n]? = some call →
      (call.reply.IsLate limitMs → w.session.Delivers x.ticket e (.error (.timeout limitMs))) ∧
        (¬ call.reply.IsLate limitMs → w.session.Delivers x.ticket e call.reply.result)

theorem map_fst_account? (entries : List Entry) :
    (entries.filterMap Entry.account?).map Prod.fst =
      (entries.filter (·.result?.isSome)).map (·.submission.request) := by
  induction entries with
  | nil => rfl
  | cons r entries ih =>
    cases hresult : r.result? with
    | none =>
      have haccount : r.account? = none := by rw [Entry.account?, hresult]; rfl
      rw [List.filterMap_cons_none haccount, ih, List.filter_cons_of_neg (by simp [hresult])]
    | some e =>
      have haccount : r.account? = some (r.submission.request, e) := by
        rw [Entry.account?, hresult]
        rfl
      rw [List.filterMap_cons_some haccount, List.map_cons, ih,
        List.filter_cons_of_pos (by simp [hresult]), List.map_cons]

theorem exists_result_of_closed (hr : r.isOpen = false) :
    ∃ e, r.result? = some e ∧ r.delivered? = some e := by
  obtain ⟨x, fate⟩ := r
  cases fate with
  | completed e => exact ⟨e, rfl, rfl⟩
  | waiting => cases hr
  | answered e => cases hr

/-- The result of an open entry is that of its call. -/
theorem Sound.delivers (h : Sound limitMs s w done last) {x : Submission} {e : Evaluation}
    (hn : w.entries[n]? = some ⟨x, .answered e⟩) :
    ∃ call, w.calls[n]? = some call ∧ call.request = x.request ∧
      w.session.Delivers x.ticket e (call.reply.within limitMs) := by
  obtain ⟨rfl, rfl, -⟩ := h.of_open hn rfl
  have hlength : (done.filterMap Entry.account?).length = done.length := by
    refine List.filterMap_length_eq_length.2 fun r hr => ?_
    obtain ⟨e, he, -⟩ := exists_result_of_closed (h.closed r hr)
    rw [Entry.account?, he]
    rfl
  have hplace : (w.calls.map (Call.account limitMs))[done.length]? = some (x.request, e) := by
    rw [← h.accounts, h.entries, List.filterMap_append, ← hlength]
    exact List.getElem?_concat_length
  rw [List.getElem?_map] at hplace
  obtain ⟨call, hcall, haccount⟩ := Option.map_eq_some_iff.1 hplace
  obtain ⟨hrequest, rfl⟩ := Prod.mk.inj haccount
  exact ⟨call, hcall, hrequest, Session.delivers_ofResult h.flight _⟩

theorem Sound.served (h : Sound limitMs s w done last) : w.Served limitMs s where
  store := h.store
  tickets := by
    have htickets := h.numbered.tickets
    rwa [List.map_map, List.length_map] at htickets
  requests := by
    have haccounts := congrArg (List.map Prod.fst) h.accounts
    rw [List.map_map, map_fst_account?] at haccounts
    exact haccounts.symm
  waits r hr := by
    have hdone : r ∈ done := by
      rw [h.entries] at hr
      cases last with
      | none =>
        rw [Option.toList_none, List.append_nil] at hr
        exact (List.dropLast_sublist done).mem hr
      | some last => simpa using hr
    obtain ⟨e, he, -⟩ := exists_result_of_closed (h.closed r hdone)
    rw [he]
    rfl
  outstanding := h.inFlight_iff
  path := by
    have hdone : done.filterMap Entry.delivered? = done.filterMap Entry.result? := by
      refine List.filterMap_congr fun r hr => ?_
      obtain ⟨e, hresult, hdelivered⟩ := exists_result_of_closed (h.closed r hr)
      rw [hresult, hdelivered]
    have hlast : last.toList.filterMap Entry.delivered? = [] := by
      refine List.filterMap_eq_nil_iff.2 fun r hr => ?_
      exact if_pos (h.opened r (Option.mem_toList.1 hr))
    rw [h.path, h.entries, List.filterMap_append, hdone, hlast, List.append_nil]
  submits k := by
    have henters := w.session.enters_handleKey k
    refine ⟨henters, fun x hx => ?_⟩
    obtain ⟨hfree, hticket, hcwd, hne, htrim⟩ := Session.of_accepted (henters.made.symm.trans hx)
    refine ⟨List.eq_nil_iff_forall_not_mem.2 fun ticket hmem => ?_, ?_, hcwd, hne, htrim⟩
    · have hflight := (h.inFlight_iff ticket).2 hmem
      rw [hfree] at hflight
      cases hflight
    · rw [hticket, h.numbered.next, List.length_map]
  delivers _ _ _ hn := h.delivers hn
  late n x e call hn hcall := by
    obtain ⟨call', hcall', -, hdelivers⟩ := h.delivers hn
    obtain rfl := Option.some.inj (hcall.symm.trans hcall')
    constructor
    · intro hlate
      rwa [Reply.within_of_isLate hlate] at hdelivers
    · intro hintime
      rwa [Reply.within_of_not_isLate hintime] at hdelivers

/-- **Lines that go to a bridge leave the tree alone, and each makes one call.** Whatever the bridge
answers, and in whatever order keys, calls and results come, the store is as it was, the calls are
those of the submissions in the order of their tickets, and the session moves only when the result
of a call comes in that has ended well and names a directory. -/
theorem served_after (b : Bridge σ) (state : σ) (limitMs : UInt64) (s : Store) (id : UInt64)
    (welcome : Option String) (events : List Event) :
    ((start s state id welcome).after b limitMs events).Served limitMs s := by
  obtain ⟨done, last, h⟩ := (sound_start limitMs s state id welcome).after b events
  exact h.served

/-- A line is refused as busy and others are blank. One answer names a directory, and the session
moves there. The other names one as well, but it comes too late: it is a failure, and the session
stays. -/
theorem served_after_late :
    let listing : Reply := ⟨.ok ⟨"a\r\nb", some "/src//"⟩, none⟩
    let late : Reply := ⟨.ok ⟨"", some "etc"⟩, some 21⟩
    let before : List Event :=
      [.key (.paste "\n ls \ncd etc\n"), .evaluate 0, .stray 2 (.line "stray"), .deliver 0,
        .key (.paste "  \ncd etc"), .key .enter, .evaluate 1, .evaluate 1]
    let opened : Bridged Script := start .empty ⟨[listing, late], []⟩ 1 none
    let w := opened.after Script.bridge 20 before
    let w' := opened.after Script.bridge 20 (before ++ [.deliver 1])
    w.Served 20 .empty ∧ w'.Served 20 .empty ∧ late.IsLate 20 ∧
      w.calls.map (fun call => (call.request, call.reply.delayMs)) =
        [(⟨"ls", ""⟩, none), (⟨"cd etc", "src"⟩, some 21)] ∧
      w.session.cwd = ⟨["src"]⟩ ∧ w'.session.cwd = ⟨["src"]⟩ ∧
      w'.session.transcript =
        ["$ ", "$ ls", "$ cd etc", "Busy: previous command is still running", "a", "b", "$ ",
          "$ cd etc", "Error: command timed out after 20ms"] := by
  intro listing late before opened w w'
  refine ⟨served_after _ _ _ _ _ _ before, served_after _ _ _ _ _ _ _, ⟨21, rfl, by decide⟩, ?_, ?_,
    ?_, ?_⟩
  · decide +kernel
  · decide +kernel
  · decide +kernel
  · decide +kernel

end Bridged

end WorkspaceConsole

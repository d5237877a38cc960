import WorkspaceConsole.Proofs.Session.Path
import WorkspaceConsole.Proofs.Store.Naming
import WorkspaceConsole.Proofs.WorkingPath

/-!
# Sessions that share a store

Several terminals work on one store. A line that one of them submits is carried out later, on the
store as it is then, and its result comes in later still. In between anything can happen: keys at
all terminals, lines of other terminals, changes of the store, and results that nobody waits for.

A terminal is a session with the `Record`s of all its submissions. The invariant `Terminal.Sound`
says that only the last of them can be open, that the session waits for that one, and that it has
not moved since. So the path that the line was carried out in is still the path of the session when
the result comes in, and no move is lost (`Shared.kept_after`).
-/

namespace WorkspaceConsole

/-- How far a submission has come, and on which store it was carried out. -/
inductive Fate where
  | waiting
  | evaluated (store : Store)
  | completed (store : Store)

/-- A submission and how far it has come. -/
structure Record where
  submission : Submission
  fate : Fate

namespace Record

/-- Whether the result of the submission has still to come in. -/
def isOpen (r : Record) : Bool :=
  match r.fate with
  | .waiting | .evaluated _ => true
  | .completed _ => false

/-- The store that the submission was carried out on. -/
def store? (r : Record) : Option Store :=
  match r.fate with
  | .waiting => none
  | .evaluated store | .completed store => some store

/-- The name of the folder that the submission enters, if it was carried out and enters one. -/
def target? (r : Record) : Option String :=
  r.store?.bind (·.enters? (Command.parse r.submission.line))

/-- The name of the folder that the submission has taken its session to. -/
def entered? (r : Record) : Option String :=
  if r.isOpen then none else r.target?

end Record

/-- A session with all its submissions, in the order in which they were made. -/
structure Terminal where
  session : Session
  records : List Record := []

namespace Terminal

/-- What can happen at a terminal: a key, its `n`-th submission is carried out, the result of that
comes in, or some result for a ticket that is not outstanding. -/
inductive Event where
  | key (k : Keystroke)
  | evaluate (n : Nat)
  | deliver (n : Nat)
  | stray (ticket : UInt64) (e : Evaluation)

/-- The tickets whose results have still to come in. -/
def outstanding (t : Terminal) : List UInt64 :=
  (t.records.filter Record.isOpen).map (·.submission.ticket)

/-- The terminal and the store after an event. A submission is carried out once, with the line and
the path that are recorded in it; its result comes in once on time. Results of old tickets may come
in again as strays, also changed ones. -/
def react (t : Terminal) (s : Store) : Event → Terminal × Store
  | .key k =>
    let (made, session) := t.session.handleKey k
    (⟨session, t.records ++ made.toList.map fun x => ⟨x, .waiting⟩⟩, s)
  | .evaluate n =>
    match t.records[n]? with
    | some ⟨x, .waiting⟩ =>
      ({ t with records := t.records.set n ⟨x, .evaluated s⟩ }, (s.evaluate x.line x.cwd).2)
    | _ => (t, s)
  | .deliver n =>
    match t.records[n]? with
    | some ⟨x, .evaluated before⟩ =>
      let (_, session) := t.session.complete x.ticket (before.evaluate x.line x.cwd).1
      (⟨session, t.records.set n ⟨x, .completed before⟩⟩, s)
    | _ => (t, s)
  | .stray ticket e =>
    if ticket ∈ t.outstanding then (t, s)
    else ({ t with session := (t.session.complete ticket e).2 }, s)

end Terminal

/-- Terminals over one store. -/
structure Shared where
  store : Store
  terminals : List Terminal

namespace Shared

/-- Sessions opened over a store. -/
def start (s : Store) (first : UInt64) (welcomes : List (Option String)) : Shared :=
  ⟨s, (Session.openAll first welcomes).map ({ session := · })⟩

/-- What can happen: something at the `i`-th terminal, or a change of the store from elsewhere. -/
inductive Event where
  | terminal (i : Nat) (event : Terminal.Event)
  | change (action : Action)

/-- Terminals and store after an event. -/
def react (w : Shared) : Event → Shared
  | .terminal i event =>
    match w.terminals[i]? with
    | none => w
    | some t =>
      let (t', store) := t.react w.store event
      ⟨store, w.terminals.set i t'⟩
  | .change action => { w with store := (w.store.dispatch action).2 }

/-- Terminals and store after a list of events. -/
def after (w : Shared) (events : List Event) : Shared :=
  events.foldl react w

/-- **What every event keeps, every run keeps**: a property of the store, one of each terminal. -/
theorem after_preserves {P : Terminal → Prop} {Q : Store → Prop}
    (hreact : ∀ t s event, Q s → P t → P (t.react s event).1 ∧ Q (t.react s event).2)
    (hchange : ∀ s action, Q s → Q (s.dispatch action).2) {w : Shared} (hstore : Q w.store)
    (hterminals : ∀ t ∈ w.terminals, P t) (events : List Event) :
    Q (w.after events).store ∧ ∀ t ∈ (w.after events).terminals, P t := by
  induction events generalizing w with
  | nil => exact ⟨hstore, hterminals⟩
  | cons event events ih =>
    have hstep : Q (w.react event).store ∧ ∀ t ∈ (w.react event).terminals, P t := by
      cases event with
      | terminal i event =>
        rw [react]
        cases hi : w.terminals[i]? with
        | none => exact ⟨hstore, hterminals⟩
        | some t =>
          obtain ⟨ht, hs⟩ := hreact t w.store event hstore (hterminals t (List.mem_of_getElem? hi))
          refine ⟨hs, fun u hu => ?_⟩
          rcases List.mem_or_eq_of_mem_set hu with hu | rfl
          · exact hterminals u hu
          · exact ht
      | change action => exact ⟨hchange w.store action hstore, hterminals⟩
    exact ih hstep.1 hstep.2

end Shared

/-! ## One terminal -/

namespace Terminal

variable {session session' : Session} {records : List Record} {r : Record} {n : Nat}

/-- Only the last submission can be open. The session waits for its result, where it was made. -/
inductive Serves (session : Session) : List Record → Prop
  | idle {done : List Record} : session.inFlight = none → (∀ q ∈ done, q.isOpen = false) →
      Serves session done
  | busy {done : List Record} {r : Record} : session.inFlight = some r.submission.ticket →
      session.cwd = r.submission.cwd → (∀ q ∈ done, q.isOpen = false) → r.isOpen = true →
      Serves session (done ++ [r])

theorem Serves.congr (h : Serves session records) (hflight : session'.inFlight = session.inFlight)
    (hcwd : session'.cwd = session.cwd) : Serves session' records := by
  cases h with
  | idle hidle hdone => exact .idle (hflight.trans hidle) hdone
  | busy hbusy hmade hdone hopen => exact .busy (hflight.trans hbusy) (hcwd.trans hmade) hdone hopen

/-- An open submission is the last one. -/
theorem Serves.of_open (h : Serves session records) (hn : records[n]? = some r)
    (hr : r.isOpen = true) :
    ∃ done, records = done ++ [r] ∧ n = done.length ∧ (∀ q ∈ done, q.isOpen = false) ∧
      session.inFlight = some r.submission.ticket ∧ session.cwd = r.submission.cwd := by
  cases h with
  | idle _ hdone =>
    rw [hdone r (List.mem_of_getElem? hn)] at hr
    cases hr
  | @busy done last hbusy hmade hdone _ =>
    have hlength : n < done.length + 1 := by simpa using (List.getElem?_eq_some_iff.1 hn).1
    rcases Nat.lt_succ_iff_lt_or_eq.1 hlength with hlt | rfl
    · rw [List.getElem?_append_left hlt] at hn
      rw [hdone r (List.mem_of_getElem? hn)] at hr
      cases hr
    · rw [List.getElem?_concat_length] at hn
      cases hn
      exact ⟨done, rfl, rfl, hdone, hbusy, hmade⟩

/-- The session waits for exactly the outstanding ticket. -/
theorem Serves.inFlight_iff (h : Serves session records) (ticket : UInt64) :
    session.inFlight = some ticket ↔
      ∃ r ∈ records, r.isOpen = true ∧ r.submission.ticket = ticket := by
  constructor
  · intro hflight
    cases h with
    | idle hidle _ =>
      rw [hidle] at hflight
      cases hflight
    | @busy done r hbusy _ _ hopen =>
      rw [hbusy] at hflight
      exact ⟨r, List.mem_append_right done List.mem_cons_self, hopen, Option.some.inj hflight⟩
  · rintro ⟨r, hr, hopen, rfl⟩
    obtain ⟨n, hn⟩ := List.getElem?_of_mem hr
    obtain ⟨done, -, -, -, hflight, -⟩ := h.of_open hn hopen
    exact hflight

/-- The invariant of a terminal. -/
structure Sound (session : Session) (records : List Record) : Prop where
  serves : Serves session records
  path : session.cwd.segments = records.filterMap Record.entered?
  next : session.nextTicket = .ofNat (records.length + 1)
  tickets : records.map (·.submission.ticket) = (List.range' 1 records.length).map .ofNat

theorem sound_openWith (id : UInt64) (welcome : Option String) :
    Sound (Session.openWith id welcome) [] := by
  obtain ⟨transcript, hopen⟩ := Session.openWith_eq welcome
  rw [hopen]
  exact ⟨.idle rfl nofun, rfl, rfl, rfl⟩

theorem Sound.congr (h : Sound session records) (hflight : session'.inFlight = session.inFlight)
    (hcwd : session'.cwd = session.cwd) (hnext : session'.nextTicket = session.nextTicket) :
    Sound session' records :=
  ⟨h.serves.congr hflight hcwd, by rw [hcwd, h.path], hnext.trans h.next, h.tickets⟩

/-- A submission comes after those that have been dealt with, and gets the next ticket. -/
theorem Sound.submits {x : Submission} (h : Sound session records)
    (hfree : session.inFlight = none) (hticket : x.ticket = session.nextTicket)
    (hcwd : x.cwd = session.cwd) (hflight : session'.inFlight = some x.ticket)
    (hcwd' : session'.cwd = session.cwd) (hnext : session'.nextTicket = session.nextTicket + 1) :
    Sound session' (records ++ [⟨x, .waiting⟩]) := by
  refine ⟨?_, ?_, ?_, ?_⟩
  · cases h.serves with
    | idle _ hdone => exact .busy hflight (hcwd'.trans hcwd.symm) hdone rfl
    | busy hbusy =>
      rw [hfree] at hbusy
      cases hbusy
  · rw [hcwd', h.path, List.filterMap_append]
    exact (List.append_nil _).symm
  · rw [hnext, h.next, List.length_append, List.length_singleton]
    exact (UInt64.ofNat_add (records.length + 1) 1).symm
  · rw [List.map_append, h.tickets, List.length_append, List.length_singleton,
      Session.tickets_succ, List.map_singleton, hticket, h.next]

/-- The open submission gets another fate, and the session moves if that says so. -/
theorem Sound.set {r' : Record} (h : Sound session records) (hn : records[n]? = some r)
    (hr : r.isOpen = true) (hsame : r'.submission = r.submission)
    (hserves : ∀ done, (∀ q ∈ done, q.isOpen = false) → Serves session' (done ++ [r']))
    (hpath : session'.cwd.segments = session.cwd.segments ++ r'.entered?.toList)
    (hnext : session'.nextTicket = session.nextTicket) : Sound session' (records.set n r') := by
  obtain ⟨done, rfl, rfl, hdone, -⟩ := h.serves.of_open hn hr
  have hleft : r.entered? = none := if_pos hr
  rw [List.set_append_right _ _ (Nat.le_refl _), Nat.sub_self, List.set_cons_zero]
  refine ⟨hserves done hdone, ?_, ?_, ?_⟩
  · rw [hpath, h.path, List.filterMap_append, List.filterMap_append,
      List.filterMap_cons_none hleft, List.filterMap_nil, List.append_nil]
    cases hentered : r'.entered? with
    | none => rw [List.filterMap_cons_none hentered]; rfl
    | some name => rw [List.filterMap_cons_some hentered]; rfl
  · rw [hnext, h.next, List.length_append, List.length_append]
    rfl
  · have htickets := h.tickets
    rw [List.map_append, List.length_append, List.map_singleton] at htickets ⊢
    rw [hsame]
    exact htickets

/-- **Every event keeps the invariant.** -/
theorem Sound.react (h : Sound session records) (s : Store) (event : Event) :
    Sound (react ⟨session, records⟩ s event).1.session
      (Terminal.react ⟨session, records⟩ s event).1.records := by
  cases event with
  | key k =>
    have htyped := session.typed_handleKey k
    have hstays := session.stays_handleKey k
    show Sound (session.handleKey k).2
      (records ++ (session.handleKey k).1.toList.map fun x => ⟨x, .waiting⟩)
    generalize session.handleKey k = typed at htyped hstays ⊢
    obtain ⟨made, session'⟩ := typed
    cases htyped with
    | quiet _ _ _ hnext hflight =>
      rw [Option.toList_none, List.map_nil, List.append_nil]
      exact h.congr hflight hstays.cwd hnext
    | @submits _ x _ _ hfree _ _ _ hticket hnext hflight =>
      exact h.submits hfree hticket (hstays.submitted x rfl) hflight hstays.cwd hnext
  | evaluate n =>
    rw [Terminal.react]
    split
    · next x hn =>
      obtain ⟨-, -, -, -, hflight, hcwd⟩ := h.serves.of_open hn rfl
      exact h.set hn rfl rfl (fun _ hdone => .busy hflight hcwd hdone rfl)
        (List.append_nil _).symm rfl
    · exact h
  | deliver n =>
    rw [Terminal.react]
    split
    · next x before hn =>
      obtain ⟨-, -, -, -, hflight, hcwd⟩ := h.serves.of_open hn rfl
      -- The line was carried out in the path where the session still stands.
      have hmoves := before.destination_evaluate x.line x.cwd
      dsimp only at hflight hcwd ⊢
      rw [Session.complete_eq hflight]
      refine h.set hn rfl rfl (fun _ hdone => .idle rfl ?_) ?_ rfl
      · exact List.forall_mem_append.2 ⟨hdone, List.forall_mem_singleton.2 rfl⟩
      · dsimp only
        rw [hcwd]
        exact hmoves
    · exact h
  | stray ticket e =>
    rw [Terminal.react]
    split
    · exact h
    · next hstray =>
      have hflight : session.inFlight ≠ some ticket := by
        rw [ne_eq, h.serves.inFlight_iff]
        rintro ⟨r, hr, hopen, rfl⟩
        exact hstray (List.mem_map.2 ⟨r, List.mem_filter.2 ⟨hr, hopen⟩, rfl⟩)
      rw [Session.complete_of_ne hflight]
      exact h

end Terminal

/-! ## Names -/

/-- Every folder of the tree has a valid name. -/
def Store.ValidFolders (s : Store) : Prop :=
  ∀ f ∈ s.roots.folders, ValidName f.name

namespace Store.ValidFolders

variable {s : Store}

theorem dispatch (h : s.ValidFolders) (action : Action) : (s.dispatch action).2.ValidFolders := by
  rcases s.dispatch_cases action with ⟨r, w, happly, hd⟩ | ⟨e, -, hd⟩
  · rw [hd]
    exact (change_of_apply happly).folderNames h
  · rw [hd]
    exact h

theorem evaluate (h : s.ValidFolders) (line : String) (cwd : WorkingPath) :
    (s.evaluate line cwd).2.ValidFolders := by
  rcases (s.carriesOut_carryOut (Command.parse line) cwd).cases with hsame | hchanged
  · rw [Store.evaluate, hsame]
    exact h
  · obtain ⟨action, success, r, w, -, happly, hw⟩ := hchanged
    rw [Store.evaluate, hw]
    exact (change_of_apply happly).folderNames h

theorem react (h : s.ValidFolders) (t : Terminal) (event : Terminal.Event) :
    (t.react s event).2.ValidFolders := by
  cases event with
  | key k => exact h
  | evaluate n =>
    rw [Terminal.react]
    split
    · next x _ => exact h.evaluate x.line x.cwd
    · exact h
  | deliver n => rw [Terminal.react]; split <;> exact h
  | stray ticket e => rw [Terminal.react]; split <;> exact h

end Store.ValidFolders

namespace Terminal

/-- Every folder that a submission enters has a valid name. -/
def ValidTargets (t : Terminal) : Prop :=
  ∀ r ∈ t.records, ∀ name, r.target? = some name → ValidName name

theorem ValidTargets.react {t : Terminal} (h : t.ValidTargets) {s : Store} (hs : s.ValidFolders)
    (event : Event) : (t.react s event).1.ValidTargets := by
  cases event with
  | key k =>
    intro r hr name hname
    rcases List.mem_append.1 hr with hr | hr
    · exact h r hr name hname
    · obtain ⟨x, -, rfl⟩ := List.mem_map.1 hr
      cases hname
  | evaluate n =>
    rw [Terminal.react]
    split
    · intro r hr name hname
      rcases List.mem_or_eq_of_mem_set hr with hr | rfl
      · exact h r hr name hname
      · obtain ⟨g, hg, rfl⟩ := Store.exists_folder_of_enters? hname
        exact hs g hg
    · exact h
  | deliver n =>
    rw [Terminal.react]
    split
    · next x before hn =>
      intro r hr name hname
      rcases List.mem_or_eq_of_mem_set hr with hr | rfl
      · exact h r hr name hname
      · exact h ⟨x, .evaluated before⟩ (List.mem_of_getElem? hn) name hname
    · exact h
  | stray ticket e => rw [Terminal.react]; split <;> exact h

/-! ## Every moment -/

/-- **What holds of a terminal** at every moment. -/
structure Kept (t : Terminal) : Prop where
  /-- The session waits for the outstanding ticket, and for no other. -/
  outstanding : ∀ ticket, t.session.inFlight = some ticket ↔ ticket ∈ t.outstanding
  /-- While a submission is outstanding, the session stands where that was made. -/
  waits : ∀ r ∈ t.records, r.isOpen = true → t.session.cwd = r.submission.cwd
  /-- The session has entered the folders that its completed submissions enter, in this order, and
  no others. -/
  path : t.session.cwd.segments = t.records.filterMap Record.entered?
  /-- The submissions carry the tickets `1, 2, 3, …`, counted in words. -/
  tickets : t.records.map (·.submission.ticket) = (List.range' 1 t.records.length).map .ofNat

theorem mem_outstanding {t : Terminal} {ticket : UInt64} :
    ticket ∈ t.outstanding ↔ ∃ r ∈ t.records, r.isOpen = true ∧ r.submission.ticket = ticket := by
  simp [outstanding, and_assoc]

theorem Sound.kept {t : Terminal} (h : Sound t.session t.records) : t.Kept where
  outstanding ticket := (h.serves.inFlight_iff ticket).trans mem_outstanding.symm
  waits r hr hopen := by
    obtain ⟨n, hn⟩ := List.getElem?_of_mem hr
    obtain ⟨done, -, -, -, -, hcwd⟩ := h.serves.of_open hn hopen
    exact hcwd
  path := h.path
  tickets := h.tickets

/-- The names in the path are those of folders that have been entered. -/
theorem Sound.parse_display {t : Terminal} (h : Sound t.session t.records) (ht : t.ValidTargets) :
    WorkingPath.parse t.session.cwd.display = t.session.cwd := by
  refine WorkingPath.parse_display_of_valid fun name hname => ?_
  rw [h.path] at hname
  obtain ⟨r, hr, hentered⟩ := List.mem_filterMap.1 hname
  rw [Record.entered?] at hentered
  split at hentered
  · cases hentered
  · exact ht r hr name hentered

end Terminal

theorem Session.exists_of_mem_openAll {first : UInt64} {welcomes : List (Option String)}
    {session : Session} (h : session ∈ openAll first welcomes) :
    ∃ id, ∃ welcome ∈ welcomes, session = openWith id welcome := by
  induction welcomes generalizing first with
  | nil => cases h
  | cons welcome welcomes ih =>
    rcases List.mem_cons.1 h with rfl | h
    · exact ⟨first, welcome, List.mem_cons_self, rfl⟩
    · obtain ⟨id, welcome', hwelcome, hsession⟩ := ih h
      exact ⟨id, welcome', List.mem_cons_of_mem welcome hwelcome, hsession⟩

namespace Shared

theorem exists_session_of_mem_start {s : Store} {first : UInt64} {welcomes : List (Option String)}
    {t : Terminal} (ht : t ∈ (start s first welcomes).terminals) :
    ∃ id, ∃ welcome ∈ welcomes, t = { session := Session.openWith id welcome } := by
  obtain ⟨session, hsession, rfl⟩ := List.mem_map.1 ht
  obtain ⟨id, welcome, hwelcome, rfl⟩ := Session.exists_of_mem_openAll hsession
  exact ⟨id, welcome, hwelcome, rfl⟩

theorem sound_after (s : Store) (first : UInt64) (welcomes : List (Option String))
    (events : List Event) :
    ∀ t ∈ ((start s first welcomes).after events).terminals,
      Terminal.Sound t.session t.records := by
  refine (after_preserves (Q := fun _ => True) ?_ (fun _ _ _ => trivial) trivial ?_ events).2
  · exact fun t s event _ h => ⟨h.react s event, trivial⟩
  · intro t ht
    obtain ⟨id, welcome, -, rfl⟩ := exists_session_of_mem_start ht
    exact Terminal.sound_openWith id welcome

theorem validTargets_after {s : Store} (hs : s.ValidFolders) (first : UInt64)
    (welcomes : List (Option String)) (events : List Event) :
    ∀ t ∈ ((start s first welcomes).after events).terminals, t.ValidTargets := by
  refine (after_preserves ?_ (fun _ action h => h.dispatch action) hs ?_ events).2
  · exact fun t s event hs h => ⟨h.react hs event, hs.react t event⟩
  · intro t ht
    obtain ⟨id, welcome, -, rfl⟩ := exists_session_of_mem_start ht
    exact fun r hr => absurd hr List.not_mem_nil

/-- **No move is lost, and none is made from elsewhere.** Whatever happens at any number of
terminals over one store, every session stands where the folders lead that its own completed
submissions have entered, in the order of their tickets, and it does not move while one is
outstanding. If the folders of the store had valid names at first, the text of every path reads back
to that path. -/
theorem kept_after (s : Store) (first : UInt64) (welcomes : List (Option String))
    (events : List Event) :
    (∀ t ∈ ((start s first welcomes).after events).terminals, t.Kept) ∧
      (s.ValidFolders → ∀ t ∈ ((start s first welcomes).after events).terminals,
        WorkingPath.parse t.session.cwd.display = t.session.cwd) := by
  have hsound := sound_after s first welcomes events
  refine ⟨fun t ht => (hsound t ht).kept, fun hs t ht => ?_⟩
  exact (hsound t ht).parse_display (validTargets_after hs first welcomes events t ht)

/-- The folder `src` is entered at one terminal, and is gone before the result comes in. At the
other one a result that nobody waits for and an old one that was changed lead nowhere. -/
theorem kept_after_interleaved :
    let s : Store := ⟨.ofRoots (.cons "src" [] .nil .nil), 0⟩
    let wrong : Evaluation := ⟨[], [.changeDirectory ⟨["etc"]⟩]⟩
    let events : List Event :=
      [.terminal 0 (.key (.paste "cd src\n")), .terminal 1 (.key (.paste "mkdir lib\ncd src\n")),
        .terminal 1 (.stray 2 wrong), .terminal 0 (.evaluate 0), .terminal 1 (.evaluate 0),
        .change (.removeFolder "src"), .terminal 1 (.deliver 0), .terminal 0 (.deliver 0),
        .terminal 1 (.key (.paste "cd lib\n")), .terminal 1 (.evaluate 1),
        .terminal 1 (.stray 1 wrong), .terminal 1 (.deliver 1)]
    let w := (start s 1 [none, some "Welcome"]).after events
    s.ValidFolders ∧
      (∀ t ∈ w.terminals, t.Kept ∧ WorkingPath.parse t.session.cwd.display = t.session.cwd) ∧
      w.terminals.map (·.session.cwd) = [⟨["src"]⟩, ⟨["lib"]⟩] := by
  intro s wrong events w
  have hs : s.ValidFolders := by
    intro f hf
    rw [List.mem_singleton.1 hf, ← isValidName_iff]
    decide
  obtain ⟨hkept, hparse⟩ := kept_after s 1 [none, some "Welcome"] events
  exact ⟨hs, fun t ht => ⟨hkept t ht, hparse hs t ht⟩, by decide⟩

end Shared

end WorkspaceConsole

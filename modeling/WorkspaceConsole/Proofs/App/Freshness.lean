import WorkspaceConsole.Proofs.App.Operation
import WorkspaceConsole.Proofs.Explorer.Freshness
import WorkspaceConsole.Proofs.Store.Evaluation

/-!
# The explorer of the console is current

The console reads the tree again when the result of an evaluation asks for it, and at no other time.
Between the end of an evaluation and the drain that takes in its result, the explorer may show a
tree that is no longer that of the store.

If nobody else changes the store (`Alone`), that is the only time, and drawing the screen changes
nothing about it (`exists_alone_turn`). An evaluation keeps the store or asks for the tree to be
read again (`keeps_or_tells`), and its message is always taken in. So the explorer shows the tree of
the store, unless a message waits that asks for it (`Tended`).
-/

namespace WorkspaceConsole

/-! ## What a result asks for -/

theorem Store.CarriesOut.keeps_or_tells {s s' : Store} {cwd : WorkingPath} {command : Command}
    {e : Evaluation} (h : CarriesOut s cwd command e s') :
    s' = s ∨ .refreshTree ∈ e.effects := by
  cases h with
  | changes _ _ => exact .inr List.mem_cons_self
  | _ => exact .inl rfl

/-- **An evaluation** keeps the store, or asks for the tree to be read again. A bridge never touches
the store. -/
theorem Interpreter.keeps_or_tells {σ : Type} (x : Interpreter σ) (line : String)
    (cwd : WorkingPath) (b : Backend σ) :
    (x.evaluate line cwd b).2.store = b.store ∨
      .refreshTree ∈ (x.evaluate line cwd b).1.effects := by
  cases x with
  | simulated =>
    rw [Interpreter.evaluate, Store.evaluate]
    exact (b.store.carriesOut_carryOut (Command.parse line) cwd).keeps_or_tells
  | bridged bridge limitMs =>
    rw [Interpreter.evaluate]
    exact .inl rfl

namespace Session

/-- Requests to read the tree again are passed on. -/
theorem snd_foldl_applyEffect (s : Session) (rest effects : List Effect) :
    (effects.foldl applyEffect (s, rest)).2 = rest ++ effects.filter (· = .refreshTree) := by
  induction effects generalizing s rest with
  | nil => exact (List.append_nil rest).symm
  | cons effect effects ih =>
    cases effect with
    | changeDirectory path => exact ih { s with cwd := path } rest
    | refreshTree => exact (ih s _).trans (List.append_assoc ..)

theorem refreshTree_mem_complete {s : Session} {ticket : UInt64} {e : Evaluation}
    (h : s.inFlight = some ticket) (he : .refreshTree ∈ e.effects) :
    .refreshTree ∈ (s.complete ticket e).1 := by
  rw [complete, if_pos h]
  dsimp only
  rw [snd_foldl_applyEffect, List.nil_append]
  exact List.mem_filter.2 ⟨he, by decide⟩

end Session

namespace Explorer

variable {e e' : Explorer} {s : Store}

theorem Reads.adjusted (h : e.Reads s) (hadj : Adjusted s e e') : e'.Reads s := by
  rcases hadj.cases with hsame | hreads
  · exact ⟨hsame.version.trans h.version, by rw [hsame.rows, hsame.expanded, h.rows]⟩
  · exact hreads

/-- Reads the tree as often as the effects ask for it. -/
def follow (s : Store) (e : Explorer) (effects : List Effect) : Explorer :=
  effects.foldl
    (fun e effect =>
      match effect with
      | .refreshTree => e.rebuild .natural s
      | .changeDirectory _ => e) e

theorem reads_follow {effects : List Effect} (h : e.Reads s ∨ .refreshTree ∈ effects) :
    (follow s e effects).Reads s := by
  induction effects generalizing e with
  | nil => exact h.resolve_right List.not_mem_nil
  | cons effect effects ih =>
    cases effect with
    | refreshTree => exact ih (.inl (reads_rebuild e s))
    | changeDirectory path => exact ih (h.imp_right fun hmem => by simpa using hmem)

end Explorer

namespace App

open Explorer

variable {σ : Type} {a b : App σ} {m : Message}

/-! ## Runs without others -/

/-- The event leaves the store to the console. The explorer may be worked on from elsewhere, as it
is when the screen is drawn. -/
def Own (a : App σ) : Event σ → Prop
  | .elsewhere backend explorer =>
    backend.store = a.backend.store ∧ Adjusted a.backend.store a.explorer explorer
  | _ => True

/-- Nobody but the console changes the store. -/
def Alone (a : App σ) : List (Event σ) → Prop
  | [] => True
  | event :: events => a.Own event ∧ (a.step event).Alone events

/-- Drawing gives the window of the explorer the height of its pane. -/
theorem adjusted_draw (width height : Nat) (session : Session) (e : Explorer) (label : String)
    (s : Store) : Adjusted s e (View.draw width height session e label).2 :=
  adjusted_setViewHeight e _ s

/-- A turn of the main loop is such a run: it drains the queue, looks at the store and draws. -/
theorem exists_alone_turn (a : App σ) (width height : Nat) (label : String) :
    ∃ events, a.Alone events ∧ (a.turn width height label).2 = a.after events := by
  let drained := a.drain.2
  let looked := (drained.explorer.refresh .natural drained.backend.store).2
  let drawn := (View.draw width height drained.session looked label).2
  refine ⟨[.drain, .elsewhere drained.backend looked, .elsewhere drained.backend drawn], ?_, rfl⟩
  have hlooked : Adjusted drained.backend.store drained.explorer looked :=
    adjusted_refreshAcross drained.explorer drained.backend.store.version drained.backend.store
  exact ⟨trivial, ⟨rfl, hlooked⟩, ⟨rfl, adjusted_draw width height _ looked label _⟩, trivial⟩

/-! ## Phases -/

/-- The explorer shows the tree of the store, or a message waits that asks for it. In a quiet
console the session may still be busy, if it was so at the start. -/
inductive Tended (a : App σ) : Prop
  | quiet : a.running = [] → a.queue = [] → a.explorer.Reads a.backend.store → Tended a
  | runs (x : Started) : a.Runs x → a.explorer.Reads a.backend.store → Tended a
  | waits (m : Message) : a.Waits m →
      a.explorer.Reads a.backend.store ∨ .refreshTree ∈ m.evaluation.effects → Tended a

theorem tended_start (interpreter : Interpreter σ) (backend : Backend σ) (session : Session) :
    (start interpreter backend session).Tended :=
  .quiet rfl rfl (reads_rebuild {} backend.store)

theorem Tended.reads (h : a.Tended) (hqueue : a.queue = []) :
    a.explorer.Reads a.backend.store := by
  cases h with
  | quiet _ _ hreads => exact hreads
  | runs _ _ hreads => exact hreads
  | waits m hwaits _ =>
    rw [hwaits.queue] at hqueue
    cases hqueue

theorem Tended.aside (h : a.Tended) (hab : a.Alike b) (hstore : b.backend.store = a.backend.store)
    (hadj : Adjusted a.backend.store a.explorer b.explorer) : b.Tended := by
  have hkeeps (hreads : a.explorer.Reads a.backend.store) : b.explorer.Reads b.backend.store := by
    rw [hstore]
    exact hreads.adjusted hadj
  cases h with
  | quiet hrunning hqueue hreads =>
    exact .quiet (hab.running.trans hrunning) (hab.queue.trans hqueue) (hkeeps hreads)
  | runs x hruns hreads => exact .runs x (hruns.alike hab) (hkeeps hreads)
  | waits m hwaits hreads => exact .waits m (hwaits.alike hab) (hreads.imp_left hkeeps)

theorem Tended.feed (h : a.Tended) (k : Keystroke) : (a.feed k).Tended := by
  cases h with
  | quiet hrunning hqueue hreads =>
    cases hflight : a.session.inFlight with
    | none =>
      cases Idle.feed ⟨hrunning, hqueue, hflight⟩ k with
      | idle hidle => exact .quiet hidle.running hidle.queue hreads
      | runs x hruns => exact .runs x hruns hreads
      | waits m hwaits => exact .waits m hwaits (.inl hreads)
    | some ticket =>
      exact .quiet ((feed_of_busy hflight k).1.trans hrunning) hqueue hreads
  | runs x hruns hreads => exact .runs x (hruns.feed k) hreads
  | waits m hwaits hreads => exact .waits m (hwaits.feed k) hreads

/-- A key goes to the session or to the explorer, or nowhere. -/
theorem Tended.handleKey (h : a.Tended) (event : KeyEvent) : (a.handleKey event).Tended := by
  obtain ⟨code, control, released⟩ := event
  cases released with
  | true => exact h
  | false =>
    cases code with
    | char c =>
      rw [App.handleKey, if_neg Bool.false_ne_true]
      dsimp only
      cases KeyEvent.keystroke? ⟨.char c, control, false⟩ with
      | none => exact h
      | some k => exact h.feed k
    | backspace => exact h.feed .backspace
    | enter => exact h.feed .enter
    | escape => exact h.aside ⟨rfl, rfl, rfl⟩ rfl .stays
    | up => exact h.aside ⟨rfl, rfl, rfl⟩ rfl (adjusted_moveSelection _ (-1) _)
    | down => exact h.aside ⟨rfl, rfl, rfl⟩ rfl (adjusted_moveSelection _ 1 _)
    | tab => exact h.aside ⟨rfl, rfl, rfl⟩ rfl (adjusted_toggleSelected _ _)
    | other => exact h

/-- An evaluation that finishes leaves the explorer as it is. -/
theorem Tended.finish (h : a.Tended) (position : Nat) : (a.finish position).Tended := by
  cases hx : a.running[position]? with
  | none =>
    have hsame : a.finish position = a := by simp only [App.finish, hx]
    rwa [hsame]
  | some x =>
    cases h with
    | quiet hrunning _ _ =>
      rw [hrunning] at hx
      cases hx
    | runs y hruns hreads =>
      obtain rfl : x = y := by
        have hmem := List.mem_of_getElem? hx
        rw [hruns.running] at hmem
        exact List.mem_singleton.1 hmem
      refine .waits _ (hruns.finish hx) ?_
      simp only [App.finish, hx]
      refine (a.interpreter.keeps_or_tells x.submission.line x.submission.cwd a.backend).imp_left ?_
      intro hstore
      rw [hstore]
      exact hreads
    | waits m hwaits _ =>
      rw [hwaits.running] at hx
      cases hx

theorem Waits.reads_drain (h : a.Waits m)
    (hreads : a.explorer.Reads a.backend.store ∨ .refreshTree ∈ m.evaluation.effects) :
    a.drain.2.explorer.Reads a.drain.2.backend.store := by
  have hpassed := hreads.imp_right (Session.refreshTree_mem_complete h.inFlight)
  rw [App.drain, h.queue, receiveAll, receive, if_pos h.session]
  exact reads_follow hpassed

theorem Tended.drain (h : a.Tended) : a.drain.2.Tended := by
  cases h with
  | quiet hrunning hqueue hreads =>
    rw [drain_of_empty hqueue]
    exact .quiet hrunning hqueue hreads
  | runs x hruns hreads =>
    rw [drain_of_empty hruns.queue]
    exact .runs x hruns hreads
  | waits m hwaits hreads =>
    have hidle := hwaits.drain.1
    exact .quiet hidle.running hidle.queue (hwaits.reads_drain hreads)

/-- After a drain the tree is shown, whatever was waiting. -/
theorem Tended.reads_drain (h : a.Tended) :
    a.drain.2.explorer.Reads a.drain.2.backend.store := by
  cases h with
  | quiet _ hqueue hreads => rwa [drain_of_empty hqueue]
  | runs x hruns hreads => rwa [drain_of_empty hruns.queue]
  | waits m hwaits hreads => exact hwaits.reads_drain hreads

/-- **One event** of the console's own. -/
theorem Tended.step (h : a.Tended) {event : Event σ} (hown : a.Own event) :
    (a.step event).Tended := by
  cases event with
  | key event => exact h.handleKey event
  | paste text => exact h.feed (.paste text)
  | finish position => exact h.finish position
  | drain => exact h.drain
  | elsewhere backend explorer => exact h.aside ⟨rfl, rfl, rfl⟩ hown.1 hown.2

/-- **A run** in which nobody else changes the store. -/
theorem Tended.after (h : a.Tended) {events : List (Event σ)} (halone : a.Alone events) :
    (a.after events).Tended := by
  induction events generalizing a with
  | nil => exact h
  | cons event events ih => exact ih (h.step halone.1) halone.2

/-- **The explorer is current**: it shows the tree of the store with the folders that are expanded.
It does so unless a message waits, so whenever the console is quiet, and after every drain. -/
structure Current (a : App σ) : Prop where
  rows : a.queue = [] → a.explorer.rows = a.backend.store.roots.rows a.explorer.expanded
  drained : a.drain.2.explorer.rows =
    a.drain.2.backend.store.roots.rows a.drain.2.explorer.expanded

/-- **The explorer is current** in every run in which nobody but the console changes the store. -/
theorem current_after (interpreter : Interpreter σ) (backend : Backend σ) (session : Session)
    {events : List (Event σ)} (halone : (start interpreter backend session).Alone events) :
    ((start interpreter backend session).after events).Current := by
  have htended := (tended_start interpreter backend session).after halone
  exact ⟨fun hqueue => (htended.reads hqueue).rows, htended.reads_drain.rows⟩

/-- A folder is made, and another one is expanded while the result waits. The tree is read again for
the expanded folder then, and once more when the result is taken in. -/
theorem current_after_expanded :
    let roots : Forest := .cons "src" [] (.cons "bin" [] .nil .nil) .nil
    let a : App Unit := start .simulated ⟨⟨.ofRoots roots, 0⟩, ()⟩ (Session.openWith 1 none)
    let before : List (Event Unit) :=
      [.paste "mkdir lib\n", .key { code := .down }, .finish 0, .key { code := .tab }]
    let events := before ++ [.drain]
    a.Alone before ∧ (a.after before).Current ∧ a.Alone events ∧ (a.after events).Current ∧
      (a.after (before.take 3)).explorer.rows.map Row.name = ["src"] ∧
      (a.after events).queue = [] ∧
      (a.after events).explorer.rows.map Row.name = ["src", "bin", "lib"] := by
  intro roots a before events
  have hbefore : a.Alone before := ⟨trivial, trivial, trivial, trivial, trivial⟩
  have hevents : a.Alone events := ⟨trivial, trivial, trivial, trivial, trivial, trivial⟩
  refine ⟨hbefore, current_after _ _ _ hbefore, hevents, current_after _ _ _ hevents, ?_, ?_, ?_⟩
  · decide
  · decide
  · decide

end App

end WorkspaceConsole

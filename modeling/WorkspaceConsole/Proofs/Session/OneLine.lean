import WorkspaceConsole.Proofs.LineMode
import WorkspaceConsole.Proofs.Session.Shared
import WorkspaceConsole.Proofs.Store.Refusal

/-!
# Entries are single lines

A line break never gets into the buffer of a session: keys that are control characters are dropped,
and a paste ends a line at each of its breaks. So what is submitted is one line, and its words are
free of breaks. The lines that a simulated command yields quote nothing but its line, its words and
the names in the working path (`oneLine_evaluate`); a refusal quotes a name that the change itself
gives, never one that is only in the tree.

Hence no entry of a transcript has a break in it (`Shared.oneLine_after`), and from the output of
line mode the transcript can be read back (`lines_output_run`).
-/

namespace WorkspaceConsole

open Text

/-! ## Words -/

namespace Text

theorem mem_of_mem_trim {c : Char} {cs : List Char} (h : c ∈ trim cs) : c ∈ cs := by
  have hdrop : c ∈ cs.dropWhile isBlank := (List.rdropWhile_prefix isBlank _).subset h
  exact (List.dropWhile_sublist isBlank).subset hdrop

theorem OneLine.trimmed {s : String} (h : OneLine s) : OneLine (trimmed s) :=
  oneLine_ofList fun c hc => h c (mem_of_mem_trim hc)

end Text

namespace Command

variable {line arg : String}

theorem oneLine_argument (h : (parse line).argument? = some arg) : OneLine arg :=
  oneLine_of_forall (by decide) (by decide) (of_mem_words (mem_words_of_argument? h)).2

theorem oneLine_unknown {text : String} (hline : OneLine line) (h : parse line = .unknown text) :
    OneLine text := by
  rw [parse] at h
  cases hwords : ofWords? (words (trim line.toList)) with
  | none =>
    rw [hwords] at h
    cases h
    exact hline.trimmed
  | some command =>
    rw [hwords] at h
    exact absurd (hwords.trans (congrArg some h)) (ofWords?_ne_unknown _ text)

end Command

/-! ## Simulated commands -/

/-- No name in the path has a line break in it. -/
def WorkingPath.OneLine (cwd : WorkingPath) : Prop :=
  ∀ name ∈ cwd.segments, Text.OneLine name

theorem WorkingPath.OneLine.join {cwd : WorkingPath} (h : cwd.OneLine) {name : String}
    (hname : Text.OneLine name) : (cwd.join name).OneLine :=
  List.forall_mem_append.2 ⟨h, List.forall_mem_singleton.2 hname⟩

/-- The lines have no breaks in them, and neither have the paths that the session is told to. -/
structure Evaluation.OneLine (e : Evaluation) : Prop where
  lines : ∀ line ∈ e.lines, Text.OneLine line
  paths : ∀ path, .changeDirectory path ∈ e.effects → path.OneLine

theorem Evaluation.oneLine_line {line : String} (h : Text.OneLine line) :
    (Evaluation.line line).OneLine :=
  ⟨List.forall_mem_singleton.2 h, nofun⟩

theorem TreeError.oneLine_notice {e : TreeError} {name : String} (h : e.subject? = some name)
    (hname : OneLine name) : OneLine e.notice := by
  cases e <;> cases h
  all_goals exact OneLine.append (by decide) hname

namespace Store

variable {s : Store} {cwd : WorkingPath} {command : Command}

theorem oneLine_currentFolder? {parent : ParentRef} (hcwd : cwd.OneLine)
    (h : currentFolder? cwd = some parent) : OneLine parent.name := by
  obtain ⟨name, hname, rfl⟩ := Option.map_eq_some_iff.1 h
  exact hcwd name (List.mem_of_getLast? hname)

theorem oneLine_allNames_templates {app : String} (happ : OneLine app) :
    ∀ name ∈ FolderTemplate.allNames (Scaffold.templates app), OneLine name := by
  show ∀ name ∈ app :: ["index.js", "App.js", "index.html", "styles.css", "package.json",
    "node_modules"], OneLine name
  exact List.forall_mem_cons.2 ⟨happ, by decide⟩

/-- What a command asks for gives only names from its argument, the working path and the program. -/
theorem Requests.oneLine {action : Action} {success : String}
    (h : Requests cwd command action success)
    (harg : ∀ arg, command.argument? = some arg → OneLine arg) (hcwd : cwd.OneLine) :
    OneLine success ∧ ∀ name ∈ action.names, OneLine name := by
  cases h with
  | makeDir name =>
    have hname := harg name rfl
    exact ⟨.append (by decide) hname, List.forall_mem_singleton.2 hname⟩
  | npmInstall package hparent =>
    have hname := harg package rfl
    refine ⟨.append (by decide) hname, List.forall_mem_cons.2 ⟨?_, ?_⟩⟩
    · exact oneLine_currentFolder? hcwd hparent
    · exact List.forall_mem_singleton.2 hname
  | createReactApp app hparent =>
    have hname := harg app rfl
    refine ⟨.append (by decide) hname, List.forall_mem_cons.2 ⟨?_, ?_⟩⟩
    · exact oneLine_currentFolder? hcwd hparent
    · exact oneLine_allNames_templates hname

theorem CarriesOut.oneLine {e : Evaluation} {s' : Store} (h : CarriesOut s cwd command e s')
    (harg : ∀ arg, command.argument? = some arg → OneLine arg)
    (hunknown : ∀ line, command = .unknown line → OneLine line) (hcwd : cwd.OneLine) :
    e.OneLine := by
  cases h with
  | blank => exact ⟨nofun, nofun⟩
  | changes hrequests _ =>
    exact ⟨List.forall_mem_singleton.2 (hrequests.oneLine harg hcwd).1, by simp⟩
  | refuses hrequests happly =>
    obtain ⟨name, hname, hsubject⟩ := blames_apply _ _ _ happly
    have hquoted := (hrequests.oneLine harg hcwd).2 name hname
    exact Evaluation.oneLine_line (TreeError.oneLine_notice hsubject hquoted)
  | notInside _ _ => exact Evaluation.oneLine_line (by decide)
  | @moves name g _ =>
    have hname := harg name rfl
    refine ⟨List.forall_mem_singleton.2 (.append (by decide) hname), fun path hpath => ?_⟩
    obtain rfl : path = cwd.join name := by simpa using hpath
    exact hcwd.join hname
  | missesFolder _ => exact Evaluation.oneLine_line (.append (by decide) (harg _ rfl))
  | runs _ _ =>
    have hname := harg _ rfl
    refine ⟨List.forall_mem_cons.2 ⟨?_, List.forall_mem_singleton.2 ?_⟩, nofun⟩
    · exact .append (.append (by decide) hname) (by decide)
    · exact .append (.append (by decide) hname) (by decide)
  | missesFile _ => exact Evaluation.oneLine_line (.append (by decide) (harg _ rfl))
  | misused _ husage =>
    refine Evaluation.oneLine_line ?_
    cases command <;> cases husage
    all_goals decide
  | unknown line => exact Evaluation.oneLine_line (.append (by decide) (hunknown line rfl))

/-- **A simulated line yields single lines.** -/
theorem oneLine_evaluate (s : Store) {line : String} (hline : OneLine line) (hcwd : cwd.OneLine) :
    (s.evaluate line cwd).1.OneLine :=
  (s.carriesOut_carryOut (Command.parse line) cwd).oneLine (fun _ => Command.oneLine_argument)
    (fun _ => Command.oneLine_unknown hline) hcwd

end Store

/-! ## Sessions -/

/-- A submission that is one line, made in a path without breaks. -/
structure Submission.OneLine (x : Submission) : Prop where
  line : Text.OneLine x.line
  cwd : x.cwd.OneLine

namespace Session

variable {s : Session}

/-- There are no line breaks in the session. -/
structure OneLine (s : Session) : Prop where
  buffer : Text.OneLine s.buffer
  transcript : ∀ entry ∈ s.transcript, Text.OneLine entry
  cwd : s.cwd.OneLine

/-- There is no welcome, or it has no line breaks in it. -/
def OneLineWelcome (welcome : Option String) : Prop :=
  ∀ text, welcome = some text → Text.OneLine text

theorem oneLine_openWith (id : UInt64) {welcome : Option String} (h : OneLineWelcome welcome) :
    (openWith id welcome).OneLine := by
  have hempty : (openWith id none).OneLine := ⟨oneLine_empty, nofun, nofun⟩
  cases welcome with
  | none => exact hempty
  | some text =>
    rw [openWith]
    split
    · exact hempty
    · exact ⟨oneLine_empty, List.forall_mem_singleton.2 (h text rfl), nofun⟩

/-! ## Keystrokes -/

theorem oneLine_of_mem_unifyBreaks {cs : List Char} : ∀ c ∈ unifyBreaks cs, c ≠ '\r' := by
  fun_induction unifyBreaks cs with
  | case1 => exact List.forall_mem_nil _
  | case2 cs ih => exact List.forall_mem_cons.2 ⟨by decide, ih⟩
  | case3 c cs _ ih =>
    refine List.forall_mem_cons.2 ⟨?_, ih⟩
    split
    · decide
    · assumption

/-- The pieces of a pasted text. -/
theorem oneLine_of_mem_pieces {text : String} {p : List Char}
    (h : p ∈ pieces (· == '\n') (unifyBreaks text.toList)) : Text.OneLine (String.ofList p) :=
  oneLine_ofList fun c hc =>
    ⟨beq_eq_false_iff_ne.1 (sep_of_mem_pieces h c hc),
      oneLine_of_mem_unifyBreaks c (mem_of_mem_pieces h c hc)⟩

theorem oneLine_endedBy {buffer : String} (hbuffer : Text.OneLine buffer)
    {pieces : List (List Char)} (h : ∀ p ∈ pieces, Text.OneLine (String.ofList p)) :
    ∀ line ∈ endedBy buffer pieces, Text.OneLine line := by
  induction pieces generalizing buffer with
  | nil => exact nofun
  | cons piece more ih =>
    cases more with
    | nil => exact nofun
    | cons next more =>
      obtain ⟨hpiece, hmore⟩ := List.forall_mem_cons.1 h
      exact List.forall_mem_cons.2 ⟨hbuffer.append hpiece, ih oneLine_empty hmore⟩

theorem oneLine_buffer_feedPieces (hbuffer : Text.OneLine s.buffer) {pieces : List (List Char)}
    (h : ∀ p ∈ pieces, Text.OneLine (String.ofList p)) :
    Text.OneLine (s.feedPieces pieces).2.buffer := by
  induction pieces generalizing s with
  | nil => exact hbuffer
  | cons piece more ih =>
    obtain ⟨hpiece, hmore⟩ := List.forall_mem_cons.1 h
    cases more with
    | nil => exact hbuffer.append hpiece
    | cons next more =>
      have hempty := buffer_submit { s with buffer := s.buffer ++ String.ofList piece }
      rw [feedPieces]
      generalize submit _ = line at hempty ⊢
      obtain ⟨made, t⟩ := line
      exact ih (hempty ▸ oneLine_empty) hmore

theorem oneLine_ended (h : Text.OneLine s.buffer) (k : Keystroke) :
    ∀ line ∈ s.ended k, Text.OneLine line := by
  cases k with
  | enter => exact List.forall_mem_singleton.2 h
  | paste text => exact oneLine_endedBy h fun _ => oneLine_of_mem_pieces
  | _ => exact nofun

theorem oneLine_buffer_handleKey (h : Text.OneLine s.buffer) (k : Keystroke) :
    Text.OneLine (s.handleKey k).2.buffer := by
  cases k with
  | char c =>
    rw [handleKey]
    split
    · exact h
    · next hcontrol =>
      refine h.push ⟨?_, ?_⟩
      · rintro rfl
        exact hcontrol (by decide)
      · rintro rfl
        exact hcontrol (by decide)
  | paste text => exact oneLine_buffer_feedPieces h fun _ => oneLine_of_mem_pieces
  | backspace => exact oneLine_ofList fun c hc => h c (List.dropLast_subset _ hc)
  | enter =>
    rw [handleKey, buffer_submit]
    exact oneLine_empty
  | interrupt => exact oneLine_empty

theorem oneLine_answers (busy : Bool) {lines : List String}
    (h : ∀ line ∈ lines, Text.OneLine line) :
    ∀ entry ∈ answers busy lines, Text.OneLine entry := by
  induction lines generalizing busy with
  | nil => exact nofun
  | cons line lines ih =>
    obtain ⟨hline, hlines⟩ := List.forall_mem_cons.1 h
    have hecho : Text.OneLine (echoMark ++ Text.trimmed line) :=
      Text.OneLine.append (by decide) hline.trimmed
    rw [answers]
    split
    · exact List.forall_mem_cons.2 ⟨by decide, ih busy hlines⟩
    · split
      · exact List.forall_mem_cons.2 ⟨hecho, List.forall_mem_cons.2 ⟨by decide, ih true hlines⟩⟩
      · exact List.forall_mem_cons.2 ⟨hecho, ih true hlines⟩

theorem oneLine_accepted (hcwd : s.cwd.OneLine) {lines : List String} {made : Submission}
    (h : ∀ line ∈ lines, Text.OneLine line) (hmade : s.accepted lines = some made) :
    made.OneLine := by
  rw [accepted] at hmade
  split at hmade
  · cases hmade
  · obtain ⟨text, htext, rfl⟩ := Option.map_eq_some_iff.1 hmade
    obtain ⟨line, hline, rfl⟩ := List.mem_map.1 (List.mem_of_find?_eq_some htext)
    exact ⟨(h line hline).trimmed, hcwd⟩

/-- **Keystrokes** bring no line breaks into the session, and into what it submits. -/
theorem OneLine.handleKey (h : s.OneLine) (k : Keystroke) :
    (s.handleKey k).2.OneLine ∧ ∀ made, (s.handleKey k).1 = some made → made.OneLine := by
  obtain ⟨hmade, htext, hcwd⟩ := s.enters_handleKey k
  have hended := oneLine_ended h.buffer k
  refine ⟨⟨oneLine_buffer_handleKey h.buffer k, ?_, hcwd ▸ h.cwd⟩, fun made hsome => ?_⟩
  · rw [htext]
    exact List.forall_mem_append.2 ⟨h.transcript, oneLine_answers _ hended⟩
  · exact oneLine_accepted h.cwd hended (hmade.symm.trans hsome)

/-! ## Results -/

theorem oneLine_destination {effects : List Effect}
    (h : ∀ path, .changeDirectory path ∈ effects → path.OneLine) {cwd : WorkingPath}
    (hcwd : cwd.OneLine) (lines : List String) :
    (Evaluation.destination ⟨lines, effects⟩ cwd).OneLine := by
  induction effects generalizing cwd with
  | nil => exact hcwd
  | cons effect effects ih =>
    obtain ⟨hfirst, hlater⟩ :
        (∀ path, .changeDirectory path = effect → path.OneLine) ∧
          ∀ path, .changeDirectory path ∈ effects → path.OneLine :=
      ⟨fun path hpath => h path (hpath ▸ List.mem_cons_self),
        fun path hpath => h path (List.mem_cons_of_mem effect hpath)⟩
    cases effect with
    | changeDirectory path => exact ih hlater (hfirst path rfl)
    | refreshTree => exact ih hlater hcwd

/-- **A result** without line breaks brings none into the session. -/
theorem OneLine.complete (h : s.OneLine) (ticket : UInt64) {e : Evaluation} (he : e.OneLine) :
    (s.complete ticket e).2.OneLine := by
  by_cases hflight : s.inFlight = some ticket
  · rw [complete_eq hflight]
    exact ⟨h.buffer, List.forall_mem_append.2 ⟨h.transcript, he.lines⟩,
      oneLine_destination he.paths h.cwd e.lines⟩
  · rw [complete_of_ne hflight]
    exact h

/-! ## Whole lines -/

variable {σ : Type}

theorem OneLine.typeLine (h : s.OneLine) (line : String) :
    (s.typeLine line).2.OneLine ∧ ∀ made, (s.typeLine line).1 = some made → made.OneLine := by
  have hpasted := h.handleKey (.paste line)
  rw [Session.typeLine]
  generalize s.handleKey (.paste line) = pasted at hpasted ⊢
  obtain ⟨made, t⟩ := pasted
  cases made with
  | some made => exact hpasted
  | none => exact hpasted.1.handleKey .enter

theorem OneLine.runLine (h : s.OneLine) (line : String) (b : Backend σ) :
    (s.runLine .simulated line b).2.1.OneLine := by
  have hempty : OneLine { s with buffer := "" } := ⟨oneLine_empty, h.transcript, h.cwd⟩
  have htyped := hempty.typeLine line
  rw [runLine_eq_respond]
  generalize Session.typeLine _ line = typed at htyped ⊢
  obtain ⟨made, t⟩ := typed
  cases made with
  | none => exact htyped.1
  | some made =>
    obtain ⟨hline, hcwd⟩ := htyped.2 made rfl
    rw [respond, Interpreter.evaluate]
    exact htyped.1.complete made.ticket (b.store.oneLine_evaluate hline hcwd)

theorem OneLine.runAll (h : s.OneLine) (lines : List String) (b : Backend σ) :
    (s.runAll .simulated lines b).1.OneLine := by
  induction lines generalizing s b with
  | nil => exact h
  | cons line lines ih => exact ih (h.runLine line b) _

end Session

/-- **The output of line mode**, read as lines, is the transcript. -/
theorem LineMode.lines_output_run {σ : Type} {s : Session} (h : s.OneLine) (b : Backend σ)
    (script : List UInt8) :
    lines (String.join (run .simulated false s b script).output) =
      (run .simulated false s b script).session.transcript := by
  have hended : (run .simulated false s b script).session =
      (s.runAll .simulated (readable (linesWith 10 13 script)) b).1 :=
    congrArg Prod.fst (ends_runLines .simulated false s b (linesWith 10 13 script)).1
  rw [output_run, printed]
  refine lines_join ?_
  rw [hended]
  exact (h.runAll _ b).transcript

/-! ## Terminals -/

namespace Terminal

/-- There are no line breaks at the terminal, and none in what it has submitted. -/
structure OneLine (t : Terminal) : Prop where
  sound : Sound t.session t.records
  session : t.session.OneLine
  submissions : ∀ r ∈ t.records, r.submission.OneLine

/-- The submission at a place gets another fate. -/
theorem OneLine.set {t : Terminal} (h : t.OneLine) {n : Nat} {r : Record}
    (hn : t.records[n]? = some r) (fate : Fate) :
    ∀ q ∈ t.records.set n ⟨r.submission, fate⟩, q.submission.OneLine := by
  intro q hq
  rcases List.mem_or_eq_of_mem_set hq with hq | rfl
  · exact h.submissions q hq
  · exact h.submissions r (List.mem_of_getElem? hn)

/-- **Every event** keeps line breaks out. -/
theorem OneLine.react {t : Terminal} (h : t.OneLine) (s : Store) (event : Event) :
    (t.react s event).1.OneLine := by
  suffices hreact : (t.react s event).1.session.OneLine ∧
      ∀ r ∈ (t.react s event).1.records, r.submission.OneLine from
    ⟨h.sound.react s event, hreact.1, hreact.2⟩
  cases event with
  | key k =>
    obtain ⟨hsession, hmade⟩ := h.session.handleKey k
    refine ⟨hsession, List.forall_mem_append.2 ⟨h.submissions, fun r hr => ?_⟩⟩
    obtain ⟨x, hx, rfl⟩ := List.mem_map.1 hr
    exact hmade x (Option.mem_toList.1 hx)
  | evaluate n =>
    rw [Terminal.react]
    split
    · next x hn => exact ⟨h.session, h.set hn _⟩
    · exact ⟨h.session, h.submissions⟩
  | deliver n =>
    rw [Terminal.react]
    split
    · next x before hn =>
      have hx := h.submissions _ (List.mem_of_getElem? hn)
      have hresult := before.oneLine_evaluate hx.line hx.cwd
      exact ⟨h.session.complete x.ticket hresult, h.set hn _⟩
    · exact ⟨h.session, h.submissions⟩
  | stray ticket e =>
    rw [Terminal.react]
    split
    · exact ⟨h.session, h.submissions⟩
    · next hstray =>
      -- Nothing is known of the result, but nobody waits for it.
      have hflight := mt (h.sound.kept.outstanding ticket).1 hstray
      rw [Session.complete_of_ne hflight]
      exact ⟨h.session, h.submissions⟩

end Terminal

theorem Shared.oneLine_after (s : Store) (first : UInt64) {welcomes : List (Option String)}
    (hwelcomes : ∀ welcome ∈ welcomes, Session.OneLineWelcome welcome) (events : List Event) :
    ∀ t ∈ ((start s first welcomes).after events).terminals, t.OneLine := by
  refine (after_preserves (Q := fun _ => True) ?_ (fun _ _ _ => trivial) trivial ?_ events).2
  · exact fun t s event _ h => ⟨h.react s event, trivial⟩
  · intro t ht
    obtain ⟨id, welcome, hwelcome, rfl⟩ := exists_session_of_mem_start ht
    exact ⟨Terminal.sound_openWith id welcome,
      Session.oneLine_openWith id (hwelcomes welcome hwelcome), nofun⟩

/-- **Transcripts are made of single lines**, where commands are simulated: at any number of
terminals over one store, whatever is typed and pasted there, no buffer and no entry has a line
break in it, unless a welcome has. So what line mode prints is read back as the transcript. -/
theorem oneLine_transcripts {σ : Type} (s : Store) {welcomes : List (Option String)}
    (hwelcomes : ∀ welcome ∈ welcomes, Session.OneLineWelcome welcome) :
    (∀ first events, ∀ t ∈ ((Shared.start s first welcomes).after events).terminals,
      OneLine t.session.buffer ∧ ∀ entry ∈ t.session.transcript, OneLine entry) ∧
    ∀ welcome ∈ welcomes, ∀ id (bridge : σ) script,
      let outcome := LineMode.run .simulated false (.openWith id welcome) ⟨s, bridge⟩ script
      lines (String.join outcome.output) = outcome.session.transcript := by
  constructor
  · intro first events t ht
    have hsession := (Shared.oneLine_after s first hwelcomes events t ht).session
    exact ⟨hsession.buffer, hsession.transcript⟩
  · intro welcome hwelcome id bridge script
    have hopen := Session.oneLine_openWith id (hwelcomes welcome hwelcome)
    exact LineMode.lines_output_run hopen ⟨s, bridge⟩ script

/-- A name with a slash is refused and quoted, line feeds are typed, and a text with all kinds of
breaks is pasted, of which the last line stays in the buffer. -/
theorem oneLine_transcripts_pasted :
    let welcomes := [none, some "hi"]
    let events : List Shared.Event :=
      [.terminal 1 (.key (.paste "mkdir a/b\r\ncd a\r\n\rls")), .terminal 1 (.evaluate 0),
        .terminal 1 (.deliver 0), .terminal 1 (.key (.char '\n')),
        .terminal 1 (.stray 7 ⟨["a\nb"], []⟩)]
    let w := (Shared.start .empty 1 welcomes).after events
    let outcome := LineMode.run .simulated false (.openWith 1 (some "hi")) ⟨.empty, ()⟩
      (Utf8.encode "\rmkdir a/b\r\nls\n")
    (∀ welcome ∈ welcomes, Session.OneLineWelcome welcome) ∧
      (∀ t ∈ w.terminals,
        OneLine t.session.buffer ∧ ∀ entry ∈ t.session.transcript, OneLine entry) ∧
      w.terminals.map (·.session.buffer) = ["", "ls"] ∧
      w.terminals.map (·.session.transcript) =
        [[], ["hi", "$ mkdir a/b", "$ cd a", Session.busyMessage, "$ ", "Invalid name: a/b"]] ∧
      lines (String.join outcome.output) =
        ["hi", "$ ", "$ mkdir a/b", "Invalid name: a/b", "$ ls", "Command not recognized: ls"] := by
  intro welcomes events w outcome
  have hwelcomes : ∀ welcome ∈ welcomes, Session.OneLineWelcome welcome := by
    intro welcome hwelcome text htext
    rcases List.mem_cons.1 hwelcome with rfl | hwelcome
    · cases htext
    · obtain rfl := List.mem_singleton.1 hwelcome
      cases htext
      decide
  obtain ⟨hterminals, hlines⟩ := oneLine_transcripts (σ := Unit) .empty hwelcomes
  refine ⟨hwelcomes, hterminals 1 events, by decide, by decide, ?_⟩
  rw [hlines (some "hi") (List.mem_cons_of_mem _ List.mem_cons_self) 1 ()]
  decide +kernel

end WorkspaceConsole

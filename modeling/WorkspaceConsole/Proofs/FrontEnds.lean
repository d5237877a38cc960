import WorkspaceConsole.Proofs.App.Operation
import WorkspaceConsole.Proofs.LineMode
import WorkspaceConsole.Proofs.Text.Utf8

/-!
# The two front ends agree

Line mode reads a line as bytes, hands it to its session in one piece and waits for the result. The
full-screen console gets the line key by key; the submission is evaluated apart from the keyboard,
and its result comes back through the queue. Both do to session and backend what `Session.enter`
says (`LineMode.runLines_eq`, `App.Idle.enterLines`). So the same lines lead both to the same state,
whether they are simulated or handed to a bridge (`agree_on_lines`).
-/

namespace WorkspaceConsole

variable {σ : Type}

/-- A text without control characters. So it has no line breaks in it. -/
def Text.Plain (s : String) : Prop :=
  ∀ c ∈ s.toList, Text.isControl c = false

instance (s : String) : Decidable (Text.Plain s) :=
  List.decidableBAll (fun c => Text.isControl c = false) s.toList

theorem Text.Plain.oneLine {s : String} (h : Text.Plain s) : Text.OneLine s :=
  Text.oneLine_of_forall (by decide) (by decide) h

/-! ## Line mode -/

namespace LineMode

/-- The lines as line mode reads them: encoded, with a line feed after each. -/
def script (lines : List String) : List UInt8 :=
  (lines.map Text.Utf8.encode).flatMap (· ++ [10])

theorem linesWith_script {lines : List String} (hlines : ∀ line ∈ lines, Text.Plain line) :
    Text.linesWith 10 13 (script lines) = lines.map Text.Utf8.encode := by
  refine Text.linesWith_flatMap fun bytes hbytes => ?_
  obtain ⟨line, hline, rfl⟩ := List.mem_map.1 hbytes
  have hbreaks := (hlines line hline).oneLine
  constructor
  · intro hlf
    exact (hbreaks _ (Text.Utf8.char_mem_of_mem_encode hlf (by decide))).1 rfl
  · intro hcr
    have hmem := List.mem_of_getLast? hcr
    exact (hbreaks _ (Text.Utf8.char_mem_of_mem_encode hmem (by decide))).2 rfl

theorem readable_encode (lines : List String) :
    readable (lines.map Text.Utf8.encode) = lines := by
  induction lines with
  | nil => rfl
  | cons line lines ih =>
    rw [List.map_cons, readable_cons_of_some (Text.Utf8.decode?_encode line), ih]

/-- **Line mode enters lines** one after the other, and reads all of them. -/
theorem runLines_eq (x : Interpreter σ) (interactive : Bool) {s : Session} (b : Backend σ)
    (hfree : s.inFlight = none) {lines : List String} (hlines : ∀ line ∈ lines, Text.Plain line) :
    let outcome := runLines x interactive s b (lines.map Text.Utf8.encode)
    outcome.malformed = false ∧ outcome.session = (s.enterAll x lines b).1 ∧
      outcome.backend = (s.enterAll x lines b).2 := by
  obtain ⟨hended, hmalformed⟩ := ends_runLines x interactive s b (lines.map Text.Utf8.encode)
  rw [readable_encode, Session.runAll_eq hfree fun line hline => (hlines line hline).oneLine]
    at hended
  refine ⟨Bool.eq_false_iff.2 fun h => ?_, congrArg Prod.fst hended, congrArg Prod.snd hended⟩
  obtain ⟨bytes, hbytes, hnone⟩ := hmalformed.1 h
  obtain ⟨line, -, rfl⟩ := List.mem_map.1 hbytes
  rw [Text.Utf8.decode?_encode] at hnone
  cases hnone

end LineMode

/-! ## The full-screen console -/

namespace App

variable {a : App σ}

/-- A line is typed and entered; then everything that runs finishes, and the queue is drained. -/
def enterLine (a : App σ) (line : String) : App σ :=
  ((a.typeText line).handleKey { code := .enter }).settle

/-- Lines are entered one after the other. -/
def enterLines (a : App σ) : List String → App σ
  | [] => a
  | line :: lines => (a.enterLine line).enterLines lines

theorem handleKey_char (a : App σ) {c : Char} (hc : Text.isControl c = false) :
    a.handleKey { code := .char c } =
      { a with session := { a.session with buffer := a.session.buffer.push c } } := by
  have hkey : a.session.handleKey (.char c) =
      (none, { a.session with buffer := a.session.buffer.push c }) := by
    rw [Session.handleKey, if_neg (by simp [hc])]
  show a.feed (.char c) = _
  rw [feed, hkey]
  simp

theorem typeText_eq (a : App σ) {text : String} (htext : Text.Plain text) :
    a.typeText text =
      { a with session := { a.session with buffer := a.session.buffer ++ text } } := by
  obtain ⟨cs, rfl⟩ : ∃ cs, text = String.ofList cs := ⟨text.toList, String.ofList_toList.symm⟩
  rw [Text.Plain] at htext
  rw [typeText]
  rw [String.toList_ofList] at htext ⊢
  induction cs generalizing a with
  | nil => simp
  | cons c cs ih =>
    obtain ⟨hc, hcs⟩ := List.forall_mem_cons.1 htext
    have hpush : a.session.buffer.push c ++ String.ofList cs =
        a.session.buffer ++ String.ofList (c :: cs) := by
      apply String.toList_inj.1
      simp
    rw [List.foldl_cons, a.handleKey_char hc, ih _ hcs, ← hpush]

/-- When what a keystroke starts has finished and been drained, the session has its result. -/
theorem Idle.settle_feed (h : a.Idle) (k : Keystroke) :
    let answered := Session.respond a.interpreter a.backend (a.session.handleKey k)
    (a.feed k).settle.interpreter = a.interpreter ∧
      (a.feed k).settle.session = answered.1 ∧ (a.feed k).settle.backend = answered.2 := by
  rw [App.feed, h.running]
  generalize a.session.handleKey k = typed
  obtain ⟨made, t⟩ := typed
  cases made with
  | none => simp [settle, finishAll, drain, h.queue, receiveAll, Session.respond]
  | some made =>
    simp [settle, finishAll, finish, drain, h.queue, receiveAll, receive, Session.respond]

/-- The console has entered lines: it is idle again, with this session and this backend. -/
structure Entered (a b : App σ) (result : Session × Backend σ) : Prop where
  idle : b.Idle
  interpreter : b.interpreter = a.interpreter
  session : b.session = result.1
  backend : b.backend = result.2

/-- **The console enters a line.** -/
theorem Idle.enterLine (h : a.Idle) (hbuffer : a.session.buffer = "") {line : String}
    (hline : Text.Plain line) :
    a.Entered (a.enterLine line) (a.session.enter a.interpreter line a.backend) := by
  have htyped : a.typeText line = { a with session := { a.session with buffer := line } } := by
    rw [a.typeText_eq hline, hbuffer, String.empty_append]
  have hidle : (a.typeText line).Idle := by
    rw [htyped]
    exact ⟨h.running, h.queue, h.inFlight⟩
  have hanswer : Session.respond (a.typeText line).interpreter (a.typeText line).backend
      ((a.typeText line).session.handleKey .enter) =
        a.session.enter a.interpreter line a.backend := by
    rw [Session.handleKey, Session.respond_submit hidle.inFlight, htyped]
    exact Session.enter_buffer ..
  obtain ⟨hinterpreter, hsession, hbackend⟩ := hidle.settle_feed .enter
  rw [hanswer] at hsession hbackend
  refine ⟨(hidle.feed .enter).settle, hinterpreter.trans ?_, hsession, hbackend⟩
  rw [htyped]

/-- **The console enters lines** one after the other. -/
theorem Idle.enterLines (h : a.Idle) (hbuffer : a.session.buffer = "") {lines : List String}
    (hlines : ∀ line ∈ lines, Text.Plain line) :
    a.Entered (a.enterLines lines) (a.session.enterAll a.interpreter lines a.backend) := by
  induction lines generalizing a with
  | nil => exact ⟨h, rfl, rfl, rfl⟩
  | cons line lines ih =>
    obtain ⟨hline, hlines⟩ := List.forall_mem_cons.1 hlines
    obtain ⟨hidle, hinterpreter, hsession, hbackend⟩ := h.enterLine hbuffer hline
    have hempty : (a.enterLine line).session.buffer = "" := by
      rw [hsession, Session.buffer_enter]
    have hrest := ih hidle hempty hlines
    rw [App.enterLines, Session.enterAll, ← hsession, ← hbackend, ← hinterpreter]
    exact ⟨hrest.idle, hrest.interpreter.trans hinterpreter, hrest.session, hrest.backend⟩

end App

/-! ## Both -/

/-- How lines are carried out: simulated, or by a bridge whose answer depends on the requests so
far. -/
inductive Mode where
  | simulated
  | bridged (reply : List Request → Reply) (limitMs : UInt64)

/-- The interpreter of a mode. The state of its bridge is the row of requests made so far. -/
def Mode.interpreter : Mode → Interpreter (List Request)
  | simulated => .simulated
  | bridged reply limitMs =>
    .bridged ⟨"log", fun request seen => (reply (seen ++ [request]), seen ++ [request])⟩ limitMs

/-- **A run of line mode and one of the console have ended alike.** -/
structure Agrees (outcome : LineMode.Outcome (List Request)) (a : App (List Request)) : Prop where
  /-- Line mode has read all lines, and at the console nothing is under way. -/
  finished : outcome.malformed = false ∧ a.Idle
  transcript : outcome.session.transcript = a.session.transcript
  cwd : outcome.session.cwd = a.session.cwd
  buffer : outcome.session.buffer = "" ∧ a.session.buffer = ""
  /-- The folders and files are the same, with the source of the identifiers of further ones. -/
  workspace : outcome.backend.store.workspace = a.backend.store.workspace
  version : outcome.backend.store.version = a.backend.store.version
  /-- The same requests have been made in the same order. -/
  requests : outcome.backend.bridge = a.backend.bridge

/-- **The front ends agree.** Lines without control characters lead line mode and the full-screen
console to the same transcript, path, tree and version, with the same requests to the bridge: for
every welcome, store and mode, and whether or not line mode shows prompts. -/
theorem agree_on_lines (mode : Mode) (interactive : Bool) (id id' : UInt64)
    (welcome : Option String) (s : Store) (lines : List String)
    (hlines : ∀ line ∈ lines, Text.Plain line) :
    Agrees
      (LineMode.run mode.interpreter interactive (.openWith id welcome) ⟨s, []⟩
        (LineMode.script lines))
      ((App.start mode.interpreter ⟨s, []⟩ (.openWith id' welcome)).enterLines lines) := by
  obtain ⟨transcript, hopen⟩ := Session.openWith_eq welcome
  rw [hopen id, hopen id', LineMode.run, LineMode.linesWith_script hlines]
  have hsame := Session.enterAll_id { id, transcript } mode.interpreter lines ⟨s, []⟩ id'
  have hempty :=
    Session.buffer_enterAll (s := { id, transcript }) rfl mode.interpreter lines ⟨s, []⟩
  obtain ⟨hread, hsession, hbackend⟩ := LineMode.runLines_eq mode.interpreter interactive
    (s := { id, transcript }) (⟨s, []⟩ : Backend (List Request)) rfl hlines
  have hstart : (App.start mode.interpreter ⟨s, []⟩ { id := id', transcript }).Idle :=
    ⟨rfl, rfl, rfl⟩
  have hentered := hstart.enterLines rfl hlines
  generalize App.enterLines _ lines = a at hentered ⊢
  obtain ⟨hidle, -, hsession', hbackend'⟩ := hentered
  rw [App.start, hsame] at hsession' hbackend'
  refine ⟨⟨hread, hidle⟩, ?_, ?_, ⟨?_, ?_⟩, ?_, ?_, ?_⟩
  · rw [hsession', hsession]
  · rw [hsession', hsession]
  · rw [hsession, hempty]
  · rw [hsession', hempty]
  · rw [hbackend', hbackend]
  · rw [hbackend', hbackend]
  · rw [hbackend', hbackend]

/-- A bridge that answers, fails, and then is late: a blank line makes no request, and the directory
of the first answer goes with the requests after it. -/
theorem agree_on_lines_bridged :
    let reply (requests : List Request) : Reply :=
      match requests.length with
      | 1 => ⟨.ok ⟨"a\nb\n", some "/src/"⟩, none⟩
      | 2 => ⟨.error (.remote "no such file"), some 20⟩
      | _ => ⟨.ok ⟨"done", none⟩, some 500⟩
    let mode := Mode.bridged reply 100
    let lines := ["ls", "  ", "cat é", "make"]
    let outcome := LineMode.run mode.interpreter false (.openWith 1 (some "hi")) ⟨.empty, []⟩
      (LineMode.script lines)
    let a := (App.start mode.interpreter ⟨.empty, []⟩ (.openWith 2 (some "hi"))).enterLines lines
    (∀ line ∈ lines, Text.Plain line) ∧ Agrees outcome a ∧
      outcome.session.transcript = ["hi", "$ ls", "a", "b", "$ ", "$ cat é", "Error: no such file",
        "$ make", "Error: command timed out after 100ms"] ∧
      outcome.backend.bridge = [⟨"ls", ""⟩, ⟨"cat é", "src"⟩, ⟨"make", "src"⟩] := by
  intro reply mode lines outcome a
  have hlines : ∀ line ∈ lines, Text.Plain line := by decide
  have hagrees : Agrees outcome a :=
    agree_on_lines mode false 1 2 (some "hi") .empty lines hlines
  refine ⟨hlines, hagrees, ?_, ?_⟩
  · rw [hagrees.transcript]
    decide +kernel
  · rw [hagrees.requests]
    decide +kernel

end WorkspaceConsole

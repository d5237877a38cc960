import WorkspaceConsole.LineMode
import WorkspaceConsole.Proofs.Session.Whole

/-!
# What line mode prints

Line mode runs the lines of its script up to the first that is not UTF-8 (`readable`). After each of
them it prints the entries that the transcript has gained. What it has printed is then the
transcript, so in the end it is the whole transcript (`output_run`), whatever is in the lines and
whatever a bridge answers.

With prompts, one entry for each line is left out. It is the echo of the first segment of the line
(`echoes_runLine`), which the user has typed and still sees.
-/

namespace WorkspaceConsole.LineMode

variable {σ : Type} {s : Session} {b : Backend σ}

/-- The lines before the first that is not UTF-8. -/
def readable (lines : List (List UInt8)) : List String :=
  (lines.takeWhile fun bytes => (Text.Utf8.decode? bytes).isSome).filterMap Text.Utf8.decode?

/-- What is printed for the `i`-th line where prompts are shown: the prompt as it is before the
line, and all that the transcript gains but the first entry. -/
def turn (x : Interpreter σ) (s : Session) (b : Backend σ) (lines : List String) (i : Nat) :
    List String :=
  let before := (s.runAll x (lines.take i) b).1
  let after := (s.runAll x (lines.take (i + 1)) b).1
  before.prompt :: printed ((after.since before.transcript.length).drop 1)

theorem readable_cons_of_none {bytes : List UInt8} (h : Text.Utf8.decode? bytes = none)
    (rest : List (List UInt8)) : readable (bytes :: rest) = [] := by
  simp [readable, h]

theorem readable_cons_of_some {bytes : List UInt8} {line : String}
    (h : Text.Utf8.decode? bytes = some line) (rest : List (List UInt8)) :
    readable (bytes :: rest) = line :: readable rest := by
  simp [readable, h]

theorem printed_append (lines more : List String) :
    printed (lines ++ more) = printed lines ++ printed more :=
  List.map_append

/-- The entries that a whole line adds are the last ones. -/
theorem append_since_runLine (s : Session) (x : Interpreter σ) (line : String) (b : Backend σ) :
    s.transcript ++ (s.runLine x line b).2.1.since s.transcript.length =
      (s.runLine x line b).2.1.transcript := by
  rw [Session.since, Session.transcript_runLine, List.drop_left]

/-! ## Lines -/

/-- **Line mode runs the readable lines**, and says whether there is another one. -/
theorem ends_runLines (x : Interpreter σ) (interactive : Bool) (s : Session) (b : Backend σ)
    (lines : List (List UInt8)) :
    let outcome := runLines x interactive s b lines
    (outcome.session, outcome.backend) = s.runAll x (readable lines) b ∧
      (outcome.malformed = true ↔ ∃ bytes ∈ lines, Text.Utf8.decode? bytes = none) := by
  induction lines generalizing s b with
  | nil => simp [runLines, readable, Session.runAll]
  | cons bytes rest ih =>
    rw [runLines]
    cases hline : Text.Utf8.decode? bytes with
    | none =>
      rw [readable_cons_of_none hline]
      exact ⟨rfl, fun _ => ⟨bytes, List.mem_cons_self, hline⟩, fun _ => rfl⟩
    | some line =>
      obtain ⟨hsession, hmalformed⟩ := ih (s.runLine x line b).2.1 (s.runLine x line b).2.2
      rw [readable_cons_of_some hline]
      refine ⟨hsession, hmalformed.trans ?_⟩
      simp [hline]

/-- Without prompts, what is printed for the lines is what the transcript gains. -/
theorem printed_runLines (x : Interpreter σ) (s : Session) (b : Backend σ)
    (lines : List (List UInt8)) :
    printed s.transcript ++ (runLines x false s b lines).output =
      printed (runLines x false s b lines).session.transcript := by
  induction lines generalizing s b with
  | nil => exact List.append_nil _
  | cons bytes rest ih =>
    rw [runLines]
    cases Text.Utf8.decode? bytes with
    | none => exact List.append_nil _
    | some line =>
      have hrest := ih (s.runLine x line b).2.1 (s.runLine x line b).2.2
      rw [← append_since_runLine, printed_append, List.append_assoc] at hrest
      exact hrest

/-- With prompts, there is a turn for each line and then the last prompt. -/
theorem turns_runLines (x : Interpreter σ) (s : Session) (b : Backend σ)
    (lines : List (List UInt8)) :
    (runLines x true s b lines).output =
      (List.range (readable lines).length).flatMap (turn x s b (readable lines)) ++
        [(runLines x true s b lines).session.prompt] := by
  induction lines generalizing s b with
  | nil => rfl
  | cons bytes rest ih =>
    rw [runLines]
    cases hline : Text.Utf8.decode? bytes with
    | none =>
      rw [readable_cons_of_none hline]
      rfl
    | some line =>
      rw [readable_cons_of_some hline, List.length_cons, List.range_succ_eq_map, List.flatMap_cons,
        List.flatMap_map]
      dsimp only
      rw [ih (s.runLine x line b).2.1 (s.runLine x line b).2.2]
      -- A turn after the first is one of the run that begins with the second line.
      simp only [List.append_assoc]
      rfl

/-! ## Scripts -/

/-- **What is printed without prompts** is the transcript. -/
theorem output_run (x : Interpreter σ) (s : Session) (b : Backend σ) (script : List UInt8) :
    (run x false s b script).output = printed (run x false s b script).session.transcript :=
  printed_runLines x s b (Text.linesWith 10 13 script)

/-- **The transcript is printed once** when a script is run. -/
structure Prints (x : Interpreter σ) (s : Session) (b : Backend σ) (script : List UInt8) :
    Prop where
  /-- The lines before the first that is not UTF-8 have been run. -/
  ended : ∀ interactive,
    ((run x interactive s b script).session, (run x interactive s b script).backend) =
      s.runAll x (readable (Text.linesWith 10 13 script)) b
  malformed : ∀ interactive, (run x interactive s b script).malformed = true ↔
    ∃ bytes ∈ Text.linesWith 10 13 script, Text.Utf8.decode? bytes = none
  /-- Without prompts, the entries of the transcript are printed in order, with a line feed after
  each. -/
  piped : (run x false s b script).output =
    (run x false s b script).session.transcript.map (· ++ "\n")
  /-- With prompts, the welcome is printed, then the turns of the lines, and the prompt again. -/
  interactive :
    let lines := readable (Text.linesWith 10 13 script)
    (run x true s b script).output =
      s.transcript.map (· ++ "\n") ++ (List.range lines.length).flatMap (turn x s b lines) ++
        [(run x true s b script).session.prompt]
  /-- The entry that a turn leaves out is an echo. The lines of the result come after it. -/
  leftOut : ∀ i line, (readable (Text.linesWith 10 13 script))[i]? = some line →
    let before := s.runAll x ((readable (Text.linesWith 10 13 script)).take i) b
    let after := s.runAll x ((readable (Text.linesWith 10 13 script)).take (i + 1)) b
    ∃ more, after.1.transcript =
      before.1.transcript ++
        (Session.echoMark ++ Text.trimmed ((Session.segments line).headD "")) ::
          (more ++ Session.resultLines x before.2
            (before.1.accepted (before.1.endedByLine line)))

/-- **Line mode prints the transcript once**, for every script, interpreter and session. -/
theorem prints_run (x : Interpreter σ) (s : Session) (b : Backend σ) (script : List UInt8) :
    Prints x s b script := by
  have hends (interactive : Bool) :=
    ends_runLines x interactive s b (Text.linesWith 10 13 script)
  constructor
  case ended => exact fun interactive => (hends interactive).1
  case malformed => exact fun interactive => (hends interactive).2
  case piped => exact output_run x s b script
  case interactive =>
    intro lines
    rw [run, turns_runLines, List.append_assoc]
    rfl
  case leftOut =>
    intro i line hline before after
    have hafter : after = (before.1.runLine x line before.2).2 := by
      rw [show after = _ from congrArg (s.runAll x · b) List.take_add_one, hline,
        Session.runAll_append]
      rfl
    rw [hafter]
    exact before.1.echoes_runLine x line before.2

/-- A line with breaks in it has several echoes, of which only the first is left out. The last
segment is not ended, since there is a submission by then. -/
example :
    let script := Text.Utf8.encode "mkdir src\rls\rcd src\ncd src\n"
    (run .simulated true (.openWith 1 (some "hi")) ⟨.empty, ()⟩ script).output =
      ["hi\n", "$ ", "$ ls\n", Session.busyMessage ++ "\n", "Created directory: src\n", "$ ",
        "Changed directory to src\n", "src $ "] := by
  decide +kernel

end WorkspaceConsole.LineMode

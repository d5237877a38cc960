import WorkspaceConsole.Session
import WorkspaceConsole.Text.Utf8

/-!
# Line mode

Commands are read line by line, and after each the new lines of the transcript are printed. A user
who types at a terminal sees the prompt and then what was typed, so the echo is left out there.
-/

namespace WorkspaceConsole.LineMode

variable {σ : Type}

/-- How a run ended: the text printed, whether it stopped at a line that is not UTF-8, the session
and the backend. -/
structure Outcome (σ : Type) where
  output : List String
  malformed : Bool
  session : Session
  backend : Backend σ

/-- Each line with a line break after it. -/
def printed (lines : List String) : List String :=
  lines.map (· ++ "\n")

/-- What is printed before a line is read. -/
def prompted (interactive : Bool) (s : Session) : List String :=
  if interactive then [s.prompt] else []

/-- Runs lines, given as bytes. -/
def runLines (x : Interpreter σ) (interactive : Bool) :
    Session → Backend σ → List (List UInt8) → Outcome σ
  | s, b, [] => ⟨prompted interactive s, false, s, b⟩
  | s, b, bytes :: rest =>
    match Text.Utf8.decode? bytes with
    | none => ⟨prompted interactive s, true, s, b⟩
    | some line =>
      let (_, s', b') := s.runLine x line b
      let fresh := s'.since s.transcript.length
      let shown := printed (if interactive then fresh.drop 1 else fresh)
      let outcome := runLines x interactive s' b' rest
      { outcome with output := prompted interactive s ++ shown ++ outcome.output }

/-- Runs a script: what the transcript holds already is printed first. -/
def run (x : Interpreter σ) (interactive : Bool) (s : Session) (b : Backend σ)
    (script : List UInt8) : Outcome σ :=
  let outcome := runLines x interactive s b (Text.linesWith 10 13 script)
  { outcome with output := printed s.transcript ++ outcome.output }

end WorkspaceConsole.LineMode

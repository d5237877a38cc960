import WorkspaceConsole.Proofs.Session.Bridged
import WorkspaceConsole.Proofs.Text.Lines

/-!
# What a session keeps of an output

A bridge answers a line with one text, and the session that waits for the line appends entries to
its transcript. Which entries they are depends on that text alone (`Session.Appends`). They are its
lines: none of them goes over a line feed, there are as many as the text has lines, and the text can
be told from them unless it ends lines in a carriage return and a line feed (`Text.ReadAs`).
-/

namespace WorkspaceConsole

/-- The entries stand for the lines of the text. -/
structure Text.ReadAs (text : String) (entries : List String) : Prop where
  /-- No entry holds a line feed. -/
  noFeed : ∀ entry ∈ entries, '\n' ∉ entry.toList
  /-- There is one for each line feed, and one for what follows the last of them. -/
  count : entries.length =
    text.toList.count '\n' + if text = "" ∨ text.toList.getLast? = some '\n' then 0 else 1
  /-- Joined by line feeds they are the text again, up to a line feed at its end. -/
  joined : ¬ ['\r', '\n'] <:+: text.toList →
    "\n".intercalate entries = .ofList (Text.dropFinal '\n' text.toList)
  empty : text = "" → entries = []

theorem Text.readAs_lines (text : String) : ReadAs text (lines text) where
  noFeed _ := lf_notMem_of_mem_lines
  count := length_lines text
  joined := intercalate_lines
  empty htext := by
    rw [htext]
    exact lines_empty

namespace Session

/-- Whatever bridge answers whatever line with this output in time, the session that waits for the
line appends these entries. -/
def Appends (t : Session) (ticket : UInt64) (stdout : String) (entries : List String) : Prop :=
  ∀ (σ : Type) (b : Bridge σ) (limitMs : UInt64) (line : String) (cwd : WorkingPath)
    (request : Request) (backend : Backend σ) (output : Output),
    Request.ofLine? line cwd = some request →
    (b.execute request backend.bridge).1.within limitMs = .ok output → output.stdout = stdout →
    (t.complete ticket
        ((Interpreter.bridged b limitMs).evaluate line cwd backend).1).2.transcript =
      t.transcript ++ entries

theorem appends_lines {t : Session} {ticket : UInt64} (hwaits : t.inFlight = some ticket)
    (stdout : String) : t.Appends ticket stdout (Text.lines stdout) := by
  intro σ b limitMs line cwd request backend output hrequest hgood hstdout
  obtain ⟨hlines, -, -, htranscript, -⟩ := delivers_ofResult hwaits (.ok output)
  rw [evaluate_of_request b limitMs hrequest, hgood, htranscript, hlines, hstdout]

/-- **An output is kept in lines, and nothing of it is lost.** The session that waits for the
command appends entries that stand for the lines of the output. Where it holds no carriage return,
they are the same if every line feed comes after one. -/
theorem keeps_output (t : Session) (ticket : UInt64) (hwaits : t.inFlight = some ticket)
    (stdout : String) :
    ∃ entries, t.Appends ticket stdout entries ∧ Text.ReadAs stdout entries ∧
      ('\r' ∉ stdout.toList →
        t.Appends ticket (.ofList (Text.withReturns '\n' '\r' stdout.toList)) entries) := by
  refine ⟨Text.lines stdout, appends_lines hwaits stdout, Text.readAs_lines stdout, ?_⟩
  intro hreturn
  rw [← Text.lines_withReturns hreturn]
  exact appends_lines hwaits _

/-- Blank lines at both ends count, and a carriage return within a line stays there. -/
theorem keeps_output_blank :
    let t : Session := { id := 0, transcript := ["$ ls"], inFlight := some 1 }
    let reply : Reply := ⟨.ok ⟨"\na\rb\n\n", some "src"⟩, some 5⟩
    let e := ((Interpreter.bridged Script.bridge 20).evaluate "ls" .root ⟨.empty, [reply], []⟩).1
    t.inFlight = some 1 ∧
      ∃ entries, (t.complete 1 e).2.transcript = "$ ls" :: entries ∧ entries.length = 3 ∧
        "\n".intercalate entries = "\na\rb\n" := by
  intro t reply e
  obtain ⟨entries, happends, hread, -⟩ := keeps_output t 1 rfl "\na\rb\n\n"
  have hrequest : Request.ofLine? "ls" .root = some ⟨"ls", ""⟩ := by decide +kernel
  refine ⟨rfl, entries, ?_, ?_, ?_⟩
  · exact happends Script Script.bridge 20 "ls" .root _ ⟨.empty, [reply], []⟩ _ hrequest rfl rfl
  · rw [hread.count]
    decide +kernel
  · rw [hread.joined (by decide +kernel)]
    decide +kernel

end Session

end WorkspaceConsole

import WorkspaceConsole.Proofs.Session.Path
import WorkspaceConsole.Proofs.Text.Split

/-!
# A line and its result

A session that waits for nothing takes in one line at a time: the line is echoed and, unless it is
blank, carried out, and its result is taken in (`enter`). That is what becomes of a submission whose
result comes in before anything else does (`respond_submit`), and what a whole line makes of a
session if it has no breaks in it (`runLine_eq`, `runAll_eq`).
-/

namespace WorkspaceConsole.Session

variable {σ : Type} {s : Session}

/-- The session with a line echoed and an empty buffer. -/
def echo (s : Session) (line : String) : Session :=
  { s with buffer := "", transcript := s.transcript ++ [echoMark ++ line] }

/-- What becomes of a session that waits for nothing, and of the backend, when a line is entered. -/
def enter (s : Session) (x : Interpreter σ) (line : String) (b : Backend σ) :
    Session × Backend σ :=
  let text := Text.trimmed line
  let echoed := s.echo text
  if text = "" then (echoed, b)
  else
    let (e, b') := x.evaluate text s.cwd b
    ({ echoed with
        transcript := echoed.transcript ++ e.lines
        cwd := e.destination s.cwd
        nextTicket := s.nextTicket + 1 }, b')

/-- What becomes of a session, and of the backend, when lines are entered one after the other. -/
def enterAll (s : Session) (x : Interpreter σ) :
    List String → Backend σ → Session × Backend σ
  | [], b => (s, b)
  | line :: lines, b => (s.enter x line b).1.enterAll x lines (s.enter x line b).2

/-- What becomes of a session, and of the backend, when whole lines are run one after the other. -/
def runAll (s : Session) (x : Interpreter σ) : List String → Backend σ → Session × Backend σ
  | [], b => (s, b)
  | line :: lines, b => (s.runLine x line b).2.1.runAll x lines (s.runLine x line b).2.2

/-! ## Entering a line -/

theorem inFlight_enter (s : Session) (x : Interpreter σ) (line : String) (b : Backend σ) :
    (s.enter x line b).1.inFlight = s.inFlight := by
  rw [enter]
  split <;> rfl

theorem buffer_enter (s : Session) (x : Interpreter σ) (line : String) (b : Backend σ) :
    (s.enter x line b).1.buffer = "" := by
  rw [enter]
  split <;> rfl

/-- What was in the buffer does not matter. -/
theorem enter_buffer (s : Session) (x : Interpreter σ) (line : String) (b : Backend σ)
    (buffer : String) : enter { s with buffer } x line b = s.enter x line b := by
  simp only [enter, echo]

/-- The identifier does not matter. -/
theorem enter_id (s : Session) (x : Interpreter σ) (line : String) (b : Backend σ) (id : UInt64) :
    enter { s with id } x line b =
      ({ (s.enter x line b).1 with id }, (s.enter x line b).2) := by
  simp only [enter]
  split <;> rfl

theorem enterAll_id (s : Session) (x : Interpreter σ) (lines : List String) (b : Backend σ)
    (id : UInt64) :
    enterAll { s with id } x lines b =
      ({ (s.enterAll x lines b).1 with id }, (s.enterAll x lines b).2) := by
  induction lines generalizing s b with
  | nil => rfl
  | cons line lines ih => rw [enterAll, enterAll, enter_id, ih]

theorem buffer_enterAll (hbuffer : s.buffer = "") (x : Interpreter σ) (lines : List String)
    (b : Backend σ) : (s.enterAll x lines b).1.buffer = "" := by
  induction lines generalizing s b with
  | nil => exact hbuffer
  | cons line lines ih =>
    rw [enterAll]
    exact ih (s.buffer_enter x line b) _

theorem runAll_singleton (s : Session) (x : Interpreter σ) (line : String) (b : Backend σ) :
    s.runAll x [line] b = (s.runLine x line b).2 := rfl

theorem runAll_append (s : Session) (x : Interpreter σ) (lines more : List String)
    (b : Backend σ) :
    s.runAll x (lines ++ more) b =
      (s.runAll x lines b).1.runAll x more (s.runAll x lines b).2 := by
  induction lines generalizing s b with
  | nil => rfl
  | cons line lines ih => exact ih _ _

/-! ## Submitting the buffer -/

theorem submit_of_blank (h : Text.trimmed s.buffer = "") : s.submit = (none, s.echo "") := by
  rw [submit, h]
  rfl

theorem submit_of_free (h : Text.trimmed s.buffer ≠ "") (hfree : s.inFlight = none) :
    s.submit =
      (some ⟨s.nextTicket, Text.trimmed s.buffer, s.cwd⟩,
        { s.echo (Text.trimmed s.buffer) with
          nextTicket := s.nextTicket + 1
          inFlight := some s.nextTicket }) := by
  rw [submit]
  have hblank : ¬ (Text.trimmed s.buffer).isEmpty = true := fun he => h (String.isEmpty_iff.1 he)
  have hbusy :
      ¬ (record { s with buffer := "" } [echoMark ++ Text.trimmed s.buffer]).isBusy = true := by
    simp [isBusy, record, hfree]
  simp only [if_neg hblank, if_neg hbusy]
  rfl

/-- Carries out what has been submitted, if anything, and takes in the result. -/
def respond (x : Interpreter σ) (b : Backend σ) : Option Submission × Session → Session × Backend σ
  | (none, s) => (s, b)
  | (some made, s) =>
    let (e, b') := x.evaluate made.line made.cwd b
    ((s.complete made.ticket e).2, b')

/-- **A line submitted and answered**, by a session that waits for nothing. -/
theorem respond_submit (hfree : s.inFlight = none) (x : Interpreter σ) (b : Backend σ) :
    respond x b s.submit = s.enter x s.buffer b := by
  by_cases hblank : Text.trimmed s.buffer = ""
  · rw [submit_of_blank hblank, enter, if_pos hblank, hblank]
    rfl
  · rw [submit_of_free hblank hfree, enter, if_neg hblank, respond]
    dsimp only
    rw [complete_eq rfl]
    simp only [echo, hfree]

/-! ## Whole lines -/

theorem unifyBreaks_of_forall {cs : List Char} (hcs : ∀ c ∈ cs, c ≠ '\r') :
    unifyBreaks cs = cs := by
  fun_induction unifyBreaks cs with
  | case1 => rfl
  | case2 cs ih => exact absurd rfl (hcs '\r' List.mem_cons_self)
  | case3 c cs _ ih =>
    obtain ⟨hc, hcs⟩ := List.forall_mem_cons.1 hcs
    rw [ih hcs, if_neg hc]

/-- A text without line breaks only goes into the buffer. -/
theorem handleKey_paste {text : String} (htext : Text.OneLine text) :
    s.handleKey (.paste text) = (none, { s with buffer := s.buffer ++ text }) := by
  have hbreaks : unifyBreaks text.toList = text.toList :=
    unifyBreaks_of_forall fun c hc => (htext c hc).2
  have hpieces : Text.pieces (· == '\n') text.toList = [text.toList] :=
    Text.pieces_of_forall fun c hc => beq_eq_false_iff_ne.2 (htext c hc).1
  rw [handleKey, paste, hbreaks, hpieces, feedPieces, String.ofList_toList]

/-- **A whole line** without breaks is entered. -/
theorem runLine_eq (hfree : s.inFlight = none) {line : String}
    (hline : Text.OneLine line) (x : Interpreter σ) (b : Backend σ) :
    (s.runLine x line b).2 = s.enter x line b := by
  have hpaste := handleKey_paste (s := { s with buffer := "" }) hline
  have henter := respond_submit (s := { s with buffer := line }) hfree x b
  rw [runLine, hpaste]
  rw [enter_buffer] at henter
  rw [← henter]
  simp only [String.empty_append, handleKey]
  generalize submit _ = typed
  obtain ⟨made, t⟩ := typed
  cases made with
  | none => rfl
  | some made => rfl

/-- Whole lines without breaks are entered one after the other. -/
theorem runAll_eq (hfree : s.inFlight = none) {lines : List String}
    (hlines : ∀ line ∈ lines, Text.OneLine line) (x : Interpreter σ) (b : Backend σ) :
    s.runAll x lines b = s.enterAll x lines b := by
  induction lines generalizing s b with
  | nil => rfl
  | cons line lines ih =>
    obtain ⟨hline, hlines⟩ := List.forall_mem_cons.1 hlines
    have hfree' : (s.enter x line b).1.inFlight = none :=
      (s.inFlight_enter x line b).trans hfree
    rw [runAll, enterAll, runLine_eq hfree hline, ih hfree' hlines]

end WorkspaceConsole.Session

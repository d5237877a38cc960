import WorkspaceConsole.Proofs.Session.Entered

/-!
# Whole lines with breaks in them

A whole line is pasted, and enter is pressed unless a submission has been made by then. If the line
has breaks in it, it is cut into `segments`. All of them are ended, or, when one before the last is
submitted, all but the last (`endedByLine`).

Whatever is in the line, the transcript gains the answers to these segments and then the lines of
the result, if there is one (`transcript_runLine`). The first entry is an echo (`echoes_runLine`).
-/

namespace WorkspaceConsole.Session

variable {σ : Type} {s : Session} {line : String}

/-- What the breaks in a text cut it into. -/
def segments (text : String) : List String :=
  (Text.pieces (· == '\n') (unifyBreaks text.toList)).map String.ofList

/-- The lines that are ended when a whole line is run: no enter is pressed after a submission. -/
def endedByLine (s : Session) (line : String) : List String :=
  if (s.accepted (segments line).dropLast).isSome then (segments line).dropLast else segments line

/-- Pastes a line, and presses enter unless there is a submission. -/
def typeLine (s : Session) (line : String) : Option Submission × Session :=
  match s.handleKey (.paste line) with
  | (some made, s) => (some made, s)
  | (none, s) => s.submit

/-- The lines of the result of a submission. -/
def resultLines (x : Interpreter σ) (b : Backend σ) : Option Submission → List String
  | none => []
  | some made => (x.evaluate made.line made.cwd b).1.lines

theorem runLine_eq_respond (s : Session) (x : Interpreter σ) (line : String) (b : Backend σ) :
    (s.runLine x line b).2 = respond x b (typeLine { s with buffer := "" } line) := by
  rw [runLine, typeLine]
  generalize handleKey _ (.paste line) = pasted
  obtain ⟨made, t⟩ := pasted
  cases made with
  | some made => rfl
  | none =>
    simp only [handleKey]
    generalize t.submit = typed
    obtain ⟨made, u⟩ := typed
    cases made with
    | some made => rfl
    | none => rfl

/-! ## Pieces -/

theorem endedBy_empty (pieces : List (List Char)) :
    endedBy "" pieces = (pieces.map String.ofList).dropLast := by
  induction pieces with
  | nil => rfl
  | cons piece more ih =>
    cases more with
    | nil => rfl
    | cons next more =>
      rw [endedBy, ih, String.empty_append]
      rfl

/-- Enter after pieces does what one more break does. -/
theorem feedPieces_concat (s : Session) {pieces : List (List Char)} (hne : pieces ≠ []) :
    s.feedPieces (pieces ++ [[]]) =
      ((s.feedPieces pieces).1.or (s.feedPieces pieces).2.submit.1,
        (s.feedPieces pieces).2.submit.2) := by
  induction pieces generalizing s with
  | nil => exact absurd rfl hne
  | cons piece more ih =>
    cases more with
    | nil =>
      simp only [List.cons_append, List.nil_append, feedPieces, Option.none_or, Option.or_none]
      generalize submit _ = line
      obtain ⟨made, t⟩ := line
      simp only [String.ofList_nil, String.append_empty]
    | cons next more =>
      have hrest := fun t => ih t (List.cons_ne_nil next more)
      simp only [List.cons_append] at hrest ⊢
      simp only [feedPieces, hrest, Option.or_assoc]

theorem enters_typeLine (hbuffer : s.buffer = "") (line : String) :
    Enters s (s.endedByLine line) (s.typeLine line).1 (s.typeLine line).2 := by
  have hpasted := s.enters_feedPieces (Text.pieces (· == '\n') (unifyBreaks line.toList))
  have hall := s.enters_feedPieces (Text.pieces (· == '\n') (unifyBreaks line.toList) ++ [[]])
  rw [hbuffer, endedBy_empty] at hpasted hall
  rw [List.map_append, List.map_singleton, List.dropLast_concat,
    feedPieces_concat s (Text.pieces_ne_nil _ _)] at hall
  rw [endedByLine, segments, ← hpasted.made, typeLine, handleKey, paste]
  generalize feedPieces _ _ = pasted at hpasted hall ⊢
  obtain ⟨made, t⟩ := pasted
  cases made with
  | some made => exact hpasted
  | none =>
    rw [Option.none_or] at hall
    dsimp only [Option.isSome_none] at hall ⊢
    rwa [if_neg Bool.false_ne_true]

theorem typed_typeLine (s : Session) (line : String) :
    Typed s (s.typeLine line).1 (s.typeLine line).2 := by
  have hpasted := s.typed_handleKey (.paste line)
  rw [typeLine]
  generalize s.handleKey (.paste line) = pasted at hpasted ⊢
  obtain ⟨made, t⟩ := pasted
  cases made with
  | some made => exact hpasted
  | none => exact hpasted.trans t.typed_submit

/-! ## Entries -/

/-- **What a whole line adds** to the transcript of a session. -/
theorem transcript_runLine (s : Session) (x : Interpreter σ) (line : String) (b : Backend σ) :
    (s.runLine x line b).2.1.transcript =
      s.transcript ++ (answers s.isBusy (s.endedByLine line) ++
        resultLines x b (s.accepted (s.endedByLine line))) := by
  have henters := enters_typeLine (s := { s with buffer := "" }) rfl line
  have htyped := typed_typeLine { s with buffer := "" } line
  have hmade : s.accepted (s.endedByLine line) = (typeLine { s with buffer := "" } line).1 :=
    henters.made.symm
  have htext : (typeLine { s with buffer := "" } line).2.transcript =
      s.transcript ++ answers s.isBusy (s.endedByLine line) := henters.transcript
  rw [runLine_eq_respond, hmade, ← List.append_assoc, ← htext]
  generalize typeLine _ line = typed at htyped ⊢
  obtain ⟨made, t⟩ := typed
  cases htyped with
  | quiet _ _ _ _ _ => exact (List.append_nil _).symm
  | submits _ _ _ _ _ _ _ _ hflight =>
    rw [respond]
    dsimp only
    rw [complete_eq hflight, resultLines]

/-- The first line that is ended is the first segment. -/
theorem exists_endedByLine (s : Session) (line : String) :
    ∃ more, s.endedByLine line = (segments line).headD "" :: more := by
  have hne : segments line ≠ [] := fun h =>
    Text.pieces_ne_nil _ _ (List.map_eq_nil_iff.1 h)
  obtain ⟨first, more, hsegments⟩ := List.exists_cons_of_ne_nil hne
  rw [endedByLine, hsegments]
  by_cases hmade : (s.accepted (first :: more).dropLast).isSome = true
  · cases more with
    | nil => cases hb : s.isBusy <;> simp [accepted, hb] at hmade
    | cons next more => exact ⟨_, if_pos hmade⟩
  · exact ⟨more, if_neg hmade⟩

theorem exists_answers_cons (busy : Bool) (line : String) (lines : List String) :
    ∃ more, answers busy (line :: lines) = (echoMark ++ Text.trimmed line) :: more := by
  rw [answers]
  by_cases hblank : Text.trimmed line = ""
  · exact ⟨_, by rw [if_pos hblank, hblank, String.append_empty]⟩
  · cases busy with
    | true => exact ⟨_, by rw [if_neg hblank, if_pos rfl]⟩
    | false => exact ⟨_, by rw [if_neg hblank, if_neg Bool.false_ne_true]⟩

/-- **The first entry** that a whole line adds is the echo of its first segment, and the result
comes after it. -/
theorem echoes_runLine (s : Session) (x : Interpreter σ) (line : String) (b : Backend σ) :
    ∃ more, (s.runLine x line b).2.1.transcript =
      s.transcript ++ (echoMark ++ Text.trimmed ((segments line).headD "")) ::
        (more ++ resultLines x b (s.accepted (s.endedByLine line))) := by
  obtain ⟨ended, hended⟩ := s.exists_endedByLine line
  obtain ⟨more, hmore⟩ := exists_answers_cons s.isBusy ((segments line).headD "") ended
  refine ⟨more, ?_⟩
  rw [transcript_runLine, hended, hmore, List.cons_append]

end WorkspaceConsole.Session

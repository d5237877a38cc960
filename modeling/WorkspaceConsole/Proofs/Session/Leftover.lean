import WorkspaceConsole.Proofs.Session.Whole

/-!
# What a whole line leaves in the buffer

A whole line that has breaks in it is consumed (`Consumes`) when each of its segments is echoed and
nothing stays in the buffer.

Enter is not pressed after a submission. So once a segment before the last has been submitted, the
last one stays in the buffer (`buffer_runLine`): it is not echoed, not carried out and not refused
as busy, and the next whole line drops it. That is the only way in which part of a line is lost
(`consumes_iff`).
-/

namespace WorkspaceConsole.Session

variable {σ : Type} {s : Session} {line : String}

/-- What of a line is not ended, and stays in the buffer. -/
def leftover (s : Session) (line : String) : String :=
  if (s.accepted (segments line).dropLast).isSome then (segments line).getLastD "" else ""

/-- The segments of a line, without an empty one after the last break. -/
def spoken (line : String) : List String :=
  if (segments line).dropLast ≠ [] ∧ (segments line).getLastD "" = ""
  then (segments line).dropLast
  else segments line

/-- Nothing of the line is left in the buffer, and its segments are echoed in order. -/
structure Consumes (s : Session) (x : Interpreter σ) (line : String) (b : Backend σ) : Prop where
  buffer : (s.runLine x line b).2.1.buffer = ""
  echoes : ∃ entries, (s.runLine x line b).2.1.transcript = s.transcript ++ entries ∧
    ((spoken line).map fun segment => echoMark ++ Text.trimmed segment).Sublist entries

/-! ## The buffer -/

theorem buffer_feedPieces (hbuffer : s.buffer = "") (pieces : List (List Char)) :
    (s.feedPieces pieces).2.buffer = (pieces.map String.ofList).getLastD "" := by
  induction pieces generalizing s with
  | nil => exact hbuffer
  | cons piece more ih =>
    cases more with
    | nil =>
      rw [feedPieces, hbuffer, String.empty_append]
      rfl
    | cons next more =>
      have hrest := ih (buffer_submit { s with buffer := s.buffer ++ String.ofList piece })
      rw [feedPieces, List.map_cons, List.map_cons, List.getLastD_cons, List.getLastD_cons]
      rw [List.map_cons, List.getLastD_cons] at hrest
      generalize submit _ = typed at hrest ⊢
      exact hrest

theorem buffer_respond (x : Interpreter σ) (b : Backend σ) {made : Option Submission} {t : Session}
    (htyped : Typed s made t) : (respond x b (made, t)).1.buffer = t.buffer := by
  cases htyped with
  | quiet _ _ _ _ _ => rfl
  | submits _ _ _ _ _ _ _ _ hflight =>
    rw [respond]
    dsimp only
    rw [complete_eq hflight]

theorem buffer_typeLine (hbuffer : s.buffer = "") (line : String) :
    (s.typeLine line).2.buffer = s.leftover line := by
  have hlast := buffer_feedPieces hbuffer (Text.pieces (· == '\n') (unifyBreaks line.toList))
  have hmade := (s.enters_feedPieces (Text.pieces (· == '\n') (unifyBreaks line.toList))).made
  rw [hbuffer, endedBy_empty] at hmade
  rw [typeLine, handleKey, paste, leftover, segments, ← hmade, ← hlast]
  generalize feedPieces _ _ = pasted
  obtain ⟨made, t⟩ := pasted
  cases made with
  | some made => rfl
  | none =>
    dsimp only [Option.isSome_none]
    rw [if_neg Bool.false_ne_true]
    exact t.buffer_submit

/-- **What a whole line leaves in the buffer**: its last segment, if one before it is submitted. -/
theorem buffer_runLine (s : Session) (x : Interpreter σ) (line : String) (b : Backend σ) :
    (s.runLine x line b).2.1.buffer = s.leftover line := by
  rw [runLine_eq_respond]
  exact (buffer_respond x b (typed_typeLine _ line)).trans
    (buffer_typeLine (s := { s with buffer := "" }) rfl line)

/-! ## The echoes -/

/-- All ended lines are echoed. -/
theorem echoes_sublist_answers (busy : Bool) (lines : List String) :
    (lines.map fun line => echoMark ++ Text.trimmed line).Sublist (answers busy lines) := by
  induction lines generalizing busy with
  | nil => exact List.Sublist.refl _
  | cons line lines ih =>
    rw [List.map_cons, answers]
    by_cases hblank : Text.trimmed line = ""
    · rw [if_pos hblank, hblank, String.append_empty]
      exact (ih busy).cons_cons _
    · rw [if_neg hblank]
      cases busy with
      | true => exact ((ih true).cons _).cons_cons _
      | false => exact (ih true).cons_cons _

theorem spoken_sublist_endedByLine (h : s.leftover line = "") :
    (spoken line).Sublist (s.endedByLine line) := by
  by_cases hmade : (s.accepted (segments line).dropLast).isSome = true
  · rw [leftover, if_pos hmade] at h
    have hmore : (segments line).dropLast ≠ [] := fun hnil => by
      rw [hnil, accepted_nil] at hmade
      exact Bool.false_ne_true hmade
    rw [spoken, endedByLine, if_pos ⟨hmore, h⟩, if_pos hmade]
  · rw [spoken, endedByLine, if_neg hmade]
    split
    · exact List.dropLast_sublist _
    · exact List.Sublist.refl _

/-- **A line is consumed** if and only if nothing is left in the buffer. -/
theorem consumes_iff_leftover (s : Session) (x : Interpreter σ) (line : String) (b : Backend σ) :
    s.Consumes x line b ↔ s.leftover line = "" := by
  constructor
  · intro h
    rw [← s.buffer_runLine x line b]
    exact h.buffer
  · intro h
    refine ⟨(s.buffer_runLine x line b).trans h, _, s.transcript_runLine x line b, ?_⟩
    have hended := (spoken_sublist_endedByLine h).map fun segment =>
      echoMark ++ Text.trimmed segment
    have hechoed := hended.trans (echoes_sublist_answers s.isBusy _)
    exact hechoed.trans (List.sublist_append_left _ _)

/-- **When a whole line is consumed**: if the session waits for a result, if no segment before the
last is a command, or if there is nothing after the last break. -/
theorem consumes_iff (s : Session) (x : Interpreter σ) (line : String) (b : Backend σ) :
    s.Consumes x line b ↔
      (s.inFlight = none →
        (∀ segment ∈ (segments line).dropLast, Text.trimmed segment = "") ∨
          (segments line).getLastD "" = "") := by
  rw [consumes_iff_leftover, leftover]
  by_cases hmade : (s.accepted (segments line).dropLast).isSome = true
  · obtain ⟨hfree, segment, hmem, hsaid⟩ := (s.isSome_accepted _).1 hmade
    rw [if_pos hmade]
    refine ⟨fun hlast _ => .inr hlast, fun h => ?_⟩
    exact (h hfree).resolve_left fun hblank => hsaid (hblank segment hmem)
  · rw [if_neg hmade]
    refine ⟨fun _ hfree => .inl fun segment hmem => ?_, fun _ => rfl⟩
    exact Classical.not_not.1 fun hsaid =>
      hmade ((s.isSome_accepted _).2 ⟨hfree, segment, hmem, hsaid⟩)

/-- Of two commands on a line, the second is left in the buffer. The next line drops it, and does
not find the folder that it was to make. -/
theorem leftover_of_two_commands :
    let s : Session := { id := 0 }
    let b : Backend Unit := ⟨.empty, ()⟩
    let made := (s.runLine .simulated "mkdir a\rmkdir b" b).2
    s.inFlight = none ∧ ¬ s.Consumes .simulated "mkdir a\rmkdir b" b ∧
      made.1.transcript = ["$ mkdir a", "Created directory: a"] ∧ made.1.buffer = "mkdir b" ∧
      (made.1.runLine .simulated "cd b" made.2).2.1.transcript =
        ["$ mkdir a", "Created directory: a", "$ cd b", "Folder not found: b"] := by
  have hleft : ¬ (Session.runLine { id := 0 } .simulated "mkdir a\rmkdir b"
      (⟨.empty, ()⟩ : Backend Unit)).2.1.buffer = "" := by decide +kernel
  exact ⟨rfl, fun h => hleft h.buffer, by decide +kernel, by decide +kernel, by decide +kernel⟩

end WorkspaceConsole.Session

import WorkspaceConsole.Proofs.Session.Line

/-!
# The lines that a keystroke ends

A keystroke ends any number of lines: enter ends one, and a paste one at each of its line breaks
(`ended`). Each line is echoed without the blanks around it. The first one that is not blank is
submitted, unless a command is running already, and those after it are refused as busy.

So which submission is made, and what the transcript gains, are functions of the ended lines
(`enters_handleKey`).
-/

namespace WorkspaceConsole.Session

/-- The lines that pieces of a text end. The first one begins with what is in the buffer. -/
def endedBy (buffer : String) : List (List Char) → List String
  | [] | [_] => []
  | piece :: next :: more => (buffer ++ String.ofList piece) :: endedBy "" (next :: more)

/-- The lines that a keystroke ends. -/
def ended (s : Session) : Keystroke → List String
  | .enter => [s.buffer]
  | .paste text => endedBy s.buffer (Text.pieces (· == '\n') (unifyBreaks text.toList))
  | .char _ | .backspace | .interrupt => []

/-- The submission that ended lines make: the first one that is not blank, unless a command is
running. -/
def accepted (s : Session) (lines : List String) : Option Submission :=
  if s.isBusy then none
  else ((lines.map Text.trimmed).find? (· ≠ "")).map fun line => ⟨s.nextTicket, line, s.cwd⟩

/-- What the transcript gains from ended lines, the first of which comes while a command is running
if `busy` says so. -/
def answers (busy : Bool) : List String → List String
  | [] => []
  | line :: lines =>
    let text := Text.trimmed line
    if text = "" then echoMark :: answers busy lines
    else if busy then (echoMark ++ text) :: busyMessage :: answers true lines
    else (echoMark ++ text) :: answers true lines

variable {s : Session} {line : String} {lines : List String}

/-! ## One more line -/

theorem accepted_of_busy (h : s.isBusy = true) (lines : List String) : s.accepted lines = none :=
  if_pos h

theorem accepted_nil (s : Session) : s.accepted [] = none := by
  rw [accepted]
  split <;> rfl

theorem accepted_cons_of_blank (h : Text.trimmed line = "") (lines : List String) :
    s.accepted (line :: lines) = s.accepted lines := by
  simp [accepted, h]

theorem accepted_cons_of_free (h : Text.trimmed line ≠ "") (hfree : s.inFlight = none)
    (lines : List String) :
    s.accepted (line :: lines) = some ⟨s.nextTicket, Text.trimmed line, s.cwd⟩ := by
  simp [accepted, h, isBusy, hfree]

/-- A submission is made if the session waits for nothing and one of the lines is not blank. -/
theorem isSome_accepted (s : Session) (lines : List String) :
    (s.accepted lines).isSome = true ↔
      s.inFlight = none ∧ ∃ line ∈ lines, Text.trimmed line ≠ "" := by
  rw [accepted]
  cases hflight : s.inFlight with
  | none => simp [isBusy, hflight]
  | some ticket => simp [isBusy, hflight]

/-- What the submission carries: the next ticket, the path, and a line that is not blank and has no
blanks around it. -/
theorem of_accepted {x : Submission} (h : s.accepted lines = some x) :
    s.inFlight = none ∧ x.ticket = s.nextTicket ∧ x.cwd = s.cwd ∧ x.line ≠ "" ∧
      Text.trimmed x.line = x.line := by
  by_cases hbusy : s.isBusy = true
  · rw [accepted_of_busy hbusy] at h
    cases h
  · rw [accepted, if_neg hbusy] at h
    obtain ⟨text, htext, rfl⟩ := Option.map_eq_some_iff.1 h
    obtain ⟨line, -, rfl⟩ := List.mem_map.1 (List.mem_of_find?_eq_some htext)
    have hne : Text.trimmed line ≠ "" := by simpa using List.find?_some htext
    have hfree : s.inFlight = none := by simpa [isBusy] using hbusy
    refine ⟨hfree, rfl, rfl, hne, ?_⟩
    rw [Text.trimmed, Text.trimmed, String.toList_ofList, Text.trim_trim]

theorem submit_of_busy (h : Text.trimmed s.buffer ≠ "") (hbusy : s.isBusy = true) :
    s.submit = (none, (s.echo (Text.trimmed s.buffer)).record [busyMessage]) := by
  rw [submit]
  have hblank : ¬ (Text.trimmed s.buffer).isEmpty = true := fun he => h (String.isEmpty_iff.1 he)
  have hbusy' :
      (record { s with buffer := "" } [echoMark ++ Text.trimmed s.buffer]).isBusy = true := hbusy
  simp only [if_neg hblank, if_pos hbusy']
  rfl

/-! ## Keystrokes -/

/-- The lines make the submission `made`, if any, and take `s` to `s'`. -/
structure Enters (s : Session) (lines : List String) (made : Option Submission)
    (s' : Session) : Prop where
  made : made = s.accepted lines
  transcript : s'.transcript = s.transcript ++ answers s.isBusy lines
  cwd : s'.cwd = s.cwd

theorem enters_buffer (s : Session) (buffer : String) : Enters s [] none { s with buffer } :=
  ⟨by simp [accepted], (List.append_nil _).symm, rfl⟩

/-- The buffer is submitted, and then come other lines. -/
theorem Enters.cons {made : Option Submission} {s' : Session}
    (h : Enters s.submit.2 lines made s') :
    Enters s (s.buffer :: lines) (s.submit.1.or made) s' := by
  obtain ⟨hmade, htext, hcwd⟩ := h
  by_cases hblank : Text.trimmed s.buffer = ""
  · rw [submit_of_blank hblank] at hmade htext hcwd ⊢
    refine ⟨?_, ?_, hcwd⟩
    · rw [accepted_cons_of_blank hblank, Option.none_or, hmade]
      rfl
    · rw [htext, answers, if_pos hblank]
      exact List.append_assoc ..
  · by_cases hbusy : s.isBusy = true
    · rw [submit_of_busy hblank hbusy] at hmade htext hcwd ⊢
      have hbusy' : ((s.echo (Text.trimmed s.buffer)).record [busyMessage]).isBusy = true := hbusy
      refine ⟨?_, ?_, hcwd⟩
      · rw [accepted_of_busy hbusy, Option.none_or, hmade, accepted_of_busy hbusy']
      · rw [htext, hbusy', answers, if_neg hblank, if_pos hbusy]
        simp [record, echo]
    · have hfree : s.inFlight = none := by simpa [isBusy] using hbusy
      rw [submit_of_free hblank hfree] at hmade htext hcwd ⊢
      refine ⟨?_, ?_, hcwd⟩
      · rw [accepted_cons_of_free hblank hfree, Option.some_or]
      · rw [htext, answers, if_neg hblank, if_neg hbusy]
        exact List.append_assoc ..

theorem enters_nil (s : Session) : Enters s [] none s :=
  enters_buffer s s.buffer

theorem enters_submit (s : Session) : Enters s [s.buffer] s.submit.1 s.submit.2 := by
  have hlast := (enters_nil s.submit.2).cons
  rwa [Option.or_none] at hlast

theorem buffer_submit (s : Session) : s.submit.2.buffer = "" := by
  rw [submit]
  split
  · rfl
  · split <;> rfl

theorem enters_feedPieces (s : Session) (pieces : List (List Char)) :
    Enters s (endedBy s.buffer pieces) (s.feedPieces pieces).1 (s.feedPieces pieces).2 := by
  induction pieces generalizing s with
  | nil => exact enters_buffer s s.buffer
  | cons piece more ih =>
    cases more with
    | nil => exact enters_buffer s _
    | cons next more =>
      have hrest := ih (submit { s with buffer := s.buffer ++ String.ofList piece }).2
      rw [buffer_submit] at hrest
      have hline := hrest.cons
      rw [feedPieces, endedBy]
      -- The submitted line is named, lest it be computed to compare the two sides.
      generalize submit _ = line at hline ⊢
      obtain ⟨made, t⟩ := line
      exact ⟨hline.made, hline.transcript, hline.cwd⟩

/-- **What a keystroke submits**, and what the transcript gains. -/
theorem enters_handleKey (s : Session) (k : Keystroke) :
    Enters s (s.ended k) (s.handleKey k).1 (s.handleKey k).2 := by
  cases k with
  | char c =>
    rw [handleKey]
    split
    · exact enters_buffer s s.buffer
    · exact enters_buffer s _
  | paste text => exact enters_feedPieces s _
  | backspace => exact enters_buffer s _
  | enter => exact enters_submit s
  | interrupt => exact enters_buffer s ""

end WorkspaceConsole.Session

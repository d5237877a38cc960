import WorkspaceConsole.Session

/-!
# What input does to a session

`Typed s x s'` says what any amount of input does: it appends to the transcript, and it either
leaves ticket counter and running command alone, or it starts the next command, which it may do only
while none is running. Input after input is input again (`Typed.trans`), so a paste that submits in
the middle needs no argument of its own.

A result for the running command appends its lines and ends the command; any other result changes
nothing.
-/

namespace WorkspaceConsole.Session

/-- Input takes the session `s` to `s'` and makes the submission, if any. While no command runs, a
line that is not submitted is blank, so only echoes of blank lines stand before that of the
submission. -/
inductive Typed (s : Session) : Option Submission → Session → Prop
  | quiet {s' : Session} (added : List String) :
      (s.inFlight = none → ∀ line ∈ added, line = echoMark) →
      s'.transcript = s.transcript ++ added → s'.nextTicket = s.nextTicket →
      s'.inFlight = s.inFlight → Typed s none s'
  | submits {s' : Session} {x : Submission} (blank rest : List String) :
      s.inFlight = none → x.line ≠ "" → (∀ line ∈ blank, line = echoMark) →
      s'.transcript = s.transcript ++ (blank ++ (echoMark ++ x.line) :: rest) →
      x.ticket = s.nextTicket → s'.nextTicket = s.nextTicket + 1 →
      s'.inFlight = some x.ticket → Typed s (some x) s'

variable {s t u : Session}

/-- A session that has just been opened holds nothing but its welcome. -/
theorem openWith_eq (welcome : Option String) :
    ∃ transcript, ∀ id, openWith id welcome = { id, transcript } := by
  cases welcome with
  | none => exact ⟨[], fun _ => rfl⟩
  | some text =>
    by_cases htext : text.isEmpty = true
    · exact ⟨[], fun _ => if_pos htext⟩
    · exact ⟨[text], fun _ => if_neg htext⟩

/-- Input that only changes the buffer. -/
theorem typed_buffer (s : Session) (buffer : String) : Typed s none { s with buffer } :=
  .quiet [] (fun _ _ hline => nomatch hline) (List.append_nil _).symm rfl rfl

/-- Input after input: at most one of the two submits. -/
theorem Typed.trans {x y : Option Submission} (hx : Typed s x t) (hy : Typed t y u) :
    Typed s (x.or y) u := by
  cases hx with
  | quiet added hblank htext hnext hflight =>
    cases hy with
    | quiet added' hblank' htext' hnext' hflight' =>
      refine .quiet (added ++ added') (fun hfree => ?_) ?_ (hnext'.trans hnext)
        (hflight'.trans hflight)
      · exact List.forall_mem_append.2 ⟨hblank hfree, hblank' (hflight.trans hfree)⟩
      · rw [htext', htext, List.append_assoc]
    | submits blank rest hfree hline hblank' htext' hticket hnext' hflight' =>
      have hfree' : s.inFlight = none := hflight ▸ hfree
      refine .submits (added ++ blank) rest hfree' hline
        (List.forall_mem_append.2 ⟨hblank hfree', hblank'⟩) ?_ (hticket.trans hnext)
        (by rw [hnext', hnext]) hflight'
      rw [htext', htext, List.append_assoc, List.append_assoc]
  | submits blank rest hfree hline hblank htext hticket hnext hflight =>
    cases hy with
    | quiet added' _ htext' hnext' hflight' =>
      refine .submits blank (rest ++ added') hfree hline hblank ?_ hticket (hnext'.trans hnext)
        (hflight'.trans hflight)
      rw [htext', htext, List.append_assoc, List.append_assoc, List.cons_append]
    | submits _ _ hfree' =>
      rw [hflight] at hfree'
      cases hfree'

theorem Typed.transcript_grows {x : Option Submission} (h : Typed s x t) :
    s.transcript <+: t.transcript := by
  cases h with
  | quiet added _ htext => exact ⟨added, htext.symm⟩
  | submits blank rest _ _ _ htext => exact ⟨_, htext.symm⟩

theorem Typed.of_some {x : Submission} (h : Typed s (some x) t) :
    s.inFlight = none ∧ x.ticket = s.nextTicket ∧ ∃ blank rest,
      x.line ≠ "" ∧ (∀ line ∈ blank, line = echoMark) ∧
        t.transcript = s.transcript ++ (blank ++ (echoMark ++ x.line) :: rest) := by
  cases h with
  | submits blank rest hfree hline hblank htext hticket =>
    exact ⟨hfree, hticket, blank, rest, hline, hblank, htext⟩

/-- The tickets `1, 2, 3, …` and one more, counted in words. -/
theorem tickets_succ (n : Nat) :
    (List.range' 1 (n + 1)).map UInt64.ofNat =
      (List.range' 1 n).map UInt64.ofNat ++ [.ofNat (n + 1)] := by
  rw [List.range'_concat, List.map_append, List.map_singleton, Nat.one_mul, Nat.add_comm]

/-! ## Keystrokes -/

/-- A blank line and a line that comes while a command runs are only echoed. -/
theorem typed_submit (s : Session) : Typed s s.submit.1 s.submit.2 := by
  rw [submit]
  by_cases hblank : (Text.trimmed s.buffer).isEmpty = true
  · simp only [if_pos hblank]
    refine .quiet [echoMark ++ Text.trimmed s.buffer] (fun _ line hline => ?_) rfl rfl rfl
    rw [List.mem_singleton.1 hline, String.isEmpty_iff.1 hblank, String.append_empty]
  · simp only [if_neg hblank]
    by_cases hbusy : (record { s with buffer := "" } [echoMark ++ Text.trimmed s.buffer]).isBusy
    · rw [if_pos hbusy]
      refine .quiet _ (fun hfree => ?_) (List.append_assoc ..) rfl rfl
      simp [isBusy, record, hfree] at hbusy
    · rw [if_neg hbusy]
      have hfree : s.inFlight = none := by simpa [isBusy, record] using hbusy
      have hline : Text.trimmed s.buffer ≠ "" := fun h => hblank (String.isEmpty_iff.2 h)
      exact .submits [] [] hfree hline (fun _ hline => nomatch hline) rfl rfl rfl rfl

/-- Every line break of a paste submits; the pieces in between only change the buffer. -/
theorem typed_feedPieces (s : Session) (pieces : List (List Char)) :
    Typed s (s.feedPieces pieces).1 (s.feedPieces pieces).2 := by
  induction pieces generalizing s with
  | nil => exact typed_buffer s s.buffer
  | cons piece more ih =>
    cases more with
    | nil => exact typed_buffer s _
    | cons next more =>
      have hline := (typed_buffer s (s.buffer ++ String.ofList piece)).trans (typed_submit _)
      rw [Option.none_or] at hline
      rw [feedPieces]
      -- The submitted line is named, lest it be computed to compare the two sides.
      generalize submit _ = line at hline ⊢
      obtain ⟨x, t⟩ := line
      exact hline.trans (ih t)

/-- **What a keystroke does.** -/
theorem typed_handleKey (s : Session) (k : Keystroke) :
    Typed s (s.handleKey k).1 (s.handleKey k).2 := by
  cases k with
  | char c =>
    rw [handleKey]
    by_cases hc : Text.isControl c = true
    · rw [if_pos hc]
      exact typed_buffer s s.buffer
    · rw [if_neg hc]
      exact typed_buffer s _
  | paste text => exact typed_feedPieces s _
  | backspace => exact typed_buffer s _
  | enter => exact typed_submit s
  | interrupt => exact typed_buffer s ""

/-! ## The identifier -/

theorem id_submit (s : Session) : s.submit.2.id = s.id := by
  rw [submit]
  split
  · rfl
  · split <;> rfl

theorem id_feedPieces (s : Session) (pieces : List (List Char)) :
    (s.feedPieces pieces).2.id = s.id := by
  induction pieces generalizing s with
  | nil => rfl
  | cons piece more ih =>
    cases more with
    | nil => rfl
    | cons next more =>
      have hline := id_submit { s with buffer := s.buffer ++ String.ofList piece }
      rw [feedPieces]
      generalize submit _ = line at hline ⊢
      obtain ⟨x, t⟩ := line
      rw [← hline]
      exact ih t

/-- Input leaves the session the one that it is. -/
theorem id_handleKey (s : Session) (k : Keystroke) : (s.handleKey k).2.id = s.id := by
  cases k with
  | char c =>
    rw [handleKey]
    split <;> rfl
  | paste text => exact id_feedPieces s _
  | backspace => rfl
  | enter => rw [handleKey, id_submit]
  | interrupt => rfl

/-! ## Results -/

/-- Effects move the session and leave the rest of it alone. -/
theorem foldl_applyEffect (s : Session) (rest : List Effect) (effects : List Effect) :
    ∃ cwd, (effects.foldl applyEffect (s, rest)).1 = { s with cwd } := by
  induction effects generalizing s rest with
  | nil => exact ⟨s.cwd, rfl⟩
  | cons effect effects ih =>
    cases effect with
    | changeDirectory path =>
      obtain ⟨cwd, h⟩ := ih { s with cwd := path } rest
      exact ⟨cwd, h⟩
    | refreshTree => exact ih s _

/-- The awaited result: its lines are appended, and no command runs any more. -/
theorem complete_of_inFlight {ticket : UInt64} (h : s.inFlight = some ticket) (e : Evaluation) :
    ∃ cwd, (s.complete ticket e).2 =
      { s with cwd, inFlight := none, transcript := s.transcript ++ e.lines } := by
  rw [complete, if_pos h]
  exact foldl_applyEffect _ [] e.effects

/-- Any other result is dropped. -/
theorem complete_of_ne {ticket : UInt64} (h : s.inFlight ≠ some ticket) (e : Evaluation) :
    s.complete ticket e = ([], s) := by
  rw [complete, if_neg h]

end WorkspaceConsole.Session

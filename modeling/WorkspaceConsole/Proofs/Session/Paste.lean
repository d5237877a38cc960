import WorkspaceConsole.Proofs.Session.Submission

/-!
# Pasting is typing

A paste turns all line breaks of a text into line feeds, cuts the text at these, and submits the
buffer after each piece but the last. Of the submissions it hands on the first. To type the text is
to hit one key for each character, and enter for each line break (`keystrokes`).

Both come to the same, whatever the state of the session (`paste_eq_typing`). The induction is on
the text: a character goes into the buffer (`feedPieces_char`), and a break submits
(`feedPieces_break`). No submission is lost, since after the first one the session is busy
(`Typed.toList_or`).
-/

namespace WorkspaceConsole.Session

/-- The keystrokes that type a text. A carriage return with a line feed after it is one line break,
as is either of them alone. -/
def keystrokes : List Char → List Keystroke
  | [] => []
  | '\r' :: '\n' :: cs => .enter :: keystrokes cs
  | c :: cs => (if c = '\r' ∨ c = '\n' then .enter else .char c) :: keystrokes cs

/-- The session after keystrokes, and all submissions that they made. -/
def handleKeys (s : Session) : List Keystroke → List Submission × Session
  | [] => ([], s)
  | k :: ks =>
    let (made, t) := s.handleKey k
    let (later, u) := t.handleKeys ks
    (made.toList ++ later, u)

variable {s t u : Session}

/-- Of two amounts of input, one after the other, at most one submits. -/
theorem Typed.toList_or {x y : Option Submission} (hx : Typed s x t) (hy : Typed t y u) :
    (x.or y).toList = x.toList ++ y.toList := by
  cases hx with
  | quiet => rw [Option.none_or, Option.toList_none, List.nil_append]
  | submits _ _ _ _ _ _ _ _ hflight =>
    cases hy with
    | quiet => rfl
    | submits _ _ hfree =>
      rw [hflight] at hfree
      cases hfree

/-! ## One character of a paste -/

/-- The first character of a piece goes into the buffer. -/
theorem feedPieces_char (s : Session) {c : Char} (hc : c ≠ '\n') (cs : List Char) :
    s.feedPieces (Text.pieces (· == '\n') (c :: cs)) =
      feedPieces { s with buffer := s.buffer.push c } (Text.pieces (· == '\n') cs) := by
  have hsep : ¬ (c == '\n') = true := by simpa using hc
  have hpush (piece : List Char) :
      s.buffer ++ String.ofList (c :: piece) = s.buffer.push c ++ String.ofList piece := by
    apply String.toList_inj.1
    simp
  rw [Text.pieces, if_neg hsep]
  cases hpieces : Text.pieces (· == '\n') cs with
  | nil => exact absurd hpieces (Text.pieces_ne_nil _ cs)
  | cons piece more =>
    cases more with
    | nil => simp only [feedPieces, hpush]
    | cons next more => simp only [feedPieces, hpush]

/-- A line break submits what is in the buffer. -/
theorem feedPieces_break (s : Session) (cs : List Char) :
    s.feedPieces (Text.pieces (· == '\n') ('\n' :: cs)) =
      let rest := s.submit.2.feedPieces (Text.pieces (· == '\n') cs)
      (s.submit.1.or rest.1, rest.2) := by
  rw [Text.pieces, if_pos (beq_self_eq_true _)]
  cases hpieces : Text.pieces (· == '\n') cs with
  | nil => exact absurd hpieces (Text.pieces_ne_nil _ cs)
  | cons piece more =>
    rw [feedPieces, String.ofList_nil, String.append_empty]

/-! ## All of it -/

theorem handleKeys_cons (s : Session) (k : Keystroke) (ks : List Keystroke) :
    s.handleKeys (k :: ks) =
      ((s.handleKey k).1.toList ++ ((s.handleKey k).2.handleKeys ks).1,
        ((s.handleKey k).2.handleKeys ks).2) := rfl

/-- Enter does what a line break in a paste does, if the rest does the same. -/
theorem handleKeys_enter {ks : List Keystroke} {cs : List Char}
    (hrest : s.submit.2.handleKeys ks =
      let rest := s.submit.2.feedPieces (Text.pieces (· == '\n') cs)
      (rest.1.toList, rest.2)) :
    s.handleKeys (.enter :: ks) =
      let pasted := s.feedPieces (Text.pieces (· == '\n') ('\n' :: cs))
      (pasted.1.toList, pasted.2) := by
  have hone := s.typed_submit.toList_or (s.submit.2.typed_feedPieces (Text.pieces (· == '\n') cs))
  rw [handleKeys_cons, feedPieces_break]
  dsimp only at hrest ⊢
  rw [hone, handleKey, hrest]

/-- **Typing does what pasting does**, on the characters of a text. -/
theorem handleKeys_eq_feedPieces (s : Session) {cs : List Char}
    (hcs : ∀ c ∈ cs, Text.isControl c = true → c = '\r' ∨ c = '\n') :
    s.handleKeys (keystrokes cs) =
      let pasted := s.feedPieces (Text.pieces (· == '\n') (unifyBreaks cs))
      (pasted.1.toList, pasted.2) := by
  fun_induction keystrokes cs generalizing s with
  | case1 =>
    simp only [unifyBreaks, Text.pieces, feedPieces, handleKeys, String.ofList_nil,
      String.append_empty, Option.toList_none]
  | case2 cs ih =>
    have hrest := (List.forall_mem_cons.1 (List.forall_mem_cons.1 hcs).2).2
    rw [unifyBreaks]
    exact handleKeys_enter (ih _ hrest)
  | case3 c cs hpair ih =>
    obtain ⟨hc, hcs⟩ := List.forall_mem_cons.1 hcs
    rw [unifyBreaks.eq_3 c cs hpair]
    by_cases hbreak : c = '\r' ∨ c = '\n'
    · have hfeed : (if c = '\r' then '\n' else c) = '\n' := by
        rcases hbreak with rfl | rfl
        · exact if_pos rfl
        · exact if_neg (by decide)
      rw [if_pos hbreak, hfeed]
      exact handleKeys_enter (ih _ hcs)
    · obtain ⟨hcr, hlf⟩ := not_or.1 hbreak
      have hprints : ¬ Text.isControl c = true := fun hcontrol => hbreak (hc hcontrol)
      have hkey : s.handleKey (.char c) = (none, { s with buffer := s.buffer.push c }) := by
        rw [handleKey, if_neg hprints]
      rw [if_neg hbreak, if_neg hcr, feedPieces_char s hlf, handleKeys_cons, hkey,
        Option.toList_none, List.nil_append, ih _ hcs]

/-- **Pasting is typing.** If a text has no other control characters than carriage returns and line
feeds, then to paste it leaves the session as typing it does, and the submission of the paste is the
only one that typing makes, or there is none. -/
theorem paste_eq_typing (s : Session) {text : String}
    (htext : ∀ c ∈ text.toList, Text.isControl c = true → c = '\r' ∨ c = '\n') :
    let pasted := s.handleKey (.paste text)
    s.handleKeys (keystrokes text.toList) = (pasted.1.toList, pasted.2) :=
  s.handleKeys_eq_feedPieces htext

/-- All kinds of line breaks, after a line that has been begun: its end is submitted, the blank
lines are echoed, the next line is refused as busy, and the last one stays in the buffer. -/
theorem paste_eq_typing_breaks :
    let s : Session := { id := 1, buffer := " mk" }
    let text := "dir é\r\n\r\n\rcd a\n\rls"
    let typed := s.handleKeys (keystrokes text.toList)
    (∀ c ∈ text.toList, Text.isControl c = true → c = '\r' ∨ c = '\n') ∧
      typed = ((s.handleKey (.paste text)).1.toList, (s.handleKey (.paste text)).2) ∧
      typed.1 = [⟨1, "mkdir é", .root⟩] ∧
      typed.2.transcript = ["$ mkdir é", "$ ", "$ ", "$ cd a", busyMessage, "$ "] ∧
      typed.2.buffer = "ls" := by
  intro s text typed
  -- The text is searched; to decide the statement itself would be to try all characters.
  have hall : text.toList.all (fun c => Text.isControl c → c = '\r' ∨ c = '\n') = true := by decide
  have htext : ∀ c ∈ text.toList, Text.isControl c = true → c = '\r' ∨ c = '\n' :=
    fun c hc => of_decide_eq_true (List.all_eq_true.1 hall c hc)
  exact ⟨htext, paste_eq_typing s htext, by decide, by decide, by decide⟩

end WorkspaceConsole.Session

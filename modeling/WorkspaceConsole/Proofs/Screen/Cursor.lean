import Mathlib.Algebra.Group.Nat.Defs
import WorkspaceConsole.Proofs.Text.Letter
import WorkspaceConsole.Screen.View

/-!
# Where the cursor stands

The cursor of the terminal belongs behind the input, or in the last column of the pane if the input
is wider than that (`CursorAtEnd`). The width of the input is cut to 16 bits before it is compared
with the pane. So an input of `2 ^ 16` columns or more puts the cursor where the rest of its width
would end, which is in the right place only if that lies beyond the pane as well
(`cursorAtEnd_iff`).
-/

namespace WorkspaceConsole

namespace View

/-- The columns that the prompt and the buffer take. -/
def inputWidth (s : Session) : Nat :=
  Text.width (s.prompt ++ s.buffer).toList

/-- The cursor of the terminal stands behind the input, or in the last column if the input reaches
further, right below the entries that are shown. -/
def CursorAtEnd (f : Frame) (a : Area) (s : Session) : Prop :=
  (drawTerminal f a s).cursor =
    some (a.inner.x + min (inputWidth s) (a.inner.width - 1),
      a.inner.y + min (a.inner.height - 1) s.transcript.length)

instance (f : Frame) (a : Area) (s : Session) : Decidable (CursorAtEnd f a s) :=
  inferInstanceAs (Decidable (_ = _))

theorem cursor_eq (s : Session) (inside : Area) :
    cursor s inside =
      (inside.x + min (inputWidth s % 2 ^ 16) (inside.width - 1),
        inside.y + min (inside.height - 1) s.transcript.length) := by
  have hword : (inputWidth s).toUInt16.toNat = inputWidth s % 2 ^ 16 := by
    rw [Nat.toUInt16_eq, UInt16.toNat_ofNat']
  rw [← length_recentEntries, ← hword]
  rfl

theorem cursor_drawTerminal {a : Area} (hroom : a.inner.isEmpty = false) (f : Frame)
    (s : Session) : (drawTerminal f a s).cursor = some (cursor s a.inner) := by
  simp [drawTerminal, hroom]

/-- A prompt without a path takes two columns, and each letter one. -/
theorem inputWidth_replicate (n : Nat) :
    inputWidth { id := 0, buffer := String.ofList (List.replicate n 'a') } = n + 2 := by
  have htext : (Session.prompt { id := 0, buffer := String.ofList (List.replicate n 'a') } ++
      String.ofList (List.replicate n 'a')).toList = '$' :: ' ' :: List.replicate n 'a' := by
    have hprompt : Session.prompt { id := 0, buffer := String.ofList (List.replicate n 'a') } =
        "$ " := rfl
    simp [hprompt]
  rw [inputWidth, htext, Text.width_of_latin]
  · simp
  · intro c hc
    rcases List.mem_cons.1 hc with rfl | hc
    · decide
    · rcases List.mem_cons.1 hc with rfl | hc
      · decide
      · rw [List.eq_of_mem_replicate hc]
        decide

/-- A width that is cut to 16 bits before it is limited gives the same column unless it is cut to
less than the limit. -/
theorem min_mod_eq_min_iff (n limit : Nat) :
    min (n % 2 ^ 16) limit = min n limit ↔ n < 2 ^ 16 ∨ limit ≤ n % 2 ^ 16 := by
  by_cases hn : n < 2 ^ 16
  · rw [Nat.mod_eq_of_lt hn]
    exact iff_of_true rfl (.inl hn)
  · have hcut : n % 2 ^ 16 < 2 ^ 16 := Nat.mod_lt n (by decide)
    omega

/-- **Where the cursor stands** in a pane with room inside. Its column is that of the width in 16
bits. It stands at the end of the input if and only if that width is the true one or lies beyond the
pane. So among inputs of less than `2 ^ 16` columns, a wider one never moves it to the left. -/
theorem cursorAtEnd_iff (f : Frame) (a : Area) (s : Session) (hroom : a.inner.isEmpty = false) :
    (drawTerminal f a s).cursor =
        some (a.inner.x + min (inputWidth s % 2 ^ 16) (a.inner.width - 1),
          a.inner.y + min (a.inner.height - 1) s.transcript.length) ∧
      (CursorAtEnd f a s ↔
        inputWidth s < 2 ^ 16 ∨ a.inner.width - 1 ≤ inputWidth s % 2 ^ 16) ∧
      ∀ t : Session, inputWidth s ≤ inputWidth t → inputWidth t < 2 ^ 16 →
        (cursor s a.inner).1 ≤ (cursor t a.inner).1 := by
  have hcursor := cursor_drawTerminal hroom f s
  rw [cursor_eq] at hcursor
  refine ⟨hcursor, ?_, ?_⟩
  · rw [CursorAtEnd, hcursor, ← min_mod_eq_min_iff]
    simp
  · intro t hwider hnarrow
    have hnarrow' : inputWidth s < 2 ^ 16 := by omega
    simp only [cursor_eq, Nat.mod_eq_of_lt hnarrow, Nat.mod_eq_of_lt hnarrow']
    omega

/-- An input of 65541 columns, of which 16 bits keep five, reaches the last one of six columns. -/
theorem cursorAtEnd_iff_cut :
    let typed : Session := { id := 0, buffer := String.ofList (List.replicate 65539 'a') }
    let pane : Area := ⟨4, 0, 8, 3⟩
    pane.inner.isEmpty = false ∧ inputWidth typed = 65541 ∧
      CursorAtEnd (.blank 12 4) pane typed := by
  intro typed pane
  have hroom : pane.inner.isEmpty = false := by decide
  have hwidth : inputWidth typed = 65541 := inputWidth_replicate 65539
  obtain ⟨-, hend, -⟩ := cursorAtEnd_iff (.blank 12 4) pane typed hroom
  refine ⟨hroom, hwidth, hend.2 (.inr ?_)⟩
  rw [hwidth]
  decide

/-- In a pane of six columns, an input of 65535 columns has the cursor in the last column. With one
letter more it is back in the first one. -/
theorem not_cursorAtEnd_of_wide :
    let typed (n : Nat) : Session := { id := 0, buffer := String.ofList (List.replicate n 'a') }
    let pane : Area := ⟨4, 0, 8, 3⟩
    inputWidth (typed 65533) = 65535 ∧ inputWidth (typed 65534) = 65536 ∧
      (drawTerminal (.blank 12 4) pane (typed 65533)).cursor = some (10, 1) ∧
      (drawTerminal (.blank 12 4) pane (typed 65534)).cursor = some (5, 1) ∧
      ¬ CursorAtEnd (.blank 12 4) pane (typed 65534) := by
  intro typed pane
  have hroom : pane.inner.isEmpty = false := by decide
  have hbefore : inputWidth (typed 65533) = 65535 := inputWidth_replicate 65533
  have hafter : inputWidth (typed 65534) = 65536 := inputWidth_replicate 65534
  have hlast : (drawTerminal (.blank 12 4) pane (typed 65533)).cursor = some (10, 1) := by
    rw [cursor_drawTerminal hroom, cursor_eq, hbefore]
    rfl
  have hfirst : (drawTerminal (.blank 12 4) pane (typed 65534)).cursor = some (5, 1) := by
    rw [cursor_drawTerminal hroom, cursor_eq, hafter]
    rfl
  refine ⟨hbefore, hafter, hlast, hfirst, ?_⟩
  rw [CursorAtEnd, hfirst, hafter]
  decide

end View

end WorkspaceConsole

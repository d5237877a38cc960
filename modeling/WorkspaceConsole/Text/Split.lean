/-!
# Splitting at separators

`pieces` cuts a row of items at every separator, so that `n` separators give `n + 1` pieces, and
`runs` keeps the pieces that are not empty: the maximal runs free of separators. `joinWith` puts
pieces together again.

`lines` reads a text as lines: each ends at a line feed, which may have one carriage return before
it, and what follows the last line feed is a line only if it is not empty.
-/

namespace WorkspaceConsole.Text

variable {α : Type}

/-- Cuts at every item of the class `sep`. -/
def pieces (sep : α → Bool) : List α → List (List α)
  | [] => [[]]
  | c :: cs =>
    if sep c then [] :: pieces sep cs
    else match pieces sep cs with
      | [] => [[c]]
      | p :: ps => (c :: p) :: ps

/-- The maximal runs of items outside the class `sep`, in order. -/
def runs (sep : α → Bool) (cs : List α) : List (List α) :=
  (pieces sep cs).filter (!·.isEmpty)

/-- Puts `c` between consecutive pieces. -/
def joinWith (c : α) : List (List α) → List α
  | [] => []
  | [p] => p
  | p :: q :: ps => p ++ c :: joinWith c (q :: ps)

variable [DecidableEq α]

/-- Drops one `mark` at the end. -/
def dropFinal (mark : α) (p : List α) : List α :=
  if p.getLast? = some mark then p.dropLast else p

/-- The lines that a row of pieces stands for: all but the last were ended by a line feed. -/
def linesOfPieces (cr : α) : List (List α) → List (List α)
  | [] => []
  | [p] => if p.isEmpty then [] else [p]
  | p :: q :: ps => dropFinal cr p :: linesOfPieces cr (q :: ps)

/-- The lines of a row of items in which `lf` ends a line and `cr` may stand before it. -/
def linesWith (lf cr : α) (cs : List α) : List (List α) :=
  linesOfPieces cr (pieces (· == lf) cs)

/-- The lines of a text. -/
def lines (s : String) : List String :=
  (linesWith '\n' '\r' s.toList).map String.ofList

/-! ## Nothing is lost -/

omit [DecidableEq α] in
theorem pieces_ne_nil (sep : α → Bool) (cs : List α) : pieces sep cs ≠ [] := by
  cases cs with
  | nil => simp [pieces]
  | cons c cs =>
    unfold pieces
    split
    · simp
    · split <;> simp

/-- Cutting and joining at one item loses nothing. -/
theorem joinWith_pieces (c : α) (cs : List α) : joinWith c (pieces (· == c) cs) = cs := by
  induction cs with
  | nil => rfl
  | cons d ds ih =>
    have hne := pieces_ne_nil (· == c) ds
    cases hp : pieces (· == c) ds with
    | nil => exact absurd hp hne
    | cons p ps =>
      rw [hp] at ih
      by_cases hd : d = c
      · subst hd
        simp [pieces, hp, joinWith, ih]
      · cases ps with
        | nil => simp_all [pieces, joinWith]
        | cons q qs => simp_all [pieces, joinWith]

end WorkspaceConsole.Text

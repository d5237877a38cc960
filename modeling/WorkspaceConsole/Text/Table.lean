import WorkspaceConsole.Text.Split

/-!
# Tables of characters

A table says for each of many characters which characters, or numbers, belong to it. It is written
as rows with blanks between them; all numbers are hexadecimal. A row begins with a code point, or
with the first and the last of a range, and goes on in one of three ways:

- `41=61.62` gives every code point of the range the same numbers;
- `41-5A>61` gives the first code point 61, the next one 62, and so on;
- `100-12E/101` does so for every other code point of the range.
-/

namespace WorkspaceConsole.Text

/-- How the numbers of a row go with the code points of its range. -/
inductive Spread where
  | same
  | inStep
  | alternate
deriving DecidableEq, Repr

/-- A row of a table. -/
structure TableRow where
  first : Nat
  last : Nat
  spread : Spread
  numbers : List Nat
deriving DecidableEq, Repr

/-- A table, row by row. -/
abbrev Table := List TableRow

namespace TableRow

/-- The numbers that a row gives to a code point. -/
def value? (r : TableRow) (n : Nat) : Option (List Nat) :=
  if n < r.first || r.last < n then none
  else match r.spread with
    | .same => some r.numbers
    | .inStep => some (r.numbers.map (· + (n - r.first)))
    | .alternate =>
      if (n - r.first) % 2 = 0 then some (r.numbers.map (· + (n - r.first))) else none

/-- The value of a hexadecimal digit in upper case. -/
def digit (c : Char) : Nat :=
  if c.isDigit then c.toNat - '0'.toNat else c.toNat - 'A'.toNat + 10

/-- The number that a text begins with, and the rest. -/
def number (cs : List Char) : Nat × List Char :=
  ((cs.takeWhile Char.isAlphanum).foldl (fun n c => 16 * n + digit c) 0,
    cs.dropWhile Char.isAlphanum)

/-- Reads a row. -/
def ofChars (cs : List Char) : TableRow :=
  let (first, rest) := number cs
  let (last, rest) := match rest with
    | '-' :: rest => number rest
    | _ => (first, rest)
  let spread := match rest with
    | '>' :: _ => .inStep
    | '/' :: _ => .alternate
    | _ => .same
  ⟨first, last, spread, (pieces (· == '.') (rest.drop 1)).map fun p => (number p).1⟩

end TableRow

namespace Table

/-- Reads a table. -/
def ofText (s : String) : Table :=
  (runs (fun c => c == ' ' || c == '\n') s.toList).map TableRow.ofChars

/-- The numbers that a table gives to a character. -/
def value? (t : Table) (c : Char) : Option (List Nat) :=
  t.findSome? (·.value? c.toNat)

/-- The characters that a table gives to a character. -/
def image? (t : Table) (c : Char) : Option (List Char) :=
  (t.value? c).map (·.map Char.ofNat)

/-- The character to which a table gives just these two. -/
def ofPair? (t : Table) (a b : Char) : Option Char :=
  (t.find? (·.numbers == [a.toNat, b.toNat])).map fun r => Char.ofNat r.first

end Table

end WorkspaceConsole.Text

/-!
# Blank characters and trimming

The characters that count as blank are those with the Unicode property `White_Space`. A name may
hold none of them, and a command line is read without the blanks around it. The narrower class of
ASCII blanks separates the words of a line.
-/

namespace WorkspaceConsole.Text

/-- The characters with the Unicode property `White_Space`. -/
def isBlank (c : Char) : Bool :=
  let n := c.toNat
  (0x09 ≤ n && n ≤ 0x0D) || n == 0x20 || n == 0x85 || n == 0xA0 || n == 0x1680 ||
    (0x2000 ≤ n && n ≤ 0x200A) || n == 0x2028 || n == 0x2029 || n == 0x202F || n == 0x205F ||
    n == 0x3000

/-- The blanks that part the words of a line: space, tab, line feed, form feed, carriage return. -/
def isWordBreak (c : Char) : Bool :=
  c == ' ' || c == '\t' || c == '\n' || c == '\x0c' || c == '\r'

/-- The control characters, `Cc`. -/
def isControl (c : Char) : Bool :=
  c.toNat < 0x20 || (0x7F ≤ c.toNat && c.toNat < 0xA0)

/-- Drops the blanks at the end. -/
def trimRight (cs : List Char) : List Char :=
  (cs.reverse.dropWhile isBlank).reverse

/-- Drops the blanks at both ends. -/
def trim (cs : List Char) : List Char :=
  trimRight (cs.dropWhile isBlank)

/-- The text without the blanks at its ends. -/
def trimmed (s : String) : String :=
  String.ofList (trim s.toList)

/-- Every word break is a blank, so trimming also removes the word breaks at the ends. -/
theorem isBlank_of_isWordBreak {c : Char} (h : isWordBreak c = true) : isBlank c = true := by
  simp only [isWordBreak, Bool.or_eq_true, beq_iff_eq] at h
  rcases h with (((rfl | rfl) | rfl) | rfl) | rfl <;> decide

end WorkspaceConsole.Text

import WorkspaceConsole.Http.Domain.Mapping
import WorkspaceConsole.Http.Domain.Punycode
import WorkspaceConsole.Text.Composed
import WorkspaceConsole.Text.Joining
import WorkspaceConsole.Text.Mark

/-!
# Labels

A label is a part of the name of a server. It may hold letters of all scripts, under conditions that
keep names from being confused: `isWellFormed` is about a label on its own, and `keepsDirection` is
wanted of all labels of a name in which something is written from right to left.
-/

namespace WorkspaceConsole.Http.Domain

open Text

/-! ## Plain and written labels -/

/-- What a label outside ASCII begins with when it is written in plain letters. -/
def marker : List Char := ['x', 'n', '-', '-']

/-- The most characters of a label that are read, and that are written, in plain letters. -/
def longestRead : Nat := 2000

def longestWritten : Nat := 1000

/-- The label that is meant by a label as it is written. -/
def meant? (label : List Char) : Option (List Char) :=
  if marker.isPrefixOf label then
    let plain := label.drop marker.length
    if plain.isEmpty || plain.getLast? = some '-' || longestRead < plain.length then none
    else Punycode.decode? plain
  else some label

/-- A label in plain letters. -/
def plain? (label : List Char) : Option (List Char) :=
  if label.all (·.toNat < 0x80) then some label
  else if longestWritten < label.length then none
  else some (marker ++ Punycode.encode label)

/-! ## Conditions on a label -/

/-- The signs that may not stand in a name: they have a meaning elsewhere in an address. -/
def signs : List Char :=
  ['%', '#', '/', ':', '<', '>', '?', '@', '[', '\\', ']', '^', '|']

/-- Whether a character may not stand in a name although it is permitted outside ASCII names. -/
def isDenied (c : Char) : Bool :=
  c.toNat ≤ 0x20 || c.toNat = 0x7F || signs.contains c

/-- Whether a label is as it is after its characters have been replaced and composed. -/
def isSettled (label : List Char) : Bool :=
  (label.all fun c => image? c == some [c]) && composed label == label

/-- The combining class of the signs that take away the vowel of a consonant. -/
def vowelKiller : Nat := 9

/-- Whether the two joiners, which are not seen, stand only where they change how letters are drawn:
after a sign that takes away a vowel, or, for the one that separates, between letters that would
join. `before` is the text before the place, read from its end. -/
def joinersMatter (before : List Char) : List Char → Bool
  | [] => true
  | c :: rest =>
    let afterKiller := match before with
      | d :: _ => combiningClass d = vowelKiller
      | [] => false
    let between := (((before.dropWhile joinsThrough).head?.map joinsNext.contains).getD false) &&
      (((rest.dropWhile joinsThrough).head?.map joinsPrevious.contains).getD false)
    (c != '\u200D' || afterKiller) && (c != '\u200C' || afterKiller || between) &&
      joinersMatter (c :: before) rest

/-- Whether a label may stand in a name. -/
def isWellFormed (label : List Char) : Bool :=
  label.all (!isDenied ·) && isSettled label &&
    !((label.head?.map mark.contains).getD false) && joinersMatter [] label

/-! ## Directions -/

/-- The directions in which characters are written. -/
inductive Direction where
  | leftToRight
  | rightToLeft
  | europeanDigit
  | arabicDigit
  | neutral
  | nonspacing
deriving DecidableEq, Repr

/-- The direction of a character. -/
def Direction.of (c : Char) : Direction :=
  if Text.rightToLeft.contains c then .rightToLeft
  else if Text.europeanDigit.contains c then .europeanDigit
  else if Text.arabicDigit.contains c then .arabicDigit
  else if Text.neutral.contains c then .neutral
  else if Text.nonspacing.contains c then .nonspacing
  else .leftToRight

/-- Whether something in a label is written from right to left. -/
def turnsLeft (label : List Char) : Bool :=
  label.any fun c => [Direction.rightToLeft, .arabicDigit].contains (.of c)

/-- Whether a label is read in one direction: it begins with a letter of that direction, holds no
letter of the other, and ends, but for marks, in such a letter or in a digit. From right to left,
only one kind of digits may occur. -/
def keepsDirection (label : List Char) : Bool :=
  let directions := label.map Direction.of
  let last := (directions.reverse.dropWhile (· = .nonspacing)).head?
  match directions.head? with
  | none => true
  | some .leftToRight =>
    !directions.any [.rightToLeft, .arabicDigit].contains &&
      [some Direction.leftToRight, some .europeanDigit].contains last
  | some .rightToLeft =>
    !directions.contains .leftToRight &&
      [some Direction.rightToLeft, some .europeanDigit, some .arabicDigit].contains last &&
      !(directions.contains .europeanDigit && directions.contains .arabicDigit)
  | some _ => false

end WorkspaceConsole.Http.Domain

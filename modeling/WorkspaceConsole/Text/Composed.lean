import WorkspaceConsole.Text.Composite

/-!
# Composed texts

The same text can be written with composite characters or with their parts. `composed` gives the
form in which no two characters could be one: each character is taken apart (`parts`), marks are put
into the order of their classes (`ordered`), and what has a composite is put together again
(`join`).
-/

namespace WorkspaceConsole.Text

/-! ## Syllables of Hangul -/

/-- The first syllable, and the points just before the first letter of each of the three kinds. -/
def firstSyllable : Nat := 0xAC00

def firstInitial : Nat := 0x1100

def firstVowel : Nat := 0x1161

/-- The point before the first final letter: a syllable without one has this in its place. -/
def noFinal : Nat := 0x11A7

/-- The letters of a syllable. -/
def lettersOf? (c : Char) : Option (List Char) :=
  let n := c.toNat - firstSyllable
  if firstSyllable ≤ c.toNat && n < 19 * 21 * 28 then
    let final := n % 28
    let letters := [firstInitial + n / (21 * 28), firstVowel + n / 28 % 21]
    some ((if final = 0 then letters else letters ++ [noFinal + final]).map Char.ofNat)
  else none

/-- The syllable of two letters, or of a syllable without a final letter and such a letter. -/
def syllable? (a b : Char) : Option Char :=
  if firstInitial ≤ a.toNat && a.toNat < firstInitial + 19 &&
      firstVowel ≤ b.toNat && b.toNat < firstVowel + 21 then
    let number := (a.toNat - firstInitial) * 21 + (b.toNat - firstVowel)
    some (Char.ofNat (firstSyllable + 28 * number))
  else if firstSyllable ≤ a.toNat && a.toNat < firstSyllable + 19 * 21 * 28 &&
      (a.toNat - firstSyllable) % 28 = 0 && noFinal < b.toNat && b.toNat < noFinal + 28 then
    some (Char.ofNat (a.toNat + (b.toNat - noFinal)))
  else none

/-! ## Taking apart -/

/-- The parts of a character in `steps` steps at most. -/
def partsWithin (steps : Nat) (c : Char) : List Char :=
  match steps with
  | 0 => [c]
  | steps + 1 =>
    match lettersOf? c with
    | some letters => letters
    | none =>
      match composites.image? c with
      | some cs => cs.flatMap (partsWithin steps)
      | none => [c]

/-- The parts of a character. No character takes more than four steps. -/
def partsOf (c : Char) : List Char :=
  partsWithin 4 c

/-! ## The order of marks -/

/-- Puts a character in front of a text that is read from its end: before it go the marks of higher
classes. -/
def placeMark (c : Char) : List Char → List Char
  | [] => [c]
  | d :: ds =>
    if combiningClass c != 0 && combiningClass c < combiningClass d then d :: placeMark c ds
    else c :: d :: ds

/-- Puts the marks after each character into the order of their classes. -/
def ordered (cs : List Char) : List Char :=
  (cs.foldl (fun done c => placeMark c done) []).reverse

/-! ## Putting together -/

/-- A text that is being put together: what is done, the last character that is no mark, and the
marks after it that stay on their own; all that is read from the end. -/
structure Composing where
  done : List Char
  base : Option Char
  marks : List Char

namespace Composing

/-- What is put together so far, read from the end. -/
def all (s : Composing) : List Char :=
  s.marks ++ s.base.toList ++ s.done

/-- Whether a character touches the base: no mark of its class or a higher one is in between. -/
def touches (s : Composing) (c : Char) : Bool :=
  match s.marks with
  | [] => true
  | mark :: _ => combiningClass mark < combiningClass c

/-- The base with a character that touches it. -/
def joined? (s : Composing) (c : Char) : Option Char :=
  s.base.bind fun base =>
    if s.touches c then (syllable? base c).or (composites.ofPair? base c) else none

/-- Goes on to the next character. -/
def step (s : Composing) (c : Char) : Composing :=
  match s.joined? c with
  | some base => { s with base := some base }
  | none =>
    if combiningClass c = 0 then ⟨s.all, some c, []⟩ else { s with marks := c :: s.marks }

end Composing

/-- Puts together what has a composite character. -/
def join (cs : List Char) : List Char :=
  (cs.foldl Composing.step ⟨[], none, []⟩).all.reverse

/-- The composed form of a text. -/
def composed (cs : List Char) : List Char :=
  join (ordered (cs.flatMap partsOf))

end WorkspaceConsole.Text

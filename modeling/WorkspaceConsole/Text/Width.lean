import WorkspaceConsole.Text.Emoji
import WorkspaceConsole.Text.Wide

/-!
# Display width

How many columns of a screen a text takes. A character takes one, a wide one two and a mark none.
Some characters take what they take only together: an emoji sequence takes two columns, however many
characters it consists of, and in several scripts two letters, or a sign and a letter, are drawn as
one.

The width is summed up from the end of the text, since what a character takes hangs on what follows
it. `Ahead` is what has to be known of that.
-/

namespace WorkspaceConsole.Text

/-! ## Single characters -/

/-- The selector that asks for the emoji form of the character before it. -/
def emojiSelector : Char := '\uFE0F'

/-- The selector that asks for the text form of the character before it. -/
def textSelector : Char := '\uFE0E'

/-- The character that joins others. -/
def joiner : Char := '\u200D'

/-- The keycap that encloses the character before it. -/
def keycap : Char := '\u20E3'

/-- The flag that tags may follow. -/
def taggedFlag : Char := Char.ofNat 0x1F3F4

/-- The tag that ends a row of tags. -/
def lastTag : Char := Char.ofNat 0xE007F

/-- Whether a code point lies between two others, or is one of them. -/
def isBetween (low high : Nat) (c : Char) : Bool :=
  low ≤ c.toNat && c.toNat ≤ high

/-- A skin tone. -/
def isSkinTone (c : Char) : Bool :=
  isBetween 0x1F3FB 0x1F3FF c

/-- A regional indicator; two of them stand for a flag. -/
def isRegional (c : Char) : Bool :=
  isBetween 0x1F1E6 0x1F1FF c

/-- A tag in the place of a letter. -/
def isLetterTag (c : Char) : Bool :=
  isBetween 0xE0061 0xE007A c

/-- A tag in the place of a digit. -/
def isDigitTag (c : Char) : Bool :=
  isBetween 0xE0030 0xE0039 c

/-- The forms of the Arabic letter alef. -/
def isAlef (c : Char) : Bool :=
  [0x622, 0x623, 0x625, 0x627, 0x671, 0x672, 0x673, 0x675, 0x773, 0x774].contains c.toNat ||
    isBetween 0x870 0x882 c

/-- The forms of the Arabic letter lam. -/
def isLam (c : Char) : Bool :=
  [0x644, 0x76A, 0x8A6, 0x8C7].contains c.toNat || isBetween 0x6B5 0x6B8 c

/-- The Khmer letters that can be written below another one. -/
def isKhmerSubscript (c : Char) : Bool :=
  isBetween 0x1780 0x1782 c || isBetween 0x1784 0x1787 c || isBetween 0x1789 0x178C c ||
    isBetween 0x178E 0x1793 c || isBetween 0x1795 0x1798 c || isBetween 0x179B 0x179D c ||
    [0x17A0, 0x17A2, 0x17A7, 0x17AB, 0x17AC, 0x17AF].contains c.toNat

/-- The Tifinagh letters that can be joined in pairs. -/
def isTifinagh (c : Char) : Bool :=
  isBetween 0x2D31 0x2D65 c || c.toNat = 0x2D6F

/-- The marks without effect of their own that may stand within a pair of joined letters. -/
def isIgnoredMark (c : Char) : Bool :=
  [0x34F, 0x17B4, 0x17B5, 0x180B, 0x180C, 0x180D, 0x180F].contains c.toNat ||
    isBetween 0xFE00 0xFE0F c || isBetween 0xE0100 0xE01EF c

/-- The columns that a character takes by itself. -/
def charWidth (c : Char) : Nat :=
  if c = '\n' then 0
  else if c.toNat ≤ 0xA0 then 1
  else if isRegional c then 1
  else if isSkinTone c || emojiPresentation.contains c then 2
  else if c.toNat = 0x17D8 then 3
  else if zeroWidth.contains c then 0
  else if wide.contains c then 2
  else 1

/-! ## What lies ahead -/

/-- The tags read so far from the end of a row: letters only, or digits in front of letters. -/
inductive TagRow where
  | letters (count : Nat)
  | digits (count : Nat)
deriving DecidableEq, Repr

/-- The second part of a pair that is drawn as one. -/
inductive PairEnd where
  | lamed
  | ya
  | vowelAndYa
  | tifinagh
  | joinedTifinagh
  | lisuTone
  | orkhon
  | khmer
deriving DecidableEq, Repr

/-- How the text ahead begins. After a joiner, the regional indicators of a flag are told apart by
whether their number is even. -/
inductive Shape where
  | plain
  | lineFeed
  | skinTone
  | regional
  | regionals
  | emoji
  | joined
  | joinedKeycap
  | joinedRegional
  | joinedEven
  | joinedOdd
  | joinedTags (row : TagRow)
  | alef
  | pair (second : PairEnd) (isJoined : Bool)
deriving DecidableEq, Repr

/-- A selector that stands first in the text ahead. -/
inductive Selector where
  | text
  | emoji
deriving DecidableEq, Repr

/-- What is known of the text ahead. A selector may stand in front of what the shape tells. -/
structure Ahead where
  shape : Shape := .plain
  selector : Option Selector := none
deriving DecidableEq, Repr

namespace Shape

/-- Whether letters ahead can still be joined to those before a selector. -/
def isLetter : Shape → Bool
  | .alef | .pair _ _ => true
  | _ => false

/-- Whether an emoji sequence ahead can go on before an emoji selector. -/
def isOpenSequence : Shape → Bool
  | .joined | .joinedKeycap => true
  | _ => false

/-- How a text begins with a character that is joined to nothing. -/
def ofChar (c : Char) : Shape :=
  if c = '\n' then .lineFeed
  else if c.toNat = 0x5DC then .pair .lamed false
  else if isAlef c then .alef
  else if isKhmerSubscript c then .pair .khmer false
  else if c.toNat = 0x1A10 then .pair .ya false
  else if isTifinagh c then .pair .tifinagh false
  else if isBetween 0xA4FC 0xA4FD c then .pair .lisuTone false
  else if c.toNat = 0x10C03 then .pair .orkhon false
  else if isRegional c then .regional
  else if isSkinTone c then .skinTone
  else if emojiPresentation.contains c then .emoji
  else .plain

/-- The row of tags with one more in front. -/
def tagged? (c : Char) : TagRow → Option TagRow
  | .letters n =>
    if isLetterTag c && n < 6 then some (.letters (n + 1))
    else if isDigitTag c && n < 5 then some (.digits 1)
    else none
  | .digits n => if isDigitTag c && n < 3 then some (.digits (n + 1)) else none

/-- Whether a row of tags is one that may follow a flag. -/
def isWholeRow : TagRow → Bool
  | .letters n => 3 ≤ n
  | .digits n => n = 3

/-- What a character adds to the width in front of the second part of a pair, if it belongs to the
pair. -/
def pairWith? (c : Char) (isJoined : Bool) : PairEnd → Option (Int × Shape)
  | .lamed => if isJoined && c.toNat = 0x5D0 then some (0, .plain) else none
  | .ya => if isJoined && c.toNat = 0x1A17 then some (0, .pair .vowelAndYa false) else none
  | .vowelAndYa => if c.toNat = 0x1A15 then some (0, .plain) else none
  | .tifinagh =>
    if c.toNat = 0x2D7F then some (1, .pair .joinedTifinagh false)
    else if isJoined && isTifinagh c then some (0, .plain)
    else none
  | .joinedTifinagh => if isTifinagh c then some (-1, .plain) else none
  | .lisuTone => if isBetween 0xA4F8 0xA4FB c then some (0, .plain) else none
  | .orkhon => if isJoined && c.toNat = 0x10C32 then some (0, .plain) else none
  | .khmer => if c.toNat = 0x17D2 then some (-1, .plain) else none

/-- What a character adds to the width if it is joined to the text ahead, and how the text begins
then. -/
def join? (c : Char) : Shape → Option (Int × Shape)
  | .plain | .lineFeed | .joinedKeycap => none
  | .alef =>
    if isLam c then some (0, .plain)
    else if joiningTransparent.contains c then some (0, .alef)
    else none
  | .pair second isJoined =>
    if c = joiner then some (0, .pair second true)
    else if isIgnoredMark c then some (0, .pair second isJoined)
    else pairWith? c isJoined second
  | .skinTone =>
    if emojiModifierBase.contains c then some (0, .emoji)
    else if c = joiner then some (0, .joined)
    else none
  | .emoji => if c = joiner then some (0, .joined) else none
  | .regional => if isRegional c then some (1, .regionals) else none
  | .regionals =>
    if isRegional c then some (1, .regionals) else if c = joiner then some (0, .joined) else none
  | .joinedRegional => if isRegional c then some (-1, .joinedEven) else none
  | .joinedEven =>
    if isRegional c then some (3, .joinedOdd) else if c = joiner then some (0, .joined) else none
  | .joinedOdd =>
    if isRegional c then some (-1, .joinedEven) else if c = joiner then some (0, .joined) else none
  | .joined =>
    if c = keycap then some (0, .joinedKeycap)
    else if isRegional c then some (1, .joinedRegional)
    else if isSkinTone c then some (0, .skinTone)
    else if c = lastTag then some (0, .joinedTags (.letters 0))
    else if emojiPresentation.contains c then some (0, .emoji)
    else none
  | .joinedTags row =>
    match tagged? c row with
    | some row => some (0, .joinedTags row)
    | none => if isWholeRow row && c = taggedFlag then some (0, .emoji) else none

end Shape

/-! ## Whole texts -/

/-- Whether a character has a text form that is narrower than its emoji form. -/
def hasTextForm (c : Char) : Bool :=
  styledEmoji.contains c && emojiPresentation.contains c && !isBetween 0x1F200 0x1F2FF c

/-- What a character adds to the width in front of a text that begins with no selector. -/
def widthBefore (c : Char) (s : Shape) : Int × Ahead :=
  if c = '\r' && s = .lineFeed then (0, {})
  else if c.toNat ≤ 0xA0 then (charWidth c, { shape := .ofChar c })
  else if c = emojiSelector then
    (0, { shape := if s.isLetter || s.isOpenSequence then s else .plain, selector := some .emoji })
  else if c = textSelector then
    (0, { shape := if s.isLetter then s else .plain, selector := some .text })
  else match s.join? c with
    | some (n, s) => (n, { shape := s })
    | none => (charWidth c, { shape := .ofChar c })

/-- What a character adds to the width in front of a text. A selector ahead either makes the
character an emoji, or a text, or has no effect. -/
def widthStep (c : Char) (a : Ahead) : Int × Ahead :=
  match a.selector with
  | none => widthBefore c a.shape
  | some .emoji =>
    if styledEmoji.contains c then (if a.shape.isOpenSequence then 0 else 2, { shape := .emoji })
    else widthBefore c (if a.shape.isLetter then a.shape else .plain)
  | some .text =>
    if 0xA0 < c.toNat && hasTextForm c then (1, {}) else widthBefore c a.shape

/-- The columns that a text takes, and how it begins. -/
def measure : List Char → Int × Ahead
  | [] => (0, {})
  | c :: cs =>
    let (n, a) := measure cs
    let (m, a) := widthStep c a
    (m + n, a)

/-- The columns that a text takes. -/
def width (cs : List Char) : Nat :=
  (measure cs).1.toNat

end WorkspaceConsole.Text

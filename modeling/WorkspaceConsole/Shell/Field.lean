import WorkspaceConsole.Shell.Pattern

/-!
# Fields

A word expands to stretches of text. What a substitution yields outside quotes is split at
separators; the arguments that quotes enclose are split only between each other. `splitFields` cuts
stretches into fields, and into no more than a number of them where a line is shared out.
-/

namespace WorkspaceConsole.Shell

/-- An item of an expanded word: a character, the mark of a quote, or the gap between two arguments.
A mark keeps a field that has no characters. -/
inductive Item where
  | char (c : Char) (quoted : Bool)
  | mark
  | gap
deriving DecidableEq, Repr

/-- How a stretch is split: not at all, at separators, or only at gaps. -/
inductive Splitting where
  | whole
  | fields
  | arguments
deriving DecidableEq, Repr

/-- A stretch of an expanded word. -/
structure Stretch where
  splitting : Splitting
  items : List Item
deriving DecidableEq, Repr

namespace Item

/-- The items of a text. -/
def ofOctets (quoted : Bool) (s : Octets) : List Item :=
  s.map (char · quoted)

/-- The characters of a row of items, marked as quoted or not. -/
def marked (items : List Item) : MarkedText :=
  items.filterMap fun item =>
    match item with
    | .char c quoted => some (c, quoted)
    | .mark | .gap => none

/-- The text of a row of items. -/
def text (items : List Item) : Octets :=
  (marked items).map Prod.fst

/-- The text of a row of items, with a zero byte for each gap. -/
def gappedText (items : List Item) : Octets :=
  items.filterMap fun item =>
    match item with
    | .char c _ => some c
    | .mark => none
    | .gap => some '\x00'

/-- The items of a text with a zero byte for each gap. -/
def ofGappedText (quoted : Bool) (s : Octets) : List Item :=
  s.map fun c => if c = '\x00' then .gap else .char c quoted

/-- Whether an item ends a field. -/
def isSeparator (separators : Octets) : Item → Bool
  | .char c _ => separators.contains c
  | .mark => false
  | .gap => true

/-- Whether an item is a gap or a blank. -/
def isBlank : Item → Bool
  | .char c _ => c == ' ' || c == '\t' || c == '\n'
  | .mark => false
  | .gap => true

end Item

namespace Stretch

/-- The items of a row of stretches. -/
def allItems (stretches : List Stretch) : List Item :=
  stretches.flatMap items

/-- The text of a row of stretches. -/
def text (stretches : List Stretch) : Octets :=
  Item.text (allItems stretches)

/-- The stretch of what a substitution yields. -/
def ofResult (quoted : Bool) (s : Octets) : Stretch :=
  ⟨if quoted then .whole else .fields, Item.ofOctets quoted s⟩

end Stretch

/-- Fields in the making: those done, the one begun, whether a blank ended the last one, and how
many fields may still be cut off. Once there are none, `keep` is how much of the last field stays if
nothing but separators follows. -/
structure FieldState where
  done : Array (List Item) := #[]
  current : Array Item := #[]
  afterBlank : Bool := false
  limit : Option Nat := none
  keep : Option Nat := none
  onlyGaps : Bool := false

namespace FieldState

/-- Takes an item of the last field. -/
def stepLast (f : FieldState) (item : Item) (isSeparator isBlank : Bool) : FieldState :=
  let current := f.current.push item
  if isBlank then { f with current, keep := some (f.keep.getD f.current.size) }
  else
    { f with
      current
      keep := if isSeparator && f.afterBlank then f.keep else none
      afterBlank := false }

/-- Takes an item that separates if it is a separator; `plain` says that blanks separate like all
other characters. -/
def stepOpen (f : FieldState) (plain : Bool) (item : Item) (isSeparator isBlank : Bool) :
    FieldState :=
  if !isSeparator then { f with current := f.current.push item, afterBlank := false }
  else
    let afterBlank := if plain then f.afterBlank else isBlank
    if f.current.isEmpty && afterBlank then { f with afterBlank := false }
    else if f.limit = some 1 then
      { f with
        limit := some 0, keep := some f.current.size, current := f.current.push item, afterBlank }
    else
      { f with
        done := f.done.push f.current.toList, current := #[], afterBlank
        limit := f.limit.map (· - 1) }

/-- Takes an item of a stretch that is split. -/
def step (separators : Octets) (plain : Bool) (f : FieldState) (item : Item) : FieldState :=
  let isSeparator := item.isSeparator separators
  let isBlank := isSeparator && item.isBlank
  if f.limit = some 0 then f.stepLast item isSeparator isBlank
  else if f.afterBlank then
    let f := { f with current := #[] }
    if isBlank then f
    else if isSeparator then { f with afterBlank := false }
    else { f with current := #[item], afterBlank := false }
  else f.stepOpen plain item isSeparator isBlank

/-- Takes a stretch. -/
def stretch (separators : Octets) (f : FieldState) (s : Stretch) : FieldState :=
  match s.splitting with
  | .whole => { f with current := f.current ++ s.items.toArray }
  | splitting =>
    let onlyGaps := splitting = .arguments
    let start := { f with onlyGaps, afterBlank := false }
    s.items.foldl (step (if onlyGaps then [] else separators) (onlyGaps || f.onlyGaps)) start

/-- The fields in the end. -/
def finish (f : FieldState) : List (List Item) :=
  let last := match f.keep with
    | some n => f.current.toList.take n
    | none => f.current.toList
  if last.isEmpty && !f.onlyGaps then f.done.toList else f.done.toList ++ [last]

end FieldState

/-- Splits stretches into fields, into at most `limit` of them if it is given. -/
def splitFields (separators : Octets) (limit : Option Nat) (stretches : List Stretch) :
    List (List Item) :=
  (stretches.foldl (FieldState.stretch separators) { limit }).finish

end WorkspaceConsole.Shell

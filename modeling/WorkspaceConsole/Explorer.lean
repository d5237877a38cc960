import WorkspaceConsole.Arithmetic
import WorkspaceConsole.Store

/-!
# The explorer

The explorer shows the rows of the tree through a window: it remembers which folders are expanded,
which row is selected, how high the window is and at which row it starts. It also remembers the
version of the store from which the rows come, so that it need not build them again before the store
changes.

Heights and moves may be as large as a word allows, so what the operations come to depends on an
`Arithmetic`. They take each sum and each difference where it is needed, and in that order;
subtractions that stop at zero are no differences.
-/

namespace WorkspaceConsole

/-- The state of the view on the tree. -/
structure Explorer where
  expanded : List String := []
  rows : List Row := []
  selected : Option Nat := none
  viewHeight : Nat := 10
  scroll : Nat := 0
  version : Option UInt64 := none
deriving Repr, Inhabited

namespace Explorer

/-- Moves the window up until it is filled, as far as there are rows. -/
def clampScroll (e : Explorer) : Explorer :=
  { e with scroll := min e.scroll (e.rows.length - max e.viewHeight 1) }

/-- Whether the folder with a path key is expanded. -/
def isExpanded (e : Explorer) (key : String) : Bool :=
  e.expanded.contains key

/-- The selected row. -/
def selectedRow? (e : Explorer) : Option Row :=
  e.selected.bind fun index => e.rows[index]?

variable {m : Type → Type} [Monad m] (A : Arithmetic m)

/-- Moves the window as little as needed to have a row in it. Where the window ends is asked only if
the row is not above it. -/
def keepRowVisible (e : Explorer) (index : Nat) : m Explorer :=
  let height := max e.viewHeight 1
  if index < e.scroll then pure { e with scroll := index }.clampScroll
  else do
    let bottom ← A.add e.scroll height
    if bottom ≤ index then
      let next ← A.add index 1
      let scroll ← A.sub next height
      pure { e with scroll }.clampScroll
    else pure e.clampScroll

/-- Moves the window to the selected row, if there is one. -/
def settle (e : Explorer) : m Explorer :=
  match e.selected with
  | some index => e.keepRowVisible A index
  | none => pure e.clampScroll

/-- The selection among `count` new rows: one beyond the last row moves to the last row. -/
def reselect (count : Nat) : Option Nat → m (Option Nat)
  | none => pure none
  | some index =>
    if count = 0 then pure none
    else do
      let last ← A.sub count 1
      pure (some (min index last))

/-- Builds the rows from the store, and moves the window that the old rows have left. -/
def rebuild (e : Explorer) (s : Store) : m Explorer := do
  let rows := s.roots.rows e.expanded
  let selected ← reselect A rows.length e.selected
  { e with rows, selected, version := some s.version }.settle A

/-- Builds the rows if the version `seen` is a new one, and says whether it did. The version is read
before the rows are, so the store may be a `later` one then. -/
def refreshAcross (e : Explorer) (seen : UInt64) (later : Store) : m (Bool × Explorer) :=
  if e.version = some seen then pure (false, e)
  else do
    let e' ← e.rebuild A later
    pure (true, e')

/-- Builds the rows if the store has changed since, and says whether it did. -/
def refresh (e : Explorer) (s : Store) : m (Bool × Explorer) :=
  e.refreshAcross A s.version s

/-- Expands or collapses a folder, and says whether that made a difference. -/
def setExpanded (e : Explorer) (key : String) (expanded : Bool) (s : Store) :
    m (Bool × Explorer) :=
  if e.isExpanded key = expanded then pure (false, e)
  else do
    let keys := if expanded then key :: e.expanded else e.expanded.filter (· ≠ key)
    let e' ← { e with expanded := keys }.rebuild A s
    pure (true, e')

/-- Expands or collapses the selected folder. -/
def toggleSelected (e : Explorer) (s : Store) : m (Bool × Explorer) :=
  match e.selectedRow? with
  | none => pure (false, e)
  | some row =>
    match row.kind with
    | .folder expanded => e.setExpanded A row.key (!expanded) s
    | .file _ => pure (false, e)

/-- Sets the height of the window, which is at least one, and says whether it changed. The window
starts where it did for the old height until it is moved. -/
def setViewHeight (e : Explorer) (height : Nat) : m (Bool × Explorer) :=
  let height := max height 1
  if e.viewHeight = height then pure (false, e)
  else do
    let e' ← { e with viewHeight := height }.settle A
    pure (true, e')

/-- Where a selection comes to lie that moves by `delta`, within `count` rows. Without a selection,
moving up starts from the end and moving down at the first row. The way up stops at zero by
itself. -/
def target (count : Nat) (selected : Option Nat) (delta : Int) : m Nat :=
  match selected with
  | none => if delta < 0 then A.sub count 1 else pure 0
  | some index =>
    if delta < 0 then pure (index - delta.natAbs)
    else do
      let sum ← A.add index delta.natAbs
      let last ← A.sub count 1
      pure (min sum last)

/-- Moves the selection, and says whether it changed. -/
def moveSelection (e : Explorer) (delta : Int) : m (Bool × Explorer) :=
  if e.rows.isEmpty ∨ delta = 0 then pure (false, e)
  else do
    let index ← target A e.rows.length e.selected delta
    if e.selected = some index then pure (false, e)
    else
      let e' ← { e with selected := some index }.keepRowVisible A index
      pure (true, e')

/-- The rows in the window, from where it starts to where it ends. -/
def visibleRows (e : Explorer) : m (List Row) := do
  let start := min e.scroll e.rows.length
  let stop ← A.add start (max e.viewHeight 1)
  pure ((e.rows.take (min stop e.rows.length)).drop start)

end Explorer

end WorkspaceConsole

import WorkspaceConsole.Explorer
import WorkspaceConsole.Screen.Frame
import WorkspaceConsole.Session

/-!
# The view

The explorer stands on the left, the terminal on the right, and a status line at the bottom. What
the panes show is given as lines; the frame takes care of where they go.
-/

namespace WorkspaceConsole.View

/-! ## What the panes show -/

/-- The mark in front of a name: whether the folder is expanded, or that it is a file. -/
def marker : RowKind → String
  | .folder true => "▾ "
  | .folder false => "▸ "
  | .file _ => "  "

/-- The text of a row: indented by its depth, with a mark in front of the name. -/
def rowText (row : Row) : String :=
  String.ofList (List.replicate (2 * row.depth.toNat) ' ') ++ marker row.kind ++ row.name

/-- The style of a row. -/
def rowStyle (row : Row) (selected : Bool) : Style :=
  { colour := if row.isFolder then .cyan else .standard, reversed := selected }

/-- The lines for rows of which the first has position `index`. -/
def rowLines (selected : Option Nat) (index : Nat) : List Row → List StyledLine
  | [] => []
  | row :: rows =>
    .ofString (rowText row) (rowStyle row (selected = some index)) ::
      rowLines selected (index + 1) rows

/-- The lines of the explorer pane. -/
def explorerLines (e : Explorer) : List StyledLine :=
  rowLines e.selected e.scroll (e.visibleRows .natural).run

/-- The entries of the transcript that fit above the prompt in a pane of some height. -/
def recentEntries (s : Session) (height : Nat) : List String :=
  s.transcript.drop (s.transcript.length - min (height - 1) s.transcript.length)

/-- They leave one row of the pane free. -/
theorem length_recentEntries (s : Session) (height : Nat) :
    (recentEntries s height).length = min (height - 1) s.transcript.length := by
  rw [recentEntries, List.length_drop]
  omega

/-- The prompt and the buffer. -/
def inputText (s : Session) : String :=
  s.prompt ++ s.buffer

/-- An entry of the transcript: line breaks within it do not show. -/
def entryLine (entry : String) : StyledLine :=
  ⟨(Text.lines entry).map String.toList, {}⟩

/-- The lines of the terminal pane. -/
def terminalLines (s : Session) (height : Nat) : List StyledLine :=
  (recentEntries s height).map entryLine ++ [.ofString (inputText s) { bold := true }]

/-- The cursor stands behind the input, as far as the pane reaches. The width of the input is kept
in 16 bits. -/
def cursor (s : Session) (inside : Area) : Nat × Nat :=
  let column := (Text.width (inputText s).toList).toUInt16.toNat
  (inside.x + min column (inside.width - 1), inside.y + (recentEntries s inside.height).length)

/-- The status line. -/
def statusText (label : String) (s : Session) : String :=
  label ++ " | " ++ (if s.cwd.isRoot then "/" else s.cwd.display) ++
    (if s.isBusy then " | running" else "") ++ " | Esc quit  Up/Down select  Tab expand"

/-! ## Where they go -/

/-- The areas of a screen. -/
structure Layout where
  explorer : Area
  terminal : Area
  status : Area
deriving DecidableEq, Repr

/-- The last row is for the status; of the rest, the explorer gets three tenths of the width,
rounded to the nearest column and up at a half. -/
def layout (width height : Nat) : Layout :=
  let body := height - 1
  let left := (3 * width + 5) / 10
  { explorer := ⟨0, 0, left, body⟩
    terminal := ⟨left, 0, width - left, body⟩
    status := ⟨0, body, width, height - body⟩ }

/-- Draws the explorer, whose window takes the height of the pane. -/
def drawExplorer (f : Frame) (a : Area) (e : Explorer) : Frame × Explorer :=
  let f := f.paintBox a "Explorer"
  let (_, e) := (e.setViewHeight .natural a.inner.height).run
  (f.paint a.inner (explorerLines e), e)

/-- Draws the terminal. Without room inside the border there is no cursor. -/
def drawTerminal (f : Frame) (a : Area) (s : Session) : Frame :=
  let f := f.paintBox a "Terminal"
  if a.inner.isEmpty then f
  else { f.paint a.inner (terminalLines s a.inner.height) with cursor := some (cursor s a.inner) }

/-- Draws the status line. -/
def drawStatus (f : Frame) (a : Area) (label : String) (s : Session) : Frame :=
  f.paint a [.ofString (statusText label s) { colour := .darkGrey }]

/-- Draws everything on a screen of the given size. -/
def draw (width height : Nat) (s : Session) (e : Explorer) (label : String) : Frame × Explorer :=
  let (columns, rows) := Frame.sizeFor width height
  let areas := layout columns rows
  let (f, e) := drawExplorer (.blank width height) areas.explorer e
  let f := drawTerminal f areas.terminal s
  (drawStatus f areas.status label s, e)

end WorkspaceConsole.View

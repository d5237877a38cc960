import WorkspaceConsole.Text.Cluster
import WorkspaceConsole.Text.Width

/-!
# Frames

A frame is a grid of cells, each with what it shows and in which style. Text is painted on a row of
an area: a cluster takes the cells of its width, one that would cross the right edge ends the row,
and one without width is left out.
-/

namespace WorkspaceConsole

/-- The colours in use. -/
inductive Colour where
  | standard
  | cyan
  | darkGrey
deriving DecidableEq, Repr, Inhabited

/-- How a cell looks. -/
structure Style where
  colour : Colour := .standard
  bold : Bool := false
  reversed : Bool := false
deriving DecidableEq, Repr, Inhabited

/-- A cell with the cluster that it shows. -/
structure Cell where
  symbol : List Char := [' ']
  style : Style := {}
deriving DecidableEq, Repr, Inhabited

/-- A rectangle of cells. -/
structure Area where
  x : Nat
  y : Nat
  width : Nat
  height : Nat
deriving DecidableEq, Repr, Inhabited

namespace Area

/-- What is left inside a border. -/
def inner (a : Area) : Area :=
  ⟨min (a.x + 1) (a.x + a.width), min (a.y + 1) (a.y + a.height), a.width - 2, a.height - 2⟩

/-- Whether an area has no cells. -/
def isEmpty (a : Area) : Bool :=
  a.width = 0 || a.height = 0

end Area

/-- A line of text in one style. It may come in pieces, which are cut into clusters one by one. -/
structure StyledLine where
  pieces : List (List Char)
  style : Style := {}
deriving DecidableEq, Repr, Inhabited

/-- A line of one piece. -/
def StyledLine.ofString (text : String) (style : Style) : StyledLine :=
  ⟨[text.toList], style⟩

/-- A grid of cells, row by row, and where the cursor is shown. -/
structure Frame where
  rows : Array (Array Cell)
  cursor : Option (Nat × Nat) := none
deriving Repr, Inhabited

namespace Frame

/-- The largest number whose square does not exceed `n`. -/
def squareRoot (n : Nat) : Nat :=
  if h : n = 0 then 0
  else
    let k := 2 * squareRoot (n / 4)
    if (k + 1) * (k + 1) ≤ n then k + 1 else k
termination_by n
decreasing_by omega

/-- The most cells that a frame can have. -/
def maxCells : Nat := 65535

/-- The width and height of the frame for a screen: those of the screen, or if it has too many cells
the largest ones of the same proportion. -/
def sizeFor (width height : Nat) : Nat × Nat :=
  if width * height ≤ maxCells then (width, height)
  else (squareRoot (maxCells * width / height), squareRoot (maxCells * height / width))

/-- A frame of blank cells for a screen. -/
def blank (width height : Nat) : Frame :=
  let (width, height) := sizeFor width height
  { rows := Array.replicate height (Array.replicate width {}) }

/-- Shows a cluster in a cell. -/
def put (f : Frame) (x y : Nat) (symbol : List Char) (style : Style) : Frame :=
  { f with rows := f.rows.modify y fun row => row.modify x fun _ => ⟨symbol, style⟩ }

/-- The clusters of a line; line feeds are not among them. -/
def glyphs (line : StyledLine) : List (List Char) :=
  line.pieces.flatMap fun piece => (Text.clusters piece).filter (· ≠ ['\n'])

/-- The clusters that fit into `limit` columns of which `used` are taken, each with its column. One
wider than the whole is passed over. -/
def fit (limit used : Nat) : List (List Char) → List (Nat × List Char)
  | [] => []
  | g :: gs =>
    let w := Text.width g
    if limit < w then fit limit used gs
    else if limit < used + w then []
    else if w = 0 then fit limit used gs
    else (used, g) :: fit limit (used + w) gs

/-- Paints a line on a row, from column `x` on and at most `limit` columns wide. -/
def paintLine (f : Frame) (x y limit : Nat) (line : StyledLine) : Frame :=
  (fit limit 0 (glyphs line)).foldl (fun f (column, g) => f.put (x + column) y g line.style) f

/-- Paints lines on the rows of an area, from the top down. -/
def paint (f : Frame) (a : Area) (lines : List StyledLine) : Frame :=
  ((lines.take a.height).foldl
    (fun (f, y) line => (f.paintLine a.x y a.width line, y + 1)) (f, a.y)).1

/-- Draws a border around an area, with a title behind the upper left corner. -/
def paintBox (f : Frame) (a : Area) (title : String) : Frame :=
  if a.isEmpty then f
  else
    let right := a.x + a.width - 1
    let bottom := a.y + a.height - 1
    let sides := (List.range a.height).foldl
      (fun f i => (f.put right (a.y + i) ['│'] {}).put a.x (a.y + i) ['│'] {}) f
    let edges := (List.range a.width).foldl
      (fun f i => (f.put (a.x + i) bottom ['─'] {}).put (a.x + i) a.y ['─'] {}) sides
    let corners := (((edges.put right bottom ['┘'] {}).put right a.y ['┐'] {}).put
      a.x bottom ['└'] {}).put a.x a.y ['┌'] {}
    corners.paintLine (a.x + 1) a.y (a.width - 2) (.ofString title {})

/-- The text that a row of cells shows. -/
def rowText (row : Array Cell) : String :=
  String.ofList (row.toList.flatMap Cell.symbol)

end Frame

end WorkspaceConsole

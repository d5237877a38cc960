import WorkspaceConsole.Proofs.Explorer.Exact
import WorkspaceConsole.Proofs.Screen.Spelling
import WorkspaceConsole.Proofs.Text.Lines
import WorkspaceConsole.Screen.View

/-!
# What the panes show

Drawing the explorer gives its window the height of the pane, which may move it, and only then are
the rows in it laid out. Since the selection is in the window at any height, its row is the one that
is shown reversed (`ExplorerShown`).

The terminal shows the end of the transcript, with the input right below it (`TerminalShown`). What
is kept of the transcript leaves one row of the pane free, so the input always fits.

Both are told of the cells in the pane, row by row: which text a row reads, and in which style. The
panes of a screen lie side by side above the status line. What one of them draws is outside the
other, so each shows on the screen what it would show alone (`draws_panes`).
-/

namespace WorkspaceConsole.View

open Explorer

variable {e : Explorer} {f g : Frame} {a : Area} {s : Session}

/-! ## The explorer in its pane -/

/-- How a row looks by its kind: the mark in front of the name, and the colour. The triangle of a
folder points down if the folder is expanded. -/
inductive Looks : RowKind → List Char → Colour → Prop
  | expanded : Looks (.folder true) ['▾', ' '] .cyan
  | collapsed : Looks (.folder false) ['▸', ' '] .cyan
  | file (id : FileId) : Looks (.file id) [' ', ' '] .standard

/-- **What the explorer shows** in a pane, drawn over the frame `f`: `g` is the frame after that,
and `e'` the explorer. -/
structure ExplorerShown (f : Frame) (a : Area) (e : Explorer) (g : Frame) (e' : Explorer) :
    Prop where
  viewHeight : e'.viewHeight = max a.inner.height 1
  /-- Drawing moves the window, and changes nothing else. -/
  kept : e' = { e with viewHeight := e'.viewHeight, scroll := e'.scroll }
  /-- The window reaches no further than the rows. -/
  window : e'.scroll + min a.inner.height e.rows.length ≤ e.rows.length
  /-- From the first row of the pane on, each row in the window is read on its own: indented by its
  depth, with its mark in front of the name and in its colour. The selection is reversed. -/
  rows : ∀ i row, i < a.inner.height → e.rows[e'.scroll + i]? = some row →
    ∃ mark colour, Looks row.kind mark colour ∧
      f.RowReads g a.inner i
        [List.replicate (2 * row.depth.toNat) ' ' ++ mark ++ row.name.toList]
        { colour, reversed := e.selected = some (e'.scroll + i) }
  /-- No row of the pane stays as it was unless there are fewer rows to show. -/
  rest : ∀ i, min a.inner.height e.rows.length ≤ i → i < a.inner.height → f.RowKept g a.inner i
  /-- A selection is that of a row. -/
  selected : e.selectedRow?.isSome = e.selected.isSome
  /-- The selected row is in the window, and so it is the one that is reversed. -/
  reversed : e.selected ≠ none → 0 < a.inner.height →
    ∃ i < min a.inner.height e.rows.length, ∀ j, e.selected = some (e'.scroll + j) ↔ j = i
  /-- In checked arithmetic the window and its rows are the same. -/
  checked : e.Fits → a.inner.height ≤ 65535 →
    e.setViewHeight .checked a.inner.height =
        .ok (e.setViewHeight .natural a.inner.height).run ∧
      e'.visibleRows .checked = .ok (e'.visibleRows .natural).run

theorem rowLines_eq_mapIdx (selected : Option Nat) (index : Nat) (rows : List Row) :
    rowLines selected index rows =
      rows.mapIdx fun i row =>
        .ofString (rowText row) (rowStyle row (selected = some (index + i))) := by
  induction rows generalizing index with
  | nil => rfl
  | cons row rows ih =>
    rw [rowLines, ih, List.mapIdx_cons]
    simp only [Nat.add_zero, Nat.add_comm, Nat.add_left_comm]

/-- The line of a row in the window. -/
theorem getElem?_explorerLines {i : Nat} (hi : i < e.viewHeight) :
    (explorerLines e)[i]? = e.rows[e.scroll + i]?.map fun row =>
      .ofString (rowText row) (rowStyle row (e.selected = some (e.scroll + i))) := by
  rw [explorerLines, rowLines_eq_mapIdx, visibleRows_natural, List.getElem?_mapIdx,
    List.getElem?_take_of_lt (by omega), List.getElem?_drop]

theorem length_explorerLines_le (e : Explorer) : (explorerLines e).length ≤ e.rows.length := by
  rw [explorerLines, rowLines_eq_mapIdx, visibleRows_natural, List.length_mapIdx, List.length_take,
    List.length_drop]
  omega

theorem exists_looks (row : Row) (selected : Bool) :
    ∃ mark colour, Looks row.kind mark colour ∧
      (rowText row).toList =
        List.replicate (2 * row.depth.toNat) ' ' ++ mark ++ row.name.toList ∧
      rowStyle row selected = { colour, reversed := selected } := by
  refine ⟨(marker row.kind).toList, if row.isFolder then .cyan else .standard, ?_,
    by simp [rowText], rfl⟩
  rw [Row.isFolder]
  match row.kind with
  | .folder true => exact .expanded
  | .folder false => exact .collapsed
  | .file id =>
    have hmarker : marker (.file id) = "  " := rfl
    rw [hmarker]
    exact .file id

/-- Another height of the window may move it, and changes nothing else. -/
theorem setViewHeight_eq (e : Explorer) (height : Nat) :
    ∃ scroll,
      (e.setViewHeight .natural height).2 = { e with viewHeight := max height 1, scroll } := by
  rw [setViewHeight_natural]
  by_cases hsame : e.viewHeight = max height 1
  · rw [if_pos hsame, ← hsame]
    exact ⟨e.scroll, rfl⟩
  · rw [if_neg hsame]
    obtain ⟨scroll, hsettle, -⟩ := Explorer.settle_eq { e with viewHeight := max height 1 }
    exact ⟨scroll, hsettle⟩

/-- Where the lines of an explorer show up, the explorer is shown. -/
theorem explorerShown_of_shows (h : e.Framed) {e' : Explorer}
    (hdrawn : e' = (e.setViewHeight .natural a.inner.height).2)
    (hshows : f.Shows a.inner (explorerLines e') g) : ExplorerShown f a e g e' := by
  have hframed : e'.Framed := by
    rw [hdrawn]
    exact framed_adjusted h (adjusted_setViewHeight e a.inner.height .empty)
  obtain ⟨scroll, heq⟩ := setViewHeight_eq e a.inner.height
  rw [heq] at hdrawn
  have hscroll : e'.scroll ≤ e.rows.length - max a.inner.height 1 := by
    have hfilled := hframed.scroll
    rwa [hdrawn] at hfilled ⊢
  have hrows : e'.rows = e.rows := by rw [hdrawn]
  have hheight : e'.viewHeight = max a.inner.height 1 := by rw [hdrawn]
  have hselected : e'.selected = e.selected := by rw [hdrawn]
  constructor
  case viewHeight => exact hheight
  case kept => rw [hdrawn]
  case window => omega
  case rows =>
    intro i row hi hrow
    have hline := getElem?_explorerLines (e := e') (i := i) (by omega)
    rw [hrows, hrow, hselected, Option.map_some] at hline
    obtain ⟨mark, colour, hlooks, htext, hstyle⟩ :=
      exists_looks row (e.selected = some (e'.scroll + i))
    have hreads := hshows.rowReads hline hi
    rw [StyledLine.ofString, htext, hstyle] at hreads
    exact ⟨mark, colour, hlooks, hreads⟩
  case rest =>
    intro i hbelow hi
    have hlength := length_explorerLines_le e'
    rw [hrows] at hlength
    exact hshows.rowKept (by omega) hi
  case selected =>
    rw [selectedRow?]
    cases hindex : e.selected with
    | none => rfl
    | some index => simp [h.selected index hindex]
  case reversed =>
    intro hsome hpos
    obtain ⟨index, hindex⟩ := Option.ne_none_iff_exists'.1 hsome
    have hrow := h.selected index hindex
    obtain ⟨hfirst, hlast⟩ := hframed.shown index (hselected.trans hindex)
    refine ⟨index - e'.scroll, by omega, fun j => ?_⟩
    rw [hindex, Option.some_inj]
    omega
  case checked =>
    intro hfits hsmall
    have hsize : 2 * 65536 < UInt64.size := by decide
    have hroom : ¬ e.Overflows a.inner.height := h.not_overflows hfits (by omega)
    refine ⟨setViewHeight_exact Arithmetic.exact_checked h hfits hroom, ?_⟩
    refine visibleRows_exact Arithmetic.exact_checked hframed ⟨by omega, ?_⟩
    rw [hrows]
    exact hfits.rows

theorem shows_drawExplorer (f : Frame) (a : Area) (e : Explorer) :
    f.Shows a.inner (explorerLines (drawExplorer f a e).2) (drawExplorer f a e).1 := by
  intro x y hplace
  have hdrawn : (drawExplorer f a e).1 = (f.paintBox a "Explorer").paint a.inner
      (explorerLines (drawExplorer f a e).2) := rfl
  rw [hdrawn, Frame.cell?_paint, Frame.cell?_paintBox (.inl hplace)]

/-! ## The terminal in its pane -/

/-- **A row reads an entry** of the transcript: its lines one behind the other, so that line ends do
not show. If it has none, that is the entry itself. -/
structure EntryRead (f g : Frame) (a : Area) (row : Nat) (entry : String) : Prop where
  lines : f.RowReads g a row ((Text.lines entry).map String.toList) {}
  whole : '\n' ∉ entry.toList → f.RowReads g a row [entry.toList] {}

/-- The rows of the area `a` read the `entries`, each on its own from the first one on, and below
them the input. -/
structure RowsRead (f g : Frame) (a : Area) (s : Session) (entries : List String) : Prop where
  /-- The entries are the end of the transcript, -/
  suffix : entries <:+ s.transcript
  /-- and as much of it as leaves room for the input. -/
  length : entries.length = min (a.height - 1) s.transcript.length
  fits : entries.length + 1 ≤ a.height
  entry : ∀ i text, entries[i]? = some text → EntryRead f g a i text
  input : f.RowReads g a entries.length [s.prompt.toList ++ s.buffer.toList] { bold := true }
  below : ∀ i, entries.length < i → i < a.height → f.RowKept g a i

/-- **What the terminal shows** in a pane, drawn over the frame `f`: `g` is the frame after that. -/
structure TerminalShown (f : Frame) (a : Area) (s : Session) (g : Frame) : Prop where
  /-- With room inside, the pane reads the end of the transcript and the input. -/
  reads : a.inner.isEmpty = false → ∃ entries, RowsRead f g a.inner s entries
  /-- A pane without room inside has no cursor. -/
  cursor : g.cursor = if a.inner.isEmpty then f.cursor else some (View.cursor s a.inner)
  /-- In any other the cursor stands on the row of the input. -/
  row : a.inner.isEmpty = false → ∃ column < a.inner.width,
    g.cursor = some (a.inner.x + column,
      a.inner.y + min (a.inner.height - 1) s.transcript.length)

theorem entryRead_of_lines {row : Nat} {entry : String}
    (h : f.RowReads g a row ((Text.lines entry).map String.toList) {}) :
    EntryRead f g a row entry where
  lines := h
  whole hfeed := by
    by_cases hempty : entry.toList = []
    · have hlines : Text.lines entry = [] := by
        rw [String.toList_eq_nil_iff.1 hempty]
        rfl
      rw [hlines] at h
      rw [hempty]
      exact ⟨h.spells, h.whole, h.letters⟩
    · have hlines : (Text.lines entry).map String.toList = [entry.toList] := by
        rw [Text.lines, Text.linesWith_of_notMem hfeed hempty]
        simp
      rwa [hlines] at h

/-- Where the lines of a terminal show up, its rows read the session. -/
theorem rowsRead_of_shows {inside : Area} (hpos : 0 < inside.height)
    (hshows : f.Shows inside (terminalLines s inside.height) g) :
    RowsRead f g inside s (recentEntries s inside.height) := by
  have hlength := length_recentEntries s inside.height
  have hlines : (terminalLines s inside.height).length =
      (recentEntries s inside.height).length + 1 := by
    rw [terminalLines, List.length_append, List.length_map, List.length_singleton]
  constructor
  case suffix => exact List.drop_suffix _ _
  case length => exact hlength
  case fits => omega
  case entry =>
    intro i text htext
    have hi : i < (recentEntries s inside.height).length := (List.getElem?_eq_some_iff.1 htext).1
    have hline : (terminalLines s inside.height)[i]? = some (entryLine text) := by
      rw [terminalLines, List.getElem?_append_left (by rwa [List.length_map]), List.getElem?_map,
        htext]
      rfl
    exact entryRead_of_lines (hshows.rowReads hline (by omega))
  case input =>
    have hline : (terminalLines s inside.height)[(recentEntries s inside.height).length]? =
        some (.ofString (inputText s) { bold := true }) := by
      rw [terminalLines, List.getElem?_append_right (Nat.le_of_eq (List.length_map _)),
        List.length_map, Nat.sub_self]
      rfl
    have hreads := hshows.rowReads hline (by omega)
    rwa [StyledLine.ofString, inputText, String.toList_append] at hreads
  case below =>
    intro i hbelow hi
    exact hshows.rowKept (by omega) hi

/-- Where the lines of a terminal show up, its session is shown. -/
theorem terminalShown_of_shows
    (hshows : a.inner.isEmpty = false → f.Shows a.inner (terminalLines s a.inner.height) g)
    (hcursor : g.cursor = if a.inner.isEmpty then f.cursor else some (View.cursor s a.inner)) :
    TerminalShown f a s g := by
  have hsize (hroom : a.inner.isEmpty = false) : 0 < a.inner.width ∧ 0 < a.inner.height := by
    simp only [Area.isEmpty, Bool.or_eq_false_iff, decide_eq_false_iff_not] at hroom
    omega
  have hlength := length_recentEntries s a.inner.height
  constructor
  case reads => exact fun hroom => ⟨_, rowsRead_of_shows (hsize hroom).2 (hshows hroom)⟩
  case cursor => exact hcursor
  case row =>
    intro hroom
    have hwidth := (hsize hroom).1
    rw [hroom, if_neg Bool.false_ne_true, View.cursor, hlength] at hcursor
    exact ⟨_, by omega, hcursor⟩

theorem shows_drawTerminal (hroom : a.inner.isEmpty = false) (f : Frame) (s : Session) :
    f.Shows a.inner (terminalLines s a.inner.height) (drawTerminal f a s) := by
  intro x y hplace
  have hcells : (drawTerminal f a s).cell? x y =
      ((f.paintBox a "Terminal").paint a.inner (terminalLines s a.inner.height)).cell? x y := by
    simp [drawTerminal, hroom, Frame.cell?]
  rw [hcells, Frame.cell?_paint, Frame.cell?_paintBox (.inl hplace)]

theorem cursor_drawTerminal_eq (f : Frame) (a : Area) (s : Session) :
    (drawTerminal f a s).cursor =
      if a.inner.isEmpty then f.cursor else some (View.cursor s a.inner) := by
  rw [drawTerminal]
  by_cases hempty : a.inner.isEmpty = true
  · simp [hempty]
  · simp [hempty]

/-! ## Both on a screen -/

theorem cell?_drawExplorer {x y : Nat} (h : ¬ a.Contains x y) (f : Frame) (e : Explorer) :
    (drawExplorer f a e).1.cell? x y = f.cell? x y := by
  have hinner : ¬ a.inner.Contains x y := mt Area.contains_of_inner h
  have hdrawn : (drawExplorer f a e).1 = (f.paintBox a "Explorer").paint a.inner
      (explorerLines (drawExplorer f a e).2) := rfl
  rw [hdrawn, Frame.cell?_paint_of_not_contains hinner, Frame.cell?_paintBox (.inr h)]

theorem cell?_drawTerminal {x y : Nat} (h : ¬ a.Contains x y) (f : Frame) (s : Session) :
    (drawTerminal f a s).cell? x y = f.cell? x y := by
  have hinner : ¬ a.inner.Contains x y := mt Area.contains_of_inner h
  rw [drawTerminal]
  split
  · exact Frame.cell?_paintBox (.inr h) f _
  · have hpainted := Frame.cell?_paint_of_not_contains hinner (f.paintBox a "Terminal")
      (terminalLines s a.inner.height)
    exact hpainted.trans (Frame.cell?_paintBox (.inr h) f _)

theorem cursor_drawExplorer (f : Frame) (a : Area) (e : Explorer) :
    (drawExplorer f a e).1.cursor = f.cursor := by
  simp [drawExplorer]

/-- The panes and the status line of a screen do not overlap. -/
theorem layout_disjoint {width height x y : Nat} :
    ((layout width height).explorer.Contains x y → ¬ (layout width height).terminal.Contains x y) ∧
      ((layout width height).explorer.Contains x y →
        ¬ (layout width height).status.Contains x y) ∧
      ((layout width height).terminal.Contains x y →
        ¬ (layout width height).status.Contains x y) := by
  unfold Area.Contains layout
  dsimp only
  omega

theorem cell?_blank {width height x y : Nat} (hx : x < (Frame.sizeFor width height).1)
    (hy : y < (Frame.sizeFor width height).2) : (Frame.blank width height).cell? x y = some {} := by
  simp [Frame.cell?, Frame.blank, hx, hy]

/-- What a screen shows of an explorer with a sound window, and of any session. -/
theorem shown_draw (h : e.Framed) (s : Session) (width height : Nat) (label : String) :
    let areas := layout (Frame.sizeFor width height).1 (Frame.sizeFor width height).2
    ExplorerShown (.blank width height) areas.explorer e (draw width height s e label).1
        (draw width height s e label).2 ∧
      TerminalShown (.blank width height) areas.terminal s (draw width height s e label).1 := by
  intro areas
  have hdisjoint {x y : Nat} := @layout_disjoint (Frame.sizeFor width height).1
    (Frame.sizeFor width height).2 x y
  have hdraw : draw width height s e label =
      (drawStatus (drawTerminal (drawExplorer (.blank width height) areas.explorer e).1
        areas.terminal s) areas.status label s,
        (drawExplorer (.blank width height) areas.explorer e).2) := rfl
  rw [hdraw]
  constructor
  · refine explorerShown_of_shows h rfl ?_
    -- What is drawn after the explorer lies outside its pane.
    refine (shows_drawExplorer (.blank width height) areas.explorer e).congr ?_ ?_
    · exact fun x y _ => rfl
    · intro x y hplace
      have hpane := Area.contains_of_inner hplace
      rw [drawStatus, Frame.cell?_paint_of_not_contains (hdisjoint.2.1 hpane),
        cell?_drawTerminal (hdisjoint.1 hpane)]
  · refine terminalShown_of_shows (fun hroom => ?_) ?_
    · -- What is drawn before and after the terminal lies outside its pane.
      refine (shows_drawTerminal hroom (drawExplorer (.blank width height) areas.explorer e).1
        s).congr ?_ ?_
      · intro x y hplace
        have hpane := Area.contains_of_inner hplace
        exact (cell?_drawExplorer (fun hleft => hdisjoint.1 hleft hpane) _ e).symm
      · intro x y hplace
        have hpane := Area.contains_of_inner hplace
        rw [drawStatus, Frame.cell?_paint_of_not_contains (hdisjoint.2.2 hpane)]
    · rw [drawStatus, Frame.cursor_paint, cursor_drawTerminal_eq, cursor_drawExplorer]

/-- **What the panes show**, for the explorer after any events on any store; in checked arithmetic
there is no other one. In a pane of any size and over any frame, the explorer and the terminal show
what `ExplorerShown` and `TerminalShown` say, and change nothing outside the pane. On a screen,
which is blank before, they show it side by side. -/
theorem draws_panes (store : Store) (events : List Event) (s : Session) :
    let e := ((Scene.start store).after .natural events).explorer
    (∀ c, (Scene.start store).after .checked events = .ok c → c.explorer = e) ∧
      (∀ f a, ExplorerShown f a e (drawExplorer f a e).1 (drawExplorer f a e).2 ∧
        ∀ x y, ¬ a.Contains x y → (drawExplorer f a e).1.cell? x y = f.cell? x y) ∧
      (∀ f a, TerminalShown f a s (drawTerminal f a s) ∧
        ∀ x y, ¬ a.Contains x y → (drawTerminal f a s).cell? x y = f.cell? x y) ∧
      ∀ (width height : Nat) (label : String),
        let screen := Frame.blank width height
        let (columns, rows) := Frame.sizeFor width height
        let (g, e') := draw width height s e label
        (∀ x y, x < columns → y < rows → screen.cell? x y = some {}) ∧
          ExplorerShown screen (layout columns rows).explorer e g e' ∧
          TerminalShown screen (layout columns rows).terminal s g := by
  intro e
  have hframed : e.Framed := framed_after store events
  refine ⟨?_, ?_, ?_, ?_⟩
  · intro c hc
    rw [Scene.givesOnly_after _ events c hc]
  · intro f a
    exact ⟨explorerShown_of_shows hframed rfl (shows_drawExplorer f a e),
      fun x y hplace => cell?_drawExplorer hplace f e⟩
  · intro f a
    exact ⟨terminalShown_of_shows (shows_drawTerminal · f s) (cursor_drawTerminal_eq f a s),
      fun x y hplace => cell?_drawTerminal hplace f s⟩
  · intro width height label
    exact ⟨fun x y hx hy => cell?_blank hx hy, shown_draw hframed s width height label⟩

/-- Two panes with room for two rows. The window of the explorer moves to the last of three rows,
which is selected, and the terminal shows the last of two entries above the input. -/
theorem draws_panes_scrolled :
    let events : List Event := ["a", "b", "c"].map (.dispatch ∘ .createRootFolder) ++
      [.refresh [], .moveSelection (-1)]
    let e := ((Scene.start .empty).after .natural events).explorer
    let s : Session := { id := 0, transcript := ["one", "two"], buffer := "ls" }
    let blank := Frame.blank 7 4
    let pane : Area := ⟨0, 0, 7, 4⟩
    let left := drawExplorer blank pane e
    let right := drawTerminal blank pane s
    let cells (f : Frame) (y : Nat) := (List.range 5).filterMap fun i => f.cell? (1 + i) y
    let text (shown : String) (style : Style) := shown.toList.map (Cell.mk [·] style)
    ExplorerShown blank pane e left.1 left.2 ∧ TerminalShown blank pane s right ∧
      e.selected = some 2 ∧ e.scroll = 0 ∧ left.2.scroll = 1 ∧
      cells left.1 1 = text "▸ b" { colour := .cyan } ++ text "  " {} ∧
      cells left.1 2 = text "▸ c" { colour := .cyan, reversed := true } ++ text "  " {} ∧
      cells right 1 = text "two  " {} ∧
      cells right 2 = text "$ ls" { bold := true } ++ text " " {} := by
  intro events e s blank pane left right cells text
  obtain ⟨-, hexplorer, hterminal, -⟩ := draws_panes .empty events s
  refine ⟨(hexplorer blank pane).1, (hterminal blank pane).1, ?_, ?_, ?_, ?_, ?_, ?_, ?_⟩
  all_goals decide +kernel

end WorkspaceConsole.View

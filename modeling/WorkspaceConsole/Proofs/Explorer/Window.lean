import WorkspaceConsole.Proofs.Explorer.Checked

/-!
# The window holds the selection

Rows come and go under the window, and its height changes. Still the selection is one of the rows,
the window starts early enough to be filled as far as there are rows, and the selected row is in it
(`Framed`). Every operation that touches rows, height or selection ends by moving the window
(`settle`), which is all that is needed of it (`framed_settle`).

A move of the selection goes as far as the first and the last row allow (`target_eq`), and the
arithmetic on machine words gives the same row (`toNat_targetInWords`). All of it stands in
`windowed_after`, for runs over all numbers and for those in checked arithmetic that do not break
off.
-/

namespace WorkspaceConsole.Explorer

/-- **The window is in place.** -/
structure Framed (e : Explorer) : Prop where
  height : 1 ≤ e.viewHeight
  /-- The selection is one of the rows. -/
  selected : ∀ index, e.selected = some index → index < e.rows.length
  /-- The window starts early enough to be filled, as far as there are rows. -/
  scroll : e.scroll ≤ e.rows.length - e.viewHeight
  /-- The selected row is in the window. -/
  shown : ∀ index, e.selected = some index →
    e.scroll ≤ index ∧ index < e.scroll + e.viewHeight

theorem framed_settle {e : Explorer} (hheight : 1 ≤ e.viewHeight)
    (hselected : ∀ index, e.selected = some index → index < e.rows.length) :
    Framed (e.settle .natural) := by
  obtain ⟨scroll, heq, hscroll, hshown⟩ := e.settle_eq
  rw [Nat.max_eq_left hheight] at hscroll hshown
  rw [heq]
  exact ⟨hheight, hselected, hscroll, fun index h => hshown index h (hselected index h)⟩

/-- After reading the tree, a selection is that of a row: the old one, or the last. -/
theorem framed_rebuild {e : Explorer} (hheight : 1 ≤ e.viewHeight) (s : Store) :
    Framed (e.rebuild .natural s) := by
  rw [rebuild_natural]
  refine framed_settle hheight fun index hindex => ?_
  dsimp only at hindex ⊢
  rw [reselect_natural] at hindex
  split at hindex
  next => cases hindex
  next hrows =>
    obtain ⟨old, -, rfl⟩ := Option.map_eq_some_iff.1 hindex
    omega

/-! ## Moves of the selection -/

/-- A move of `delta` rows, as far as the first and the last row allow. -/
theorem target_eq {count index : Nat} (hindex : index < count) (delta : Int) :
    ((target .natural count (some index) delta).run : Int) =
      min (max (index + delta) 0) (count - 1) := by
  rw [target_natural]
  dsimp only
  split <;> omega

theorem target_lt {count : Nat} {selected : Option Nat} (hcount : 0 < count)
    (hselected : ∀ index, selected = some index → index < count) (delta : Int) :
    (target .natural count selected delta).run < count := by
  cases selected with
  | none =>
    rw [target_natural]
    dsimp only
    split <;> omega
  | some index =>
    have htarget := target_eq (hselected index rfl) delta
    omega

/-- The move of a selection in machine words: upwards by a subtraction that stops at zero, downwards
by an addition that wraps around. -/
def targetInWords (count index : UInt64) (delta : Int64) : UInt64 :=
  let size := delta.toInt.natAbs.toUInt64
  if delta < 0 then if index < size then 0 else index - size
  else if count - 1 < index + size then count - 1
  else index + size

/-- The two agree while the rows are fewer than half of all words: then no sum wraps around. -/
theorem toNat_targetInWords {count index : UInt64} (hcount : 2 * count.toNat < UInt64.size)
    (hindex : index < count) (delta : Int64) :
    (targetInWords count index delta).toNat =
      (target .natural count.toNat (some index.toNat) delta.toInt).run := by
  have hlow := delta.le_toInt
  have hhigh := delta.toInt_lt
  have hsize : delta.toInt.natAbs.toUInt64.toNat = delta.toInt.natAbs := by
    rw [Nat.toUInt64_eq, UInt64.toNat_ofNat', Nat.mod_eq_of_lt (by omega)]
  rw [UInt64.lt_iff_toNat_lt] at hindex
  unfold UInt64.size at hcount
  rw [target_natural]
  unfold targetInWords
  dsimp only
  by_cases hup : delta < 0
  · have hneg : delta.toInt < 0 := by simpa using Int64.lt_iff_toInt_lt.1 hup
    rw [if_pos hup, if_pos hneg]
    by_cases htop : index < delta.toInt.natAbs.toUInt64
    · rw [if_pos htop]
      rw [UInt64.lt_iff_toNat_lt, hsize] at htop
      rw [UInt64.toNat_zero]
      omega
    · rw [if_neg htop]
      rw [UInt64.lt_iff_toNat_lt, hsize] at htop
      rw [UInt64.toNat_sub_of_le _ _ (by rw [UInt64.le_iff_toNat_le, hsize]; omega), hsize]
  · have hneg : ¬ delta.toInt < 0 := by
      simpa using mt Int64.lt_iff_toInt_lt.2 hup
    have hsum : (index + delta.toInt.natAbs.toUInt64).toNat = index.toNat + delta.toInt.natAbs := by
      rw [UInt64.toNat_add, hsize, Nat.mod_eq_of_lt (by omega)]
    have hlast : (count - 1).toNat = count.toNat - 1 :=
      UInt64.toNat_sub_of_le _ _ (by rw [UInt64.le_iff_toNat_le, UInt64.toNat_one]; omega)
    rw [if_neg hup, if_neg hneg]
    by_cases hbottom : count - 1 < index + delta.toInt.natAbs.toUInt64
    · rw [if_pos hbottom, hlast]
      rw [UInt64.lt_iff_toNat_lt, hsum, hlast] at hbottom
      omega
    · rw [if_neg hbottom, hsum]
      rw [UInt64.lt_iff_toNat_lt, hsum, hlast] at hbottom
      omega

/-- A move says whether it changed the selection. -/
theorem moveSelection_iff (e : Explorer) (delta : Int) :
    (e.moveSelection .natural delta).1 = true ↔
      (e.moveSelection .natural delta).2.selected ≠ e.selected := by
  rcases e.moveSelection_cases delta with ⟨heq, -⟩ | ⟨-, hother, heq⟩
  · simp [heq]
  · obtain ⟨scroll, hsettle, -⟩ :=
      settle_eq
        { e with selected := some (target .natural e.rows.length e.selected delta).run : Explorer }
    rw [heq, hsettle]
    exact ⟨fun _ => Ne.symm hother, fun _ => rfl⟩

/-- A selection moves to its target, also where nothing is left to do. -/
theorem selected_moveSelection {e : Explorer} (h : e.Framed) {index : Nat}
    (hindex : e.selected = some index) (delta : Int) :
    (e.moveSelection .natural delta).2.selected =
      some (target .natural e.rows.length (some index) delta).run := by
  have hrow := h.selected index hindex
  rcases e.moveSelection_cases delta with ⟨heq, hrows | hzero | hsame⟩ | ⟨-, -, heq⟩
  · rw [hrows] at hrow
    cases hrow
  · have htarget := target_eq hrow delta
    rw [heq, hindex]
    congr 1
    omega
  · rw [heq, ← hindex, ← hsame]
  · obtain ⟨scroll, hsettle, -⟩ :=
      settle_eq
        { e with selected := some (target .natural e.rows.length e.selected delta).run : Explorer }
    rw [heq, hsettle, hindex]

/-! ## The rows in the window -/

theorem Framed.length_visibleRows {e : Explorer} (h : e.Framed) :
    (e.visibleRows .natural).run.length = min e.rows.length e.viewHeight := by
  have hscroll := h.scroll
  rw [visibleRows_natural, Nat.max_eq_left h.height, List.length_take, List.length_drop]
  omega

theorem Framed.visibleRows_selected {e : Explorer} (h : e.Framed) {index : Nat}
    (hindex : e.selected = some index) :
    ∃ row, e.selectedRow? = some row ∧
      (e.visibleRows .natural).run[index - e.scroll]? = some row := by
  obtain ⟨hfirst, hlast⟩ := h.shown index hindex
  have hrow := h.selected index hindex
  refine ⟨e.rows[index], ?_, ?_⟩
  · rw [selectedRow?, hindex, Option.bind_some, List.getElem?_eq_getElem hrow]
  · rw [visibleRows_natural, Nat.max_eq_left h.height, List.getElem?_take_of_lt (by omega),
      List.getElem?_drop, Nat.add_sub_cancel' hfirst, List.getElem?_eq_getElem hrow]

/-! ## Runs -/

theorem framed_adjusted {s : Store} {e e' : Explorer} (h : e.Framed) (hstep : Adjusted s e e') :
    e'.Framed := by
  cases hstep with
  | stays => exact h
  | reads expanded =>
    refine framed_rebuild ?_ s
    exact h.height
  | resizes hheight => exact framed_settle hheight h.selected
  | selects delta hrows =>
    refine framed_settle h.height fun index hindex => ?_
    cases hindex
    exact target_lt (List.length_pos_iff.2 hrows) h.selected delta

/-- An explorer that has not looked at a store has no rows. -/
theorem framed_empty : Framed {} :=
  ⟨by decide, nofun, Nat.le_refl 0, nofun⟩

/-- **What a user sees of the window**, and of a move of the selection. -/
structure Windowed (e : Explorer) : Prop extends Framed e where
  /-- The window is filled, as far as there are rows. -/
  filled : (e.visibleRows .natural).run.length = min e.rows.length e.viewHeight
  /-- The selected row is seen. -/
  seen : ∀ index, e.selected = some index →
    ∃ row, e.selectedRow? = some row ∧
      (e.visibleRows .natural).run[index - e.scroll]? = some row
  /-- A move says whether it changed the selection. -/
  told : ∀ delta : Int,
    (e.moveSelection .natural delta).1 = true ↔
      (e.moveSelection .natural delta).2.selected ≠ e.selected
  /-- A selection moves as far as the first and the last row allow. -/
  moves : ∀ (index : Nat) (delta : Int), e.selected = some index →
    ∃ next : Nat, (e.moveSelection .natural delta).2.selected = some next ∧
      (next : Int) = min (max (index + delta) 0) (e.rows.length - 1)
  /-- In machine words it moves to the same row. -/
  inWords : ∀ (index : Nat) (delta : Int64), e.selected = some index →
    2 * e.rows.length < UInt64.size →
    (e.moveSelection .natural delta.toInt).2.selected =
      some (targetInWords e.rows.length.toUInt64 index.toUInt64 delta).toNat
  /-- Where nothing is selected, a move upwards selects the last row, and one downwards the first
  one. -/
  first : ∀ delta : Int, e.selected = none → e.rows ≠ [] → delta ≠ 0 →
    (e.moveSelection .natural delta).1 = true ∧
      (e.moveSelection .natural delta).2.selected =
        some (if delta < 0 then e.rows.length - 1 else 0)
  /-- Without rows nothing can be selected, and a move by no row is none. -/
  still : ∀ delta : Int, e.rows = [] ∨ delta = 0 → e.moveSelection .natural delta = (false, e)
  /-- In checked arithmetic rows and moves are the same, or there are none. -/
  checked : GivesOnly (e.visibleRows .checked) (e.visibleRows .natural) ∧
    ∀ delta : Int, GivesOnly (e.moveSelection .checked delta) (e.moveSelection .natural delta)

/-- The first selection among rows. -/
theorem moveSelection_of_none {e : Explorer} (hnone : e.selected = none) (hrows : e.rows ≠ [])
    {delta : Int} (hdelta : delta ≠ 0) :
    (e.moveSelection .natural delta).1 = true ∧
      (e.moveSelection .natural delta).2.selected =
        some (if delta < 0 then e.rows.length - 1 else 0) := by
  rcases e.moveSelection_cases delta with ⟨-, hno | hzero | hsame⟩ | ⟨-, -, heq⟩
  · exact absurd hno hrows
  · exact absurd hzero hdelta
  · rw [hnone] at hsame
    cases hsame
  · obtain ⟨scroll, hsettle, -⟩ := settle_eq
      { e with selected := some (target .natural e.rows.length e.selected delta).run : Explorer }
    rw [heq, hsettle, hnone]
    exact ⟨rfl, rfl⟩

theorem moveSelection_of_still {e : Explorer} {delta : Int} (h : e.rows = [] ∨ delta = 0) :
    e.moveSelection .natural delta = (false, e) := by
  rw [moveSelection_natural, if_pos (h.imp_left List.isEmpty_iff.2)]

theorem Framed.windowed {e : Explorer} (h : e.Framed) : e.Windowed where
  toFramed := h
  filled := h.length_visibleRows
  seen _ := h.visibleRows_selected
  told := e.moveSelection_iff
  moves index delta hindex :=
    ⟨_, selected_moveSelection h hindex delta, target_eq (h.selected index hindex) delta⟩
  inWords index delta hindex hcount := by
    have hrow := h.selected index hindex
    have hcount' : e.rows.length.toUInt64.toNat = e.rows.length :=
      UInt64.toNat_ofNat_of_lt' (by omega)
    have hindex' : index.toUInt64.toNat = index :=
      UInt64.toNat_ofNat_of_lt' (by omega)
    rw [selected_moveSelection h hindex, toNat_targetInWords, hcount', hindex']
    · rwa [hcount']
    · rwa [UInt64.lt_iff_toNat_lt, hcount', hindex']
  first _ hnone hrows hdelta := moveSelection_of_none hnone hrows hdelta
  still _ := moveSelection_of_still
  checked := ⟨e.givesOnly_visibleRows, e.givesOnly_moveSelection⟩

/-- The window is in place after every run. -/
theorem framed_after (store : Store) (events : List Event) :
    Framed ((Scene.start store).after .natural events).explorer :=
  Scene.after_preserves (fun _ _ _ => framed_adjusted) framed_empty events

/-- **The window holds the selection**, whatever is done to the explorer and to the store that it
looks at: after every run over all numbers, and so after every run in checked arithmetic that does
not break off. -/
theorem windowed_after (store : Store) (events : List Event) :
    Windowed ((Scene.start store).after .natural events).explorer ∧
      ∀ c, (Scene.start store).after .checked events = .ok c → c.explorer.Windowed := by
  have hwindowed := (framed_after store events).windowed
  refine ⟨hwindowed, ?_⟩
  intro c hc
  rwa [Scene.givesOnly_after _ events c hc]

/-- The first move upwards selects the last of five rows, at the lower end of a window of three.
When a folder above it goes away, the selection is the last of four, and the window follows. -/
theorem windowed_after_first :
    let full : List Event := ["a", "b", "c", "d", "e"].map (.dispatch ∘ .createRootFolder) ++
      [.setViewHeight 3, .refresh [], .moveSelection (-1)]
    let fewer := full ++ [.dispatch (.removeFolder "a"), .refresh []]
    ∃ c c', (Scene.start .empty).after .checked full = .ok c ∧ c.explorer.Windowed ∧
      (Scene.start .empty).after .checked fewer = .ok c' ∧ c'.explorer.Windowed ∧
      c.explorer.selected = some 4 ∧
      c.explorer.visibleRows .checked = .ok (c.explorer.rows.drop 2) ∧
      c'.explorer.selected = some 3 ∧
      (c'.explorer.visibleRows .natural).run.map Row.name = ["c", "d", "e"] := by
  intro full fewer
  obtain ⟨-, hfull⟩ := windowed_after .empty full
  obtain ⟨-, hfewer⟩ := windowed_after .empty fewer
  exact ⟨_, _, rfl, hfull _ rfl, rfl, hfewer _ rfl, rfl, rfl, rfl, rfl⟩

end WorkspaceConsole.Explorer

import Mathlib.Data.List.Nodup
import WorkspaceConsole.Screen.Frame

/-!
# What painting shows

Painting lines in an area puts the `i`-th line on the `i`-th row of the area: the cell in which a
cluster of the line begins shows that cluster, and every other cell stays as it was (`cell?_paint`).
What the lines show at a place is `Area.layOut`, which does not depend on the frame.

A border changes no cell inside it and none outside its area (`cell?_paintBox`).
-/

namespace WorkspaceConsole

/-! ## Places -/

namespace Area

/-- The place lies in the area. -/
def Contains (a : Area) (x y : Nat) : Prop :=
  (a.x ≤ x ∧ x < a.x + a.width) ∧ (a.y ≤ y ∧ y < a.y + a.height)

instance (a : Area) (x y : Nat) : Decidable (a.Contains x y) :=
  inferInstanceAs (Decidable (_ ∧ _))

/-- What lies inside a border lies off the first and the last row and column. -/
theorem of_contains_inner {a : Area} {x y : Nat} (h : a.inner.Contains x y) :
    (a.x < x ∧ x + 1 < a.x + a.width) ∧ (a.y < y ∧ y + 1 < a.y + a.height) := by
  unfold Contains inner at h
  dsimp only at h
  omega

theorem contains_of_inner {a : Area} {x y : Nat} (h : a.inner.Contains x y) : a.Contains x y := by
  have hinside := of_contains_inner h
  unfold Contains
  omega

end Area

/-- What a line shows in a column of a row that is `limit` columns wide: the cluster that begins
there, if one does. -/
def StyledLine.cell? (line : StyledLine) (limit column : Nat) : Option Cell :=
  ((Frame.fit limit 0 (Frame.glyphs line)).lookup column).map fun g => ⟨g, line.style⟩

/-- What lines show at a place: the `i`-th line is laid out on the `i`-th row of the area. -/
def Area.layOut (a : Area) (lines : List StyledLine) (x y : Nat) : Option Cell :=
  if a.Contains x y then lines[y - a.y]?.bind fun line => line.cell? a.width (x - a.x) else none

namespace Frame

/-- The cell at a place, if the frame has one there. -/
def cell? (f : Frame) (x y : Nat) : Option Cell :=
  f.rows[y]?.bind (·[x]?)

theorem cell?_put (f : Frame) (x y : Nat) (symbol : List Char) (style : Style) (x' y' : Nat) :
    (f.put x y symbol style).cell? x' y' =
      if x' = x ∧ y' = y then (f.cell? x' y').map fun _ => ⟨symbol, style⟩ else f.cell? x' y' := by
  unfold cell? put
  dsimp only
  rw [Array.getElem?_modify]
  by_cases hy : y' = y
  · subst hy
    cases hrow : f.rows[y']? with
    | none => simp
    | some row =>
      by_cases hx : x' = x
      · simp [Array.getElem?_modify, hx]
      · simp [Array.getElem?_modify, hx, Ne.symm hx]
  · simp [hy, Ne.symm hy]

/-! ## What many steps leave alone -/

/-- What no step changes, all of them together do not change. -/
theorem foldl_keeps {α β : Type} (see : Frame → β) {step : Frame → α → Frame} {items : List α}
    (hstep : ∀ f, ∀ i ∈ items, see (step f i) = see f) (f : Frame) :
    see (items.foldl step f) = see f := by
  induction items generalizing f with
  | nil => rfl
  | cons i items ih =>
    obtain ⟨hfirst, hrest⟩ := List.forall_mem_cons.1 fun i hi f => hstep f i hi
    exact (ih (fun f i hi => hrest i hi f) _).trans (hfirst f)

theorem cell?_put_of_ne {x y x' y' : Nat} (h : ¬ (x' = x ∧ y' = y)) (f : Frame)
    (symbol : List Char) (style : Style) :
    (f.put x y symbol style).cell? x' y' = f.cell? x' y' := by
  rw [cell?_put, if_neg h]

/-! ## One line -/

/-- The clusters of a row begin in different columns, from left to right and within the row. -/
theorem pairwise_fit (limit used : Nat) (gs : List (List Char)) :
    ((fit limit used gs).map Prod.fst).Pairwise (· < ·) ∧
      ∀ column ∈ (fit limit used gs).map Prod.fst, used ≤ column ∧ column < limit := by
  fun_induction fit limit used gs with
  | case1 => simp
  | case2 used g gs w hwide ih => exact ih
  | case3 => simp
  | case4 used g gs w hwide hroom hnone ih => exact ih
  | case5 used g gs w hwide hroom hsome ih =>
    obtain ⟨hordered, hbounds⟩ := ih
    rw [List.map_cons, List.pairwise_cons]
    refine ⟨⟨?_, hordered⟩, ?_⟩
    · intro column hcolumn
      have hbound := hbounds column hcolumn
      omega
    · intro column hcolumn
      rcases List.mem_cons.1 hcolumn with rfl | hcolumn
      · omega
      · have hbound := hbounds column hcolumn
        omega

/-- Nothing is found in a column in which no entry begins. -/
theorem lookup_eq_none_of_notMem {entries : List (Nat × List Char)} {column : Nat}
    (h : column ∉ entries.map Prod.fst) : entries.lookup column = none := by
  rw [List.lookup_eq_none_iff]
  intro entry hmem
  rw [bne_iff_ne]
  rintro rfl
  exact h (List.mem_map_of_mem hmem)

/-- A line shows nothing beyond its row. -/
theorem cell?_eq_none_of_le {line : StyledLine} {limit column : Nat} (h : limit ≤ column) :
    line.cell? limit column = none := by
  have hmissing : column ∉ (fit limit 0 (glyphs line)).map Prod.fst := by
    intro hmem
    have hbound := (pairwise_fit limit 0 (glyphs line)).2 column hmem
    omega
  simp [StyledLine.cell?, lookup_eq_none_of_notMem hmissing]

/-- Clusters put into different columns of a row show there, and nothing else changes. -/
theorem cell?_foldl_put {entries : List (Nat × List Char)} (hcolumns : (entries.map Prod.fst).Nodup)
    (f : Frame) (x y : Nat) (style : Style) (x' y' : Nat) :
    (entries.foldl (fun f (column, g) => f.put (x + column) y g style) f).cell? x' y' =
      (f.cell? x' y').map fun old =>
        (if x ≤ x' ∧ y' = y then (entries.lookup (x' - x)).map fun g => ⟨g, style⟩
          else none).getD old := by
  induction entries generalizing f with
  | nil => simp
  | cons entry entries ih =>
    obtain ⟨column, g⟩ := entry
    obtain ⟨hnew, hcolumns⟩ := List.nodup_cons.1 hcolumns
    rw [List.foldl_cons, ih hcolumns, cell?_put]
    by_cases hplace : x' = x + column ∧ y' = y
    · obtain ⟨rfl, rfl⟩ := hplace
      simp [lookup_eq_none_of_notMem hnew, Function.comp_def]
    · rw [if_neg hplace]
      by_cases hrow : x ≤ x' ∧ y' = y
      · have hother : (x' - x == column) = false := by
          rw [beq_eq_false_iff_ne]
          omega
        simp only [hrow, and_self, if_true, List.lookup_cons, hother]
      · simp only [hrow, if_false]

theorem cell?_paintLine (f : Frame) (x y limit : Nat) (line : StyledLine) (x' y' : Nat) :
    (f.paintLine x y limit line).cell? x' y' =
      (f.cell? x' y').map fun old =>
        (if x ≤ x' ∧ y' = y then line.cell? limit (x' - x) else none).getD old := by
  have hcolumns : ((fit limit 0 (glyphs line)).map Prod.fst).Nodup :=
    (pairwise_fit limit 0 (glyphs line)).1.imp Nat.ne_of_lt
  exact cell?_foldl_put hcolumns f x y line.style x' y'

/-! ## Lines below each other -/

/-- Lines painted from row `y` on, each on the next row. -/
theorem cell?_foldl_paintLine (lines : List StyledLine) (f : Frame) (x y limit x' y' : Nat) :
    (lines.foldl (fun (f, y) line => (f.paintLine x y limit line, y + 1)) (f, y)).1.cell? x' y' =
      (f.cell? x' y').map fun old =>
        (if x ≤ x' ∧ y ≤ y' then lines[y' - y]?.bind fun line => line.cell? limit (x' - x)
          else none).getD old := by
  induction lines generalizing f y with
  | nil => simp
  | cons line lines ih =>
    rw [List.foldl_cons, ih, cell?_paintLine, Option.map_map]
    congr 1
    funext old
    by_cases hx : x ≤ x'
    · rcases Nat.lt_trichotomy y' y with hy | rfl | hy
      · have hnot : ¬ y + 1 ≤ y' ∧ ¬ y' = y ∧ ¬ y ≤ y' := by omega
        simp [hnot]
      · have hnot : ¬ y' + 1 ≤ y' := by omega
        simp [hx, hnot]
      · have hrow : y' - y = y' - (y + 1) + 1 := by omega
        have hplace : y + 1 ≤ y' ∧ ¬ y' = y ∧ y ≤ y' := by omega
        simp [hx, hplace, hrow]
    · simp [hx]

/-- **Painting lines in an area** shows each on its row, and changes nothing else. -/
theorem cell?_paint (f : Frame) (a : Area) (lines : List StyledLine) (x y : Nat) :
    (f.paint a lines).cell? x y =
      (f.cell? x y).map fun old => (a.layOut lines x y).getD old := by
  rw [paint, cell?_foldl_paintLine, Area.layOut]
  congr 1
  funext old
  congr 1
  by_cases hplace : a.Contains x y
  · have hrow : y - a.y < a.height := by
      unfold Area.Contains at hplace
      omega
    rw [if_pos hplace, if_pos ⟨hplace.1.1, hplace.2.1⟩, List.getElem?_take_of_lt hrow]
  · rw [if_neg hplace]
    by_cases hbelow : a.x ≤ x ∧ a.y ≤ y
    · rw [if_pos hbelow]
      by_cases hrow : y - a.y < a.height
      · have hright : a.width ≤ x - a.x := by
          unfold Area.Contains at hplace
          omega
        rw [List.getElem?_take_of_lt hrow]
        cases lines[y - a.y]? with
        | none => rfl
        | some line => exact cell?_eq_none_of_le hright
      · have hlow : a.height ≤ y - a.y := by omega
        rw [List.getElem?_eq_none (by simp; omega)]
        rfl
    · rw [if_neg hbelow]

theorem cell?_paint_of_not_contains {a : Area} {x y : Nat} (h : ¬ a.Contains x y) (f : Frame)
    (lines : List StyledLine) : (f.paint a lines).cell? x y = f.cell? x y := by
  rw [cell?_paint, Area.layOut, if_neg h]
  simp

/-! ## Borders -/

/-- **A border** changes no cell inside it, and none outside its area. -/
theorem cell?_paintBox {a : Area} {x y : Nat} (h : a.inner.Contains x y ∨ ¬ a.Contains x y)
    (f : Frame) (title : String) : (f.paintBox a title).cell? x y = f.cell? x y := by
  rw [paintBox]
  by_cases hempty : a.isEmpty = true
  · rw [if_pos hempty]
  · rw [if_neg hempty]
    have hsize : 0 < a.width ∧ 0 < a.height := by
      simp only [Area.isEmpty, Bool.or_eq_true, decide_eq_true_eq, not_or] at hempty
      omega
    have hoff : (a.x < x ∧ x + 1 < a.x + a.width) ∧ (a.y < y ∧ y + 1 < a.y + a.height) ∨
        ¬ ((a.x ≤ x ∧ x < a.x + a.width) ∧ (a.y ≤ y ∧ y < a.y + a.height)) :=
      h.imp_left Area.of_contains_inner
    dsimp only
    -- The title stands on the first row, which is part of the border.
    rw [cell?_paintLine]
    have htitle : (if a.x + 1 ≤ x ∧ y = a.y then
        (StyledLine.ofString title {}).cell? (a.width - 2) (x - (a.x + 1)) else none) = none := by
      by_cases hrow : a.x + 1 ≤ x ∧ y = a.y
      · rw [if_pos hrow]
        exact cell?_eq_none_of_le (by omega)
      · rw [if_neg hrow]
    simp only [htitle, Option.getD_none, Option.map_id']
    rw [cell?_put_of_ne (by omega), cell?_put_of_ne (by omega), cell?_put_of_ne (by omega),
      cell?_put_of_ne (by omega)]
    refine (foldl_keeps (·.cell? x y) ?_ _).trans (foldl_keeps (·.cell? x y) ?_ f)
    · intro f i hi
      have hcolumn : i < a.width := List.mem_range.1 hi
      rw [cell?_put_of_ne (by omega), cell?_put_of_ne (by omega)]
    · intro f i hi
      have hrow : i < a.height := List.mem_range.1 hi
      rw [cell?_put_of_ne (by omega), cell?_put_of_ne (by omega)]

/-! ## The cursor -/

@[simp] theorem cursor_put (f : Frame) (x y : Nat) (symbol : List Char) (style : Style) :
    (f.put x y symbol style).cursor = f.cursor := rfl

@[simp] theorem cursor_paintLine (f : Frame) (x y limit : Nat) (line : StyledLine) :
    (f.paintLine x y limit line).cursor = f.cursor :=
  foldl_keeps Frame.cursor (by intro f i hi; rfl) f

@[simp] theorem cursor_paint (f : Frame) (a : Area) (lines : List StyledLine) :
    (f.paint a lines).cursor = f.cursor := by
  unfold paint
  generalize lines.take a.height = shown
  generalize a.y = y
  induction shown generalizing f y with
  | nil => rfl
  | cons line lines ih =>
    rw [List.foldl_cons, ih, cursor_paintLine]

@[simp] theorem cursor_paintBox (f : Frame) (a : Area) (title : String) :
    (f.paintBox a title).cursor = f.cursor := by
  rw [paintBox]
  split
  · rfl
  · rw [cursor_paintLine, cursor_put, cursor_put, cursor_put, cursor_put]
    refine (foldl_keeps Frame.cursor ?_ _).trans (foldl_keeps Frame.cursor ?_ f)
    · intro f i hi
      rfl
    · intro f i hi
      rfl

end Frame

end WorkspaceConsole

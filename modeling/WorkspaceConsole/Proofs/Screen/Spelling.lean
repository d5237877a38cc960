import WorkspaceConsole.Proofs.Screen.Paint
import WorkspaceConsole.Proofs.Text.Letter

/-!
# What a row of cells reads

A row of cells spells a text if the clusters of the text stand in it one behind the other, each in
the first of the columns that it takes (`Spells`). Nothing is said there of how the row came to be:
`before` and `after` are what its columns showed and what they show now.

Letters take one column each, so a row reads a text of letters if every letter stands in its own
column (`Spells.letters`). Painting lines makes each of them read on its row (`Shows.rowReads`).
-/

namespace WorkspaceConsole.Frame

/-! ## Rows of cells -/

/-- **The cells of a row spell a text** in clusters, from column `used` on and within `limit`
columns. `before` and `after` are what the columns of the row showed and what they show. -/
inductive Spells (before after : Nat → Option Cell) (limit : Nat) (style : Style) :
    Nat → List (List Char) → Prop
  /-- Behind the text the row is what it was. -/
  | ends {used : Nat} : (∀ column, used ≤ column → column < limit → after column = before column) →
      Spells before after limit style used []
  /-- A cluster stands in the first of the columns that it takes, and the others are what they
  were. -/
  | stands {used : Nat} {g : List Char} {gs : List (List Char)} : 0 < Text.width g →
      used + Text.width g ≤ limit → after used = (before used).map (fun _ => ⟨g, style⟩) →
      (∀ column, used < column → column < used + Text.width g → after column = before column) →
      Spells before after limit style (used + Text.width g) gs →
      Spells before after limit style used (g :: gs)
  /-- A cluster that takes no column is left out, and so is one that no such row could hold. -/
  | leavesOut {used : Nat} {g : List Char} {gs : List (List Char)} :
      Text.width g = 0 ∨ limit < Text.width g → Spells before after limit style used gs →
      Spells before after limit style used (g :: gs)
  /-- A cluster for which there is no room left ends the row. -/
  | breaksOff {used : Nat} {g : List Char} {gs : List (List Char)} : Text.width g ≤ limit →
      limit < used + Text.width g →
      (∀ column, used ≤ column → column < limit → after column = before column) →
      Spells before after limit style used (g :: gs)

variable {before after : Nat → Option Cell} {limit used : Nat} {style : Style}

/-- The clusters that `fit` picks are spelled where it places them. -/
theorem spells_of_fit {gs : List (List Char)}
    (h : ∀ column, used ≤ column → column < limit →
      after column = (before column).map fun old =>
        (((fit limit used gs).lookup column).map (⟨·, style⟩)).getD old) :
    Spells before after limit style used gs := by
  fun_induction fit limit used gs with
  | case1 used =>
    refine .ends fun column hfirst hlast => ?_
    simpa using h column hfirst hlast
  | case2 used g gs w hwide ih => exact .leavesOut (.inr hwide) (ih h)
  | case3 used g gs w hwide hroom =>
    refine .breaksOff (Nat.le_of_not_lt hwide) hroom fun column hfirst hlast => ?_
    simpa using h column hfirst hlast
  | case4 used g gs w hwide hroom hnone ih => exact .leavesOut (.inl hnone) (ih h)
  | case5 used g gs w hwide hroom hsome ih =>
    have hbounds := (pairwise_fit limit (used + w) gs).2
    refine .stands (Nat.pos_of_ne_zero hsome) (Nat.le_of_not_lt hroom) ?_ ?_ (ih ?_)
    · have hplace := h used (Nat.le_refl used) (by omega)
      simpa using hplace
    · intro column hfirst hlast
      have hnone : column ∉ (fit limit (used + w) gs).map Prod.fst := by
        intro hmem
        have hbound := hbounds column hmem
        omega
      have hother : (column == used) = false := by
        rw [beq_eq_false_iff_ne]
        omega
      have hplace := h column (Nat.le_of_lt hfirst) (by omega)
      rw [List.lookup_cons, hother, lookup_eq_none_of_notMem hnone] at hplace
      simpa using hplace
    · intro column hfirst hlast
      have hother : (column == used) = false := by
        rw [beq_eq_false_iff_ne]
        omega
      have hplace := h column (by omega) hlast
      rwa [List.lookup_cons, hother] at hplace

/-- Letters stand one in each column. -/
theorem Spells.letters {cs : List Char} (hcs : ∀ c ∈ cs, Text.IsPrintable c)
    (h : Spells before after limit style used (cs.map ([·]))) (column : Nat)
    (hcolumn : used + column < limit) :
    after (used + column) = (before (used + column)).map fun old =>
      (cs[column]?.map fun c => ⟨[c], style⟩).getD old := by
  induction cs generalizing used column with
  | nil =>
    cases h with
    | ends hrest => simpa using hrest (used + column) (Nat.le_add_right used column) hcolumn
  | cons c cs ih =>
    obtain ⟨hc, hcs⟩ := List.forall_mem_cons.1 hcs
    have hwidth := Text.width_of_isPrintable hc
    simp only [List.map_cons] at h
    cases h with
    | leavesOut hout _ => omega
    | breaksOff _ hroom _ => omega
    | stands _ _ hfirst _ hrest =>
      rw [hwidth] at hrest
      cases column with
      | zero => simpa using hfirst
      | succ column =>
        have hnext := ih hcs hrest column (by omega)
        rwa [Nat.add_assoc, Nat.add_comm 1] at hnext

variable {f g : Frame} {a : Area} {row : Nat}

/-- **A row of an area reads a text** in the frame `g`, which was drawn over the frame `f`. The text
may come in pieces, which are cut into clusters one by one, and line feeds do not show. -/
structure RowReads (f g : Frame) (a : Area) (row : Nat) (text : List (List Char)) (style : Style) :
    Prop where
  spells : Spells (fun column => f.cell? (a.x + column) (a.y + row))
    (fun column => g.cell? (a.x + column) (a.y + row)) a.width style 0
    ((text.flatMap Text.clusters).filter (· ≠ ['\n']))
  /-- The clusters are the whole text. -/
  whole : (text.flatMap Text.clusters).flatten = text.flatten
  /-- In a text of letters, each stands in its column, and the columns behind are what they were. -/
  letters : (∀ c ∈ text.flatten, Text.IsPrintable c) → ∀ column < a.width,
    g.cell? (a.x + column) (a.y + row) = (f.cell? (a.x + column) (a.y + row)).map fun old =>
      (text.flatten[column]?.map fun c => ⟨[c], style⟩).getD old

/-- A row of an area is in the frame `g` what it was in the frame `f`. -/
def RowKept (f g : Frame) (a : Area) (row : Nat) : Prop :=
  ∀ column < a.width, g.cell? (a.x + column) (a.y + row) = f.cell? (a.x + column) (a.y + row)

theorem flatten_flatMap_clusters (text : List (List Char)) :
    (text.flatMap Text.clusters).flatten = text.flatten := by
  induction text with
  | nil => rfl
  | cons piece text ih =>
    rw [List.flatMap_cons, List.flatten_append, Text.flatten_clusters, ih, List.flatten_cons]

theorem flatMap_clusters_of_isPrintable {text : List (List Char)}
    (h : ∀ c ∈ text.flatten, Text.IsPrintable c) :
    (text.flatMap Text.clusters).filter (· ≠ ['\n']) = text.flatten.map ([·]) := by
  have hclusters : text.flatMap Text.clusters = text.flatten.map ([·]) := by
    induction text with
    | nil => rfl
    | cons piece text ih =>
      obtain ⟨hpiece, htext⟩ := List.forall_mem_append.1 h
      rw [List.flatMap_cons, Text.clusters_of_isPrintable hpiece, ih htext, List.flatten_cons,
        List.map_append]
  rw [hclusters, List.filter_eq_self]
  intro g hg
  obtain ⟨c, hc, rfl⟩ := List.mem_map.1 hg
  simp [(h c hc).ne.1]

theorem rowReads_of_spells {text : List (List Char)} {style : Style}
    (h : Spells (fun column => f.cell? (a.x + column) (a.y + row))
      (fun column => g.cell? (a.x + column) (a.y + row)) a.width style 0
      ((text.flatMap Text.clusters).filter (· ≠ ['\n']))) : f.RowReads g a row text style where
  spells := h
  whole := flatten_flatMap_clusters text
  letters hletters column hcolumn := by
    rw [flatMap_clusters_of_isPrintable hletters] at h
    have hplace := h.letters hletters column (by rwa [Nat.zero_add])
    rwa [Nat.zero_add] at hplace

/-! ## What painting makes of them -/

/-- The lines show up in an area of the frame `g`, each on its row, and around them what the frame
`f` shows there. -/
def Shows (f : Frame) (a : Area) (lines : List StyledLine) (g : Frame) : Prop :=
  ∀ x y, a.Contains x y → g.cell? x y = (f.cell? x y).map fun old => (a.layOut lines x y).getD old

/-- Only the cells in the area count. -/
theorem Shows.congr {f' g' : Frame} {lines : List StyledLine} (h : f.Shows a lines g)
    (hbefore : ∀ x y, a.Contains x y → f'.cell? x y = f.cell? x y)
    (hafter : ∀ x y, a.Contains x y → g'.cell? x y = g.cell? x y) : f'.Shows a lines g' := by
  intro x y hplace
  rw [hafter x y hplace, h x y hplace, hbefore x y hplace]

theorem glyphs_eq (line : StyledLine) :
    glyphs line = (line.pieces.flatMap Text.clusters).filter (· ≠ ['\n']) := by
  rw [glyphs, List.filter_flatMap]

/-- A line that shows up on a row is read there. -/
theorem Shows.rowReads {lines : List StyledLine} (h : f.Shows a lines g) {line : StyledLine}
    (hline : lines[row]? = some line) (hrow : row < a.height) :
    f.RowReads g a row line.pieces line.style := by
  refine rowReads_of_spells (spells_of_fit fun column _ hcolumn => ?_)
  have hplace : a.Contains (a.x + column) (a.y + row) := by
    unfold Area.Contains
    omega
  rw [h _ _ hplace, Area.layOut, if_pos hplace, Nat.add_sub_cancel_left, Nat.add_sub_cancel_left,
    hline, Option.bind_some, StyledLine.cell?, glyphs_eq]

/-- A row below all lines is left as it was. -/
theorem Shows.rowKept {lines : List StyledLine} (h : f.Shows a lines g)
    (hbelow : lines.length ≤ row) (hrow : row < a.height) : f.RowKept g a row := by
  intro column hcolumn
  have hplace : a.Contains (a.x + column) (a.y + row) := by
    unfold Area.Contains
    omega
  rw [h _ _ hplace, Area.layOut, if_pos hplace, Nat.add_sub_cancel_left,
    List.getElem?_eq_none hbelow]
  simp

end WorkspaceConsole.Frame

import WorkspaceConsole.Proofs.Explorer.Toggle
import WorkspaceConsole.Proofs.Explorer.Window

/-!
# Where results fit

An arithmetic may be right only as long as results fit a word (`Arithmetic.Exact`). In such an
arithmetic the operations of the explorer come to what they come to over all numbers, and `Fits` and
`Framed` are all that is needed of the explorer. The one exception is a new height, because the
window is still where it was for the old one: the first row and the new height have to have a sum
that fits (`setViewHeight_exact`).
-/

namespace WorkspaceConsole

namespace Arithmetic

variable {m : Type → Type} [Monad m]

/-- The result is right if it fits a word. -/
structure Exact (A : Arithmetic m) : Prop where
  add {a b : Nat} : a + b < UInt64.size → A.add a b = pure (a + b)
  sub {a b : Nat} : b ≤ a → a < UInt64.size → A.sub a b = pure (a - b)

theorem exact_checked : checked.Exact where
  add h := if_pos h
  sub h _ := if_pos h

theorem exact_wrapping : wrapping.Exact where
  add {a b} h := by
    have ha : a.toUInt64.toNat = a := UInt64.toNat_ofNat_of_lt' (by omega)
    have hb : b.toUInt64.toNat = b := UInt64.toNat_ofNat_of_lt' (by omega)
    show (a.toUInt64 + b.toUInt64).toNat = a + b
    rw [UInt64.toNat_add, ha, hb]
    exact Nat.mod_eq_of_lt h
  sub {a b} hle h := by
    have ha : a.toUInt64.toNat = a := UInt64.toNat_ofNat_of_lt' h
    have hb : b.toUInt64.toNat = b := UInt64.toNat_ofNat_of_lt' (by omega)
    show (a.toUInt64 - b.toUInt64).toNat = a - b
    rw [UInt64.toNat_sub_of_le _ _ (by rwa [UInt64.le_iff_toNat_le, ha, hb]), ha, hb]

end Arithmetic

namespace Explorer

/-! ## Where results fit -/

/-- The height is a word, and rows are fewer than half of all words. -/
structure Fits (e : Explorer) : Prop where
  height : e.viewHeight < UInt64.size
  rows : 2 * e.rows.length < UInt64.size

/-- The height is a new one, there is a row to keep in the window, and the window would end beyond
the last word if it went on to start where it does. -/
structure Overflows (e : Explorer) (height : Nat) : Prop where
  selected : e.selected ≠ none
  changed : e.viewHeight ≠ max height 1
  beyond : UInt64.size ≤ e.scroll + max height 1

instance (e : Explorer) (height : Nat) : Decidable (e.Overflows height) :=
  decidable_of_iff
    (e.selected ≠ none ∧ e.viewHeight ≠ max height 1 ∧ UInt64.size ≤ e.scroll + max height 1)
    ⟨fun h => ⟨h.1, h.2.1, h.2.2⟩, fun h => ⟨h.1, h.2, h.3⟩⟩

/-- The window does not start below the selected row. -/
theorem Overflows.scroll_lt {e : Explorer} {height : Nat} (hbeyond : e.Overflows height)
    (h : e.Framed) : e.scroll < e.rows.length := by
  obtain ⟨index, hindex⟩ := Option.ne_none_iff_exists'.1 hbeyond.selected
  exact Nat.lt_of_le_of_lt (h.shown index hindex).1 (h.selected index hindex)

/-- It starts within the first half of all words, so it takes a height beyond that. -/
theorem Framed.not_overflows {e : Explorer} {height : Nat} (h : e.Framed) (hfits : e.Fits)
    (hlow : 2 * height ≤ UInt64.size) : ¬ e.Overflows height := by
  intro hbeyond
  have hscroll := hbeyond.scroll_lt h
  have hrows := hfits.rows
  have hsize := hbeyond.beyond
  have hone : 2 * 1 ≤ UInt64.size := by decide
  omega

variable {m : Type → Type} [Monad m] [LawfulMonad m] {A : Arithmetic m} {e : Explorer}

theorem keepRowVisible_exact (hA : A.Exact) {index : Nat} (hindex : index + 1 < UInt64.size)
    (hroom : e.scroll + max e.viewHeight 1 < UInt64.size) :
    e.keepRowVisible A index = pure (e.keepRowVisible .natural index) := by
  rw [keepRowVisible_natural, keepRowVisible]
  by_cases habove : index < e.scroll
  · rw [if_pos habove, if_pos habove]
  · rw [if_neg habove, if_neg habove, hA.add hroom, pure_bind]
    by_cases hbelow : e.scroll + max e.viewHeight 1 ≤ index
    · rw [if_pos hbelow, if_pos hbelow, hA.add hindex, pure_bind, hA.sub (by omega) hindex,
        pure_bind]
    · rw [if_neg hbelow, if_neg hbelow]

theorem settle_exact (hA : A.Exact)
    (hselected : ∀ index, e.selected = some index → index + 1 < UInt64.size)
    (hroom : e.selected ≠ none → e.scroll + max e.viewHeight 1 < UInt64.size) :
    e.settle A = pure (e.settle .natural) := by
  unfold settle
  cases hsome : e.selected with
  | none => rfl
  | some index =>
    exact keepRowVisible_exact hA (hselected index hsome) (hroom (by simp [hsome]))

/-- A window that is in place ends within the words. -/
theorem Framed.bottom_lt (h : e.Framed) (hfits : e.Fits) :
    e.scroll + max e.viewHeight 1 < UInt64.size := by
  have hscroll := h.scroll
  have hheight := hfits.height
  have hrows := hfits.rows
  rw [Nat.max_eq_left h.height]
  omega

theorem reselect_exact (hA : A.Exact) {count : Nat} (hcount : count < UInt64.size)
    (selected : Option Nat) :
    reselect A count selected = pure (reselect .natural count selected) := by
  cases selected with
  | none => rfl
  | some index =>
    rw [reselect_natural]
    unfold reselect
    dsimp only
    by_cases hnone : count = 0
    · rw [if_pos hnone, if_pos hnone]
    · rw [if_neg hnone, if_neg hnone, hA.sub (by omega) hcount, pure_bind]
      rfl

theorem rows_rebuild (e : Explorer) (s : Store) :
    Explorer.rows (e.rebuild .natural s) = s.roots.rows e.expanded := by
  rw [(reads_rebuild e s).rows, expanded_rebuild]

theorem rebuild_exact (hA : A.Exact) (h : e.Framed) (hfits : e.Fits) {s : Store}
    (hrows : 2 * (Explorer.rows (e.rebuild .natural s)).length < UInt64.size) :
    e.rebuild A s = pure (e.rebuild .natural s) := by
  rw [rows_rebuild] at hrows
  rw [rebuild, reselect_exact hA (by omega), pure_bind]
  refine settle_exact hA ?_ fun _ => h.bottom_lt hfits
  intro index hindex
  dsimp only at hindex
  rw [reselect_natural] at hindex
  split at hindex
  next => cases hindex
  next hne =>
    obtain ⟨old, -, rfl⟩ := Option.map_eq_some_iff.1 hindex
    omega

theorem refreshAcross_exact (hA : A.Exact) (h : e.Framed) (hfits : e.Fits) (seen : UInt64)
    {later : Store}
    (hrows : 2 * (e.refreshAcross .natural seen later).2.rows.length < UInt64.size) :
    e.refreshAcross A seen later = pure (e.refreshAcross .natural seen later) := by
  unfold refreshAcross at hrows ⊢
  by_cases hseen : e.version = some seen
  · rw [if_pos hseen, if_pos hseen]
    rfl
  · rw [if_neg hseen] at hrows
    rw [if_neg hseen, if_neg hseen, rebuild_exact hA h hfits hrows, pure_bind]
    rfl

theorem setExpanded_exact (hA : A.Exact) (h : e.Framed) (hfits : e.Fits) (key : String)
    (expanded : Bool) {s : Store}
    (hrows : 2 * (e.setExpanded .natural key expanded s).2.rows.length < UInt64.size) :
    e.setExpanded A key expanded s = pure (e.setExpanded .natural key expanded s) := by
  unfold setExpanded at hrows ⊢
  by_cases hsame : e.isExpanded key = expanded
  · rw [if_pos hsame, if_pos hsame]
    rfl
  · rw [if_neg hsame] at hrows
    rw [if_neg hsame, if_neg hsame]
    dsimp only at hrows ⊢
    generalize (if expanded then key :: e.expanded else e.expanded.filter (· ≠ key)) = keys
      at hrows ⊢
    have hframed : ({ e with expanded := keys } : Explorer).Framed :=
      ⟨h.height, h.selected, h.scroll, h.shown⟩
    rw [rebuild_exact hA hframed ⟨hfits.height, hfits.rows⟩ hrows, pure_bind]
    rfl

theorem toggleSelected_exact (hA : A.Exact) (h : e.Framed) (hfits : e.Fits) {s : Store}
    (hrows : 2 * (e.toggleSelected .natural s).2.rows.length < UInt64.size) :
    e.toggleSelected A s = pure (e.toggleSelected .natural s) := by
  unfold toggleSelected at hrows ⊢
  cases hrow : e.selectedRow? with
  | none => rfl
  | some row =>
    rw [hrow] at hrows
    dsimp only at hrows ⊢
    cases hkind : row.kind with
    | file id => rfl
    | folder expanded =>
      rw [hkind] at hrows
      exact setExpanded_exact hA h hfits row.key (!expanded) hrows

theorem setViewHeight_exact (hA : A.Exact) (h : e.Framed) (hfits : e.Fits) {height : Nat}
    (hroom : ¬ e.Overflows height) :
    e.setViewHeight A height = pure (e.setViewHeight .natural height) := by
  have hrows := hfits.rows
  rw [setViewHeight_natural, setViewHeight]
  by_cases hsame : e.viewHeight = max height 1
  · rw [if_pos hsame, if_pos hsame]
  · rw [if_neg hsame, if_neg hsame, settle_exact hA, pure_bind]
    · intro index hindex
      have hrow := h.selected index hindex
      omega
    · intro hselected
      refine Nat.lt_of_not_le fun hbeyond => hroom ⟨hselected, hsame, ?_⟩
      rwa [Nat.max_eq_left (Nat.le_max_right height 1)] at hbeyond

theorem target_exact (hA : A.Exact) {count : Nat} {selected : Option Nat} (hcount : 0 < count)
    (hrows : 2 * count < UInt64.size)
    (hselected : ∀ index, selected = some index → index < count) {delta : Int}
    (hdelta : 2 * delta < UInt64.size) :
    target A count selected delta = pure (target .natural count selected delta).run := by
  rw [target_natural]
  unfold target
  cases selected with
  | none =>
    dsimp only
    split
    · exact hA.sub hcount (by omega)
    · rfl
  | some index =>
    have hindex := hselected index rfl
    dsimp only
    split
    · rfl
    · rw [hA.add (by omega), pure_bind, hA.sub hcount (by omega), pure_bind]

theorem moveSelection_exact (hA : A.Exact) (h : e.Framed) (hfits : e.Fits) {delta : Int}
    (hdelta : 2 * delta < UInt64.size) :
    e.moveSelection A delta = pure (e.moveSelection .natural delta) := by
  have hrows := hfits.rows
  rw [moveSelection_natural, moveSelection]
  by_cases hstill : e.rows.isEmpty ∨ delta = 0
  · rw [if_pos hstill, if_pos hstill]
  · have hpos : 0 < e.rows.length :=
      List.length_pos_iff.2 fun h => hstill (.inl (List.isEmpty_iff.2 h))
    have hlt := target_lt hpos h.selected delta
    rw [if_neg hstill, if_neg hstill, target_exact hA hpos hrows h.selected hdelta, pure_bind]
    by_cases hsame : e.selected = some (target .natural e.rows.length e.selected delta).run
    · rw [if_pos hsame, if_pos hsame]
    · rw [if_neg hsame, if_neg hsame, keepRowVisible_exact hA (by omega), pure_bind]
      · rfl
      · exact h.bottom_lt hfits

theorem visibleRows_exact (hA : A.Exact) (h : e.Framed) (hfits : e.Fits) :
    e.visibleRows A = pure (e.visibleRows .natural) := by
  have hbottom := h.bottom_lt hfits
  have hscroll := h.scroll
  have hstart : min e.scroll e.rows.length + max e.viewHeight 1 < UInt64.size := by omega
  unfold visibleRows
  dsimp only
  rw [hA.add hstart, pure_bind]
  rfl

end Explorer

end WorkspaceConsole

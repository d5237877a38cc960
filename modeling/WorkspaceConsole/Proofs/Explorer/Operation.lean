import WorkspaceConsole.Explorer
import WorkspaceConsole.Proofs.Store.Run

/-!
# What the operations of the explorer do

Whatever is done to an explorer, it does one of four things (`Adjusted`): it stays as it is, it
reads the tree anew, its window gets another height, or another row is selected. In the last three
cases the window is then moved by `settle`, which changes its first row and nothing else
(`settle_eq`).

A `Scene` is a store with an explorer that looks at it. Its events are the changes of the store and
the operations of the explorer, in any order.

All this is told over all numbers.
-/

namespace WorkspaceConsole.Explorer

/-! ## Over all numbers

Over all numbers no operation can go wrong, and each comes to what a plain function would. -/

section Natural

variable (e : Explorer) (s : Store)

theorem keepRowVisible_natural (index : Nat) :
    e.keepRowVisible .natural index =
      if index < e.scroll then { e with scroll := index }.clampScroll
      else if e.scroll + max e.viewHeight 1 ≤ index then
        { e with scroll := index + 1 - max e.viewHeight 1 }.clampScroll
      else e.clampScroll := rfl

/-- A selection beyond the last row moves to the last row. -/
theorem reselect_natural (count : Nat) (selected : Option Nat) :
    reselect .natural count selected =
      if count = 0 then none else selected.map (min · (count - 1)) := by
  cases selected with
  | none => by_cases hcount : count = 0 <;> simp only [hcount, if_true, if_false] <;> rfl
  | some index => rfl

theorem rebuild_natural :
    e.rebuild .natural s =
      { e with
        rows := s.roots.rows e.expanded
        selected := reselect .natural (s.roots.rows e.expanded).length e.selected
        version := some s.version : Explorer }.settle .natural := rfl

theorem refreshAcross_natural (seen : UInt64) (later : Store) :
    e.refreshAcross .natural seen later =
      if e.version = some seen then (false, e) else (true, e.rebuild .natural later) := rfl

theorem refresh_natural :
    e.refresh .natural s =
      if e.version = some s.version then (false, e) else (true, e.rebuild .natural s) := rfl

theorem setExpanded_natural (key : String) (expanded : Bool) :
    e.setExpanded .natural key expanded s =
      if e.isExpanded key = expanded then (false, e)
      else
        (true, { e with
          expanded :=
            if expanded then key :: e.expanded else e.expanded.filter (· ≠ key) : Explorer }.rebuild
              .natural s) := rfl

theorem setViewHeight_natural (height : Nat) :
    e.setViewHeight .natural height =
      if e.viewHeight = max height 1 then (false, e)
      else (true, { e with viewHeight := max height 1 : Explorer }.settle .natural) := rfl

theorem target_natural (count : Nat) (selected : Option Nat) (delta : Int) :
    (target .natural count selected delta).run =
      match selected with
      | none => if delta < 0 then count - 1 else 0
      | some index =>
        if delta < 0 then index - delta.natAbs else min (index + delta.natAbs) (count - 1) := by
  cases selected <;> rfl

theorem moveSelection_natural (delta : Int) :
    e.moveSelection .natural delta =
      if e.rows.isEmpty ∨ delta = 0 then (false, e)
      else if e.selected = some (target .natural e.rows.length e.selected delta).run then (false, e)
      else
        (true, { e with
          selected := some (target .natural e.rows.length e.selected delta).run : Explorer }.settle
            .natural) := rfl

/-- The rows from where the window starts, as many as its height allows. -/
theorem visibleRows_natural :
    (e.visibleRows .natural).run = (e.rows.drop e.scroll).take (max e.viewHeight 1) := by
  show (e.rows.take (min (min e.scroll e.rows.length + max e.viewHeight 1) e.rows.length)).drop
    (min e.scroll e.rows.length) = _
  by_cases hstart : e.scroll ≤ e.rows.length
  · rw [Nat.min_eq_left hstart, List.drop_take, List.take_eq_take_iff, List.length_drop]
    omega
  · have hbeyond : e.rows.length ≤ e.scroll := by omega
    rw [Nat.min_eq_right hbeyond, List.drop_eq_nil_of_le hbeyond, List.drop_eq_nil_of_le]
    · rw [List.take_nil]
    · rw [List.length_take]
      omega

end Natural

/-! ## The window -/

/-- Moving the window to a row changes where it starts, and nothing else: it starts early enough to
be filled, and the row is in it. -/
theorem keepRowVisible_eq (e : Explorer) (index : Nat) :
    ∃ scroll, e.keepRowVisible .natural index = { e with scroll } ∧
      scroll ≤ e.rows.length - max e.viewHeight 1 ∧
      (index < e.rows.length → scroll ≤ index ∧ index < scroll + max e.viewHeight 1) := by
  rw [keepRowVisible_natural]
  by_cases habove : index < e.scroll
  · rw [if_pos habove]
    exact ⟨_, rfl, Nat.min_le_right _ _, fun hrow => by dsimp only; omega⟩
  · rw [if_neg habove]
    by_cases hbelow : e.scroll + max e.viewHeight 1 ≤ index
    · rw [if_pos hbelow]
      exact ⟨_, rfl, Nat.min_le_right _ _, fun hrow => by dsimp only; omega⟩
    · rw [if_neg hbelow]
      exact ⟨_, rfl, Nat.min_le_right _ _, fun hrow => by omega⟩

/-- Moving the window to the selection changes where it starts, and nothing else. -/
theorem settle_eq (e : Explorer) :
    ∃ scroll, e.settle .natural = { e with scroll } ∧
      scroll ≤ e.rows.length - max e.viewHeight 1 ∧
      ∀ index, e.selected = some index → index < e.rows.length →
        scroll ≤ index ∧ index < scroll + max e.viewHeight 1 := by
  unfold settle
  split
  next row hrow =>
    obtain ⟨scroll, heq, hscroll, hshown⟩ := e.keepRowVisible_eq row
    refine ⟨scroll, heq, hscroll, fun index hindex => ?_⟩
    rw [hrow] at hindex
    cases hindex
    exact hshown
  next hnone =>
    refine ⟨_, rfl, Nat.min_le_right _ _, fun index hindex => ?_⟩
    rw [hnone] at hindex
    cases hindex

/-! ## The operations -/

/-- What an operation can make of the explorer `e` while the store is `s`. -/
inductive Adjusted (s : Store) (e : Explorer) : Explorer → Prop
  | stays : Adjusted s e e
  | reads (expanded : List String) : Adjusted s e ({ e with expanded }.rebuild .natural s)
  | resizes {height : Nat} : 1 ≤ height →
      Adjusted s e ({ e with viewHeight := height }.settle .natural)
  | selects (delta : Int) : e.rows ≠ [] →
      Adjusted s e ({ e with
        selected := some (target .natural e.rows.length e.selected delta).run }.settle .natural)

theorem adjusted_refreshAcross (e : Explorer) (seen : UInt64) (later : Store) :
    Adjusted later e (e.refreshAcross .natural seen later).2 := by
  rw [refreshAcross_natural]
  by_cases hseen : e.version = some seen
  · rw [if_pos hseen]
    exact .stays
  · rw [if_neg hseen]
    exact .reads e.expanded

theorem adjusted_setExpanded (e : Explorer) (key : String) (expanded : Bool) (s : Store) :
    Adjusted s e (e.setExpanded .natural key expanded s).2 := by
  rw [setExpanded_natural]
  by_cases hsame : e.isExpanded key = expanded
  · rw [if_pos hsame]
    exact .stays
  · rw [if_neg hsame]
    exact .reads _

theorem adjusted_toggleSelected (e : Explorer) (s : Store) :
    Adjusted s e (e.toggleSelected .natural s).2 := by
  rw [toggleSelected]
  cases e.selectedRow? with
  | none => exact .stays
  | some row =>
    dsimp only
    cases row.kind with
    | folder expanded => exact adjusted_setExpanded e row.key (!expanded) s
    | file id => exact .stays

theorem adjusted_setViewHeight (e : Explorer) (height : Nat) (s : Store) :
    Adjusted s e (e.setViewHeight .natural height).2 := by
  rw [setViewHeight_natural]
  by_cases hsame : e.viewHeight = max height 1
  · rw [if_pos hsame]
    exact .stays
  · rw [if_neg hsame]
    exact .resizes (Nat.le_max_right height 1)

/-- A move of the selection that makes no difference says so. -/
theorem moveSelection_cases (e : Explorer) (delta : Int) :
    (e.moveSelection .natural delta = (false, e) ∧
      (e.rows = [] ∨ delta = 0 ∨
        e.selected = some (target .natural e.rows.length e.selected delta).run)) ∨
    (e.rows ≠ [] ∧ e.selected ≠ some (target .natural e.rows.length e.selected delta).run ∧
      e.moveSelection .natural delta =
        (true, { e with
          selected := some (target .natural e.rows.length e.selected delta).run : Explorer }.settle
            .natural)) := by
  rw [moveSelection_natural]
  by_cases hstill : e.rows.isEmpty ∨ delta = 0
  · rw [if_pos hstill]
    exact .inl ⟨rfl, hstill.elim (fun h => .inl (List.isEmpty_iff.1 h)) fun h => .inr (.inl h)⟩
  · rw [if_neg hstill]
    by_cases hsame : e.selected = some (target .natural e.rows.length e.selected delta).run
    · rw [if_pos hsame]
      exact .inl ⟨rfl, .inr (.inr hsame)⟩
    · rw [if_neg hsame]
      exact .inr ⟨fun h => hstill (.inl (List.isEmpty_iff.2 h)), hsame, rfl⟩

theorem adjusted_moveSelection (e : Explorer) (delta : Int) (s : Store) :
    Adjusted s e (e.moveSelection .natural delta).2 := by
  rcases e.moveSelection_cases delta with ⟨heq, -⟩ | ⟨hrows, -, heq⟩
  · rw [heq]
    exact .stays
  · rw [heq]
    exact .selects delta hrows

/-! ## Scenes -/

/-- What can happen to a store and to the explorer that looks at it. A `refresh` looks twice, and
the store may change `meanwhile`. -/
inductive Event where
  | dispatch (a : Action)
  | refresh (meanwhile : List Action)
  | rebuild
  | setExpanded (key : String) (expanded : Bool)
  | toggleSelected
  | moveSelection (delta : Int)
  | setViewHeight (height : Nat)

/-- The changes of the store in an event. -/
def Event.actions : Event → List Action
  | .dispatch a => [a]
  | .refresh meanwhile => meanwhile
  | _ => []

/-- A store, and an explorer that looks at it. -/
structure Scene where
  store : Store
  explorer : Explorer

namespace Scene

/-- A store before an explorer has looked at it. -/
def start (store : Store) : Scene := ⟨store, {}⟩

section

variable {m : Type → Type} [Monad m] (A : Arithmetic m)

/-- The scene after an event. -/
def step (c : Scene) : Event → m Scene
  | .dispatch a => pure { c with store := (c.store.dispatch a).2 }
  | .refresh meanwhile => do
    let later := c.store.run meanwhile
    let r ← c.explorer.refreshAcross A c.store.version later
    pure ⟨later, r.2⟩
  | .rebuild => do
    let explorer ← c.explorer.rebuild A c.store
    pure { c with explorer }
  | .setExpanded key expanded => do
    let r ← c.explorer.setExpanded A key expanded c.store
    pure { c with explorer := r.2 }
  | .toggleSelected => do
    let r ← c.explorer.toggleSelected A c.store
    pure { c with explorer := r.2 }
  | .moveSelection delta => do
    let r ← c.explorer.moveSelection A delta
    pure { c with explorer := r.2 }
  | .setViewHeight height => do
    let r ← c.explorer.setViewHeight A height
    pure { c with explorer := r.2 }

/-- The scene after a list of events. -/
def after (c : Scene) (events : List Event) : m Scene :=
  events.foldlM (step A) c

end

theorem after_append (c : Scene) (before events : List Event) :
    c.after .natural (before ++ events) = (c.after .natural before).after .natural events :=
  List.foldlM_append

theorem after_concat (c : Scene) (before : List Event) (event : Event) :
    c.after .natural (before ++ [event]) = (c.after .natural before).step .natural event :=
  after_append c before [event]

/-- The store goes through the changes in the events, and nothing else changes it. -/
theorem store_after (c : Scene) (events : List Event) :
    (c.after .natural events).store = c.store.run (events.flatMap Event.actions) := by
  induction events generalizing c with
  | nil => rfl
  | cons event events ih =>
    rw [List.flatMap_cons, Store.run_append]
    refine (ih (c.step .natural event)).trans ?_
    cases event <;> rfl

/-- Every event adjusts the explorer to the store that is there after it. -/
theorem adjusted_step (c : Scene) (event : Event) :
    Adjusted (c.step .natural event).store c.explorer (c.step .natural event).explorer := by
  cases event with
  | dispatch a => exact .stays
  | refresh meanwhile => exact adjusted_refreshAcross _ _ _
  | rebuild => exact .reads c.explorer.expanded
  | setExpanded key expanded => exact adjusted_setExpanded _ key expanded _
  | toggleSelected => exact adjusted_toggleSelected _ _
  | moveSelection delta => exact adjusted_moveSelection _ delta _
  | setViewHeight height => exact adjusted_setViewHeight _ height _

/-- **What every operation keeps, every run keeps.** -/
theorem after_preserves {P : Explorer → Prop}
    (hstep : ∀ s e e', P e → Adjusted s e e' → P e') {c : Scene} (hc : P c.explorer)
    (events : List Event) : P (c.after .natural events).explorer := by
  induction events generalizing c with
  | nil => exact hc
  | cons event events ih => exact ih (hstep _ _ _ hc (c.adjusted_step event))

end Scene

end WorkspaceConsole.Explorer

import WorkspaceConsole.Proofs.Explorer.Operation

/-!
# What checked arithmetic gives

A computation in checked arithmetic breaks off at the first sum or difference that no word holds. If
it does not, it gives what the same computation gives over all numbers, and nothing else
(`GivesOnly`). That is so for sums and differences, computations that follow each other keep it, and
so it holds of every operation of the explorer and of every run (`Scene.givesOnly_after`).

What is proved of all runs over all numbers is therefore true of every explorer that a run in
checked arithmetic leads to.
-/

namespace WorkspaceConsole

variable {α β : Type}

/-- The first computation breaks off, or it gives what the second one does. -/
def GivesOnly (x : Except Overflow α) (y : Id α) : Prop :=
  ∀ r, x = .ok r → r = y

namespace GivesOnly

theorem pure (a : α) : GivesOnly (Pure.pure a) (Pure.pure a) := by
  intro r hr
  cases hr
  rfl

theorem bind {x : Except Overflow α} {y : Id α} {f : α → Except Overflow β} {g : α → Id β}
    (h : GivesOnly x y) (hf : ∀ a, GivesOnly (f a) (g a)) : GivesOnly (x >>= f) (y >>= g) := by
  intro r hr
  cases x with
  | error o => cases hr
  | ok a =>
    obtain rfl := h a rfl
    exact hf a r hr

theorem ite {c : Prop} [Decidable c] {x x' : Except Overflow α} {y y' : Id α}
    (h : GivesOnly x y) (h' : GivesOnly x' y') :
    GivesOnly (if c then x else x') (if c then y else y') := by
  by_cases hc : c
  · rwa [if_pos hc, if_pos hc]
  · rwa [if_neg hc, if_neg hc]

/-- A result that is given only if it fits. -/
theorem guard {c : Prop} [Decidable c] (a : α) (o : Overflow) :
    GivesOnly (if c then .ok a else .error o) (Pure.pure a) := by
  intro r hr
  split at hr
  · cases hr
    rfl
  · cases hr

theorem add (a b : Nat) : GivesOnly (Arithmetic.checked.add a b) (Arithmetic.natural.add a b) :=
  guard (a + b) .sum

theorem sub (a b : Nat) : GivesOnly (Arithmetic.checked.sub a b) (Arithmetic.natural.sub a b) :=
  guard (a - b) .difference

end GivesOnly

namespace Explorer

variable (e : Explorer) (s : Store)

/-! ## The operations -/

theorem givesOnly_keepRowVisible (index : Nat) :
    GivesOnly (e.keepRowVisible .checked index) (e.keepRowVisible .natural index) := by
  unfold keepRowVisible
  dsimp only
  refine .ite (.pure _) (.bind (.add _ _) fun bottom => .ite ?_ (.pure _))
  exact .bind (.add _ _) fun next => .bind (.sub _ _) fun scroll => .pure _

theorem givesOnly_settle : GivesOnly (e.settle .checked) (e.settle .natural) := by
  unfold settle
  cases e.selected with
  | none => exact .pure _
  | some index => exact e.givesOnly_keepRowVisible index

theorem givesOnly_reselect (count : Nat) (selected : Option Nat) :
    GivesOnly (reselect .checked count selected) (reselect .natural count selected) := by
  cases selected with
  | none => exact .pure none
  | some index => exact .ite (.pure none) (.bind (.sub _ _) fun last => .pure _)

theorem givesOnly_rebuild : GivesOnly (e.rebuild .checked s) (e.rebuild .natural s) :=
  .bind (givesOnly_reselect _ _) fun _ => givesOnly_settle _

theorem givesOnly_refreshAcross (seen : UInt64) (later : Store) :
    GivesOnly (e.refreshAcross .checked seen later) (e.refreshAcross .natural seen later) :=
  .ite (.pure _) (.bind (e.givesOnly_rebuild later) fun _ => .pure _)

theorem givesOnly_setExpanded (key : String) (expanded : Bool) :
    GivesOnly (e.setExpanded .checked key expanded s) (e.setExpanded .natural key expanded s) :=
  .ite (.pure _) (.bind (givesOnly_rebuild _ s) fun _ => .pure _)

theorem givesOnly_toggleSelected :
    GivesOnly (e.toggleSelected .checked s) (e.toggleSelected .natural s) := by
  unfold toggleSelected
  cases e.selectedRow? with
  | none => exact .pure _
  | some row =>
    dsimp only
    cases row.kind with
    | folder expanded => exact e.givesOnly_setExpanded s row.key (!expanded)
    | file id => exact .pure _

theorem givesOnly_setViewHeight (height : Nat) :
    GivesOnly (e.setViewHeight .checked height) (e.setViewHeight .natural height) :=
  .ite (.pure _) (.bind (givesOnly_settle _) fun _ => .pure _)

theorem givesOnly_target (count : Nat) (selected : Option Nat) (delta : Int) :
    GivesOnly (target .checked count selected delta) (target .natural count selected delta) := by
  cases selected with
  | none => exact .ite (.sub _ _) (.pure 0)
  | some index =>
    exact .ite (.pure _) (.bind (.add _ _) fun sum => .bind (.sub _ _) fun last => .pure _)

theorem givesOnly_moveSelection (delta : Int) :
    GivesOnly (e.moveSelection .checked delta) (e.moveSelection .natural delta) := by
  refine .ite (.pure _) (.bind (givesOnly_target _ _ _) fun index => .ite (.pure _) ?_)
  exact .bind (givesOnly_keepRowVisible _ index) fun _ => .pure _

theorem givesOnly_visibleRows : GivesOnly (e.visibleRows .checked) (e.visibleRows .natural) :=
  .bind (.add _ _) fun _ => .pure _

/-! ## Runs -/

namespace Scene

theorem givesOnly_step (c : Scene) (event : Event) :
    GivesOnly (c.step .checked event) (c.step .natural event) := by
  cases event with
  | dispatch a => exact .pure _
  | refresh meanwhile => exact .bind (givesOnly_refreshAcross _ _ _) fun _ => .pure _
  | rebuild => exact .bind (givesOnly_rebuild _ _) fun _ => .pure _
  | setExpanded key expanded =>
    exact .bind (givesOnly_setExpanded _ _ key expanded) fun _ => .pure _
  | toggleSelected => exact .bind (givesOnly_toggleSelected _ _) fun _ => .pure _
  | moveSelection delta => exact .bind (givesOnly_moveSelection _ delta) fun _ => .pure _
  | setViewHeight height => exact .bind (givesOnly_setViewHeight _ height) fun _ => .pure _

/-- **A run in checked arithmetic** breaks off, or leads where it leads over all numbers. -/
theorem givesOnly_after (c : Scene) (events : List Event) :
    GivesOnly (c.after .checked events) (c.after .natural events) := by
  induction events generalizing c with
  | nil => exact .pure c
  | cons event events ih => exact .bind (c.givesOnly_step event) ih

end Scene

end Explorer

end WorkspaceConsole

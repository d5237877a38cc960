import Mathlib.Data.List.Induction
import Mathlib.Data.List.Infix
import WorkspaceConsole.Proofs.Explorer.Exact

/-!
# Heights beyond the last word

The explorer counts in machine words. As long as every sum and every difference fits a word, a run
goes as it goes over all numbers.

Only a new height can lead to one that does not fit (`Explorer.Overflows`), since the window is
moved before it is cut to the rows. In checked arithmetic such a run breaks off there, at a sum, and
any other run stays in range (`Scene.staysInRange_iff`). Where results wrap around, this one is lost
in the cut: the window is higher than all rows, and starts at the first (`setViewHeight_wrapping`).
-/

namespace WorkspaceConsole.Explorer

variable {e : Explorer} {height : Nat}

/-! ## A height that is too large -/

/-- In checked arithmetic such a height breaks the computation off. -/
theorem setViewHeight_checked (h : e.Framed) (hbeyond : e.Overflows height) :
    e.setViewHeight .checked height = .error .sum := by
  obtain ⟨hsome, hchanged, hsize⟩ := hbeyond
  obtain ⟨index, hindex⟩ := Option.ne_none_iff_exists'.1 hsome
  have hbelow : ¬ index < e.scroll := Nat.not_lt.2 (h.shown index hindex).1
  have hsum : Arithmetic.checked.add e.scroll (max (max height 1) 1) = .error .sum :=
    if_neg (by omega)
  have hsettle :
      ({ e with viewHeight := max height 1 } : Explorer).settle .checked = .error .sum := by
    unfold settle
    dsimp only
    rw [hindex]
    dsimp only
    rw [keepRowVisible, if_neg hbelow, hsum]
    rfl
  rw [setViewHeight, if_neg hchanged, hsettle]
  rfl

/-- Where the window was makes no difference if it holds all rows. -/
theorem clampScroll_of_full (hfull : e.rows.length ≤ max e.viewHeight 1) (scroll : Nat) :
    ({ e with scroll } : Explorer).clampScroll = e.clampScroll := by
  unfold clampScroll
  dsimp only
  rw [Nat.sub_eq_zero_of_le hfull, Nat.min_zero, Nat.min_zero]

/-- A window that holds all rows is cut to them, whatever has been added up. -/
theorem settle_of_full (A : Arithmetic Id) (hfull : e.rows.length ≤ max e.viewHeight 1) :
    e.settle A = e.clampScroll := by
  unfold settle
  cases e.selected with
  | none => rfl
  | some index =>
    unfold keepRowVisible
    dsimp only [bind, pure]
    split
    · exact clampScroll_of_full hfull index
    · split
      · exact clampScroll_of_full hfull _
      · rfl

/-- A height that leads to no word is higher than all rows. -/
theorem Overflows.full (hbeyond : e.Overflows height) (h : e.Framed) (hfits : e.Fits) :
    e.rows.length ≤ max height 1 := by
  have hscroll := hbeyond.scroll_lt h
  have hsize := hbeyond.beyond
  have hrows := hfits.rows
  omega

/-- Where results wrap around, any height leads to the right window. -/
theorem setViewHeight_wrapping (h : e.Framed) (hfits : e.Fits) (height : Nat) :
    e.setViewHeight .wrapping height = e.setViewHeight .natural height := by
  by_cases hbeyond : e.Overflows height
  · have hfull : ({ e with viewHeight := max height 1 } : Explorer).rows.length ≤
        max (max height 1) 1 :=
      Nat.le_trans (hbeyond.full h hfits) (Nat.le_max_left _ 1)
    have hsettle : ({ e with viewHeight := max height 1 } : Explorer).settle .wrapping =
        ({ e with viewHeight := max height 1 } : Explorer).settle .natural := by
      rw [settle_of_full .wrapping hfull, settle_of_full .natural hfull]
    rw [setViewHeight_natural, if_neg hbeyond.changed, ← hsettle]
    exact if_neg hbeyond.changed
  · exact setViewHeight_exact Arithmetic.exact_wrapping h hfits hbeyond

/-! ## Runs -/

/-- A height is a word, and the distance of a move is a signed one. -/
def Event.Fits : Event → Prop
  | .moveSelection delta => -9223372036854775808 ≤ delta ∧ delta < 9223372036854775808
  | .setViewHeight height => height < UInt64.size
  | _ => True

instance : (event : Event) → Decidable event.Fits
  | .moveSelection delta =>
    inferInstanceAs (Decidable (-9223372036854775808 ≤ delta ∧ delta < 9223372036854775808))
  | .setViewHeight height => inferInstanceAs (Decidable (height < UInt64.size))
  | .dispatch _ | .refresh _ | .rebuild | .setExpanded _ _ | .toggleSelected => .isTrue trivial

namespace Scene

/-- All results fit a word: those of the events, and those of looking through the window after any
of them. -/
def StaysInRange (c : Scene) (events : List Event) : Prop :=
  ∀ done, done <+: events →
    c.after .checked done = .ok (c.after .natural done) ∧
      Explorer.visibleRows .checked (c.after .natural done).explorer =
        .ok (Explorer.visibleRows .natural (c.after .natural done).explorer)

variable {m : Type → Type} [Monad m] [LawfulMonad m] {A : Arithmetic m} {c : Scene}
  {event : Event} {events : List Event}

theorem step_exact (hA : A.Exact) (h : c.explorer.Framed) (hfits : c.explorer.Fits)
    (hevent : event.Fits)
    (hrows : 2 * (c.step .natural event).explorer.rows.length < UInt64.size)
    (hroom : ∀ height, event = .setViewHeight height → ¬ c.explorer.Overflows height) :
    c.step A event = pure (c.step .natural event) := by
  unfold step
  cases event with
  | dispatch a => rfl
  | refresh meanwhile =>
    dsimp only
    rw [refreshAcross_exact hA h hfits _ hrows, pure_bind]
    rfl
  | rebuild =>
    dsimp only
    rw [rebuild_exact hA h hfits hrows, pure_bind]
    rfl
  | setExpanded key expanded =>
    dsimp only
    rw [setExpanded_exact hA h hfits key expanded hrows, pure_bind]
    rfl
  | toggleSelected =>
    dsimp only
    rw [toggleSelected_exact hA h hfits hrows, pure_bind]
    rfl
  | moveSelection delta =>
    obtain ⟨-, hdelta⟩ := hevent
    dsimp only
    rw [moveSelection_exact hA h hfits (by rw [UInt64.size]; omega), pure_bind]
    rfl
  | setViewHeight height =>
    dsimp only
    rw [setViewHeight_exact hA h hfits (hroom height rfl), pure_bind]
    rfl

/-- A run in which every step goes as it goes over all numbers goes so as a whole. -/
theorem after_exact
    (hstep : ∀ done event rest, events = done ++ event :: rest →
      Scene.step A (c.after .natural done) event =
        pure (Scene.step .natural (c.after .natural done) event)) :
    c.after A events = pure (c.after .natural events) := by
  induction events generalizing c with
  | nil => rfl
  | cons event events ih =>
    have hfirst : c.step A event = pure (c.step .natural event) := hstep [] event events rfl
    rw [after, List.foldlM_cons, hfirst, pure_bind]
    refine ih fun done next rest hsplit => ?_
    exact hstep (event :: done) next rest (by rw [hsplit, List.cons_append])

/-! ### From the start -/

theorem viewHeight_settle (e : Explorer) :
    Explorer.viewHeight (e.settle .natural) = e.viewHeight := by
  obtain ⟨scroll, heq, -⟩ := e.settle_eq
  rw [heq]

theorem viewHeight_rebuild (e : Explorer) (s : Store) :
    Explorer.viewHeight (e.rebuild .natural s) = e.viewHeight :=
  viewHeight_settle _

theorem viewHeight_setExpanded (e : Explorer) (key : String) (expanded : Bool) (s : Store) :
    (e.setExpanded .natural key expanded s).2.viewHeight = e.viewHeight := by
  rw [setExpanded_natural]
  split
  · rfl
  · exact viewHeight_rebuild _ s

theorem viewHeight_toggleSelected (e : Explorer) (s : Store) :
    (e.toggleSelected .natural s).2.viewHeight = e.viewHeight := by
  unfold toggleSelected
  cases e.selectedRow? with
  | none => rfl
  | some row =>
    dsimp only
    cases row.kind with
    | folder expanded => exact viewHeight_setExpanded e row.key (!expanded) s
    | file id => rfl

/-- The height stays what it was, or becomes the one in the event. -/
theorem viewHeight_step (c : Scene) (event : Event) :
    (c.step .natural event).explorer.viewHeight = c.explorer.viewHeight ∨
      ∃ height, event = .setViewHeight height ∧
        (c.step .natural event).explorer.viewHeight = max height 1 := by
  cases event with
  | dispatch a => exact .inl rfl
  | refresh meanwhile =>
    left
    show (c.explorer.refreshAcross .natural _ _).2.viewHeight = _
    rw [refreshAcross_natural]
    split
    · rfl
    · exact viewHeight_rebuild _ _
  | rebuild => exact .inl (viewHeight_rebuild _ _)
  | setExpanded key expanded => exact .inl (viewHeight_setExpanded _ key expanded _)
  | toggleSelected => exact .inl (viewHeight_toggleSelected _ _)
  | moveSelection delta =>
    left
    show (c.explorer.moveSelection .natural delta).2.viewHeight = _
    rcases c.explorer.moveSelection_cases delta with ⟨heq, -⟩ | ⟨-, -, heq⟩
    · rw [heq]
    · rw [heq]
      exact viewHeight_settle _
  | setViewHeight height =>
    show (c.explorer.setViewHeight .natural height).2.viewHeight = _ ∨ ∃ height', _ ∧
      (c.explorer.setViewHeight .natural height).2.viewHeight = _
    rw [setViewHeight_natural]
    split
    · exact .inl rfl
    · exact .inr ⟨height, rfl, viewHeight_settle _⟩

theorem viewHeight_after_lt (store : Store) (hevents : ∀ event ∈ events, event.Fits) :
    ((start store).after .natural events).explorer.viewHeight < UInt64.size := by
  induction events using List.reverseRecOn with
  | nil =>
    show 10 < UInt64.size
    decide
  | append_singleton events event ih =>
    obtain ⟨hbefore, hlast⟩ := List.forall_mem_append.1 hevents
    rw [after_concat]
    rcases viewHeight_step ((start store).after .natural events) event with
      hsame | ⟨height, rfl, hnew⟩
    · rw [hsame]
      exact ih hbefore
    · have hheight : (Event.setViewHeight height).Fits := List.forall_mem_singleton.1 hlast
      rw [hnew]
      exact Nat.max_lt.2 ⟨hheight, by decide⟩

/-- There are fewer rows than half of all words, at any moment. -/
def FewRows (c : Scene) (events : List Event) : Prop :=
  ∀ done, done <+: events → 2 * (c.after .natural done).explorer.rows.length < UInt64.size

instance (c : Scene) (events : List Event) : Decidable (c.FewRows events) :=
  decidable_of_iff
    (∀ done ∈ events.inits, 2 * (c.after .natural done).explorer.rows.length < UInt64.size)
    (by simp only [FewRows, List.mem_inits])

variable {store : Store}

theorem fits_after (hevents : ∀ event ∈ events, event.Fits) (hrows : (start store).FewRows events)
    {done : List Event} (hdone : done <+: events) :
    Explorer.Fits ((start store).after .natural done).explorer where
  height := viewHeight_after_lt store fun event hevent => hevents event (hdone.subset hevent)
  rows := hrows done hdone

/-- The next step goes as it goes over all numbers, unless its height overflows. -/
theorem step_after_exact (hA : A.Exact) (hevents : ∀ event ∈ events, event.Fits)
    (hrows : (start store).FewRows events) {done rest : List Event}
    (hsplit : events = done ++ event :: rest)
    (hroom : ∀ height, event = .setViewHeight height →
      ¬ Overflows ((start store).after .natural done).explorer height) :
    Scene.step A ((start store).after .natural done) event =
      pure (Scene.step .natural ((start store).after .natural done) event) := by
  have hdone : done <+: events := ⟨event :: rest, hsplit.symm⟩
  have hnext : done ++ [event] <+: events := ⟨rest, by simp [hsplit]⟩
  have hevent : event.Fits := hevents event (by simp [hsplit])
  refine step_exact hA (framed_after store done) (fits_after hevents hrows hdone) hevent ?_ hroom
  rw [← after_concat]
  exact hrows _ hnext

/-- Where no height overflows, all results fit. -/
theorem staysInRange_of_room (hevents : ∀ event ∈ events, event.Fits)
    (hrows : (start store).FewRows events)
    (hroom : ∀ done height rest, events = done ++ .setViewHeight height :: rest →
      ¬ Overflows ((start store).after .natural done).explorer height) :
    (start store).StaysInRange events := by
  rintro done ⟨rest, rfl⟩
  constructor
  · refine after_exact fun front event back hsplit => ?_
    have hsplit' : done ++ rest = front ++ event :: (back ++ rest) := by simp [hsplit]
    refine step_after_exact Arithmetic.exact_checked hevents hrows hsplit' ?_
    rintro height rfl
    exact hroom front height (back ++ rest) hsplit'
  · exact visibleRows_exact Arithmetic.exact_checked (framed_after store done)
      (fits_after hevents hrows (List.prefix_append done rest))

/-- **Heights of no more than half of all words never overflow**, whatever is selected. -/
theorem staysInRange_of_low (hevents : ∀ event ∈ events, event.Fits)
    (hrows : (start store).FewRows events)
    (hlow : ∀ height, .setViewHeight height ∈ events → 2 * height ≤ UInt64.size) :
    (start store).StaysInRange events := by
  refine staysInRange_of_room hevents hrows ?_
  intro done height rest hsplit
  have hfits := fits_after hevents hrows ⟨_, hsplit.symm⟩
  exact (framed_after store done).not_overflows hfits (hlow height (by simp [hsplit]))

/-- A run breaks off at a height that overflows, and does not go on. -/
theorem after_checked_of_overflows {done : List Event} {height : Nat} (rest : List Event)
    (hdone : (start store).after .checked done = .ok ((start store).after .natural done))
    (hbeyond : Overflows ((start store).after .natural done).explorer height) :
    (start store).after .checked (done ++ .setViewHeight height :: rest) = .error .sum := by
  have hstep : Scene.step .checked ((start store).after .natural done) (.setViewHeight height) =
      .error .sum := by
    unfold step
    dsimp only
    rw [setViewHeight_checked (framed_after store done) hbeyond]
    rfl
  have hbefore : List.foldlM (step .checked) (start store) done =
      .ok ((start store).after .natural done) := hdone
  rw [after, List.foldlM_append, hbefore]
  show List.foldlM (step .checked) _ _ = _
  rw [List.foldlM_cons, hstep]
  rfl

/-- A run that stays in range does not come to such a height. -/
theorem not_overflows_of_staysInRange (h : (start store).StaysInRange events)
    {done rest : List Event} {height : Nat}
    (hsplit : events = done ++ .setViewHeight height :: rest) :
    ¬ Overflows ((start store).after .natural done).explorer height := by
  intro hbeyond
  have hdone : done <+: events := ⟨_, hsplit.symm⟩
  have hstop := after_checked_of_overflows rest (h done hdone).1 hbeyond
  rw [← hsplit, (h events List.prefix_rfl).1] at hstop
  cases hstop

/-- A run in checked arithmetic stays in range, or it breaks off at a sum. -/
theorem staysInRange_or_error (hevents : ∀ event ∈ events, event.Fits)
    (hrows : (start store).FewRows events) :
    (start store).StaysInRange events ∨ (start store).after .checked events = .error .sum := by
  -- The run breaks off at its last event, or before, or not at all.
  induction events using List.reverseRecOn with
  | nil => exact .inl (staysInRange_of_room hevents hrows fun done _ _ hsplit => by simp at hsplit)
  | append_singleton events event ih =>
    have hbefore : (start store).FewRows events := fun done hdone =>
      hrows done (hdone.trans (List.prefix_append events [event]))
    rcases ih (List.forall_mem_append.1 hevents).1 hbefore with hstays | hstop
    · by_cases hlast : ∃ height, event = .setViewHeight height ∧
          Overflows ((start store).after .natural events).explorer height
      · obtain ⟨height, rfl, hbeyond⟩ := hlast
        exact .inr (after_checked_of_overflows [] (hstays events List.prefix_rfl).1 hbeyond)
      · refine .inl (staysInRange_of_room hevents hrows ?_)
        rintro done height rest hsplit hbeyond
        rcases List.eq_nil_or_concat' rest with rfl | ⟨front, last, rfl⟩
        · obtain ⟨rfl, hsame⟩ := List.append_inj' hsplit rfl
          cases hsame
          exact hlast ⟨height, rfl, hbeyond⟩
        · have hfront : events = done ++ .setViewHeight height :: front := by
            rw [← List.cons_append, ← List.append_assoc] at hsplit
            exact (List.append_inj' hsplit rfl).1
          exact not_overflows_of_staysInRange hstays hfront hbeyond
    · right
      have hstop' : List.foldlM (step .checked) (start store) events = .error .sum := hstop
      rw [after, List.foldlM_append, hstop']
      rfl

/-- Where results wrap around, a run goes as it goes over all numbers, whatever the heights. -/
theorem after_wrapping (hevents : ∀ event ∈ events, event.Fits)
    (hrows : (start store).FewRows events) :
    (start store).after .wrapping events = (start store).after .natural events := by
  refine after_exact fun done event rest hsplit => ?_
  by_cases hheight : ∃ height, event = .setViewHeight height
  · obtain ⟨height, rfl⟩ := hheight
    have hfits := fits_after hevents hrows ⟨_, hsplit.symm⟩
    have hset := setViewHeight_wrapping (framed_after store done) hfits height
    exact congrArg
      (fun r : Bool × Explorer => { (start store).after .natural done with explorer := r.2 }) hset
  · refine step_after_exact Arithmetic.exact_wrapping hevents hrows hsplit ?_
    rintro height rfl
    exact absurd ⟨height, rfl⟩ hheight

/-- **When all results fit a word**: as long as no height overflows while a row is selected. A run
in checked arithmetic breaks off otherwise, at a sum, and where results wrap around the run goes as
it goes over all numbers in any case. -/
theorem staysInRange_iff (store : Store) (events : List Event)
    (hevents : ∀ event ∈ events, event.Fits) (hrows : (start store).FewRows events) :
    ((start store).StaysInRange events ↔
        ∀ done height rest, events = done ++ .setViewHeight height :: rest →
          ¬ Overflows ((start store).after .natural done).explorer height) ∧
      (¬ (start store).StaysInRange events →
        (start store).after .checked events = .error .sum) ∧
      (start store).after .wrapping events = (start store).after .natural events := by
  refine ⟨⟨?_, staysInRange_of_room hevents hrows⟩, ?_, after_wrapping hevents hrows⟩
  · intro h done height rest hsplit
    exact not_overflows_of_staysInRange h hsplit
  · exact (staysInRange_or_error hevents hrows).resolve_left

/-- The last of two rows is selected, and the window is the highest that there is. It has started at
the first row before, so nothing overflows, not even in the longest move. -/
theorem staysInRange_iff_highest :
    let store : Store := ⟨⟨.ofList [.empty "a", .empty "b"], .start⟩, 0⟩
    let events : List Event := [.refresh [], .moveSelection (-1),
      .setViewHeight 18446744073709551615, .moveSelection (-9223372036854775808)]
    (∀ event ∈ events, event.Fits) ∧ (start store).FewRows events ∧
      (start store).StaysInRange events ∧
      Explorer.viewHeight ((start store).after .natural events).explorer = 18446744073709551615 ∧
      Explorer.selected ((start store).after .natural events).explorer = some 0 := by
  intro store events
  have hevents : ∀ event ∈ events, event.Fits := by decide
  have hrows : (start store).FewRows events := by decide
  obtain ⟨hiff, -⟩ := staysInRange_iff store events hevents hrows
  refine ⟨hevents, hrows, hiff.2 ?_, by decide, by decide⟩
  intro done height rest hsplit
  -- Only the third event is a new height.
  match done with
  | [] | [_] | [_, _, _] | _ :: _ :: _ :: _ :: _ => simp [events] at hsplit
  | [first, second] =>
    simp only [events, List.cons_append, List.nil_append, List.cons.injEq,
      Event.setViewHeight.injEq] at hsplit
    obtain ⟨rfl, rfl, rfl, -⟩ := hsplit
    decide

/-- The last of four rows is selected at the lower end of a window of three, which starts at the
second row. From there, the highest window would end beyond the last word, and the computation
breaks off. -/
theorem not_staysInRange_of_highest :
    let events : List Event := ["a", "b", "c", "d"].map (.dispatch ∘ .createRootFolder) ++
      [.setViewHeight 3, .refresh [], .moveSelection (-1)]
    let higher := events ++ [.setViewHeight 18446744073709551615]
    (∀ event ∈ higher, event.Fits) ∧ (start .empty).FewRows higher ∧
      (∃ c, (start .empty).after .checked events = .ok c ∧ c.explorer.scroll = 1 ∧
        c.explorer.setViewHeight .checked 18446744073709551615 = .error .sum) ∧
      (start .empty).after .checked higher = .error .sum ∧
      ¬ (start .empty).StaysInRange higher := by
  intro events higher
  have hstop : (start .empty).after .checked higher = .error .sum := rfl
  refine ⟨by decide, by decide, ⟨_, rfl, rfl, rfl⟩, hstop, fun h => ?_⟩
  obtain ⟨hrun, -⟩ := h higher List.prefix_rfl
  rw [hstop] at hrun
  cases hrun

end Scene

end WorkspaceConsole.Explorer

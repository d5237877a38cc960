import WorkspaceConsole.Proofs.Explorer.Checked
import WorkspaceConsole.Proofs.Store.Version

/-!
# The explorer shows a tree that existed

The rows of an explorer are a copy of the tree, kept with the version of the store from which it was
made. Between two looks at the store, the tree and the set of expanded folders change independently,
and the version wraps around.

Still the rows are always those of the tree as it was at the recorded version, with the folders that
are expanded now (`faithful_start`). An event either leaves rows, version and expanded folders alone
or reads all of them at one moment (`step_cases`), so the rows stem from one moment of the history
(`Dated`). In a run of fewer than `2 ^ 64` changes the recorded version tells which one it was, and
an explorer that has recorded the version of the store shows the tree of the store.
-/

namespace WorkspaceConsole.Explorer

/-- The rows are those of the tree of the store, and the version of the store is recorded with
them. -/
structure Reads (e : Explorer) (s : Store) : Prop where
  version : e.version = some s.version
  rows : e.rows = s.roots.rows e.expanded

theorem reads_rebuild (e : Explorer) (s : Store) : Reads (e.rebuild .natural s) s := by
  rw [rebuild_natural]
  obtain ⟨scroll, heq, -⟩ := settle_eq _
  rw [heq]
  exact ⟨rfl, rfl⟩

/-- The two explorers show the same, apart from the window and the selection. -/
structure ShowsSame (e e' : Explorer) : Prop where
  version : e'.version = e.version
  rows : e'.rows = e.rows
  expanded : e'.expanded = e.expanded

/-- What is shown is left alone, or read anew. -/
theorem Adjusted.cases {s : Store} {e e' : Explorer} (h : Adjusted s e e') :
    ShowsSame e e' ∨ e'.Reads s := by
  cases h with
  | stays => exact .inl ⟨rfl, rfl, rfl⟩
  | reads expanded => exact .inr (reads_rebuild _ s)
  | resizes _ =>
    obtain ⟨scroll, heq, -⟩ := settle_eq _
    rw [heq]
    exact .inl ⟨rfl, rfl, rfl⟩
  | selects delta _ =>
    obtain ⟨scroll, heq, -⟩ := settle_eq _
    rw [heq]
    exact .inl ⟨rfl, rfl, rfl⟩

namespace Scene

/-- The rows stem from some moment in the history: the recorded version is that of the store at that
moment, and the rows are those of its tree, with the folders that are expanded now. -/
def Dated (c : Scene) (before : List Event) : Prop :=
  (c.after .natural before).explorer.version ≠ none →
    ∃ moment, moment <+: before ∧
      (c.after .natural before).explorer.Reads (c.after .natural moment).store

theorem dated_concat {c : Scene} {before : List Event} (h : c.Dated before) (event : Event) :
    c.Dated (before ++ [event]) := by
  intro hsome
  rw [after_concat] at hsome ⊢
  rcases (adjusted_step (c.after .natural before) event).cases with hsame | hreads
  · rw [hsame.version] at hsome
    obtain ⟨moment, hmoment, hversion, hrows⟩ := h hsome
    refine ⟨moment, hmoment.trans (List.prefix_append before [event]), ?_, ?_⟩
    · rw [hsame.version, hversion]
    · rw [hsame.rows, hsame.expanded, hrows]
  · refine ⟨before ++ [event], List.prefix_rfl, ?_⟩
    rwa [after_concat]

theorem Dated.append {c : Scene} {before : List Event} (h : c.Dated before)
    (events : List Event) : c.Dated (before ++ events) := by
  induction events generalizing before with
  | nil => rwa [List.append_nil]
  | cons event events ih =>
    rw [List.append_cons]
    exact ih (dated_concat h event)

theorem dated_nil (store : Store) : (start store).Dated [] :=
  fun hsome => absurd rfl hsome

/-- Fewer than `2 ^ 64` changes of the store succeed in these events. -/
def Short (c : Scene) (events : List Event) : Prop :=
  (c.store.accepted (events.flatMap Event.actions)).length < UInt64.size

instance (c : Scene) (events : List Event) : Decidable (c.Short events) :=
  inferInstanceAs (Decidable (_ < _))

theorem Short.of_initial {c : Scene} {events before : List Event} (h : c.Short events)
    (hbefore : before <+: events) : c.Short before := by
  obtain ⟨rest, rfl⟩ := hbefore
  unfold Short at h ⊢
  rw [List.flatMap_append, Store.accepted_append, List.length_append] at h
  omega

theorem Short.store_eq_of_initial {c : Scene} {earlier later : List Event} (h : c.Short later)
    (hearlier : earlier <+: later)
    (hversion :
      (c.after .natural earlier).store.version = (c.after .natural later).store.version) :
    (c.after .natural earlier).store = (c.after .natural later).store := by
  rw [store_after, store_after] at hversion ⊢
  obtain ⟨rest, rfl⟩ := hearlier
  refine Store.run_eq_of_version_eq ?_ h hversion
  rw [List.flatMap_append]
  exact List.prefix_append _ _

/-- Moments of one version have one store. -/
theorem Short.store_eq {c : Scene} {events moment now : List Event} (h : c.Short events)
    (hmoment : moment <+: events) (hnow : now <+: events)
    (hversion : (c.after .natural moment).store.version = (c.after .natural now).store.version) :
    (c.after .natural moment).store = (c.after .natural now).store := by
  rcases List.prefix_or_prefix_of_prefix hmoment hnow with hle | hle
  · exact (h.of_initial hnow).store_eq_of_initial hle hversion
  · exact ((h.of_initial hmoment).store_eq_of_initial hle hversion.symm).symm

/-- **The explorer is faithful** to the history of its store, for a scene and a list of events. -/
structure Faithful (c : Scene) (events : List Event) : Prop where
  /-- The recorded version is one that the store had. -/
  dated : ∀ now v, now <+: events → (c.after .natural now).explorer.version = some v →
    ∃ moment, moment <+: now ∧ (c.after .natural moment).store.version = v
  /-- The rows are those of the tree as it was when the store had the recorded version, with the
  folders that are expanded now. -/
  rows : ∀ now moment v, now <+: events → moment <+: events →
    (c.after .natural now).explorer.version = some v →
    (c.after .natural moment).store.version = v →
    (c.after .natural now).explorer.rows =
      (c.after .natural moment).store.roots.rows (c.after .natural now).explorer.expanded
  /-- After `refresh`, the rows are those of the tree as it is. -/
  refreshed : ∀ now, now <+: events →
    let e := (c.after .natural now).explorer
    let s := (c.after .natural now).store
    (e.refresh .natural s).2.rows = s.roots.rows (e.refresh .natural s).2.expanded
  /-- If `refresh` says that there was nothing to do, the rows were so before. -/
  upToDate : ∀ now, now <+: events →
    let e := (c.after .natural now).explorer
    let s := (c.after .natural now).store
    (e.refresh .natural s).1 = false → e.rows = s.roots.rows e.expanded
  /-- If the store changes between the two looks of `refresh`, then either the rows are those of the
  tree after these changes, or nothing was done and they were those of the tree before them. -/
  across : ∀ now meanwhile, now <+: events →
    let e := (c.after .natural now).explorer
    let s := (c.after .natural now).store
    let later := s.run meanwhile
    match e.refreshAcross .natural s.version later with
    | (true, e') => e'.rows = later.roots.rows e'.expanded
    | (false, e') => e' = e ∧ e.rows = s.roots.rows e.expanded
  /-- In checked arithmetic a run that does not break off leads to the same scene, and a `refresh`
  that does not break off does the same there. -/
  checked : ∀ now c', now <+: events → c.after .checked now = .ok c' →
    c' = c.after .natural now ∧ ∀ (seen : UInt64) (later : Store),
      GivesOnly (c'.explorer.refreshAcross .checked seen later)
        (c'.explorer.refreshAcross .natural seen later)

/-- At a moment with the recorded version, the store has the tree that the rows show. -/
theorem Dated.reads {c : Scene} {events now moment : List Event} (h : c.Dated now)
    (hshort : c.Short events) (hnow : now <+: events) (hmoment : moment <+: events)
    (hversion :
      (c.after .natural now).explorer.version = some (c.after .natural moment).store.version) :
    (c.after .natural now).explorer.Reads (c.after .natural moment).store := by
  obtain ⟨origin, horigin, hreads⟩ := h (hversion ▸ Option.some_ne_none _)
  have hsame : (c.after .natural origin).store.version = (c.after .natural moment).store.version :=
    Option.some.inj (hreads.version.symm.trans hversion)
  rwa [hshort.store_eq (horigin.trans hnow) hmoment hsame] at hreads

/-- **The explorer never shows a tree that did not exist**: whatever changes are made to the store,
and whatever is done to the explorer in between. -/
theorem faithful_start (store : Store) (events : List Event) (hshort : (start store).Short events) :
    (start store).Faithful events := by
  have hdated (now : List Event) : (start store).Dated now := (dated_nil store).append now
  have hfresh {now : List Event} (hnow : now <+: events)
      (hversion : ((start store).after .natural now).explorer.version =
        some ((start store).after .natural now).store.version) :=
    ((hdated now).reads hshort hnow hnow hversion).rows
  constructor
  case dated =>
    intro now v _ hv
    obtain ⟨moment, hmoment, hreads⟩ := hdated now (hv ▸ Option.some_ne_none v)
    exact ⟨moment, hmoment, Option.some.inj (hreads.version.symm.trans hv)⟩
  case rows =>
    rintro now moment _ hnow hmoment hv rfl
    exact ((hdated now).reads hshort hnow hmoment hv).rows
  case refreshed =>
    intro now hnow e s
    by_cases hversion : e.version = some s.version
    · rw [refresh_natural, if_pos hversion]
      exact hfresh hnow hversion
    · rw [refresh_natural, if_neg hversion]
      exact (reads_rebuild e s).rows
  case upToDate =>
    intro now hnow e s hidle
    by_cases hversion : e.version = some s.version
    · exact hfresh hnow hversion
    · rw [refresh_natural, if_neg hversion] at hidle
      cases hidle
  case across =>
    intro now meanwhile hnow e s later
    by_cases hversion : e.version = some s.version
    · rw [refreshAcross_natural, if_pos hversion]
      exact ⟨rfl, hfresh hnow hversion⟩
    · rw [refreshAcross_natural, if_neg hversion]
      exact (reads_rebuild e later).rows
  case checked =>
    intro now c' _ hc'
    exact ⟨givesOnly_after (start store) now c' hc', c'.explorer.givesOnly_refreshAcross⟩

/-- The tree changes between the looks of a `refresh`, a folder is expanded and gets a child that is
not shown yet, and a change is refused. The rows are those of version 2 until the next `refresh`. -/
theorem faithful_start_stale :
    let events : List Event :=
      [.dispatch (.createRootFolder "src"), .refresh [.createRootFolder "bin"],
        .setExpanded "src" true, .dispatch (.createFile (.amongRoots "src") "main.rs" ""),
        .dispatch (.createRootFolder "src"), .moveSelection (-1)]
    let moment := events.take 2
    let e := ((start .empty).after .natural events).explorer
    let s := ((start .empty).after .natural events).store
    (start .empty).Short events ∧ (start .empty).Faithful events ∧
      e.version = some 2 ∧ s.version = 3 ∧
      e.rows = ((start .empty).after .natural moment).store.roots.rows ["src"] ∧
      e.rows.map Row.name = ["src", "bin"] ∧
      (e.refresh .natural s).2.rows = s.roots.rows ["src"] ∧
      (e.refresh .natural s).2.rows.map Row.name = ["src", "main.rs", "bin"] := by
  intro events moment e s
  have hshort : (start .empty).Short events := by decide
  have hfaithful := faithful_start .empty events hshort
  have hmoment : moment <+: events := List.take_prefix 2 events
  refine ⟨hshort, hfaithful, by decide, by decide, ?_, by decide, ?_, by decide⟩
  · exact hfaithful.rows events moment 2 List.prefix_rfl hmoment (by decide) (by decide)
  · exact hfaithful.refreshed events List.prefix_rfl

end Scene

end WorkspaceConsole.Explorer

import WorkspaceConsole.Proofs.Explorer.Freshness
import WorkspaceConsole.Proofs.Tree.Subtree

/-!
# Toggling the selected folder

To toggle the folder in the selected row, the explorer takes the key in the row, changes the set of
expanded keys and builds all rows anew. What a user sees of this is small: the rows before the
selected one stay, the selected one tells that the folder is now open or closed, and one block comes
or goes directly after it, the rows of what is visible below the folder (`Toggled`). The selection
stays, and to toggle once more leads back (`toggles_of_current`).
-/

namespace WorkspaceConsole

variable {a : Forest} {expanded more : List String}

/-- What is expanded is a set: neither the order of the keys nor their repetition matters. -/
theorem Forest.rows_congr (h : ∀ key, key ∈ expanded ↔ key ∈ more) (a : Forest) :
    a.rows expanded = a.rows more := by
  have hcontains (key : String) : expanded.contains key = more.contains key := by
    rw [Bool.eq_iff_iff, List.contains_iff_mem, List.contains_iff_mem]
    exact h key
  have hshown (n : Node) : n.shown expanded = n.shown more :=
    congrArg n.enclosing.all (funext hcontains)
  have hrow (n : Node) : n.row expanded = n.row more := by
    obtain ⟨above, f | f⟩ := n
    · simp only [Node.row, hcontains]
    · rfl
  simp only [rows_eq, hshown, hrow]

theorem getElem?_length_append_cons {α : Type} (before : List α) (x : α) (after : List α) :
    (before ++ x :: after)[before.length]? = some x := by
  rw [List.getElem?_append_right (Nat.le_refl _), Nat.sub_self, List.getElem?_cons_zero]

/-- The names in a path key. -/
def namesOf (key : String) : List String :=
  (WorkingPath.parse key).segments

/-- **The place of the row of a folder**: it tells whether its key is expanded, and when that
changes, only its own row and the block after it do. -/
structure Forest.Hinges (a : Forest) (expanded : List String) (i : Nat) (row : Row) : Prop where
  kind : row.kind = .folder (expanded.contains row.key)
  rows : ∃ before after, before.length = i ∧ ∀ keys, DifferAt row.key keys expanded →
    a.rows keys = before ++ { row with kind := .folder (keys.contains row.key) } ::
      (a.rowsBelow keys (namesOf row.key) ++ after)
  /-- There is no block while the key is not expanded. -/
  closed : ∀ keys, row.key ∉ keys → a.rowsBelow keys (namesOf row.key) = []

theorem Forest.WellNamed.hinges (h : a.WellNamed) {i : Nat} {row : Row}
    (hrow : (a.rows expanded)[i]? = some row) (hfolder : row.isFolder = true) :
    a.Hinges expanded i row := by
  obtain ⟨n, hn, rfl⟩ : ∃ n ∈ a.nodes.filter (·.shown expanded), n.row expanded = row := by
    rw [rows_eq] at hrow
    exact List.mem_map.1 (List.mem_of_getElem? hrow)
  obtain ⟨hmem, hshown⟩ := List.mem_filter.1 hn
  obtain ⟨above, f | f⟩ := n
  · obtain ⟨before, after, hrows⟩ := exists_rows_eq h hmem rfl hshown
    have hnames := parse_path h hmem
    refine ⟨rfl, ⟨before, after, ?_, fun keys hkeys => ?_⟩, fun keys hkeys => ?_⟩
    · have hnodup := (h.keysIdentify.rows expanded).of_map
      have hthere := hrow
      rw [hrows expanded fun _ _ => Iff.rfl] at hnodup hthere
      refine (List.getElem?_inj ?_ hnodup).1
        ((getElem?_length_append_cons before _ _).trans hthere.symm)
      rw [List.length_append, List.length_cons]
      omega
    · rw [hrows keys hkeys, ← hnames]
      rfl
    · rw [namesOf, ← rowsBelow_eq_nil hkeys, ← hnames]
      rfl
  · cases hfolder

namespace Explorer

variable {s : Store} {e e' : Explorer} {i : Nat} {row : Row}

/-! ## Reading the tree -/

theorem expanded_rebuild (e : Explorer) (s : Store) :
    Explorer.expanded (e.rebuild .natural s) = e.expanded := by
  rw [rebuild_natural]
  obtain ⟨scroll, heq, -⟩ := settle_eq _
  rw [heq]

/-- A selection stays if there is still such a row. -/
theorem selected_rebuild (hi : e.selected = some i) (hrow : i < (s.roots.rows e.expanded).length) :
    Explorer.selected (e.rebuild .natural s) = some i := by
  rw [rebuild_natural]
  obtain ⟨scroll, heq, -⟩ := settle_eq _
  rw [heq]
  dsimp only
  rw [reselect_natural, if_neg (by omega), hi, Option.map_some, Nat.min_eq_left (by omega)]

/-! ## One toggle -/

/-- **The folder in row `i` has been toggled.** -/
structure Toggled (s : Store) (e : Explorer) (i : Nat) (row : Row) (e' : Explorer) : Prop where
  selected : e'.selected = some i
  /-- The rows are those of the tree of the store. -/
  current : e'.rows = s.roots.rows e'.expanded
  /-- The folder is now expanded if it was not, and no other key is added or dropped. -/
  key : row.key ∈ e'.expanded ↔ row.key ∉ e.expanded
  others : DifferAt row.key e'.expanded e.expanded
  /-- If the folder was closed, the rows of what is visible below it come after its own. -/
  opens : row.kind = .folder false → ∃ before after, before.length = i ∧
    e.rows = before ++ row :: after ∧
    e'.rows = before ++ { row with kind := .folder true } ::
      (s.roots.rowsBelow e'.expanded (namesOf row.key) ++ after)
  /-- If the folder was open, the rows of what was visible below it are gone. -/
  closes : row.kind = .folder true → ∃ before after, before.length = i ∧
    e.rows = before ++ row :: (s.roots.rowsBelow e.expanded (namesOf row.key) ++ after) ∧
    e'.rows = before ++ { row with kind := .folder false } :: after

/-- What toggling does to the set of keys, and that the tree is then read anew. -/
theorem toggleSelected_eq (hi : e.selected = some i) (hrow : e.rows[i]? = some row)
    {opened : Bool} (hkind : row.kind = .folder opened)
    (hopened : e.expanded.contains row.key = opened) :
    ∃ keys, e.toggleSelected .natural s = (true, { e with expanded := keys }.rebuild .natural s) ∧
      DifferAt row.key keys e.expanded ∧ (row.key ∈ keys ↔ row.key ∉ e.expanded) := by
  have hselected : e.selectedRow? = some row := by
    rw [selectedRow?, hi, Option.bind_some, hrow]
  have hchanges : ¬ e.isExpanded row.key = !opened := by
    rw [isExpanded, hopened]
    cases opened <;> decide
  rw [toggleSelected, hselected]
  dsimp only
  rw [hkind]
  dsimp only
  rw [setExpanded_natural, if_neg hchanges]
  cases opened with
  | false =>
    have hclosed : row.key ∉ e.expanded := fun h => by
      rw [List.contains_iff_mem.2 h] at hopened
      cases hopened
    exact ⟨_, rfl, differAt_cons row.key e.expanded, iff_of_true List.mem_cons_self hclosed⟩
  | true =>
    have hopen : row.key ∈ e.expanded := List.contains_iff_mem.1 hopened
    have hdropped : row.key ∉ e.expanded.filter (· ≠ row.key) := fun h => by
      simpa using List.of_mem_filter h
    exact ⟨_, rfl, differAt_filter row.key e.expanded, iff_of_false hdropped (not_not.2 hopen)⟩

/-- **Toggling a folder**, if the rows are those of a tree that obeys the rule of names. -/
theorem toggled_of_folder (hnamed : s.roots.WellNamed)
    (hcurrent : e.rows = s.roots.rows e.expanded) (hi : e.selected = some i)
    (hrow : e.rows[i]? = some row) (hfolder : row.isFolder = true) :
    ∃ e', e.toggleSelected .natural s = (true, e') ∧ Toggled s e i row e' := by
  obtain ⟨hkind, ⟨before, after, hplace, hrows⟩, hnone⟩ := hnamed.hinges (hcurrent ▸ hrow) hfolder
  obtain ⟨keys, htoggle, hothers, hflip⟩ := toggleSelected_eq hi hrow hkind rfl
  have hread := (reads_rebuild { e with expanded := keys } s).rows
  have hkeys := expanded_rebuild { e with expanded := keys } s
  have hold := hcurrent.trans (hrows e.expanded fun _ _ => Iff.rfl)
  have hnew := hrows keys hothers
  have hself : { row with kind := .folder (e.expanded.contains row.key) } = row := by
    rw [← hkind]
  rw [hself] at hold
  refine ⟨_, htoggle, selected_rebuild hi ?_, hread, hkeys ▸ hflip, hkeys ▸ hothers,
    fun hclosed => ?_, fun hopen => ?_⟩
  · rw [hnew, List.length_append, List.length_cons]
    omega
  · have hout : row.key ∉ e.expanded := fun hin => by
      rw [hkind, List.contains_iff_mem.2 hin] at hclosed
      cases hclosed
    rw [hnone e.expanded hout, List.nil_append] at hold
    rw [List.contains_iff_mem.2 (hflip.2 hout)] at hnew
    rw [hread, hkeys]
    exact ⟨before, after, hplace, hold, hnew⟩
  · have hin : row.key ∈ e.expanded := by
      rw [hkind] at hopen
      exact List.contains_iff_mem.1 (RowKind.folder.inj hopen)
    have hout : row.key ∉ keys := fun h => hflip.1 h hin
    rw [hnone keys hout, List.nil_append, Bool.eq_false_iff.2 (mt List.contains_iff_mem.1 hout)]
      at hnew
    rw [hread, hkeys]
    exact ⟨before, after, hplace, hold, hnew⟩

/-! ## Toggling and toggling back -/

/-- **What toggling does** to an explorer over a store. -/
structure Toggles (e : Explorer) (s : Store) : Prop where
  /-- The folder in the selected row is toggled. Once more, and all is as before. -/
  folder : ∀ i row, e.selected = some i → e.rows[i]? = some row → row.isFolder = true →
    ∃ e' e'', e.toggleSelected .natural s = (true, e') ∧ Toggled s e i row e' ∧
      e'.toggleSelected .natural s = (true, e'') ∧ e''.rows = e.rows ∧ e''.selected = e.selected ∧
      ∀ key, key ∈ e''.expanded ↔ key ∈ e.expanded
  /-- Without a selected folder nothing happens. -/
  other : (∀ row, e.selectedRow? = some row → row.isFolder = false) →
    e.toggleSelected .natural s = (false, e)
  /-- In checked arithmetic the same is done, or nothing. -/
  checked : GivesOnly (e.toggleSelected .checked s) (e.toggleSelected .natural s)

/-- The toggled folder is in the selected row again. -/
theorem Toggled.exists_folderRow (h : Toggled s e i row e') (hfolder : row.isFolder = true) :
    ∃ row', e'.rows[i]? = some row' ∧ row'.isFolder = true ∧ row'.key = row.key := by
  obtain ⟨depth, name, key, opened | id⟩ := row
  · cases opened with
    | false =>
      obtain ⟨before, after, rfl, -, hrows⟩ := h.opens rfl
      refine ⟨⟨depth, name, key, .folder true⟩, ?_, rfl, rfl⟩
      rw [hrows]
      exact getElem?_length_append_cons before _ _
    | true =>
      obtain ⟨before, after, rfl, -, hrows⟩ := h.closes rfl
      refine ⟨⟨depth, name, key, .folder false⟩, ?_, rfl, rfl⟩
      rw [hrows]
      exact getElem?_length_append_cons before _ _
  · cases hfolder

/-- **Toggling keeps the selection in place**, and toggling again undoes it: in every tree that
changes can lead to, if the rows of the explorer are those of the tree. -/
theorem toggles_of_current (actions : List Action) {s : Store} {e : Explorer}
    (hroots : s.roots = (Store.empty.run actions).roots)
    (hcurrent : e.rows = s.roots.rows e.expanded) : e.Toggles s where
  folder i row hi hrow hfolder := by
    have hnamed : s.roots.WellNamed := hroots ▸ Store.roots_wellNamed actions
    obtain ⟨e', htoggle, hthere⟩ := toggled_of_folder hnamed hcurrent hi hrow hfolder
    obtain ⟨row', hrow', hfolder', hkey⟩ := hthere.exists_folderRow hfolder
    obtain ⟨e'', htoggle', hback⟩ :=
      toggled_of_folder hnamed hthere.current hthere.selected hrow' hfolder'
    have hkeys : ∀ key, key ∈ e''.expanded ↔ key ∈ e.expanded := by
      intro key
      by_cases hsame : key = row.key
      · rw [hsame, ← hkey, hback.key, hkey, hthere.key, not_not]
      · exact (hback.others key (hkey ▸ hsame)).trans (hthere.others key hsame)
    refine ⟨e', e'', htoggle, hthere, htoggle', ?_, hback.selected.trans hi.symm, hkeys⟩
    rw [hback.current, hcurrent, s.roots.rows_congr hkeys]
  other hnone := by
    rw [toggleSelected]
    cases hselected : e.selectedRow? with
    | none => rfl
    | some row =>
      have hfile := hnone row hselected
      obtain ⟨depth, name, key, opened | id⟩ := row
      · cases hfile
      · rfl
  checked := e.givesOnly_toggleSelected s

/-- A closed folder is selected below which a folder is expanded. To open it brings in the rows of
three nodes, and to close it takes them away. -/
theorem toggles_of_current_nested :
    let actions : List Action :=
      [.createRootFolder "a", .createFolder (.anywhere "a") "sub",
        .createFile (.anywhere "sub") "deep" "", .createFile (.anywhere "a") "readme" "",
        .createRootFolder "b"]
    let c := (Scene.start .empty).after .natural (actions.map .dispatch ++
      [.refresh [], .setExpanded "a/sub" true, .moveSelection 1])
    let opened := (c.explorer.toggleSelected .natural c.store).2
    let closed := (opened.toggleSelected .natural c.store).2
    c.store.roots = (Store.empty.run actions).roots ∧
      c.explorer.rows = c.store.roots.rows c.explorer.expanded ∧ c.explorer.Toggles c.store ∧
      c.explorer.rows.map Row.name = ["a", "b"] ∧ c.explorer.selected = some 0 ∧
      opened.rows.map Row.name = ["a", "sub", "deep", "readme", "b"] ∧
      closed.rows = c.explorer.rows := by
  intro actions c opened closed
  have hroots : c.store.roots = (Store.empty.run actions).roots := by decide
  have hcurrent : c.explorer.rows = c.store.roots.rows c.explorer.expanded := by decide
  have htoggles := toggles_of_current actions hroots hcurrent
  exact ⟨hroots, hcurrent, htoggles, by decide, by decide, by decide, by decide⟩

end Explorer

end WorkspaceConsole

import WorkspaceConsole.Proofs.Store.Naming
import WorkspaceConsole.Proofs.Tree.Rows
import WorkspaceConsole.Proofs.WorkingPath

/-!
# Path keys identify nodes

A path key is a flat text, and the set of expanded folders is a set of such texts. That a key stands
for one folder rests on the rule of names twice. Names hold no slash, so the key of a folder reads
back to the names that lead to it (`parse_joined`). And siblings have different names, so no two
nodes of a tree are led to by the same names (`nodup_names_nodesAt`).

In every tree that changes can lead to, then, no two rows stand for the same path, expanding one
folder shows in the row of no other node, and the names in a key lead to the folder
(`keysIdentify_run`).
-/

namespace WorkspaceConsole

/-- The path to what a row stands for: to a folder its key, and to a file the key of the folder that
holds it and then its name. -/
def Row.path (r : Row) : String :=
  match r.kind with
  | .folder _ => r.key
  | .file _ => r.key ++ "/" ++ r.name

namespace Node

/-- The name of the folder or the file at a node. -/
def name (n : Node) : String :=
  match n.item with
  | .folder f => f.name
  | .file f => f.name

/-- The names from the root down to a node, its own included. -/
def names (n : Node) : List String :=
  n.above ++ [n.name]

/-- The path to a node. -/
def path (n : Node) : String :=
  joined n.names

theorem key_of_folder {n : Node} (h : n.folder?.isSome = true) : n.key = n.path := by
  obtain ⟨above, f | f⟩ := n
  · rfl
  · cases h

end Node

/-- The folder that names lead to: the first one among the roots, and each later one among the child
folders of the one before it. -/
def Forest.descend? : List String → Forest → Option Folder
  | [], _ => none
  | [name], a => a.sibling? name
  | name :: next :: more, a => (a.sibling? name).bind fun f => descend? (next :: more) f.inside

variable {a : Forest} {expanded above names names' : List String} {n m : Node}

/-! ## Joined names -/

theorem joined_eq_display (names : List String) : joined names = WorkingPath.display ⟨names⟩ := by
  rw [← String.toList_inj, joined, String.toList_intercalate, WorkingPath.display,
    Text.joinWith_eq_intercalate, String.toList_ofList, String.toList_ofList]

/-- Names come back from what they are joined to. -/
theorem parse_joined (hnames : ∀ x ∈ names, ValidName x) :
    (WorkingPath.parse (joined names)).segments = names := by
  rw [joined_eq_display, WorkingPath.parse_display_of_valid hnames]

theorem joined_inj (hnames : ∀ x ∈ names, ValidName x) (hnames' : ∀ x ∈ names', ValidName x)
    (h : joined names = joined names') : names = names' := by
  rw [← parse_joined hnames, h, parse_joined hnames']

namespace Forest

/-! ## The names that lead to a node -/

theorem WellNamed.of_cons {name : String} {files : List File} {inside rest : Forest}
    (h : (cons name files inside rest).WellNamed) :
    name ∉ rest.names ∧ Folder.WellNamed ⟨name, files, inside⟩ ∧ inside.WellNamed ∧
      rest.WellNamed := by
  rw [wellNamed_iff, names, List.nodup_cons, folders, List.forall_mem_cons,
    List.forall_mem_append] at h
  obtain ⟨⟨hnew, hrest⟩, hself, hinside, hlater⟩ := h
  have hnames : inside.names.Nodup :=
    hself.distinct.sublist (List.sublist_append_right _ inside.names)
  exact ⟨hnew, hself, wellNamed_iff.2 ⟨hnames, hinside⟩, wellNamed_iff.2 ⟨hrest, hlater⟩⟩

/-- The names of a node lead over one of the siblings, and those of a file go on from there. -/
theorem exists_names_of_mem_nodesAt (hn : n ∈ a.nodesAt above) :
    ∃ x ∈ a.names, ∃ more, n.names = above ++ x :: more ∧ (n.folder? = none → more ≠ []) := by
  induction a generalizing above with
  | nil => cases hn
  | cons name files inside rest ihinside ihrest =>
    simp only [nodesAt, List.mem_cons, List.mem_append, List.mem_map] at hn
    rcases hn with rfl | (hinside | ⟨f, -, rfl⟩) | hrest
    · exact ⟨name, List.mem_cons_self, [], rfl, fun hfile => absurd hfile (Option.some_ne_none _)⟩
    · obtain ⟨x, -, more, hnames, -⟩ := ihinside hinside
      rw [List.append_assoc, List.singleton_append] at hnames
      exact ⟨name, List.mem_cons_self, x :: more, hnames, fun _ => List.cons_ne_nil x more⟩
    · refine ⟨name, List.mem_cons_self, [f.name], ?_, fun _ => List.cons_ne_nil _ _⟩
      exact List.append_assoc above [name] [f.name]
    · obtain ⟨x, hx, hnames⟩ := ihrest hrest
      exact ⟨x, List.mem_cons_of_mem name hx, hnames⟩

theorem above_ne_nil_of_file (hn : n ∈ a.nodesAt above) (hfile : n.folder? = none) :
    n.above ≠ [] := by
  obtain ⟨x, -, more, hnames, hmore⟩ := exists_names_of_mem_nodesAt hn
  intro hnil
  have hlength : 1 = above.length + (more.length + 1) := by
    simpa [Node.names, hnil] using congrArg List.length hnames
  exact hmore hfile (List.eq_nil_of_length_eq_zero (by omega))

/-- The path of a row is made of the names that lead to its node. -/
theorem path_row (hn : n ∈ a.nodesAt above) (expanded : List String) :
    (n.row expanded).path = n.path := by
  have hfile := above_ne_nil_of_file hn
  obtain ⟨around, f | f⟩ := n
  · rfl
  · rw [Node.path, Node.names, ← pathKey_keyAt, keyAt, if_neg (hfile rfl)]
    rfl

theorem validName_of_mem_names (h : a.WellNamed) (habove : ∀ x ∈ above, ValidName x)
    (hn : n ∈ a.nodesAt above) : ∀ x ∈ n.names, ValidName x := by
  induction a generalizing above with
  | nil => cases hn
  | cons name files inside rest ihinside ihrest =>
    obtain ⟨-, hself, hinside, hrest⟩ := h.of_cons
    have hinner : ∀ x ∈ above ++ [name], ValidName x :=
      List.forall_mem_append.2 ⟨habove, List.forall_mem_singleton.2 hself.name⟩
    simp only [nodesAt, List.mem_cons, List.mem_append, List.mem_map] at hn
    rcases hn with rfl | (hn | ⟨f, hf, rfl⟩) | hn
    · exact hinner
    · exact ihinside hinside hinner hn
    · exact List.forall_mem_append.2 ⟨hinner, List.forall_mem_singleton.2
        (hself.fileNames f.name (List.mem_map_of_mem hf))⟩
    · exact ihrest hrest habove hn

/-- **No two nodes are led to by the same names**, if siblings have different ones. -/
theorem nodup_names_nodesAt (h : a.WellNamed) (above : List String) :
    ((a.nodesAt above).map Node.names).Nodup := by
  induction a generalizing above with
  | nil => exact List.nodup_nil
  | cons name files inside rest ihinside ihrest =>
    obtain ⟨hnew, hself, hinside, hrest⟩ := h.of_cons
    have hfiles : (files.map fun f => Node.mk (above ++ [name]) (.file f)).map Node.names =
        (files.map File.name).map fun x => above ++ [name] ++ [x] := by
      rw [List.map_map, List.map_map]
      rfl
    have hdistinct := hself.distinct
    rw [Folder.childNames, List.nodup_append] at hdistinct
    obtain ⟨hfileNames, -, hapart⟩ := hdistinct
    -- Below the folder names begin with its own, and go on.
    have hbelow : ∀ x ∈ (inside.nodesAt (above ++ [name])).map Node.names ++
        (files.map File.name).map (fun x => above ++ [name] ++ [x]),
        ∃ next more, x = above ++ name :: next :: more := by
      refine List.forall_mem_append.2 ⟨List.forall_mem_map.2 fun n hn => ?_,
        List.forall_mem_map.2 fun x _ => ⟨x, [], by simp⟩⟩
      obtain ⟨x, -, more, hnames, -⟩ := exists_names_of_mem_nodesAt hn
      exact ⟨x, more, by rw [hnames]; simp⟩
    -- After the folder they begin with the name of another sibling.
    have hafter : ∀ x ∈ (rest.nodesAt above).map Node.names,
        ∃ other ∈ rest.names, ∃ more, x = above ++ other :: more := by
      refine List.forall_mem_map.2 fun n hn => ?_
      obtain ⟨other, hother, more, hnames, -⟩ := exists_names_of_mem_nodesAt hn
      exact ⟨other, hother, more, hnames⟩
    rw [nodesAt, List.map_cons, List.map_append, List.map_append, hfiles, List.nodup_cons,
      List.nodup_append, List.nodup_append]
    refine ⟨fun hmem => ?_, ⟨ihinside hinside _, ?_, ?_⟩, ihrest hrest above, ?_⟩
    · rcases List.mem_append.1 hmem with hmem | hmem
      · obtain ⟨next, more, hnames⟩ := hbelow _ hmem
        cases List.append_cancel_left hnames
      · obtain ⟨other, hother, more, hnames⟩ := hafter _ hmem
        cases List.append_cancel_left hnames
        exact hnew hother
    · exact hfileNames.map fun x y hxy => by simpa using hxy
    · rintro x hx y hy rfl
      obtain ⟨n, hn, rfl⟩ := List.mem_map.1 hx
      obtain ⟨other, hother, hnames⟩ := List.mem_map.1 hy
      obtain ⟨folder, hfolder, more, hnames', -⟩ := exists_names_of_mem_nodesAt hn
      rw [hnames'] at hnames
      cases List.append_cancel_left hnames
      exact hapart other hother other hfolder rfl
    · rintro x hx y hy rfl
      obtain ⟨next, more, rfl⟩ := hbelow x hx
      obtain ⟨other, hother, more', hnames⟩ := hafter _ hy
      cases List.append_cancel_left hnames
      exact hnew hother

/-! ## Where names lead to -/

theorem descend?_cons_of_ne {name x : String} (hx : name ≠ x) (files : List File)
    (inside rest : Forest) (more : List String) :
    (cons name files inside rest).descend? (x :: more) = rest.descend? (x :: more) := by
  cases more with
  | nil => exact if_neg hx
  | cons next more =>
    rw [descend?, descend?, sibling?, if_neg hx]

theorem descend?_cons_self (name : String) (files : List File) (inside rest : Forest)
    (next : String) (more : List String) :
    (cons name files inside rest).descend? (name :: next :: more) =
      inside.descend? (next :: more) := by
  rw [descend?, sibling?, if_pos rfl, Option.bind_some]

/-- The names of a folder lead to it. -/
theorem descend?_of_mem_nodesAt (h : a.WellNamed) {f : Folder} (hn : n ∈ a.nodesAt above)
    (hf : n.folder? = some f) (hnames : n.names = above ++ names) : a.descend? names = some f := by
  induction a generalizing above names with
  | nil => cases hn
  | cons name files inside rest ihinside ihrest =>
    obtain ⟨hnew, -, hinside, hrest⟩ := h.of_cons
    simp only [nodesAt, List.mem_cons, List.mem_append, List.mem_map] at hn
    rcases hn with rfl | (hn | ⟨g, -, rfl⟩) | hn
    · cases List.append_cancel_left hnames
      cases hf
      exact if_pos rfl
    · obtain ⟨x, -, more, hbelow, -⟩ := exists_names_of_mem_nodesAt hn
      have htail := ihinside hinside hn hbelow
      rw [hbelow, List.append_assoc, List.singleton_append] at hnames
      rw [← List.append_cancel_left hnames, descend?_cons_self, htail]
    · cases hf
    · obtain ⟨x, hx, more, hafter, -⟩ := exists_names_of_mem_nodesAt hn
      have htail := ihrest hrest hn hafter
      rw [hafter] at hnames
      rw [← List.append_cancel_left hnames,
        descend?_cons_of_ne (ne_of_mem_of_not_mem hx hnew).symm, htail]

end Forest

/-! ## One key more or less -/

/-- Two sets of keys differ in one key at most. -/
def DifferAt (key : String) (expanded more : List String) : Prop :=
  ∀ k, k ≠ key → (k ∈ expanded ↔ k ∈ more)

theorem DifferAt.symm {key : String} (h : DifferAt key expanded more) :
    DifferAt key more expanded :=
  fun k hk => (h k hk).symm

theorem differAt_cons (key : String) (expanded : List String) :
    DifferAt key (key :: expanded) expanded :=
  fun _ hk => List.mem_cons.trans (or_iff_right hk)

theorem differAt_filter (key : String) (expanded : List String) :
    DifferAt key (expanded.filter (· ≠ key)) expanded :=
  fun _ hk => List.mem_filter.trans (and_iff_left (decide_eq_true hk))

/-- The row of a node shows a difference only in its own key. -/
theorem DifferAt.row_eq {key : String} (h : DifferAt key expanded more) (hn : n.path ≠ key) :
    n.row expanded = n.row more := by
  obtain ⟨above, f | f⟩ := n
  · have hsame : expanded.contains (Node.path ⟨above, .folder f⟩) =
        more.contains (Node.path ⟨above, .folder f⟩) := by
      rw [Bool.eq_iff_iff, List.contains_iff_mem, List.contains_iff_mem]
      exact h _ hn
    exact congrArg (fun opened => Row.mk _ _ _ (.folder opened)) hsame
  · rfl

namespace Forest

/-! ## Keys -/

/-- **Path keys identify nodes** of a tree. -/
structure KeysIdentify (a : Forest) : Prop where
  /-- No two rows stand for the same path, whatever keys are expanded. -/
  rows : ∀ expanded, ((a.rows expanded).map Row.path).Nodup
  /-- No two folders have the same key, whether they are visible or not. -/
  keys : ((a.nodes.filter (·.folder?.isSome)).map Node.key).Nodup
  /-- Expanding a folder, or collapsing it, shows in the row of no other node. -/
  apart : ∀ (expanded : List String) (i j : Nat) (n m : Node),
    a.nodes[i]? = some n → a.nodes[j]? = some m → i ≠ j → n.folder?.isSome →
    m.row (n.key :: expanded) = m.row expanded ∧
      m.row (expanded.filter (· ≠ n.key)) = m.row expanded
  /-- The key in the row of a folder reads as the names that lead to the folder. -/
  parsed : ∀ expanded, ∀ r ∈ a.rows expanded, r.isFolder → ∃ n ∈ a.nodes, ∃ f,
    n.folder? = some f ∧ n.row expanded = r ∧ (WorkingPath.parse r.key).segments = n.names ∧
      a.descend? n.names = some f

theorem validNames (h : a.WellNamed) (hn : n ∈ a.nodes) : ∀ x ∈ n.names, ValidName x :=
  validName_of_mem_names h (List.forall_mem_nil _) hn

/-- **No two nodes have the same path.** -/
theorem nodup_path (h : a.WellNamed) : (a.nodes.map Node.path).Nodup := by
  have hmap : a.nodes.map Node.path = (a.nodes.map Node.names).map joined := by
    rw [List.map_map]
    rfl
  rw [hmap]
  refine (nodup_names_nodesAt h []).map_on (List.forall_mem_map.2 fun n hn => ?_)
  exact List.forall_mem_map.2 fun m hm => joined_inj (validNames h hn) (validNames h hm)

theorem path_ne_of_ne (h : a.WellNamed) {i j : Nat} (hn : a.nodes[i]? = some n)
    (hm : a.nodes[j]? = some m) (hij : i ≠ j) : m.path ≠ n.path := by
  intro hpath
  obtain ⟨hi, -⟩ := List.getElem?_eq_some_iff.1 hn
  refine hij ((List.getElem?_inj (by simpa using hi) (nodup_path h)).1 ?_)
  rw [List.getElem?_map, List.getElem?_map, hn, hm, Option.map_some, Option.map_some, hpath]

theorem parse_path (h : a.WellNamed) (hn : n ∈ a.nodes) :
    (WorkingPath.parse n.path).segments = n.names :=
  parse_joined (validNames h hn)

theorem map_path_rows (expanded : List String) (a : Forest) :
    (a.rows expanded).map Row.path = (a.nodes.filter (·.shown expanded)).map Node.path := by
  rw [rows_eq, List.map_map]
  exact List.map_congr_left fun n hn => path_row (List.mem_of_mem_filter hn) expanded

theorem WellNamed.keysIdentify (h : a.WellNamed) : a.KeysIdentify where
  rows expanded := by
    rw [map_path_rows]
    exact (nodup_path h).sublist (List.filter_sublist.map _)
  keys := by
    have hkeys : (a.nodes.filter (·.folder?.isSome)).map Node.key =
        (a.nodes.filter (·.folder?.isSome)).map Node.path :=
      List.map_congr_left fun n hn => Node.key_of_folder (List.mem_filter.1 hn).2
    rw [hkeys]
    exact (nodup_path h).sublist (List.filter_sublist.map _)
  apart expanded i j n m hn hm hij hfolder := by
    rw [Node.key_of_folder hfolder]
    have hpath := path_ne_of_ne h hn hm hij
    exact ⟨(differAt_cons n.path expanded).row_eq hpath,
      (differAt_filter n.path expanded).row_eq hpath⟩
  parsed expanded := by
    rw [rows_eq]
    refine List.forall_mem_map.2 fun n hn hfolder => ?_
    have hmem := List.mem_of_mem_filter hn
    obtain ⟨above, f | f⟩ := n
    · exact ⟨_, hmem, f, rfl, rfl, parse_path h hmem, descend?_of_mem_nodesAt h hmem rfl rfl⟩
    · cases hfolder

end Forest

/-- The rule of names holds in every tree that changes can lead to. -/
theorem Store.roots_wellNamed (actions : List Action) : (empty.run actions).roots.WellNamed :=
  run_preserves (P := fun w => w.roots.WellNamed) (fun _ _ _ _ hw h => h.wellNamed hw)
    Forest.wellNamed_nil actions

/-- **Path keys identify nodes** in every tree that changes can lead to. -/
theorem keysIdentify_run (actions : List Action) :
    (Store.empty.run actions).roots.KeysIdentify :=
  (Store.roots_wellNamed actions).keysIdentify

end WorkspaceConsole

import WorkspaceConsole.Tree.Rows

/-!
# The rows of a tree

`Forest.nodes` enumerates a tree in the order of the view, whatever is expanded: a folder, then what
is inside it, then its own files. Each node comes with the names of the folders around it. A node is
visible when the path keys of all these folders are among the expanded ones (`Node.shown`).

The rows are those of the visible nodes, in the order of the enumeration (`rows_eq`). The induction
goes down the tree with the names passed so far: below a folder that is not expanded no node is
visible, since the names that lead to the folder are a prefix of those above the node
(`prefix_of_mem_nodesAt`).
-/

namespace WorkspaceConsole

/-- What stands at one place of a tree. -/
inductive Item where
  | folder (f : Folder)
  | file (f : File)
deriving DecidableEq, Repr

/-- A folder or a file, with the names of the folders around it, from the root down. -/
structure Node where
  above : List String
  item : Item
deriving DecidableEq, Repr

/-- Names joined by slashes. -/
def joined (names : List String) : String :=
  "/".intercalate names

namespace Node

/-- The folder at a node. -/
def folder? (n : Node) : Option Folder :=
  match n.item with
  | .folder f => some f
  | .file _ => none

/-- The file at a node. -/
def file? (n : Node) : Option File :=
  match n.item with
  | .folder _ => none
  | .file f => some f

/-- The path key of a folder, or of the folder that holds a file. -/
def key (n : Node) : String :=
  match n.item with
  | .folder f => joined (n.above ++ [f.name])
  | .file _ => joined n.above

/-- The path keys of the folders around a node. -/
def enclosing (n : Node) : List String :=
  (List.range n.above.length).map fun i => joined (n.above.take (i + 1))

/-- Whether all folders around a node are expanded. -/
def shown (expanded : List String) (n : Node) : Bool :=
  n.enclosing.all expanded.contains

/-- The row of a node. -/
def row (expanded : List String) (n : Node) : Row :=
  match n.item with
  | .folder f => ⟨.ofNat n.above.length, f.name, n.key, .folder (expanded.contains n.key)⟩
  | .file f => ⟨.ofNat n.above.length, f.name, n.key, .file f.id⟩

end Node

/-- A row that does not tell whether its folder is expanded. -/
def Row.closed (r : Row) : Row :=
  match r.kind with
  | .folder _ => { r with kind := .folder false }
  | .file _ => r

namespace Forest

/-- The nodes of siblings in the folder that the names `above` lead to. -/
def nodesAt (above : List String) : Forest → List Node
  | nil => []
  | cons name files inside rest =>
    ⟨above, .folder ⟨name, files, inside⟩⟩ ::
      (inside.nodesAt (above ++ [name]) ++
        files.map (fun f => ⟨above ++ [name], .file f⟩) ++ rest.nodesAt above)

/-- All nodes of a tree: each folder, then the nodes inside it, then its files. -/
def nodes (a : Forest) : List Node :=
  a.nodesAt []

end Forest

variable {a : Forest} {expanded more above : List String} {n : Node}

/-! ## The row of a node -/

namespace Node

theorem depth_row (n : Node) (expanded : List String) :
    (n.row expanded).depth = .ofNat n.above.length := by
  obtain ⟨above, f | f⟩ := n
  · rfl
  · rfl

theorem isExpanded_row (n : Node) (expanded : List String) :
    (n.row expanded).isExpanded = true ↔ n.folder?.isSome ∧ n.key ∈ expanded := by
  obtain ⟨above, f | f⟩ := n
  · simp [Node.row, Row.isExpanded, Node.folder?]
  · simp [Node.row, Row.isExpanded, Node.folder?]

theorem fileId?_row (n : Node) (expanded : List String) :
    (n.row expanded).fileId? = n.file?.map File.id := by
  obtain ⟨above, f | f⟩ := n
  · rfl
  · rfl

/-- What is expanded shows in the kind of a row only. -/
theorem closed_row (expanded more : List String) (n : Node) :
    (n.row expanded).closed = (n.row more).closed := by
  obtain ⟨above, f | f⟩ := n
  · rfl
  · rfl

end Node

/-! ## Open paths -/

/-- All folders on the way along names are expanded. -/
def Opened (expanded above : List String) : Prop :=
  ∀ path, path <+: above → path ≠ [] → joined path ∈ expanded

theorem Opened.nil (expanded : List String) : Opened expanded [] :=
  fun _ hpath hne => absurd (List.prefix_nil.1 hpath) hne

theorem Opened.mono (h : Opened expanded above) (hsub : expanded ⊆ more) : Opened more above :=
  fun path hpath hne => hsub (h path hpath hne)

theorem opened_concat {name : String} :
    Opened expanded (above ++ [name]) ↔
      Opened expanded above ∧ joined (above ++ [name]) ∈ expanded := by
  constructor
  · intro h
    refine ⟨fun path hpath => h path (hpath.trans (List.prefix_append _ _)), ?_⟩
    exact h _ (List.prefix_refl _) (List.append_ne_nil_of_right_ne_nil _ (List.cons_ne_nil _ _))
  · rintro ⟨habove, hname⟩ path hpath hne
    rcases List.prefix_concat_iff.1 hpath with rfl | hpath
    · exact hname
    · exact habove path hpath hne

theorem Node.shown_iff : n.shown expanded = true ↔ Opened expanded n.above := by
  simp only [Node.shown, Node.enclosing, List.all_map, List.all_eq_true, List.mem_range,
    Function.comp_apply, List.contains_iff_mem]
  constructor
  · intro h path hpath hne
    have hpos := List.length_pos_iff.2 hne
    have hlen := hpath.length_le
    have hin := h (path.length - 1) (by omega)
    rwa [Nat.sub_add_cancel hpos, ← List.prefix_iff_eq_take.1 hpath] at hin
  · intro h i hi
    refine h _ (List.take_prefix _ _) fun hnil => ?_
    have hlen := congrArg List.length hnil
    rw [List.length_take, List.length_nil] at hlen
    omega

/-- The key of the folder that names lead to; there is none for the root level. -/
def keyAt (above : List String) : Option String :=
  if above = [] then none else some (joined above)

theorem keyAt_concat (above : List String) (name : String) :
    keyAt (above ++ [name]) = some (joined (above ++ [name])) :=
  if_neg (List.append_ne_nil_of_right_ne_nil _ (List.cons_ne_nil _ _))

theorem pathKey_keyAt (above : List String) (name : String) :
    pathKey (keyAt above) name = joined (above ++ [name]) := by
  cases above with
  | nil => exact String.intercalate_singleton.symm
  | cons top above =>
    rw [joined, String.intercalate_append_of_ne_nil (List.cons_ne_nil _ _) (List.cons_ne_nil _ _),
      String.intercalate_singleton]
    rfl

/-! ## The visible nodes -/

namespace Forest

/-- A node lies below the names at which the enumeration begins. -/
theorem prefix_of_mem_nodesAt (hn : n ∈ a.nodesAt above) : above <+: n.above := by
  induction a generalizing above with
  | nil => cases hn
  | cons name files inside rest ihinside ihrest =>
    simp only [nodesAt, List.mem_cons, List.mem_append, List.mem_map] at hn
    rcases hn with rfl | (hinside | ⟨f, -, rfl⟩) | hrest
    · exact List.prefix_refl _
    · exact (List.prefix_append _ _).trans (ihinside hinside)
    · exact List.prefix_append _ _
    · exact ihrest hrest

/-- Below a folder that is not expanded nothing is visible. -/
theorem shown_eq_false_of_mem_nodesAt {name : String} (hn : n ∈ a.nodesAt (above ++ [name]))
    (hclosed : joined (above ++ [name]) ∉ expanded) : n.shown expanded = false := by
  refine Bool.eq_false_iff.2 fun hshown => hclosed ?_
  have hpath := prefix_of_mem_nodesAt hn
  exact Node.shown_iff.1 hshown _ hpath
    (List.append_ne_nil_of_right_ne_nil _ (List.cons_ne_nil _ _))

theorem rowsAt_eq (hopen : Opened expanded above) (a : Forest) :
    a.rowsAt expanded (.ofNat above.length) (keyAt above) =
      ((a.nodesAt above).filter (·.shown expanded)).map (·.row expanded) := by
  induction a generalizing above with
  | nil => rfl
  | cons name files inside rest ihinside ihrest =>
    have hdepth : UInt16.ofNat (above ++ [name]).length = .ofNat above.length + 1 := by
      rw [List.length_append, List.length_singleton, UInt16.ofNat_add]
      rfl
    have hself : Node.shown expanded ⟨above, .folder ⟨name, files, inside⟩⟩ = true :=
      Node.shown_iff.2 hopen
    rw [rowsAt, nodesAt, List.filter_cons_of_pos hself, List.map_cons, ihrest hopen]
    simp only [pathKey_keyAt, List.filter_append, List.map_append]
    refine congrArg (Node.row expanded ⟨above, .folder ⟨name, files, inside⟩⟩ :: ·)
      (congrArg (· ++ _) ?_)
    -- What the folder holds is visible as far as the folders in it allow, or not at all.
    by_cases hkey : joined (above ++ [name]) ∈ expanded
    · have hinner : Opened expanded (above ++ [name]) := opened_concat.2 ⟨hopen, hkey⟩
      have hfiles : ∀ m ∈ files.map fun f => Node.mk (above ++ [name]) (.file f),
          m.shown expanded = true := by
        rintro _ hm
        obtain ⟨f, -, rfl⟩ := List.mem_map.1 hm
        exact Node.shown_iff.2 hinner
      rw [if_pos (List.contains_iff_mem.2 hkey), ← hdepth, ← keyAt_concat, ihinside hinner,
        List.filter_eq_self.2 hfiles, List.map_map]
      rfl
    · have hinside : (inside.nodesAt (above ++ [name])).filter (·.shown expanded) = [] :=
        List.filter_eq_nil_iff.2 fun m hm =>
          Bool.eq_false_iff.1 (shown_eq_false_of_mem_nodesAt hm hkey)
      have hfiles : (files.map fun f => Node.mk (above ++ [name]) (.file f)).filter
          (·.shown expanded) = [] := by
        refine List.filter_eq_nil_iff.2 fun m hm hshown => hkey ?_
        obtain ⟨f, -, rfl⟩ := List.mem_map.1 hm
        exact (opened_concat.1 (Node.shown_iff.1 hshown)).2
      rw [if_neg (fun h => hkey (List.contains_iff_mem.1 h)), hinside, hfiles]
      rfl

/-- **The rows are those of the visible nodes**, in the order of the enumeration. -/
theorem rows_eq (expanded : List String) (a : Forest) :
    a.rows expanded = (a.nodes.filter (·.shown expanded)).map (·.row expanded) :=
  rowsAt_eq (.nil expanded) a

/-! ## All nodes -/

theorem folders_nodesAt (above : List String) (a : Forest) :
    (a.nodesAt above).filterMap Node.folder? = a.folders := by
  induction a generalizing above with
  | nil => rfl
  | cons name files inside rest ihinside ihrest =>
    have hfiles : (files.map fun f => Node.mk (above ++ [name]) (.file f)).filterMap
        Node.folder? = [] := by
      rw [List.filterMap_map]
      exact List.filterMap_eq_nil_iff.2 fun _ _ => rfl
    have hself : Node.folder? ⟨above, .folder ⟨name, files, inside⟩⟩ =
        some ⟨name, files, inside⟩ := rfl
    rw [nodesAt, List.filterMap_cons_some hself, List.filterMap_append, List.filterMap_append,
      ihinside, ihrest, hfiles, List.append_nil, folders]

theorem files_nodesAt (above : List String) (a : Forest) :
    ((a.nodesAt above).filterMap Node.file?).Perm a.files := by
  induction a generalizing above with
  | nil => exact .refl _
  | cons name files inside rest ihinside ihrest =>
    have hfiles : (files.map fun f => Node.mk (above ++ [name]) (.file f)).filterMap
        Node.file? = files := by
      rw [List.filterMap_map]
      exact List.filterMap_some
    rw [nodesAt, List.filterMap_cons_none rfl, List.filterMap_append, List.filterMap_append, hfiles,
      Forest.files, ← List.append_assoc]
    exact (((ihinside _).append_right _).trans List.perm_append_comm).append (ihrest _)

/-- Everything is visible if all folders are expanded. -/
theorem shown_of_forall_key (hopen : Opened expanded above)
    (hkeys : ∀ n ∈ a.nodesAt above, n.folder?.isSome → n.key ∈ expanded) :
    ∀ n ∈ a.nodesAt above, n.shown expanded = true := by
  induction a generalizing above with
  | nil => exact fun _ hn => absurd hn List.not_mem_nil
  | cons name files inside rest ihinside ihrest =>
    rw [nodesAt, List.forall_mem_cons, List.forall_mem_append, List.forall_mem_append] at hkeys ⊢
    obtain ⟨hfolder, ⟨hinside, -⟩, hrest⟩ := hkeys
    have hinner : Opened expanded (above ++ [name]) := opened_concat.2 ⟨hopen, hfolder rfl⟩
    refine ⟨Node.shown_iff.2 hopen, ⟨ihinside hinner hinside, ?_⟩, ihrest hopen hrest⟩
    exact List.forall_mem_map.2 fun _ _ => Node.shown_iff.2 hinner

/-! ## More expanded folders -/

/-- With more folders expanded, rows are only inserted. -/
theorem sublist_rows (hsub : expanded ⊆ more) (a : Forest) :
    ((a.rows expanded).map Row.closed).Sublist ((a.rows more).map Row.closed) := by
  have hclosed : Row.closed ∘ Node.row expanded = Row.closed ∘ Node.row more :=
    funext (Node.closed_row expanded more)
  have hshown : a.nodes.filter (·.shown expanded) =
      (a.nodes.filter (·.shown more)).filter (·.shown expanded) := by
    rw [List.filter_filter]
    refine List.filter_congr fun n _ => ?_
    rw [Bool.eq_iff_iff, Bool.and_eq_true]
    exact ⟨fun h => ⟨h, Node.shown_iff.2 ((Node.shown_iff.1 h).mono hsub)⟩, And.left⟩
  rw [rows_eq, rows_eq, List.map_map, List.map_map, hclosed, hshown]
  exact List.filter_sublist.map _

/-- **The rows of a tree are its visible part**, whatever keys the expanded ones are, and whether
the tree has folders with these keys or not. -/
structure ShowsVisible (a : Forest) : Prop where
  rows : ∀ expanded, a.rows expanded = (a.nodes.filter (·.shown expanded)).map (·.row expanded)
  depths : ∀ expanded, ∀ n ∈ a.nodes, (n.row expanded).depth.toNat = n.above.length
  marks : ∀ expanded, ∀ n ∈ a.nodes,
    ((n.row expanded).isExpanded = true ↔ n.folder?.isSome ∧ n.key ∈ expanded) ∧
      (n.row expanded).fileId? = n.file?.map File.id
  folders : a.nodes.filterMap Node.folder? = a.folders
  files : (a.nodes.filterMap Node.file?).Perm a.files
  whole : ∀ expanded, (∀ n ∈ a.nodes, n.folder?.isSome → n.key ∈ expanded) →
    a.rows expanded = a.nodes.map (·.row expanded)
  grows : ∀ expanded more, expanded ⊆ more →
    ((a.rows expanded).map Row.closed).Sublist ((a.rows more).map Row.closed)

/-- **The view shows the visible part** of every tree in which nothing lies deeper than depths can
be counted. -/
theorem showsVisible (a : Forest) (hdepth : ∀ n ∈ a.nodes, n.above.length ≤ 65535) :
    a.ShowsVisible where
  rows expanded := rows_eq expanded a
  depths expanded n hn := by
    rw [Node.depth_row, UInt16.toNat_ofNat']
    exact Nat.mod_eq_of_lt (Nat.lt_succ_of_le (hdepth n hn))
  marks expanded n _ := ⟨n.isExpanded_row expanded, n.fileId?_row expanded⟩
  folders := folders_nodesAt [] a
  files := files_nodesAt [] a
  whole expanded hkeys := by
    have hall : a.nodes.filter (·.shown expanded) = a.nodes :=
      List.filter_eq_self.2 (shown_of_forall_key (.nil expanded) hkeys)
    rw [rows_eq, hall]
  grows _ _ hsub := sublist_rows hsub a

/-- A folder `a` at the root with a folder `a` inside it, and an expanded key that is stale: the
inner folder is seen, and what it holds is not. -/
theorem showsVisible_nested :
    let inner : Forest := .cons "a" [⟨⟨2⟩, "g", ""⟩] .nil .nil
    let tree : Forest := .cons "a" [⟨⟨1⟩, "f", ""⟩] inner .nil
    (∀ n ∈ tree.nodes, n.above.length ≤ 65535) ∧ tree.ShowsVisible ∧
      tree.rows ["a", "b/a"] =
        [⟨0, "a", "a", .folder true⟩, ⟨1, "a", "a/a", .folder false⟩,
          ⟨1, "f", "a", .file ⟨1⟩⟩] := by
  intro inner tree
  have hdepth : ∀ n ∈ tree.nodes, n.above.length ≤ 65535 := by decide
  exact ⟨hdepth, showsVisible tree hdepth, by decide⟩

end Forest

end WorkspaceConsole

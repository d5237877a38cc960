import WorkspaceConsole.Proofs.Tree.PathKey

/-!
# What a folder contributes to the rows

The nodes below a folder stand together in the enumeration of a tree, directly after the folder
(`exists_split_nodesAt`). If siblings have different names, these are the nodes around which the
folder is, so the rest of the tree does not see whether the folder is expanded.

So when the key of one visible folder is added or dropped, the rows differ in the row of that folder
and in one block directly after it, the rows of what is visible below the folder
(`exists_rows_eq`).
-/

namespace WorkspaceConsole

/-- Whether a node lies below the folder that names lead to. -/
def Node.isBelow (names : List String) (n : Node) : Bool :=
  names.isPrefixOf n.above

/-- The rows of what is visible below the folder that names lead to. -/
def Forest.rowsBelow (expanded names : List String) (a : Forest) : List Row :=
  (a.nodes.filter fun n => n.isBelow names && n.shown expanded).map (·.row expanded)

variable {a : Forest} {expanded more above names : List String} {n m : Node}

namespace Node

theorem isBelow_iff : n.isBelow names = true ↔ names <+: n.above :=
  List.isPrefixOf_iff_prefix

theorem above_prefix_names (n : Node) : n.above <+: n.names :=
  List.prefix_append n.above [n.name]

/-- No node lies below itself. -/
theorem not_names_prefix_above (n : Node) : ¬ n.names <+: n.above := by
  intro h
  have hlength := h.length_le
  rw [names, List.length_append, List.length_singleton] at hlength
  omega

end Node

/-- Names that go on differently after the same names lead to different places. -/
theorem head_eq_of_prefixes {x y : String} {xs ys path : List String}
    (hx : above ++ x :: xs <+: path)
    (hy : above ++ y :: ys <+: path) : x = y := by
  obtain ⟨later, rfl⟩ := hx
  rw [List.append_assoc, List.prefix_append_right_inj, List.cons_append,
    List.cons_prefix_cons] at hy
  exact hy.1.symm

namespace Forest

/-! ## The place of a folder in the enumeration -/

/-- **What is below a folder** stands together, directly after it. -/
theorem exists_split_nodesAt (h : a.WellNamed) (hn : n ∈ a.nodesAt above)
    (hfolder : n.folder?.isSome = true) :
    ∃ before below after, a.nodesAt above = before ++ n :: (below ++ after) ∧
      (∀ m ∈ below, n.names <+: m.above) ∧ (∀ m ∈ before, ¬ n.names <+: m.above) ∧
        ∀ m ∈ after, ¬ n.names <+: m.above := by
  induction a generalizing above with
  | nil => cases hn
  | cons name files inside rest ihinside ihrest =>
    obtain ⟨hnew, -, hinside, hrest⟩ := h.of_cons
    let self : Node := ⟨above, .folder ⟨name, files, inside⟩⟩
    let own := files.map fun f => Node.mk (above ++ [name]) (.file f)
    have hnodes : (cons name files inside rest).nodesAt above =
        self :: (inside.nodesAt (above ++ [name]) ++ own ++ rest.nodesAt above) := rfl
    have hown : ∀ m ∈ own, m.above = above ++ [name] := List.forall_mem_map.2 fun _ _ => rfl
    have hinner : ∀ m ∈ inside.nodesAt (above ++ [name]) ++ own, above ++ [name] <+: m.above :=
      List.forall_mem_append.2 ⟨fun m hm => prefix_of_mem_nodesAt hm,
        fun m hm => hown m hm ▸ List.prefix_refl _⟩
    have houter : ∀ m ∈ rest.nodesAt above, ∀ path, m.names <+: path →
        ¬ above ++ [name] <+: path := by
      intro m hm path hpath hbelow
      obtain ⟨x, hx, more, hnames, -⟩ := exists_names_of_mem_nodesAt hm
      rw [hnames] at hpath
      exact hnew (head_eq_of_prefixes hpath hbelow ▸ hx)
    have hafter : ∀ m ∈ rest.nodesAt above, ¬ above ++ [name] <+: m.above := fun m hm hbelow =>
      houter m hm m.names (List.prefix_refl _) (hbelow.trans m.above_prefix_names)
    rw [hnodes, List.mem_cons, List.mem_append, List.mem_append] at hn
    rcases hn with rfl | (hn | hn) | hn
    · exact ⟨[], _, _, hnodes, hinner, List.forall_mem_nil _, hafter⟩
    · obtain ⟨before, below, after, hsplit, hbelow, hbefore, hlater⟩ := ihinside hinside hn
      have habove : above ++ [name] <+: n.above := prefix_of_mem_nodesAt hn
      have hpath : above ++ [name] <+: n.names := habove.trans n.above_prefix_names
      refine ⟨self :: before, below, after ++ own ++ rest.nodesAt above, ?_, hbelow,
        List.forall_mem_cons.2 ⟨fun hself => ?_, hbefore⟩, List.forall_mem_append.2
          ⟨List.forall_mem_append.2 ⟨hlater, fun m hm hsame => ?_⟩, fun m hm hbelow => ?_⟩⟩
      · rw [hnodes, hsplit]
        simp only [List.cons_append, List.append_assoc]
      · exact n.not_names_prefix_above (hself.trans ((List.prefix_append _ _).trans habove))
      · rw [hown m hm] at hsame
        exact n.not_names_prefix_above (hsame.trans habove)
      · exact hafter m hm (hpath.trans hbelow)
    · obtain ⟨f, -, rfl⟩ := List.mem_map.1 hn
      cases hfolder
    · obtain ⟨before, below, after, hsplit, hbelow, hbefore, hlater⟩ := ihrest hrest hn
      refine ⟨self :: (inside.nodesAt (above ++ [name]) ++ own ++ before), below, after, ?_, hbelow,
        List.forall_mem_cons.2 ⟨fun hself => ?_, List.forall_mem_append.2
          ⟨fun m hm hsame => ?_, hbefore⟩⟩, hlater⟩
      · rw [hnodes, hsplit]
        simp only [List.cons_append, List.append_assoc]
      · exact n.not_names_prefix_above (hself.trans (prefix_of_mem_nodesAt hn))
      · exact houter n hn _ hsame (hinner m hm)

/-! ## One folder opened or closed -/

/-- Outside a folder nothing depends on whether it is expanded. -/
theorem shown_eq_of_differAt (h : a.WellNamed) (hn : n ∈ a.nodes) (hm : m ∈ a.nodes)
    (hdiffer : DifferAt n.path expanded more) (hout : ¬ n.names <+: m.above) :
    m.shown expanded = m.shown more := by
  rw [Bool.eq_iff_iff, Node.shown_iff, Node.shown_iff]
  refine forall_congr' fun path => forall_congr' fun hpath => imp_congr_right fun _ => ?_
  refine hdiffer _ fun hsame => hout ?_
  have hvalid : ∀ x ∈ path, ValidName x := fun x hx =>
    validNames h hm x (List.mem_append_left _ (hpath.subset hx))
  exact joined_inj hvalid (validNames h hn) hsame ▸ hpath

/-- The rows outside a folder are the same, whether it is expanded or not. -/
theorem rows_eq_of_differAt (h : a.WellNamed) (hn : n ∈ a.nodes)
    (hdiffer : DifferAt n.path expanded more) {part : List Node}
    (hpart : ∀ m ∈ part, m ∈ a.nodes ∧ m.path ≠ n.path ∧ ¬ n.names <+: m.above) :
    (part.filter (·.shown expanded)).map (·.row expanded) =
      (part.filter (·.shown more)).map (·.row more) := by
  have hshown : part.filter (·.shown expanded) = part.filter (·.shown more) :=
    List.filter_congr fun m hm => by
      obtain ⟨hmem, -, hout⟩ := hpart m hm
      exact shown_eq_of_differAt h hn hmem hdiffer hout
  rw [hshown]
  refine List.map_congr_left fun m hm => hdiffer.row_eq ?_
  exact (hpart m (List.mem_of_mem_filter hm)).2.1

/-- Below a folder that is closed nothing is visible. -/
theorem rowsBelow_eq_nil (hclosed : n.path ∉ expanded) : a.rowsBelow expanded n.names = [] := by
  have hnone : (a.nodes.filter fun m => m.isBelow n.names && m.shown expanded) = [] := by
    refine List.filter_eq_nil_iff.2 fun m _ hm => hclosed ?_
    obtain ⟨hbelow, hshown⟩ := Bool.and_eq_true_iff.1 hm
    exact Node.shown_iff.1 hshown n.names (Node.isBelow_iff.1 hbelow)
      (List.append_ne_nil_of_right_ne_nil _ (List.cons_ne_nil _ _))
  rw [rowsBelow, hnone, List.map_nil]

theorem rowsBelow_eq {before below after : List Node}
    (hnodes : a.nodes = before ++ n :: (below ++ after))
    (hbelow : ∀ m ∈ below, n.names <+: m.above) (hbefore : ∀ m ∈ before, ¬ n.names <+: m.above)
    (hafter : ∀ m ∈ after, ¬ n.names <+: m.above) (expanded : List String) :
    a.rowsBelow expanded n.names =
      (below.filter (·.shown expanded)).map (·.row expanded) := by
  have hnone {part : List Node} (hpart : ∀ m ∈ part, ¬ n.names <+: m.above) :
      part.filter (·.isBelow n.names) = [] :=
    List.filter_eq_nil_iff.2 fun m hm hin => hpart m hm (Node.isBelow_iff.1 hin)
  have hself : ¬ n.isBelow n.names = true := fun hin =>
    n.not_names_prefix_above (Node.isBelow_iff.1 hin)
  have hall : below.filter (·.isBelow n.names) = below :=
    List.filter_eq_self.2 fun m hm => Node.isBelow_iff.2 (hbelow m hm)
  have hblock : a.nodes.filter (·.isBelow n.names) = below := by
    rw [hnodes, List.filter_append, hnone hbefore, List.filter_cons_of_neg hself,
      List.filter_append, hall, hnone hafter, List.nil_append, List.append_nil]
  have hswap : (a.nodes.filter fun m => m.isBelow n.names && m.shown expanded) =
      (a.nodes.filter (·.isBelow n.names)).filter (·.shown expanded) := by
    rw [List.filter_filter]
    exact List.filter_congr fun m _ => Bool.and_comm _ _
  rw [rowsBelow, hswap, hblock]

/-- **A folder opened or closed**: its row changes, the block of what is visible below it comes or
goes directly after it, and all other rows are the same. -/
theorem exists_rows_eq (h : a.WellNamed) (hn : n ∈ a.nodes) (hfolder : n.folder?.isSome = true)
    (hshown : n.shown expanded = true) :
    ∃ before after, ∀ keys, DifferAt n.path keys expanded →
      a.rows keys = before ++ n.row keys :: (a.rowsBelow keys n.names ++ after) := by
  obtain ⟨before, below, after, hsplit, hbelow, hbefore, hafter⟩ :=
    exists_split_nodesAt h hn hfolder
  have hnodes : a.nodes = before ++ n :: (below ++ after) := hsplit
  have hpaths := nodup_path h
  rw [hnodes, List.map_append, List.map_cons, List.map_append, List.nodup_middle,
    List.nodup_cons, List.mem_append, List.mem_append] at hpaths
  refine ⟨(before.filter (·.shown expanded)).map (·.row expanded),
    (after.filter (·.shown expanded)).map (·.row expanded), fun keys hdiffer => ?_⟩
  have hbefore' := rows_eq_of_differAt h hn hdiffer fun m hm =>
    ⟨hnodes ▸ List.mem_append_left _ hm,
      fun he => hpaths.1 (.inl (List.mem_map.2 ⟨m, hm, he⟩)), hbefore m hm⟩
  have hafter' := rows_eq_of_differAt h hn hdiffer fun m hm =>
    ⟨hnodes ▸ List.mem_append_right _ (List.mem_cons_of_mem _ (List.mem_append_right _ hm)),
      fun he => hpaths.1 (.inr (.inr (List.mem_map.2 ⟨m, hm, he⟩))), hafter m hm⟩
  have hself : n.shown keys = true :=
    (shown_eq_of_differAt h hn hn hdiffer n.not_names_prefix_above).trans hshown
  rw [rows_eq, rowsBelow_eq hnodes hbelow hbefore hafter, ← hbefore', ← hafter', hnodes,
    List.filter_append, List.filter_cons_of_pos hself, List.filter_append, List.map_append,
    List.map_cons, List.map_append]

end Forest

end WorkspaceConsole

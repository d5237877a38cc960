import Mathlib.Data.List.Nodup
import WorkspaceConsole.Proofs.Store.Reserve
import WorkspaceConsole.Proofs.Tree.Audit

/-!
# Stores over hand-built trees

A tree that is put together by hand may hold one identifier in many folders, so identifiers need not
be distinct in the whole of it. All that a store asks of a tree that it takes over is that they are
distinct within each folder (`Folder.Distinct`).

A change keeps it as long as the identifiers that it hands out are new to the tree
(`distinct_apply`). The source of the store has been told of all identifiers in the tree, at any
depth. So while the range lasts, all that it hands out are new, and the tree goes on to pass the
audit (`consistent_ofRoots`).
-/

namespace WorkspaceConsole

open Workspace

/-! ## One change -/

theorem Folder.shallow_distinct : Hole.Shallow Folder.Distinct :=
  fun _ _ _ _ _ hdistinct => hdistinct

namespace Forest

variable {a : Forest} {f : Folder}

theorem fileIds_eq_flatMap (a : Forest) :
    a.fileIds = a.folders.flatMap fun f => f.files.map File.id := by
  rw [fileIds, files_eq_flatMap, List.map_flatMap]

theorem mem_fileIds_of_mem_folders (hf : f ∈ a.folders) {id : FileId}
    (hid : id ∈ f.files.map File.id) : id ∈ a.fileIds := by
  rw [fileIds_eq_flatMap]
  exact List.mem_flatMap.2 ⟨f, hf, hid⟩

/-- Identifiers that are distinct in the whole tree are distinct within each folder. -/
theorem distinct_of_nodup_fileIds (ha : a.fileIds.Nodup) : ∀ f ∈ a.folders, f.Distinct := by
  rw [fileIds_eq_flatMap] at ha
  exact (List.nodup_flatMap.1 ha).1

end Forest

/-- A change keeps identifiers distinct within each folder, if it hands out distinct ones that are
not in the tree. -/
theorem distinct_apply {w w' : Workspace} {a : Action} {r : Option FileId}
    (happly : a.apply w = .ok (r, w')) (hnodup : (a.allocated w).Nodup)
    (hfresh : ∀ id ∈ a.allocated w, id ∉ w.roots.fileIds)
    (hw : ∀ f ∈ w.roots.folders, f.Distinct) : ∀ f ∈ w'.roots.folders, f.Distinct := by
  unfold Action.allocated at hnodup hfresh
  rw [happly] at hnodup hfresh
  cases change_of_apply happly with
  | createRootFolder _ _ =>
    intro f hf
    rw [Forest.push, Forest.folders_append, List.mem_append] at hf
    rcases hf with hf | hf
    · exact hw f hf
    · rw [List.mem_singleton.1 hf]
      exact List.nodup_nil
  | @createFolder ref name h g _ hat _ =>
    rw [hat.roots] at hw
    refine Hole.forall_folders_edit Folder.shallow_distinct h hw rfl (fun hg => hg) ?_
    intro x hx
    rw [Forest.push, Forest.folders_append, List.mem_append] at hx
    refine hx.imp_right fun hx => ?_
    rw [List.mem_singleton.1 hx]
    exact List.nodup_nil
  | @createFile ref name content h g _ hat _ =>
    rw [hat.roots] at hw hfresh
    refine Hole.forall_folders_edit Folder.shallow_distinct h hw rfl ?_ fun x hx => .inl hx
    intro hg
    have hnew : w.ids.take.1 ∉ g.files.map File.id := fun hmem =>
      hfresh _ (List.mem_singleton_self _)
        (Forest.mem_fileIds_of_mem_folders (h.mem_folders_fill g) hmem)
    unfold Folder.Distinct
    rw [List.map_append]
    refine List.nodup_append.2 ⟨hg, List.nodup_singleton _, ?_⟩
    rintro id hid _ hlast rfl
    rw [List.mem_singleton.1 hlast] at hid
    exact hnew hid
  | @insertTemplates ref ts h g _ _ hat _ =>
    rw [hat.roots] at hw
    refine Hole.forall_folders_edit Folder.shallow_distinct h hw rfl (fun hg => hg) ?_
    intro x hx
    rw [Forest.folders_append, List.mem_append] at hx
    exact hx.imp_right (Forest.distinct_of_nodup_fileIds hnodup x)
  | @updateFileContent id content h g x _ hroots _ =>
    rw [hroots] at hw
    refine Hole.forall_folders_edit Folder.shallow_distinct h hw rfl ?_ fun x hx => .inl hx
    intro hg
    unfold Folder.Distinct
    rw [Forest.map_setContentIn fun _ _ => rfl]
    exact hg
  | removeFolder _ hroots =>
    rw [hroots] at hw
    exact Hole.forall_folders_close Folder.shallow_distinct _ hw
  | @removeFile id h g x _ hroots _ =>
    rw [hroots] at hw
    refine Hole.forall_folders_edit Folder.shallow_distinct h hw rfl ?_ fun x hx => .inl hx
    intro hg
    exact hg.sublist (List.eraseP_sublist.map File.id)

namespace Store

variable {s : Store}

theorem distinct_dispatch {a : Action} (hnodup : (a.allocated s.workspace).Nodup)
    (hfresh : ∀ id ∈ a.allocated s.workspace, id ∉ s.roots.fileIds)
    (hs : ∀ f ∈ s.roots.folders, f.Distinct) :
    ∀ f ∈ (s.dispatch a).2.roots.folders, f.Distinct := by
  rcases s.dispatch_cases a with ⟨r, w, happly, hd⟩ | ⟨e, -, hd⟩
  · rw [hd]
    exact distinct_apply happly hnodup hfresh hs
  · rw [hd]
    exact hs

/-! ## Runs -/

/-- The identifiers that the run hands out are pairwise distinct, and none of them is in the tree
when it begins. -/
structure HandsOutNew (s : Store) (as : List Action) : Prop where
  distinct : (s.allocated as).Nodup
  absent : ∀ id ∈ s.allocated as, id ∉ s.roots.fileIds

/-- What holds of a run holds of its first change and, after that, of the rest. -/
theorem HandsOutNew.dispatch {a : Action} {as : List Action} (h : s.HandsOutNew (a :: as)) :
    (a.allocated s.workspace).Nodup ∧ (∀ id ∈ a.allocated s.workspace, id ∉ s.roots.fileIds) ∧
      (s.dispatch a).2.HandsOutNew as := by
  obtain ⟨hdistinct, habsent⟩ := h
  rw [allocated] at hdistinct habsent
  obtain ⟨hfirst, hlater, hdisjoint⟩ := List.nodup_append.1 hdistinct
  refine ⟨hfirst, fun id hid => habsent id (List.mem_append_left _ hid), hlater, ?_⟩
  intro id hid hmem
  -- The tree has gained nothing but what the first change has handed out.
  rcases List.mem_append.1 ((fileIds_dispatch s a).2.mem_iff.2 (List.mem_append_right _ hmem)) with
    hnew | hold
  · exact hdisjoint id hnew id hid rfl
  · exact habsent id (List.mem_append_right _ hid) hold

theorem distinct_run {as : List Action} (h : s.HandsOutNew as)
    (hs : ∀ f ∈ s.roots.folders, f.Distinct) : ∀ f ∈ (s.run as).roots.folders, f.Distinct := by
  induction as generalizing s with
  | nil => exact hs
  | cons a as ih =>
    obtain ⟨hnodup, hfresh, hlater⟩ := h.dispatch
    exact ih hlater (distinct_dispatch hnodup hfresh hs)

/-- A source that is above the tree hands out new identifiers, up to the last one of the range. -/
theorem handsOutNew_of_lt {as : List Action}
    (hbelow : ∀ id ∈ s.roots.fileIds, id.raw.toNat < s.workspace.ids.next.raw.toNat)
    (hroom : s.workspace.ids.next.raw.toNat + (s.allocated as).length ≤ UInt64.size) :
    s.HandsOutNew as := by
  have hnumbers := ((handsOut_run s as).consecutive hroom).1
  constructor
  · refine List.Nodup.of_map (·.raw.toNat) ?_
    rw [hnumbers]
    exact List.nodup_range'
  · intro id hid hmem
    have hrange : id.raw.toNat ∈ (s.allocated as).map (·.raw.toNat) := List.mem_map_of_mem hid
    rw [hnumbers, List.mem_range'_1] at hrange
    have hlt := hbelow id hmem
    omega

/-- The source of a hand-built tree is above all of its identifiers, if none of them is the last one
of the range. -/
theorem lt_next_ofRoots {roots : Forest}
    (hbelow : ∀ id ∈ roots.fileIds, id.raw.toNat < UInt64.size - 1) :
    ∀ id ∈ roots.fileIds, id.raw.toNat < (Workspace.ofRoots roots).ids.next.raw.toNat := by
  intro id hid
  rcases Workspace.ahead_ofRoots roots id hid with hlt | hlast
  · exact hlt
  · rw [hlast]
    exact hbelow id hid

/-- **Hand-built trees stay consistent.** Names may be invalid or repeat, and whole roots may be
repeated: if identifiers are distinct within each folder, and the last one of the range is not among
them, then a store takes the tree over. After any run that needs no more identifiers than there are
left, the tree passes the audit again, and the identifiers handed out are distinct and new. -/
theorem consistent_ofRoots (roots : Forest)
    (hdistinct : ∀ f ∈ roots.folders, (f.files.map File.id).Nodup)
    (hbelow : ∀ id ∈ roots.fileIds, id.raw.toNat < UInt64.size - 1) :
    let s : Store := ⟨.ofRoots roots, 0⟩
    Store.ofWorkspace (.ofRoots roots) = .ok s ∧
      ∀ actions, s.workspace.ids.next.raw.toNat + (s.allocated actions).length ≤ UInt64.size →
        (s.run actions).roots.audit = .ok () ∧
        s.workspace.ids.HandsOut (s.allocated actions) (s.run actions).workspace.ids ∧
        (s.allocated actions).Nodup ∧ ∀ id ∈ s.allocated actions, id ∉ roots.fileIds := by
  intro s
  constructor
  · have haudit : (Workspace.ofRoots roots).roots.audit = .ok () :=
      Forest.audit_eq_ok_iff.2 hdistinct
    rw [ofWorkspace, haudit]
    rfl
  · intro actions hroom
    have hnew : s.HandsOutNew actions := handsOutNew_of_lt (lt_next_ofRoots hbelow) hroom
    exact ⟨Forest.audit_eq_ok_iff.2 (distinct_run hnew hdistinct), handsOut_run s actions,
      hnew.distinct, hnew.absent⟩

/-- A root is there twice, with its identifiers, and holds a folder with a slash in its name. -/
theorem consistent_ofRoots_repeated :
    let file : File := ⟨⟨7⟩, "x", ""⟩
    let root (rest : Forest) : Forest := .cons "a" [file] (.cons "b/c" [file] .nil .nil) rest
    let s : Store := ⟨.ofRoots (root (root .nil)), 0⟩
    let actions : List Action :=
      [.createFile (.anywhere "a") "y" "", .createFile (.anywhere "missing") "z" "",
        .insertTemplates (.amongRoots "a") [⟨"t", [("m", ""), ("n", "")]⟩], .removeFile ⟨7⟩]
    Store.ofWorkspace (.ofRoots (root (root .nil))) = .ok s ∧
      s.allocated actions = [⟨8⟩, ⟨9⟩, ⟨10⟩] ∧ (s.run actions).roots.audit = .ok () := by
  intro file root s actions
  obtain ⟨htaken, hrun⟩ := consistent_ofRoots (root (root .nil)) (by decide) (by decide)
  have hids : s.allocated actions = [⟨8⟩, ⟨9⟩, ⟨10⟩] := by decide
  have hroom : s.workspace.ids.next.raw.toNat + (s.allocated actions).length ≤ UInt64.size := by
    rw [hids]
    decide
  exact ⟨htaken, hids, (hrun actions hroom).1⟩

end Store

end WorkspaceConsole

import WorkspaceConsole.Proofs.Store.Run

/-!
# Identifiers along a run

No identifier is given to two files, and none comes back after its file is gone (`fileIds_run`).

A change hands identifiers out (`Action.allocated`) and takes files away (`Action.removed`); the
identifiers in the tree change by these and by nothing else (`fileIds_dispatch`). As the source
hands out increasing numbers, an identifier that lies below its next one and is not in the tree
stays out of the tree.
-/

namespace WorkspaceConsole

open Workspace

namespace Action

/-- The identifiers that a change hands out, in order: those of the files that it creates. -/
def allocated (w : Workspace) (a : Action) : List FileId :=
  match a, a.apply w with
  | .createFile _ _ _, .ok (some id, _) => [id]
  | .insertTemplates _ ts, .ok _ => (FolderTemplate.buildAll w.ids ts).1.fileIds
  | _, _ => []

/-- The identifiers of the files that a change takes away. -/
def removed (w : Workspace) (a : Action) : List FileId :=
  match a, a.apply w with
  | .removeFolder name, .ok _ =>
    match w.roots.folder? name with
    | some cut => cut.toForest.fileIds
    | none => []
  | .removeFile id, .ok _ => [id]
  | _, _ => []

end Action

/-! ## What one change does to the identifiers -/

namespace Forest

theorem fileIds_append (a b : Forest) : (a ++ b).fileIds = a.fileIds ++ b.fileIds := by
  rw [fileIds, files_eq_flatMap, folders_append, List.flatMap_append, ← files_eq_flatMap,
    ← files_eq_flatMap, List.map_append]
  rfl

theorem fileIds_push_empty (a : Forest) (name : String) :
    (a.push (.empty name)).fileIds = a.fileIds := by
  rw [push, fileIds_append]
  exact List.append_nil a.fileIds

/-- The identifiers of a tree are those at the place and those elsewhere. -/
theorem fileIds_fill_perm (h : Hole) (f : Folder) :
    (h.fill f).fileIds.Perm (f.files.map File.id ++ (f.inside.fileIds ++ h.close.fileIds)) := by
  have hperm := (h.files_fill_perm f).map File.id
  rwa [List.map_append, List.map_append, List.append_assoc] at hperm

/-- An edit that adds identifiers at the place adds them to the tree. -/
theorem fileIds_fill_add {h : Hole} {f g : Folder} (new : List FileId)
    (hadd : (new ++ (f.files.map File.id ++ f.inside.fileIds)).Perm
      (g.files.map File.id ++ g.inside.fileIds)) :
    (new ++ (h.fill f).fileIds).Perm (h.fill g).fileIds := by
  refine ((fileIds_fill_perm h f).append_left new).trans (.trans ?_ (fileIds_fill_perm h g).symm)
  simpa only [List.append_assoc] using hadd.append_right h.close.fileIds

end Forest

theorem eraseP_perm {x : File} {id : FileId} {files : List File}
    (hx : files.find? (·.id = id) = some x) : files.Perm (x :: files.eraseP (·.id = id)) := by
  obtain ⟨hid, before, after, rfl, hbefore⟩ := List.find?_eq_some_iff_append.1 hx
  have hcut : (x :: after).eraseP (·.id = id) = after := List.eraseP_cons_of_pos hid
  rw [List.eraseP_append_right _ fun y hy => by simpa using hbefore y hy, hcut]
  exact List.perm_middle

/-- **What a change does to the identifiers**: it takes those it hands out from the source, and the
tree gains these and loses those of the files that are taken away. -/
theorem fileIds_apply {w w' : Workspace} {a : Action} {r : Option FileId}
    (happly : a.apply w = .ok (r, w')) :
    w.ids.HandsOut (a.allocated w) w'.ids ∧
      (a.allocated w ++ w.roots.fileIds).Perm (a.removed w ++ w'.roots.fileIds) := by
  unfold Action.allocated Action.removed
  rw [happly]
  cases change_of_apply happly with
  | @createRootFolder name =>
    refine ⟨.none _, ?_⟩
    show w.roots.fileIds.Perm (w.roots.push (.empty name)).fileIds
    rw [Forest.fileIds_push_empty]
  | @createFolder ref name h g _ hat =>
    refine ⟨.none _, ?_⟩
    rw [hat.roots]
    refine Forest.fileIds_fill_add [] ?_
    show (g.files.map File.id ++ g.inside.fileIds).Perm
      (g.files.map File.id ++ (g.inside.push (.empty name)).fileIds)
    rw [Forest.fileIds_push_empty]
  | createFile _ hat =>
    refine ⟨.one w.ids, ?_⟩
    rw [hat.roots]
    refine Forest.fileIds_fill_add _ ?_
    rw [List.map_append, List.append_assoc]
    exact List.perm_append_comm_assoc ..
  | @insertTemplates ref ts h g _ _ hat =>
    refine ⟨FolderTemplate.handsOut_buildAll w.ids ts, ?_⟩
    rw [hat.roots]
    refine Forest.fileIds_fill_add _ ?_
    rw [Forest.fileIds_append, ← List.append_assoc (g.files.map File.id)]
    exact List.perm_append_comm
  | updateFileContent _ hroots =>
    refine ⟨.none _, ?_⟩
    rw [hroots]
    refine Forest.fileIds_fill_add [] ?_
    rw [Forest.map_setContentIn fun _ _ => rfl]
    exact .refl _
  | @removeFolder name h cut hcut hroots =>
    refine ⟨.none _, ?_⟩
    simp only [hcut]
    rw [hroots]
    refine (Forest.fileIds_fill_perm h cut).trans (.of_eq ?_)
    simp [Forest.fileIds, Forest.files, Folder.toForest]
  | @removeFile id h g x hx hroots hfind =>
    refine ⟨.none _, ?_⟩
    have hid : x.id = id := by simpa using List.find?_some hfind
    subst hid
    rw [hroots]
    refine (Forest.fileIds_fill_add [x.id] ?_).symm
    exact ((eraseP_perm hfind).map File.id).symm.append_right g.inside.fileIds

theorem Action.allocated_of_error {w : Workspace} {a : Action} {e : TreeError}
    (happly : a.apply w = .error e) : a.allocated w = [] := by
  unfold allocated
  rw [happly]
  cases a <;> rfl

theorem Action.removed_of_error {w : Workspace} {a : Action} {e : TreeError}
    (happly : a.apply w = .error e) : a.removed w = [] := by
  unfold removed
  rw [happly]
  cases a <;> rfl

/-- The account of identifiers holds for every dispatched change; a refused one moves none. -/
theorem fileIds_dispatch (s : Store) (a : Action) :
    s.workspace.ids.HandsOut (a.allocated s.workspace) (s.dispatch a).2.workspace.ids ∧
      (a.allocated s.workspace ++ s.roots.fileIds).Perm
        (a.removed s.workspace ++ (s.dispatch a).2.roots.fileIds) := by
  rcases s.dispatch_cases a with ⟨r, w, happly, hd⟩ | ⟨e, happly, hd⟩
  · rw [hd]
    exact fileIds_apply happly
  · rw [hd, Action.allocated_of_error happly, Action.removed_of_error happly]
    exact ⟨.none _, .refl _⟩

/-! ## Runs -/

/-- The identifiers of a workspace are pairwise distinct, and below the next one of its source. -/
structure Workspace.Identified (w : Workspace) : Prop where
  distinct : w.roots.fileIds.Nodup
  below : ∀ id ∈ w.roots.fileIds, id.raw < w.ids.next.raw

/-- The identifier has been handed out, and no file has it any more. -/
structure Workspace.Retired (w : Workspace) (id : FileId) : Prop where
  below : id.raw < w.ids.next.raw
  absent : id ∉ w.roots.fileIds

namespace Store

variable {s : Store}

/-- The identifiers that a run hands out, in order. -/
def allocated (s : Store) : List Action → List FileId
  | [] => []
  | a :: as => a.allocated s.workspace ++ (s.dispatch a).2.allocated as

theorem allocated_append (s : Store) (as bs : List Action) :
    s.allocated (as ++ bs) = s.allocated as ++ (s.run as).allocated bs := by
  induction as generalizing s with
  | nil => rfl
  | cons a as ih =>
    rw [List.cons_append, allocated, ih, ← List.append_assoc]
    rfl

theorem handsOut_run (s : Store) (as : List Action) :
    s.workspace.ids.HandsOut (s.allocated as) (s.run as).workspace.ids := by
  induction as generalizing s with
  | nil => exact .none _
  | cons a as ih => exact (fileIds_dispatch s a).1.append (ih _)

/-- The source of the store has this many identifiers left below the top of the range. -/
def Room (s : Store) (n : Nat) : Prop :=
  s.workspace.ids.next.raw.toNat + n < UInt64.size

/-- Room for a whole run is room for its first part, and after that for the rest. -/
theorem Room.split {as bs : List Action} (h : s.Room (s.allocated (as ++ bs)).length) :
    s.Room (s.allocated as).length ∧ (s.run as).Room ((s.run as).allocated bs).length := by
  unfold Room at h ⊢
  rw [allocated_append, List.length_append] at h
  have hnext := ((handsOut_run s as).numbers (by omega)).2
  omega

theorem Room.dispatch {a : Action} {as : List Action} (h : s.Room (s.allocated (a :: as)).length) :
    s.Room (a.allocated s.workspace).length ∧
      (s.dispatch a).2.Room ((s.dispatch a).2.allocated as).length := by
  have hsplit : s.Room (s.allocated [a]).length ∧ _ := Room.split h
  rwa [allocated, allocated, List.append_nil] at hsplit

/-- After a change, the identifiers that it took away and those in the tree are pairwise distinct,
and all of them have been handed out. -/
theorem distinct_and_below_dispatch {a : Action}
    (hroom : s.Room (a.allocated s.workspace).length) (hs : s.workspace.Identified) :
    (a.removed s.workspace ++ (s.dispatch a).2.roots.fileIds).Nodup ∧
      ∀ id ∈ a.removed s.workspace ++ (s.dispatch a).2.roots.fileIds,
        id.raw < (s.dispatch a).2.workspace.ids.next.raw := by
  obtain ⟨hgive, hperm⟩ := fileIds_dispatch s a
  have hnext := (hgive.numbers hroom).2
  have hbounds := hgive.bounds hroom
  constructor
  · refine hperm.nodup_iff.1 (List.nodup_append.2 ⟨?_, hs.distinct, fun id hid old hold heq => ?_⟩)
    · refine (hgive.pairwise_lt hroom).imp fun hlt heq => ?_
      rw [heq] at hlt
      exact Nat.lt_irrefl _ hlt
    · have hbelow : old.raw.toNat < s.workspace.ids.next.raw.toNat := hs.below old hold
      have hfresh := (hbounds id hid).1
      rw [heq] at hfresh
      omega
  · intro id hid
    rcases List.mem_append.1 (hperm.mem_iff.2 hid) with hnew | hold
    · exact (hbounds id hnew).2
    · have hbelow : id.raw.toNat < s.workspace.ids.next.raw.toNat := hs.below id hold
      exact UInt64.lt_iff_toNat_lt.2 (by omega)

theorem identified_dispatch {a : Action} (hroom : s.Room (a.allocated s.workspace).length)
    (hs : s.workspace.Identified) : (s.dispatch a).2.workspace.Identified := by
  obtain ⟨hnodup, hbelow⟩ := distinct_and_below_dispatch hroom hs
  exact ⟨(List.nodup_append.1 hnodup).2.1, fun id hid => hbelow id (List.mem_append_right _ hid)⟩

/-- What a change takes away is retired after it. -/
theorem retired_of_removed {a : Action} (hroom : s.Room (a.allocated s.workspace).length)
    (hs : s.workspace.Identified) {id : FileId} (hid : id ∈ a.removed s.workspace) :
    (s.dispatch a).2.workspace.Retired id := by
  obtain ⟨hnodup, hbelow⟩ := distinct_and_below_dispatch hroom hs
  refine ⟨hbelow id (List.mem_append_left _ hid), fun hmem => ?_⟩
  exact (List.nodup_append.1 hnodup).2.2 id hid id hmem rfl

/-- What is retired stays so: the source hands out larger identifiers only. -/
theorem retired_dispatch {a : Action} (hroom : s.Room (a.allocated s.workspace).length)
    {id : FileId} (hid : s.workspace.Retired id) : (s.dispatch a).2.workspace.Retired id := by
  obtain ⟨hgive, hperm⟩ := fileIds_dispatch s a
  have hnext := (hgive.numbers hroom).2
  have hbelow : id.raw.toNat < s.workspace.ids.next.raw.toNat := hid.below
  refine ⟨UInt64.lt_iff_toNat_lt.2 (by omega), fun hmem => ?_⟩
  rcases List.mem_append.1 (hperm.mem_iff.2 (List.mem_append_right _ hmem)) with hnew | hold
  · have hfresh := (hgive.bounds hroom id hnew).1
    omega
  · exact hid.absent hold

theorem identified_run {as : List Action} (hroom : s.Room (s.allocated as).length)
    (hs : s.workspace.Identified) : (s.run as).workspace.Identified := by
  induction as generalizing s with
  | nil => exact hs
  | cons a as ih => exact ih hroom.dispatch.2 (identified_dispatch hroom.dispatch.1 hs)

theorem retired_run {as : List Action} (hroom : s.Room (s.allocated as).length) {id : FileId}
    (hid : s.workspace.Retired id) : (s.run as).workspace.Retired id := by
  induction as generalizing s with
  | nil => exact hid
  | cons a as ih => exact ih hroom.dispatch.2 (retired_dispatch hroom.dispatch.1 hid)

end Store

/-! ## Identifiers without a file -/

namespace Store

variable {s : Store} {id : FileId}

theorem dispatch_updateFileContent_of_file?_eq_none (h : s.roots.file? id = none)
    (content : String) :
    s.dispatch (.updateFileContent id content) = (.error (.fileNotFound id.display), s) := by
  have hmod : s.workspace.roots.setContent? id content = none :=
    Forest.modifyFilesWith?_eq_none h _
  rw [dispatch, Action.apply, Workspace.updateFileContent, hmod]
  rfl

theorem dispatch_removeFile_of_file?_eq_none (h : s.roots.file? id = none) :
    s.dispatch (.removeFile id) = (.error (.fileNotFound id.display), s) := by
  have hfind : s.workspace.roots.file? id = none := h
  rw [dispatch, Action.apply, Workspace.removeFile, hfind]
  rfl

end Store

theorem Workspace.identified_empty : Workspace.empty.Identified :=
  ⟨List.nodup_nil, fun _ hid => absurd hid List.not_mem_nil⟩

/-- **Identifiers are never duplicated and never reused.** In a run that hands out fewer than
`2 ^ 64 - 1` of them, they come in increasing order; at every moment those in the tree are pairwise
distinct and below the next one; each change moves exactly the identifiers that it hands out and
takes away; and one that was taken away is never found again, nor can its file be changed or
removed. -/
theorem fileIds_run (actions : List Action)
    (hroom : (Store.empty.allocated actions).length < UInt64.size - 1) :
    (Store.empty.allocated actions).Pairwise (·.raw < ·.raw) ∧
      (∀ before, before <+: actions → (Store.empty.run before).workspace.Identified) ∧
      (∀ before a, before ++ [a] <+: actions →
        let s := Store.empty.run before
        (a.allocated s.workspace ++ s.roots.fileIds).Perm
          (a.removed s.workspace ++ (s.dispatch a).2.roots.fileIds)) ∧
      ∀ before a between, before ++ a :: between <+: actions →
        ∀ id ∈ a.removed (Store.empty.run before).workspace,
          let s := Store.empty.run (before ++ a :: between)
          id ∉ s.roots.fileIds ∧ s.roots.file? id = none ∧
            (∀ content, (s.dispatch (.updateFileContent id content)).1 =
              .error (.fileNotFound id.display)) ∧
            (s.dispatch (.removeFile id)).1 = .error (.fileNotFound id.display) := by
  have hall : Store.empty.Room (Store.empty.allocated actions).length := by
    show 1 + (Store.empty.allocated actions).length < UInt64.size
    omega
  have hidentified {before rest : List Action}
      (hroom : Store.empty.Room (Store.empty.allocated (before ++ rest)).length) :
      (Store.empty.run before).workspace.Identified :=
    Store.identified_run hroom.split.1 Workspace.identified_empty
  refine ⟨(Store.handsOut_run Store.empty actions).pairwise_lt hall, ?_, ?_, ?_⟩
  · rintro before ⟨rest, rfl⟩
    exact hidentified hall
  · intro before a _
    exact (fileIds_dispatch (Store.empty.run before) a).2
  · rintro before a between ⟨rest, rfl⟩ id hid s
    rw [List.append_assoc] at hall
    have hstep := hall.split.2.dispatch
    have hretired := Store.retired_of_removed hstep.1 (hidentified hall) hid
    have habsent : s.workspace.Retired id := by
      show (Store.empty.run (before ++ a :: between)).workspace.Retired id
      rw [Store.run_append, Store.run_cons]
      exact Store.retired_run hstep.2.split.1 hretired
    have hnone : s.roots.file? id = none := Forest.file?_eq_none_iff.2 habsent.absent
    refine ⟨habsent.absent, hnone, fun content => ?_, ?_⟩
    · rw [Store.dispatch_updateFileContent_of_file?_eq_none hnone]
    · rw [Store.dispatch_removeFile_of_file?_eq_none hnone]

/-- A file that is removed with its folder, and created again with the same names, gets another
identifier. -/
theorem fileIds_run_recreation :
    let create : List Action :=
      [.createRootFolder "src",
        .insertTemplates (.amongRoots "src") [⟨"bin", [("main.rs", ""), ("lib.rs", "")]⟩],
        .createFile (.anywhere "bin") "x" ""]
    let actions := create ++ .removeFolder "src" :: create
    let s := Store.empty.run actions
    (Store.empty.allocated actions).length < UInt64.size - 1 ∧
      Store.empty.allocated actions = [⟨1⟩, ⟨2⟩, ⟨3⟩, ⟨4⟩, ⟨5⟩, ⟨6⟩] ∧
      s.workspace.Identified ∧ s.roots.file? ⟨3⟩ = none ∧
      (s.dispatch (.removeFile ⟨3⟩)).1 = .error (.fileNotFound (FileId.display ⟨3⟩)) := by
  intro create actions s
  have hids : Store.empty.allocated actions = [⟨1⟩, ⟨2⟩, ⟨3⟩, ⟨4⟩, ⟨5⟩, ⟨6⟩] := by
    decide
  have hroom : (Store.empty.allocated actions).length < UInt64.size - 1 := by
    rw [hids]
    decide
  obtain ⟨-, hidentified, -, hgone⟩ := fileIds_run actions hroom
  obtain ⟨-, hfind, -, hremove⟩ :=
    hgone create (.removeFolder "src") create List.prefix_rfl ⟨3⟩ (by decide)
  exact ⟨hroom, hids, hidentified actions List.prefix_rfl, hfind, hremove⟩

end WorkspaceConsole

import WorkspaceConsole.FileId

/-!
# Identifiers handed out

`HandsOut s ids s'` says that taking from the source `s` gave the identifiers `ids`, in this order,
and left the source `s'`. Below the top of the range the identifiers are consecutive
(`HandsOut.numbers`).

A source has passed the identifiers that it was told of and those that it gave out: its next
identifier is above them, unless it stands at the top of the range (`IdSource.Above`).
-/

namespace WorkspaceConsole

theorem FileId.raw_succ {id : FileId} (h : id.raw.toNat + 1 < UInt64.size) :
    id.succ.raw.toNat = id.raw.toNat + 1 := by
  have h' : id.raw.toNat + 1 < 2 ^ 64 := h
  rw [FileId.succ, if_pos h, UInt64.toNat_add]
  exact Nat.mod_eq_of_lt h'

/-- Identifiers go up by one, and stop at the end of the range. -/
theorem FileId.toNat_succ (id : FileId) :
    id.succ.raw.toNat = min (id.raw.toNat + 1) (UInt64.size - 1) := by
  by_cases h : id.raw.toNat + 1 < UInt64.size
  · have hsucc := raw_succ h
    omega
  · have hsame : id.succ = id := if_neg h
    have htop := id.raw.toNat_lt
    rw [UInt64.size] at h ⊢
    rw [hsame]
    omega

namespace IdSource

/-- The identifiers that a source hands out one after the other, and the source after that. -/
inductive HandsOut : IdSource → List FileId → IdSource → Prop
  | none (s : IdSource) : HandsOut s [] s
  | more {s s' : IdSource} {ids : List FileId} :
      HandsOut s.take.2 ids s' → HandsOut s (s.take.1 :: ids) s'

theorem HandsOut.one (s : IdSource) : HandsOut s [s.take.1] s.take.2 :=
  .more (.none _)

theorem HandsOut.append {s t u : IdSource} {xs ys : List FileId} (hx : HandsOut s xs t)
    (hy : HandsOut t ys u) : HandsOut s (xs ++ ys) u := by
  induction hx with
  | none s => exact hy
  | more _ ih => exact .more (ih hy)

/-- Identifiers handed out below the top of the range are consecutive. -/
theorem HandsOut.numbers {s t : IdSource} {ids : List FileId} (h : HandsOut s ids t)
    (hroom : s.next.raw.toNat + ids.length < UInt64.size) :
    ids.map (·.raw.toNat) = List.range' s.next.raw.toNat ids.length ∧
      t.next.raw.toNat = s.next.raw.toNat + ids.length := by
  induction h with
  | none s => exact ⟨rfl, rfl⟩
  | @more s s' ids _ ih =>
    rw [List.length_cons] at hroom
    have hnext : s.take.2.next.raw.toNat = s.next.raw.toNat + 1 := FileId.raw_succ (by omega)
    obtain ⟨hids, hlast⟩ := ih (by omega)
    refine ⟨?_, ?_⟩
    · rw [List.map_cons, hids, hnext, List.length_cons, List.range'_succ]
      rfl
    · rw [hlast, hnext, List.length_cons]
      omega

/-- Identifiers for which there is room are consecutive, also if the last one is at the top of the
range. -/
theorem HandsOut.consecutive {s t : IdSource} {ids : List FileId} (h : HandsOut s ids t)
    (hroom : s.next.raw.toNat + ids.length ≤ UInt64.size) :
    ids.map (·.raw.toNat) = List.range' s.next.raw.toNat ids.length ∧
      t.next.raw.toNat = min (s.next.raw.toNat + ids.length) (UInt64.size - 1) := by
  induction h with
  | none s =>
    have htop := s.next.raw.toNat_lt
    refine ⟨rfl, ?_⟩
    rw [UInt64.size, List.length_nil]
    omega
  | @more s t ids hrest ih =>
    have hnext : s.take.2.next.raw.toNat = min (s.next.raw.toNat + 1) (UInt64.size - 1) :=
      s.next.toNat_succ
    rw [List.length_cons] at hroom
    obtain ⟨hids, hlast⟩ := ih (by omega)
    refine ⟨?_, by rw [hlast, hnext, List.length_cons]; omega⟩
    rw [List.map_cons, List.length_cons, List.range'_succ]
    refine congrArg _ (hids.trans ?_)
    cases ids with
    | nil => rfl
    | cons id ids =>
      rw [List.length_cons] at hroom ⊢
      congr 1
      omega

/-- Every identifier handed out below the top of the range lies between the two states. -/
theorem HandsOut.bounds {s t : IdSource} {ids : List FileId} (h : HandsOut s ids t)
    (hroom : s.next.raw.toNat + ids.length < UInt64.size) :
    ∀ id ∈ ids, s.next.raw.toNat ≤ id.raw.toNat ∧ id.raw.toNat < t.next.raw.toNat := by
  intro id hid
  obtain ⟨hids, hlast⟩ := h.numbers hroom
  have hmem : id.raw.toNat ∈ ids.map (·.raw.toNat) := List.mem_map_of_mem hid
  rw [hids, List.mem_range'_1] at hmem
  omega

theorem HandsOut.pairwise_lt {s t : IdSource} {ids : List FileId} (h : HandsOut s ids t)
    (hroom : s.next.raw.toNat + ids.length < UInt64.size) :
    ids.Pairwise (·.raw.toNat < ·.raw.toNat) := by
  have hrange : (ids.map (·.raw.toNat)).Pairwise (· < ·) := by
    rw [(h.numbers hroom).1]
    exact List.pairwise_lt_range'
  exact List.pairwise_map.1 hrange

/-! ## Identifiers that are passed -/

/-- The identifier is below the next one of the source, unless the source stands at the end of its
range. -/
def Above (s : IdSource) (id : FileId) : Prop :=
  id.raw.toNat < s.next.raw.toNat ∨ s.next.raw.toNat = UInt64.size - 1

theorem above_succ {id seen : FileId} (h : id.raw.toNat ≤ seen.raw.toNat) :
    Above ⟨seen.succ⟩ id := by
  have hsucc := seen.toNat_succ
  have hbelow := id.raw.toNat_lt
  show id.raw.toNat < seen.succ.raw.toNat ∨ seen.succ.raw.toNat = UInt64.size - 1
  rw [UInt64.size] at hsucc ⊢
  omega

/-- A source that has moved on is above the same identifiers. -/
theorem Above.mono {s t : IdSource} {id : FileId} (h : s.Above id)
    (hle : s.next.raw.toNat ≤ t.next.raw.toNat) : t.Above id := by
  have htop := t.next.raw.toNat_lt
  unfold Above at h ⊢
  rw [UInt64.size] at h ⊢
  omega

theorem next_le_observe (s : IdSource) (seen : FileId) :
    s.next.raw.toNat ≤ (s.observe seen).next.raw.toNat := by
  rw [observe]
  split
  next h =>
    have hle : s.next.raw.toNat ≤ seen.raw.toNat := UInt64.le_iff_toNat_le.1 h
    have hsucc := seen.toNat_succ
    have hbelow := seen.raw.toNat_lt
    rw [UInt64.size] at hsucc
    show _ ≤ seen.succ.raw.toNat
    omega
  next => exact Nat.le_refl _

theorem above_observe (s : IdSource) (seen : FileId) : (s.observe seen).Above seen := by
  rw [observe]
  split
  next => exact above_succ (Nat.le_refl _)
  next h => exact .inl (Nat.lt_of_not_le fun hle => h (UInt64.le_iff_toNat_le.2 hle))

/-- A source is above all identifiers that it has been told of. -/
theorem above_observeAll (s : IdSource) (seen : List FileId) :
    s.next.raw.toNat ≤ (s.observeAll seen).next.raw.toNat ∧
      ∀ id ∈ seen, (s.observeAll seen).Above id := by
  induction seen generalizing s with
  | nil => exact ⟨Nat.le_refl _, fun _ hid => absurd hid List.not_mem_nil⟩
  | cons id seen ih =>
    obtain ⟨hle, habove⟩ := ih (s.observe id)
    refine ⟨Nat.le_trans (s.next_le_observe id) hle, List.forall_mem_cons.2 ⟨?_, habove⟩⟩
    exact (s.above_observe id).mono hle

theorem next_le_take (s : IdSource) : s.next.raw.toNat ≤ s.take.2.next.raw.toNat := by
  have hsucc := s.next.toNat_succ
  have hbelow := s.next.raw.toNat_lt
  rw [UInt64.size] at hsucc
  show _ ≤ s.next.succ.raw.toNat
  omega

theorem above_take (s : IdSource) : s.take.2.Above s.take.1 :=
  above_succ (Nat.le_refl _)

/-- A source is above all identifiers that it has handed out. -/
theorem HandsOut.above {s t : IdSource} {ids : List FileId} (h : HandsOut s ids t) :
    s.next.raw.toNat ≤ t.next.raw.toNat ∧ ∀ id ∈ ids, t.Above id := by
  induction h with
  | none s => exact ⟨Nat.le_refl _, fun _ hid => absurd hid List.not_mem_nil⟩
  | @more s t ids _ ih =>
    obtain ⟨hle, habove⟩ := ih
    refine ⟨Nat.le_trans s.next_le_take hle, List.forall_mem_cons.2 ⟨?_, habove⟩⟩
    exact s.above_take.mono hle

end IdSource

end WorkspaceConsole

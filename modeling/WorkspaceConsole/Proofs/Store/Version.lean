import WorkspaceConsole.Proofs.Store.Atomic

/-!
# Versions along a run

The version counts the changes that were not refused, modulo `2 ^ 64` (`version_run`). So as long as
there are fewer of them, the version tells the moments of a run apart: two moments with one version
have the same store (`run_eq_of_version_eq`).
-/

namespace WorkspaceConsole.Store

variable {s : Store}

theorem accepted_append (s : Store) (as bs : List Action) :
    s.accepted (as ++ bs) = s.accepted as ++ (s.run as).accepted bs := by
  induction as generalizing s with
  | nil => rfl
  | cons a as ih =>
    rw [List.cons_append, accepted, accepted, ih, run_cons]
    split <;> rfl

/-- A version after the start is the first one plus the number of changes, up to wrap-around. -/
theorem version_run (s : Store) (as : List Action) :
    (s.run as).version.toNat = (s.version.toNat + (s.accepted as).length) % UInt64.size := by
  induction as generalizing s with
  | nil => exact (Nat.mod_eq_of_lt s.version.toNat_lt).symm
  | cons a as ih =>
    rw [run_cons, ih, accepted]
    rcases s.dispatch_cases a with ⟨r, w, -, hd⟩ | ⟨e, -, hd⟩
    · rw [hd, UInt64.toNat_add]
      show ((s.version.toNat + 1) % UInt64.size + _) % UInt64.size = (_ + (_ + 1)) % UInt64.size
      rw [Nat.mod_add_mod]
      congr 1
      omega
    · rw [hd]
      rfl

/-- A run in which every change is refused ends where it started. -/
theorem run_of_accepted_eq_nil {as : List Action} (h : s.accepted as = []) : s.run as = s := by
  rw [← run_accepted, h, run_nil]

/-- **Equal versions are equal stores**, within a run of fewer than `2 ^ 64` changes. -/
theorem run_eq_of_version_eq {as bs : List Action} (hinitial : as <+: bs)
    (hfew : (s.accepted bs).length < UInt64.size)
    (hversion : (s.run as).version = (s.run bs).version) : s.run as = s.run bs := by
  obtain ⟨cs, rfl⟩ := hinitial
  rw [accepted_append, List.length_append] at hfew
  have hwrap := version_run (s.run as) cs
  rw [← run_append, ← hversion] at hwrap
  have hbelow := (s.run as).version.toNat_lt
  rw [UInt64.size] at hfew hwrap
  have hnone : ((s.run as).accepted cs).length = 0 := by omega
  rw [run_append, run_of_accepted_eq_nil (List.length_eq_zero_iff.1 hnone)]

end WorkspaceConsole.Store

import WorkspaceConsole.Proofs.Text.Split

/-!
# Maximal runs

What `runs` gives is said here without cutting at separators: `MaximalRuns` builds a text from gaps,
which are of the class of separators, and runs between them, which are free of it. Every text is
built so in one way, and the runs of it are those that `runs` gives (`maximalRuns_iff`).

A gap may be put before the first run and after the last one, and whatever the gaps are, the items
outside the class are those of the runs (`MaximalRuns.flatten`).
-/

namespace WorkspaceConsole.Text

variable {α : Type} {sep : α → Bool} {gap cs : List α} {ps : List (List α)}

/-- `ps` are the maximal runs of `cs` outside the class `sep`, in order. Each of them goes on until
the end or the next item of the class, and all else is of the class. -/
inductive MaximalRuns (sep : α → Bool) : List α → List (List α) → Prop
  | none {gap : List α} : (∀ x ∈ gap, sep x = true) → MaximalRuns sep gap []
  | more {gap p rest : List α} {ps : List (List α)} :
      (∀ x ∈ gap, sep x = true) → p ≠ [] → (∀ x ∈ p, sep x = false) →
      (∀ x, rest.head? = some x → sep x = true) → MaximalRuns sep rest ps →
      MaximalRuns sep (gap ++ (p ++ rest)) (p :: ps)

/-- What is of the class may come before the first run, -/
theorem MaximalRuns.gap_append (h : MaximalRuns sep cs ps) (hgap : ∀ x ∈ gap, sep x = true) :
    MaximalRuns sep (gap ++ cs) ps := by
  cases h with
  | none hcs => exact .none (List.forall_mem_append.2 ⟨hgap, hcs⟩)
  | more hbefore hne hp hrest h =>
    rw [← List.append_assoc]
    exact .more (List.forall_mem_append.2 ⟨hgap, hbefore⟩) hne hp hrest h

/-- and after the last one. -/
theorem MaximalRuns.append_gap (h : MaximalRuns sep cs ps) (hgap : ∀ x ∈ gap, sep x = true) :
    MaximalRuns sep (cs ++ gap) ps := by
  induction h with
  | none hcs => exact .none (List.forall_mem_append.2 ⟨hcs, hgap⟩)
  | @more before p rest ps hbefore hne hp hrest _ ih =>
    rw [List.append_assoc, List.append_assoc]
    refine .more hbefore hne hp ?_ ih
    intro x hx
    rw [List.head?_append, Option.or_eq_some_iff] at hx
    rcases hx with hx | ⟨-, hx⟩
    · exact hrest x hx
    · exact hgap x (List.mem_of_mem_head? hx)

theorem MaximalRuns.flatten (h : MaximalRuns sep cs ps) :
    ps.flatten = cs.filter fun x => !sep x := by
  induction h with
  | none hcs => simpa using hcs
  | @more before p rest ps hbefore _ hp _ _ ih =>
    have hgap : before.filter (fun x => !sep x) = [] := by simpa using hbefore
    have hrun : p.filter (fun x => !sep x) = p := by simpa using hp
    rw [List.flatten_cons, List.filter_append, List.filter_append, hgap, hrun, ih, List.nil_append]

theorem runs_append_of_forall (hgap : ∀ x ∈ gap, sep x = true) (cs : List α) :
    runs sep (gap ++ cs) = runs sep cs := by
  induction gap with
  | nil => rfl
  | cons c gap ih =>
    obtain ⟨hc, hgap⟩ := List.forall_mem_cons.1 hgap
    simpa [runs, pieces, hc] using ih hgap

theorem MaximalRuns.eq_runs (h : MaximalRuns sep cs ps) : ps = runs sep cs := by
  induction h with
  | @none gap hgap =>
    have hruns := runs_append_of_forall hgap []
    rw [List.append_nil] at hruns
    exact hruns.symm
  | @more gap p rest ps hgap hne hp hrest _ ih =>
    rw [runs_append_of_forall hgap]
    cases rest with
    | nil => rw [List.append_nil, runs_of_forall hne hp, ih]; rfl
    | cons c rest =>
      have hc : sep c = true := hrest c rfl
      have hskip : runs sep ([c] ++ rest) = runs sep rest :=
        runs_append_of_forall (by simpa using hc) rest
      rw [List.singleton_append] at hskip
      rw [runs_append_cons ⟨hne, hp⟩ hc, ih, hskip]

/-- Every row of items has maximal runs. An item at the front is in the gap, begins a run of its
own or goes on with the run that stands there. -/
theorem exists_maximalRuns (sep : α → Bool) (cs : List α) : ∃ ps, MaximalRuns sep cs ps := by
  induction cs with
  | nil => exact ⟨[], .none (by simp)⟩
  | cons c cs ih =>
    obtain ⟨ps, h⟩ := ih
    by_cases hc : sep c = true
    · have hgap : ∀ x ∈ [c], sep x = true := by simpa using hc
      exact ⟨ps, h.gap_append hgap⟩
    · rw [Bool.not_eq_true] at hc
      have hnone : ∀ x ∈ ([] : List α), sep x = true := by simp
      by_cases hhead : ∀ x, cs.head? = some x → sep x = true
      · have hrun : ∀ x ∈ [c], sep x = false := by simpa using hc
        exact ⟨[c] :: ps, .more hnone (by simp) hrun hhead h⟩
      · cases h with
        | none hcs => exact absurd (fun x hx => hcs x (List.mem_of_mem_head? hx)) hhead
        | @more gap p rest ps hgap hne hp hrest h =>
          cases gap with
          | nil =>
            have hrun : ∀ x ∈ c :: p, sep x = false := List.forall_mem_cons.2 ⟨hc, hp⟩
            exact ⟨(c :: p) :: ps, .more hnone (by simp) hrun hrest h⟩
          | cons g gap =>
            refine absurd (fun x hx => ?_) hhead
            cases hx
            exact hgap g List.mem_cons_self

/-- **The runs are the maximal ones.** -/
theorem maximalRuns_iff : MaximalRuns sep cs ps ↔ ps = runs sep cs := by
  constructor
  · exact MaximalRuns.eq_runs
  · rintro rfl
    obtain ⟨ps, h⟩ := exists_maximalRuns sep cs
    rwa [← h.eq_runs]

end WorkspaceConsole.Text

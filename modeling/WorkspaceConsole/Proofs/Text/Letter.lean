import WorkspaceConsole.Text.Cluster
import WorkspaceConsole.Text.Width

/-!
# Letters

Most of what a console shows is written in the letters and signs of plain text. They are the simple
case of clusters and widths: each is a cluster of its own, and takes one column.
-/

namespace WorkspaceConsole.Text

/-- A letter, a digit, a sign of plain text, or the blank. -/
def IsPrintable (c : Char) : Prop :=
  0x20 ≤ c.toNat ∧ c.toNat < 0x7F

instance (c : Char) : Decidable (IsPrintable c) :=
  inferInstanceAs (Decidable (_ ∧ _))

variable {c : Char} {cs : List Char}

theorem IsPrintable.ne (h : IsPrintable c) : c ≠ '\n' ∧ c ≠ '\r' := by
  constructor
  · rintro rfl
    exact absurd h (by decide)
  · rintro rfl
    exact absurd h (by decide)

/-! ## Widths -/

/-- In front of a text without a selector, a character of Latin script takes one column. -/
theorem widthStep_of_latin (hfeed : c ≠ '\n') (hreturn : c ≠ '\r')
    (hlatin : c.toNat ≤ 0xA0) {a : Ahead} (ha : a.selector = none) :
    (widthStep c a).1 = 1 ∧ (widthStep c a).2.selector = none := by
  have hwidth : charWidth c = 1 := by simp [charWidth, hfeed, hlatin]
  simp [widthStep, ha, widthBefore, hreturn, hlatin, hwidth]

/-- Characters of Latin script take one column each. -/
theorem width_of_latin (h : ∀ c ∈ cs, c ≠ '\n' ∧ c ≠ '\r' ∧ c.toNat ≤ 0xA0) :
    width cs = cs.length := by
  have hmeasure : (measure cs).1 = cs.length ∧ (measure cs).2.selector = none := by
    induction cs with
    | nil => exact ⟨rfl, rfl⟩
    | cons c cs ih =>
      obtain ⟨⟨hfeed, hreturn, hlatin⟩, hrest⟩ := List.forall_mem_cons.1 h
      obtain ⟨hlength, hahead⟩ := ih hrest
      obtain ⟨hone, hselector⟩ := widthStep_of_latin hfeed hreturn hlatin hahead
      refine ⟨?_, hselector⟩
      show (widthStep c (measure cs).2).1 + (measure cs).1 = _
      rw [hone, hlength, List.length_cons]
      omega
  rw [width, hmeasure.1]
  rfl

theorem width_of_isPrintable (h : IsPrintable c) : width [c] = 1 := by
  refine width_of_latin fun x hx => ?_
  rw [List.mem_singleton.1 hx]
  exact ⟨h.ne.1, h.ne.2, Nat.le_of_lt (Nat.lt_trans h.2 (by decide))⟩

/-! ## Clusters -/

theorem clusterPart_of_isPrintable (h : IsPrintable c) :
    clusterPart c = .other ∨ clusterPart c = .control := by
  obtain ⟨hfeed, hreturn⟩ := h.ne
  have hjoiner : c.toNat ≠ 0x200D := Nat.ne_of_lt (Nat.lt_trans h.2 (by decide))
  unfold clusterPart
  dsimp only
  rw [if_neg hreturn, if_neg hfeed, if_neg hjoiner, if_pos h.2]
  split
  · exact .inr rfl
  · exact .inl rfl

/-- Letters of plain text do not link consonants. -/
theorem conjunctPart_of_isPrintable (h : IsPrintable c) (part : ClusterPart) :
    conjunctPart c part ≠ .linker := by
  have hlinker : conjunctLinker.contains c = false :=
    if_pos (Nat.lt_trans h.2 (by decide : 0x7F < 0x94D))
  unfold conjunctPart
  rw [hlinker, if_neg Bool.false_ne_true]
  split
  · nofun
  · split <;> nofun

/-- A letter of plain text would not continue what came before. -/
structure ClusterContext.Closed (k : ClusterContext) : Prop where
  last : k.last = none ∨ k.last = some .other ∨ k.last = some .control
  conjunct : k.conjunct ≠ .linked

theorem ClusterContext.Closed.joins {k : ClusterContext} (hk : k.Closed) {part : ClusterPart}
    (hpart : part = .other ∨ part = .control) (conjunct : ConjunctPart) :
    k.joins part conjunct = false := by
  have hconjunct := hk.conjunct
  rcases hk.last with hlast | hlast | hlast <;> rcases hpart with rfl | rfl <;>
    simp [ClusterContext.joins, hlast, standsAlone, hconjunct]

theorem ClusterContext.Closed.step {k : ClusterContext} (hk : k.Closed) {part : ClusterPart}
    (hpart : part = .other ∨ part = .control) {conjunct : ConjunctPart}
    (hlinker : conjunct ≠ .linker) : (k.step part conjunct).Closed where
  last := by
    rcases hpart with rfl | rfl
    · exact .inr (.inl rfl)
    · exact .inr (.inr rfl)
  conjunct := by
    have hconjunct := hk.conjunct
    show k.conjunct.step conjunct ≠ .linked
    cases conjunct with
    | linker => exact absurd rfl hlinker
    | consonant => nofun
    | transparent => exact hconjunct
    | other => nofun

theorem clustersFrom_of_isPrintable {k : ClusterContext} (hk : k.Closed)
    (h : ∀ c ∈ cs, IsPrintable c) : clustersFrom k cs = ([], cs.map ([·])) := by
  induction cs generalizing k with
  | nil => rfl
  | cons c cs ih =>
    obtain ⟨hc, hcs⟩ := List.forall_mem_cons.1 h
    have hpart := clusterPart_of_isPrintable hc
    have hnext := hk.step hpart (conjunctPart_of_isPrintable hc (clusterPart c))
    rw [clustersFrom]
    dsimp only
    rw [ih hnext hcs, hk.joins hpart]
    rfl

/-- Each letter is a cluster of its own. -/
theorem clusters_of_isPrintable (h : ∀ c ∈ cs, IsPrintable c) : clusters cs = cs.map ([·]) := by
  rw [clusters, clustersFrom_of_isPrintable ⟨.inl rfl, by decide⟩ h]

/-- The clusters of a text are the text. -/
theorem flatten_clusters (cs : List Char) : (clusters cs).flatten = cs := by
  have hstart : (clustersFrom .start cs).1 = [] := by
    cases cs with
    | nil => rfl
    | cons c cs => rfl
  have hflat := flatten_clustersFrom .start cs
  rwa [hstart] at hflat

end WorkspaceConsole.Text

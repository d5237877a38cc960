import WorkspaceConsole.Text.Split

/-!
# Cutting what has been joined

A piece without separators is cut off whole at the separator after it (`pieces_append_cons`). So
rows of such pieces come back when they are joined and cut again, and lines come back when each is
ended by a line feed, if there are no breaks in them (`OneLine`).

The other way round, cutting loses the separators around empty pieces when only the runs are kept.
So the runs join to the whole exactly when there are no such pieces (`joinWith_runs_eq_iff`).
-/

namespace WorkspaceConsole.Text

variable {α : Type} {sep : α → Bool} {c : α} {p : List α}

theorem pieces_of_forall (hp : ∀ x ∈ p, sep x = false) : pieces sep p = [p] := by
  induction p with
  | nil => rfl
  | cons x p ih =>
    obtain ⟨hx, hp⟩ := List.forall_mem_cons.1 hp
    rw [pieces, if_neg (by simp [hx]), ih hp]

theorem pieces_append_cons (hp : ∀ x ∈ p, sep x = false) (hc : sep c = true) (rest : List α) :
    pieces sep (p ++ c :: rest) = p :: pieces sep rest := by
  induction p with
  | nil => rw [List.nil_append, pieces, if_pos hc]
  | cons x p ih =>
    obtain ⟨hx, hp⟩ := List.forall_mem_cons.1 hp
    rw [List.cons_append, pieces, if_neg (by simp [hx]), ih hp]

/-- No piece holds a separator. -/
theorem sep_of_mem_pieces {cs : List α} (hp : p ∈ pieces sep cs) : ∀ x ∈ p, sep x = false := by
  induction cs generalizing p with
  | nil =>
    rw [List.mem_singleton.1 hp]
    exact List.forall_mem_nil _
  | cons d ds ih =>
    rw [pieces] at hp
    split at hp
    · rcases List.mem_cons.1 hp with rfl | hp
      · exact List.forall_mem_nil _
      · exact ih hp
    · next hd =>
      cases hpieces : pieces sep ds with
      | nil => exact absurd hpieces (pieces_ne_nil sep ds)
      | cons q qs =>
        rw [hpieces] at hp ih
        rcases List.mem_cons.1 hp with rfl | hp
        · exact List.forall_mem_cons.2 ⟨Bool.eq_false_iff.2 hd, ih List.mem_cons_self⟩
        · exact ih (List.mem_cons_of_mem q hp)

/-- The items of a piece are items of the whole. -/
theorem mem_of_mem_pieces {cs : List α} (hp : p ∈ pieces sep cs) : ∀ x ∈ p, x ∈ cs := by
  induction cs generalizing p with
  | nil =>
    rw [List.mem_singleton.1 hp]
    exact List.forall_mem_nil _
  | cons d ds ih =>
    have htail {q : List α} (hq : q ∈ pieces sep ds) : ∀ x ∈ q, x ∈ d :: ds :=
      fun x hx => List.mem_cons_of_mem d (ih hq x hx)
    rw [pieces] at hp
    split at hp
    · rcases List.mem_cons.1 hp with rfl | hp
      · exact List.forall_mem_nil _
      · exact htail hp
    · cases hpieces : pieces sep ds with
      | nil => exact absurd hpieces (pieces_ne_nil sep ds)
      | cons q qs =>
        rw [hpieces] at hp htail
        rcases List.mem_cons.1 hp with rfl | hp
        · exact List.forall_mem_cons.2 ⟨List.mem_cons_self, htail List.mem_cons_self⟩
        · exact htail (List.mem_cons_of_mem q hp)

/-- Joining and cutting loses nothing either, if no piece holds a separator. -/
theorem pieces_joinWith (hc : sep c = true) {ps : List (List α)} (hne : ps ≠ [])
    (hps : ∀ p ∈ ps, ∀ x ∈ p, sep x = false) : pieces sep (joinWith c ps) = ps := by
  induction ps with
  | nil => exact absurd rfl hne
  | cons p ps ih =>
    obtain ⟨hp, hps⟩ := List.forall_mem_cons.1 hps
    cases ps with
    | nil => exact pieces_of_forall hp
    | cons q ps =>
      rw [joinWith, pieces_append_cons hp hc, ih (List.cons_ne_nil q ps) hps]

/-- Pieces that are not empty and hold no separator are the runs of what they are joined to. -/
theorem runs_joinWith (hc : sep c = true) {ps : List (List α)}
    (hps : ∀ p ∈ ps, p ≠ [] ∧ ∀ x ∈ p, sep x = false) : runs sep (joinWith c ps) = ps := by
  cases ps with
  | nil => rfl
  | cons p ps =>
    rw [runs, pieces_joinWith hc (List.cons_ne_nil p ps) fun q hq => (hps q hq).2]
    exact List.filter_eq_self.2 fun q hq => by simpa using (hps q hq).1

/-- A run that ends at a separator is the first one. -/
theorem runs_append_cons (hp : p ≠ [] ∧ ∀ x ∈ p, sep x = false) (hc : sep c = true)
    (rest : List α) : runs sep (p ++ c :: rest) = p :: runs sep rest := by
  simp [runs, pieces_append_cons hp.2 hc, hp.1]

/-- A separator parts the pieces before it from those after it. -/
theorem pieces_append (hc : sep c = true) (cs ds : List α) :
    pieces sep (cs ++ c :: ds) = pieces sep cs ++ pieces sep ds := by
  induction cs with
  | nil => simp [pieces, hc]
  | cons d cs ih =>
    by_cases hd : sep d = true
    · simp [pieces, hd, ih]
    · cases hcs : pieces sep cs with
      | nil => exact absurd hcs (pieces_ne_nil sep cs)
      | cons q qs => simp [pieces, hd, ih, hcs]

theorem runs_append (hc : sep c = true) (cs ds : List α) :
    runs sep (cs ++ c :: ds) = runs sep cs ++ runs sep ds := by
  simp only [runs, pieces_append hc, List.filter_append]

theorem runs_of_forall (hne : p ≠ []) (hp : ∀ x ∈ p, sep x = false) : runs sep p = [p] := by
  simp [runs, pieces_of_forall hp, hne]

/-- The runs are not empty, and no run holds a separator. -/
theorem of_mem_runs {cs : List α} (hp : p ∈ runs sep cs) : p ≠ [] ∧ ∀ x ∈ p, sep x = false := by
  obtain ⟨hmem, hne⟩ := List.mem_filter.1 hp
  exact ⟨by simpa using hne, sep_of_mem_pieces hmem⟩

theorem joinWith_eq_intercalate (c : α) (ps : List (List α)) :
    joinWith c ps = [c].intercalate ps := by
  induction ps with
  | nil => rfl
  | cons p ps ih =>
    cases ps with
    | nil => exact List.intercalate_singleton.symm
    | cons q ps =>
      rw [joinWith, ih, List.intercalate_cons_cons, List.append_assoc, List.singleton_append]

variable [DecidableEq α]

theorem beq_eq_false_of_notMem (hp : c ∉ p) : ∀ x ∈ p, (x == c) = false := by
  intro x hx
  rw [beq_eq_false_iff_ne]
  rintro rfl
  exact hp hx

theorem dropFinal_of_ne {mark : α} (h : p.getLast? ≠ some mark) : dropFinal mark p = p :=
  if_neg h

/-- The first line ends at the first line feed. -/
theorem linesWith_append_cons {lf cr : α} (hp : lf ∉ p) (rest : List α) :
    linesWith lf cr (p ++ lf :: rest) = dropFinal cr p :: linesWith lf cr rest := by
  rw [linesWith, pieces_append_cons (beq_eq_false_of_notMem hp) (beq_self_eq_true lf), linesWith]
  cases hrest : pieces (· == lf) rest with
  | nil => exact absurd hrest (pieces_ne_nil _ rest)
  | cons q qs => rfl

/-- Lines come back, each ended by a line feed, if they hold none and do not end in a carriage
return. -/
theorem linesWith_flatMap {lf cr : α} {ps : List (List α)}
    (hps : ∀ p ∈ ps, lf ∉ p ∧ p.getLast? ≠ some cr) :
    linesWith lf cr (ps.flatMap (· ++ [lf])) = ps := by
  induction ps with
  | nil => rfl
  | cons p ps ih =>
    obtain ⟨⟨hlf, hcr⟩, hps⟩ := List.forall_mem_cons.1 hps
    rw [List.flatMap_cons, List.append_assoc, List.singleton_append, linesWith_append_cons hlf,
      dropFinal_of_ne hcr, ih hps]

/-! ## Empty pieces -/

theorem tail_pieces_cons_of_ne {d : α} (hd : d ≠ c) (ds : List α) :
    (pieces (· == c) (d :: ds)).tail = (pieces (· == c) ds).tail := by
  cases hds : pieces (· == c) ds with
  | nil => exact absurd hds (pieces_ne_nil _ ds)
  | cons q qs => simp [pieces, hd, hds]

/-- The first piece is empty only if nothing stands before the first separator. -/
theorem nil_mem_pieces_cons_iff {d : α} {ds : List α} :
    [] ∈ pieces (· == c) (d :: ds) ↔ d = c ∨ [] ∈ (pieces (· == c) (d :: ds)).tail := by
  by_cases hd : d = c
  · simp [pieces, hd]
  · cases hds : pieces (· == c) ds with
    | nil => exact absurd hds (pieces_ne_nil _ ds)
    | cons q qs => simp [pieces, hd, hds]

/-- A later piece is empty only at the end or between two separators. -/
theorem nil_mem_tail_pieces_iff {cs : List α} :
    [] ∈ (pieces (· == c) cs).tail ↔ cs.getLast? = some c ∨ [c, c] <:+: cs := by
  induction cs with
  | nil => simp [pieces]
  | cons d ds ih =>
    by_cases hd : d = c
    · subst hd
      have htail : (pieces (· == d) (d :: ds)).tail = pieces (· == d) ds := by
        simp [pieces]
      rw [htail]
      cases ds with
      | nil => simp [pieces]
      | cons e es =>
        have hpair : [d, d] <:+: d :: e :: es ↔ e = d ∨ [d, d] <:+: e :: es := by
          rw [List.infix_cons_iff]
          simp [List.cons_prefix_cons, eq_comm]
        rw [nil_mem_pieces_cons_iff, ih, List.getLast?_cons_cons, hpair, or_left_comm]
    · have hlast : (d :: ds).getLast? = some c ↔ ds.getLast? = some c := by
        cases ds <;> simp [hd]
      have hpair : [c, c] <:+: d :: ds ↔ [c, c] <:+: ds := by
        rw [List.infix_cons_iff, List.cons_prefix_cons]
        simp [Ne.symm hd]
      rw [tail_pieces_cons_of_ne hd, ih, hlast, hpair]

/-- **Empty pieces** come from a separator at either end or from two in a row. -/
theorem nil_mem_pieces_iff {cs : List α} (hne : cs ≠ []) :
    [] ∈ pieces (· == c) cs ↔ cs.head? = some c ∨ cs.getLast? = some c ∨ [c, c] <:+: cs := by
  obtain ⟨d, ds, rfl⟩ := List.exists_cons_of_ne_nil hne
  rw [nil_mem_pieces_cons_iff, nil_mem_tail_pieces_iff, List.head?_cons, Option.some_inj]

/-- **Joining the runs gives the whole back** exactly when no separator stands at an end or next to
another one. -/
theorem joinWith_runs_eq_iff {cs : List α} :
    joinWith c (runs (· == c) cs) = cs ↔
      cs.head? ≠ some c ∧ cs.getLast? ≠ some c ∧ ¬ [c, c] <:+: cs := by
  by_cases hcs : cs = []
  · subst hcs
    simp [runs, pieces, joinWith]
  · rw [← not_or, ← not_or, ← nil_mem_pieces_iff hcs]
    constructor
    · intro hjoin hmem
      have hne : runs (· == c) cs ≠ [] := by
        intro hruns
        rw [hruns] at hjoin
        exact hcs hjoin.symm
      have hpieces : pieces (· == c) (joinWith c (runs (· == c) cs)) = runs (· == c) cs :=
        pieces_joinWith (by simp) hne fun p hp => (of_mem_runs hp).2
      rw [hjoin] at hpieces
      rw [hpieces] at hmem
      exact (of_mem_runs hmem).1 rfl
    · intro hmem
      have hruns : runs (· == c) cs = pieces (· == c) cs := by
        refine List.filter_eq_self.2 fun p hp => ?_
        have hp' : p ≠ [] := fun h => hmem (h ▸ hp)
        simpa using hp'
      rw [hruns, joinWith_pieces]

/-! ## Texts of one line -/

/-- The text has no line break in it. -/
def OneLine (s : String) : Prop :=
  ∀ c ∈ s.toList, c ≠ '\n' ∧ c ≠ '\r'

instance (s : String) : Decidable (OneLine s) :=
  List.decidableBAll (fun c => c ≠ '\n' ∧ c ≠ '\r') s.toList

theorem oneLine_empty : OneLine "" := by
  decide

theorem oneLine_ofList {cs : List Char} (h : ∀ c ∈ cs, c ≠ '\n' ∧ c ≠ '\r') :
    OneLine (String.ofList cs) := by
  rwa [OneLine, String.toList_ofList]

/-- The text is free of a class of characters that the breaks belong to. -/
theorem oneLine_of_forall {sep : Char → Bool} (hlf : sep '\n' = true) (hcr : sep '\r' = true)
    {s : String} (h : ∀ c ∈ s.toList, sep c = false) : OneLine s := by
  intro c hc
  have hsep := h c hc
  constructor
  · rintro rfl
    rw [hlf] at hsep
    cases hsep
  · rintro rfl
    rw [hcr] at hsep
    cases hsep

theorem OneLine.append {s t : String} (hs : OneLine s) (ht : OneLine t) : OneLine (s ++ t) := by
  rw [OneLine, String.toList_append]
  exact List.forall_mem_append.2 ⟨hs, ht⟩

theorem OneLine.push {s : String} (hs : OneLine s) {c : Char} (hc : c ≠ '\n' ∧ c ≠ '\r') :
    OneLine (s.push c) := by
  rw [OneLine, String.toList_push]
  exact List.forall_mem_append.2 ⟨hs, List.forall_mem_singleton.2 hc⟩

/-- Lines come back from their text, each ended by a line feed. -/
theorem lines_join {texts : List String} (htexts : ∀ text ∈ texts, OneLine text) :
    lines (String.join (texts.map (· ++ "\n"))) = texts := by
  have hchars : (String.join (texts.map (· ++ "\n"))).toList =
      (texts.map String.toList).flatMap (· ++ ['\n']) := by
    simp [String.toList_join, List.flatMap_map]
  rw [lines, hchars, linesWith_flatMap, List.map_map]
  · simp [Function.comp_def]
  · intro p hp
    obtain ⟨text, htext, rfl⟩ := List.mem_map.1 hp
    constructor
    · exact fun hlf => (htexts text htext _ hlf).1 rfl
    · exact fun hcr => (htexts text htext _ (List.mem_of_getLast? hcr)).2 rfl

end WorkspaceConsole.Text

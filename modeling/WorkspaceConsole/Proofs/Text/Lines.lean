import WorkspaceConsole.Proofs.Text.Split

/-!
# Lines and the text that they are read from

A text is a line without a line feed at its end, or a line, a line feed and another text
(`lines_induction`). Reading goes along with that: what stands before the first line feed is the
first line, but for one carriage return at its end (`linesWith_append_cons`).

So there is a line for each line feed, and one more if something follows the last of them
(`length_linesWith`). The carriage returns in front of line feeds are all that is lost: without
them, the lines joined by line feeds are the text again, up to a line feed at its end
(`joinWith_linesWith`). They also make no difference where the text has no others
(`linesWith_withReturns`).
-/

namespace WorkspaceConsole.Text

variable {α : Type} [DecidableEq α] {lf cr : α} {cs p : List α}

/-! ## One line after the other -/

/-- A row of items is a line that no line feed ends, or one that a line feed ends with a row of
items after it. -/
@[elab_as_elim]
theorem lines_induction (lf : α) {motive : List α → Prop} (last : ∀ p, lf ∉ p → motive p)
    (line : ∀ p rest, lf ∉ p → motive rest → motive (p ++ lf :: rest)) (cs : List α) :
    motive cs := by
  -- The line that has begun is kept in front of the items that are still to come.
  suffices hbegun : ∀ p, lf ∉ p → motive (p ++ cs) from hbegun [] List.not_mem_nil
  induction cs with
  | nil =>
    intro p hp
    rw [List.append_nil]
    exact last p hp
  | cons c cs ih =>
    intro p hp
    by_cases hc : c = lf
    · subst hc
      exact line p cs hp (ih [] List.not_mem_nil)
    · rw [List.append_cons]
      refine ih (p ++ [c]) ?_
      rw [List.mem_append, List.mem_singleton]
      exact not_or.2 ⟨hp, Ne.symm hc⟩

theorem linesWith_of_notMem (hp : lf ∉ p) (hne : p ≠ []) : linesWith lf cr p = [p] := by
  rw [linesWith, pieces_of_forall (beq_eq_false_of_notMem hp), linesOfPieces, if_neg (by simpa)]

theorem dropFinal_of_notMem {mark : α} (h : mark ∉ p) : dropFinal mark p = p :=
  dropFinal_of_ne fun hlast => h (List.mem_of_getLast? hlast)

@[simp] theorem dropFinal_concat (p : List α) (mark : α) : dropFinal mark (p ++ [mark]) = p := by
  simp [dropFinal]

theorem dropFinal_append (p : List α) {rest : List α} (hrest : rest ≠ []) (mark : α) :
    dropFinal mark (p ++ rest) = p ++ dropFinal mark rest := by
  have hlast : (p ++ rest).getLast? = rest.getLast? := by
    rw [List.getLast?_append, List.getLast?_eq_some_getLast hrest, Option.some_or]
  unfold dropFinal
  rw [hlast, List.dropLast_append_of_ne_nil hrest]
  split <;> rfl

theorem mem_of_mem_dropFinal {mark x : α} (hx : x ∈ dropFinal mark p) : x ∈ p := by
  unfold dropFinal at hx
  split at hx
  · exact (List.dropLast_sublist p).subset hx
  · exact hx

/-! ## What lines are -/

/-- No line holds a line feed. -/
theorem lf_notMem_of_mem_linesWith (hp : p ∈ linesWith lf cr cs) : lf ∉ p := by
  induction cs using lines_induction lf with
  | last q hq =>
    by_cases hne : q = []
    · subst hne
      cases hp
    · rw [linesWith_of_notMem hq hne, List.mem_singleton] at hp
      rwa [hp]
  | line q rest hq ih =>
    rw [linesWith_append_cons hq, List.mem_cons] at hp
    rcases hp with rfl | hp
    · exact fun hlf => hq (mem_of_mem_dropFinal hlf)
    · exact ih hp

/-- **There is a line for each line feed**, and one more if the text goes on after the last. -/
theorem length_linesWith (lf cr : α) (cs : List α) :
    (linesWith lf cr cs).length =
      cs.count lf + if cs = [] ∨ cs.getLast? = some lf then 0 else 1 := by
  induction cs using lines_induction lf with
  | last p hp =>
    by_cases hne : p = []
    · subst hne
      rfl
    · have hlast : ¬ (p = [] ∨ p.getLast? = some lf) := by
        rintro (h | h)
        · exact hne h
        · exact hp (List.mem_of_getLast? h)
      rw [linesWith_of_notMem hp hne, List.count_eq_zero_of_not_mem hp, if_neg hlast]
      rfl
  | line p rest hp ih =>
    have hlast : (p ++ lf :: rest = [] ∨ (p ++ lf :: rest).getLast? = some lf) ↔
        rest = [] ∨ rest.getLast? = some lf := by
      cases rest with
      | nil => simp
      | cons c rest => simp [List.getLast?_append, List.getLast?_cons]
    rw [linesWith_append_cons hp, List.length_cons, ih, List.count_append,
      List.count_eq_zero_of_not_mem hp, List.count_cons_self]
    simp only [hlast]
    omega

theorem linesWith_eq_nil_iff : linesWith lf cr cs = [] ↔ cs = [] := by
  constructor
  · intro h
    induction cs using lines_induction lf with
    | last p hp =>
      refine Decidable.byContradiction fun hne => ?_
      rw [linesWith_of_notMem hp hne] at h
      cases h
    | line p rest hp =>
      rw [linesWith_append_cons hp] at h
      cases h
  · rintro rfl
    rfl

/-- **Nothing but carriage returns is lost**: where none stands before a line feed, the lines join
to the text, up to a line feed at its end. -/
theorem joinWith_linesWith (hcs : ¬ [cr, lf] <:+: cs) :
    joinWith lf (linesWith lf cr cs) = dropFinal lf cs := by
  induction cs using lines_induction lf with
  | last p hp =>
    rw [dropFinal_of_notMem hp]
    by_cases hne : p = []
    · subst hne
      rfl
    · rw [linesWith_of_notMem hp hne]
      rfl
  | line p rest hp ih =>
    have hplain : p.getLast? ≠ some cr := by
      intro hlast
      obtain ⟨q, rfl⟩ := List.getLast?_eq_some_iff.1 hlast
      exact hcs ⟨q, rest, by simp⟩
    have hrest : ¬ [cr, lf] <:+: rest := by
      intro hinside
      have htail : rest <:+: p ++ lf :: rest := ⟨p ++ [lf], [], by simp⟩
      exact hcs (hinside.trans htail)
    rw [linesWith_append_cons hp, dropFinal_of_ne hplain]
    by_cases hne : rest = []
    · subst hne
      exact (dropFinal_concat p lf).symm
    · cases hlines : linesWith lf cr rest with
      | nil => exact absurd (linesWith_eq_nil_iff.1 hlines) hne
      | cons q qs =>
        rw [joinWith, ← hlines, ih hrest, List.append_cons p lf, List.append_cons p lf rest,
          dropFinal_append _ hne]

/-- Puts a carriage return before every line feed. -/
def withReturns (lf cr : α) (cs : List α) : List α :=
  cs.flatMap fun c => if c = lf then [cr, lf] else [c]

theorem withReturns_of_notMem (hp : lf ∉ p) : withReturns lf cr p = p := by
  unfold withReturns
  induction p with
  | nil => rfl
  | cons c p ih =>
    obtain ⟨hc, hp⟩ := not_or.1 (mt List.mem_cons.2 hp)
    rw [List.flatMap_cons, ih hp, if_neg (Ne.symm hc), List.singleton_append]

/-- **Carriage returns before the line feeds make no difference**, if the text has no others. -/
theorem linesWith_withReturns (hne : cr ≠ lf) (hcs : cr ∉ cs) :
    linesWith lf cr (withReturns lf cr cs) = linesWith lf cr cs := by
  induction cs using lines_induction lf with
  | last p hp => rw [withReturns_of_notMem hp]
  | line p rest hp ih =>
    have hcr : cr ∉ p := fun h => hcs (List.mem_append_left _ h)
    have hrest : cr ∉ rest := fun h => hcs (List.mem_append_right _ (List.mem_cons_of_mem lf h))
    have hline : withReturns lf cr (p ++ lf :: rest) =
        (p ++ [cr]) ++ lf :: withReturns lf cr rest := by
      have hbefore : withReturns lf cr p = p := withReturns_of_notMem hp
      unfold withReturns at hbefore ⊢
      rw [List.flatMap_append, hbefore, List.flatMap_cons, if_pos rfl]
      simp
    have hreturn : lf ∉ p ++ [cr] := by
      rw [List.mem_append, List.mem_singleton]
      exact not_or.2 ⟨hp, Ne.symm hne⟩
    rw [hline, linesWith_append_cons hreturn, linesWith_append_cons hp, dropFinal_concat,
      dropFinal_of_notMem hcr, ih hrest]

/-! ## Texts -/

theorem lf_notMem_of_mem_lines {s line : String} (h : line ∈ lines s) : '\n' ∉ line.toList := by
  obtain ⟨p, hp, rfl⟩ := List.mem_map.1 h
  rw [String.toList_ofList]
  exact lf_notMem_of_mem_linesWith hp

theorem length_lines (s : String) :
    (lines s).length =
      s.toList.count '\n' + if s = "" ∨ s.toList.getLast? = some '\n' then 0 else 1 := by
  rw [lines, List.length_map, length_linesWith]
  simp only [String.toList_eq_nil_iff]

theorem lines_empty : lines "" = [] := rfl

theorem intercalate_lines {s : String} (h : ¬ ['\r', '\n'] <:+: s.toList) :
    "\n".intercalate (lines s) = .ofList (dropFinal '\n' s.toList) := by
  rw [← String.toList_inj, String.toList_intercalate, String.toList_ofList,
    ← joinWith_linesWith h, joinWith_eq_intercalate, lines, List.map_map]
  simp [Function.comp_def]

theorem lines_withReturns {s : String} (h : '\r' ∉ s.toList) :
    lines (.ofList (withReturns '\n' '\r' s.toList)) = lines s := by
  rw [lines, String.toList_ofList, linesWith_withReturns (by decide) h, lines]

end WorkspaceConsole.Text

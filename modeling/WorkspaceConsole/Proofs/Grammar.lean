import WorkspaceConsole.Proofs.Command
import WorkspaceConsole.Proofs.Text.Runs

/-!
# The grammar of command lines

A line is read in two steps. Trimming takes the Unicode blanks off its ends (`Trims`), and what is
left is cut into words at ASCII blanks (`MaximalRuns`). The two classes differ, so a word may hold
a blank that is no word break, but the first word does not begin with one, nor does the last one end
in one. Therefore the words of a trimmed text can be spaced in any way, also at the ends
(`runs_trim_of_maximalRuns`).

The words alone decide which known command a line is (`Classifies`), and only a line that is no such
command keeps its text (`accepts_grammar`).
-/

namespace WorkspaceConsole

namespace Text

/-! ## Trimming -/

/-- `t` is the text `cs` without the blanks at its ends. -/
structure Trims (cs t : List Char) : Prop where
  around : ∃ before after, cs = before ++ (t ++ after) ∧
    (∀ c ∈ before, isBlank c = true) ∧ ∀ c ∈ after, isBlank c = true
  first : ∀ c, t.head? = some c → isBlank c = false
  last : ∀ c, t.getLast? = some c → isBlank c = false

theorem trim_append_left {before : List Char} (hbefore : ∀ c ∈ before, isBlank c = true)
    (cs : List Char) : trim (before ++ cs) = trim cs := by
  rw [trim, List.dropWhile_append_of_pos hbefore, trim]

theorem trim_append_right {after : List Char} (hafter : ∀ c ∈ after, isBlank c = true)
    (cs : List Char) : trim (cs ++ after) = trim cs := by
  have hgone : trimRight after = [] := List.rdropWhile_eq_nil_iff.2 hafter
  cases hcs : cs.dropWhile isBlank with
  | nil =>
    have hall : ∀ c ∈ cs ++ after, isBlank c = true :=
      List.forall_mem_append.2 ⟨List.dropWhile_eq_nil_iff.1 hcs, hafter⟩
    rw [trim_eq_nil_iff.2 hall, trim, hcs]
    rfl
  | cons c rest =>
    have hdrop : (cs ++ after).dropWhile isBlank = cs.dropWhile isBlank ++ after := by
      simp [List.dropWhile_append, hcs]
    rw [trim, hdrop, trimRight_append_eq, if_pos hgone, trim]

theorem Trims.eq_trim {cs t : List Char} (h : Trims cs t) : t = trim cs := by
  obtain ⟨⟨before, after, rfl, hbefore, hafter⟩, hfirst, hlast⟩ := h
  rw [trim_append_left hbefore, trim_append_right hafter, trim_eq_self hfirst hlast]

theorem trims_trim (cs : List Char) : Trims cs (trim cs) where
  around := by
    refine ⟨cs.takeWhile isBlank, (cs.dropWhile isBlank).rtakeWhile isBlank, ?_, ?_, ?_⟩
    · have hright : trim cs ++ (cs.dropWhile isBlank).rtakeWhile isBlank = cs.dropWhile isBlank :=
        List.rdropWhile_append_rtakeWhile
      rw [hright, List.takeWhile_append_dropWhile]
    · intro c hc
      exact List.mem_takeWhile_imp hc
    · intro c hc
      exact List.mem_rtakeWhile_imp hc
  first := by
    intro c hc
    obtain ⟨rest, hrest⟩ := List.head?_eq_some_iff.1 hc
    exact isBlank_head_trim hrest
  last := by
    intro c hc
    have hne : trim cs ≠ [] := by
      intro hnil
      rw [hnil] at hc
      cases hc
    rw [List.getLast?_eq_getLast_of_ne_nil hne, Option.some_inj] at hc
    have hlast : ¬ isBlank ((trim cs).getLast hne) = true :=
      List.rdropWhile_last_not isBlank (cs.dropWhile isBlank) hne
    rw [← hc]
    simpa using hlast

/-- **Trimming** takes off just the blanks at the ends. -/
theorem trims_iff {cs t : List Char} : Trims cs t ↔ t = trim cs := by
  constructor
  · exact Trims.eq_trim
  · rintro rfl
    exact trims_trim cs

/-! ## Spacing -/

/-- Blanks in front of a text are word breaks if the words begin with a character that is not blank:
any other blank would stand in the first word. -/
theorem forall_isWordBreak_of_filter {before rest t : List Char}
    (hbefore : ∀ c ∈ before, isBlank c = true)
    (hfirst : ∀ c, t.head? = some c → isBlank c = false)
    (hkept : ((before ++ rest).filter fun c => !isWordBreak c) = t.filter fun c => !isWordBreak c) :
    ∀ c ∈ before, isWordBreak c = true := by
  cases hfront : before.filter fun c => !isWordBreak c with
  | nil => simpa using hfront
  | cons d ds =>
    have hd : isBlank d = true := hbefore d (List.mem_of_mem_filter (hfront ▸ List.mem_cons_self))
    cases t with
    | nil => simp [hfront] at hkept
    | cons e t =>
      have he : isBlank e = false := hfirst e rfl
      rw [List.filter_append, hfront, List.filter_cons_of_pos (by simp [isWordBreak_eq_false he]),
        List.cons_append, List.cons.injEq] at hkept
      rw [← hkept.1, hd] at he
      cases he

/-- **Spacing does not matter.** A text in which the words of a trimmed text stand, with any word
breaks around and between them, has just these words after trimming. -/
theorem runs_trim_of_maximalRuns {cs ds : List Char}
    (h : MaximalRuns isWordBreak cs (runs isWordBreak (trim ds))) :
    runs isWordBreak (trim cs) = runs isWordBreak (trim ds) := by
  obtain ⟨⟨before, after, hcs, hbefore, hafter⟩, -, -⟩ := trims_trim cs
  have hkept : (cs.filter fun c => !isWordBreak c) =
      (trim ds).filter fun c => !isWordBreak c := by
    rw [← h.flatten, ← (maximalRuns_iff.2 rfl).flatten]
  have hfront : ∀ c ∈ before, isWordBreak c = true :=
    forall_isWordBreak_of_filter hbefore (trims_trim ds).first (hcs ▸ hkept)
  have hback : ∀ c ∈ after.reverse, isWordBreak c = true := by
    have hlast : ∀ c, (trim ds).reverse.head? = some c → isBlank c = false := by
      simpa using (trims_trim ds).last
    have hreversed : ((after.reverse ++ (before ++ trim cs).reverse).filter fun c =>
        !isWordBreak c) = (trim ds).reverse.filter fun c => !isWordBreak c := by
      rw [← List.reverse_append, List.append_assoc, ← hcs, List.filter_reverse, List.filter_reverse,
        hkept]
    exact forall_isWordBreak_of_filter (by simpa using hafter) hlast hreversed
  have hruns : MaximalRuns isWordBreak cs (runs isWordBreak (trim cs)) := by
    have htrim : MaximalRuns isWordBreak (trim cs) (runs isWordBreak (trim cs)) :=
      maximalRuns_iff.2 rfl
    have hspaced := (htrim.append_gap fun c hc => hback c (List.mem_reverse.2 hc)).gap_append hfront
    rwa [← hcs] at hspaced
  rw [hruns.eq_runs, ← h.eq_runs]

end Text

namespace Command

open Text

/-! ## Known commands -/

/-- The words with which a known command begins. -/
def openings : List (List String) :=
  [["cd"], ["mkdir"], ["java"], ["npm", "install"], ["npx", "create-react-app"]]

/-- The rules by which the words `ws` of the text `text` are read as a command. -/
structure Classifies (text : String) (ws : List String) (command : Command) : Prop where
  blank : command = .blank ↔ ws = []
  changeDir : ∀ arg, command = .changeDir arg ↔ ["cd"] <+: ws ∧ ws[1]? = arg
  makeDir : ∀ arg, command = .makeDir arg ↔ ["mkdir"] <+: ws ∧ ws[1]? = arg
  java : ∀ arg, command = .java arg ↔ ["java"] <+: ws ∧ ws[1]? = arg
  npmInstall : ∀ arg, command = .npmInstall arg ↔ ["npm", "install"] <+: ws ∧ ws[2]? = arg
  /-- An application is named by exactly one word. -/
  createReactApp : ∀ arg, command = .createReactApp arg ↔
    ["npx", "create-react-app"] <+: ws ∧ (if ws.length = 3 then ws[2]? else none) = arg
  /-- What begins in no known way is kept as it is. -/
  unknown : ∀ t, command = .unknown t ↔
    t = text ∧ ws ≠ [] ∧ ∀ opening ∈ openings, ¬ opening <+: ws

theorem classifies_ofWords? (text : String) (ws : List String) :
    Classifies text ws ((ofWords? ws).getD (.unknown text)) := by
  unfold ofWords?
  split
  case h_7 args hargs =>
    have hlength : args.length ≠ 1 := by
      intro hone
      obtain ⟨app, rfl⟩ := List.length_eq_one_iff.1 hone
      exact hargs app rfl
    constructor <;> simp [openings, hlength]
  case h_8 hempty hcd hmkdir hjava hnpm _ hnpx =>
    have hnone : (¬ ["cd"] <+: ws ∧ ¬ ["mkdir"] <+: ws ∧ ¬ ["java"] <+: ws) ∧
        ¬ ["npm", "install"] <+: ws ∧ ¬ ["npx", "create-react-app"] <+: ws := by
      refine ⟨⟨?_, ?_, ?_⟩, ?_, ?_⟩ <;> rintro ⟨args, rfl⟩
      · exact hcd args rfl
      · exact hmkdir args rfl
      · exact hjava args rfl
      · exact hnpm args rfl
      · exact hnpx args rfl
    have hne : ws ≠ [] := hempty
    constructor
    all_goals simp [hne, hnone, openings, eq_comm]
  -- The words of all other cases are known as far as the rules look at them.
  all_goals constructor <;> simp [openings, List.head?_eq_getElem?]

/-- **The grammar of command lines.** `text` is the line without the blanks at its ends, and `ws`
are the words of it. -/
structure Accepts (line text : String) (ws : List String) : Prop
    extends Classifies text ws (parse line) where
  trims : ∀ t, Trims line.toList t ↔ t = text.toList
  words : ∀ ps, MaximalRuns isWordBreak text.toList ps ↔ ps = ws.map String.toList
  empty : parse line = .blank ↔ ∀ c ∈ line.toList, isBlank c = true
  argument : ∀ arg, (parse line).argument? = some arg →
    arg.toList ≠ [] ∧ ∀ c ∈ arg.toList, isWordBreak c = false
  /-- The blanks at the ends do not matter, -/
  ends : parse text = parse line
  /-- and neither do number and kind of the word breaks between the words of a known command. -/
  spacing : ∀ other : String, MaximalRuns isWordBreak other.toList (ws.map String.toList) →
    (∀ t, parse line ≠ .unknown t) → parse other = parse line

/-- **Lines are read by the grammar**, and in no other way. -/
theorem accepts_grammar (line : String) : ∃ text ws, Accepts line text ws := by
  have hrules : Classifies (Text.trimmed line) (words (trim line.toList)) (parse line) :=
    classifies_ofWords? (Text.trimmed line) (words (trim line.toList))
  refine ⟨Text.trimmed line, words (trim line.toList), hrules, ?_, ?_, parse_eq_blank_iff, ?_, ?_,
    ?_⟩
  · intro t
    rw [trims_iff, Text.trimmed, String.toList_ofList]
  · intro ps
    have hwords : (words (trim line.toList)).map String.toList =
        runs isWordBreak (trim line.toList) := by
      simp [words, Function.comp_def]
    rw [maximalRuns_iff, Text.trimmed, String.toList_ofList, hwords]
  · intro arg harg
    exact of_mem_words (mem_words_of_argument? harg)
  · have htrim : trim (Text.trimmed line).toList = trim line.toList := by
      rw [Text.trimmed, String.toList_ofList, trim_trim]
    simp only [parse, htrim]
  · intro other hother hknown
    have hruns : runs isWordBreak (trim other.toList) = runs isWordBreak (trim line.toList) := by
      refine runs_trim_of_maximalRuns ?_
      simpa [words, Function.comp_def] using hother
    have hwords : words (trim other.toList) = words (trim line.toList) :=
      congrArg (List.map String.ofList) hruns
    simp only [parse] at hknown ⊢
    rw [hwords]
    cases hcommand : ofWords? (words (trim line.toList)) with
    | none => simp [hcommand] at hknown
    | some command => rfl

/-- A blank that is no word break stays where it is, unless it stands at an end. -/
example : parse "\u00a0\u2003cd\t \rsr\u00a0c x\n" = .changeDir (some "sr\u00a0c") := by
  decide

end Command

end WorkspaceConsole

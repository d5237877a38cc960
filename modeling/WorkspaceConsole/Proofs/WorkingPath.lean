import WorkspaceConsole.Proofs.Text.Split
import WorkspaceConsole.Tree.Name
import WorkspaceConsole.WorkingPath

/-!
# Working paths and their text

A name that is not empty and holds no slash can be told apart in the text of a path (`IsSegment`).
Reading a text gives only such names, so the text of a path reads back to the path exactly if all
its names are of this kind. Valid names of folders are.

A text is the text of the path that it reads as, unless slashes in it are ignored: at either end, or
next to another one. A slash and a name at the end of a text lead one folder further down.
-/

namespace WorkspaceConsole.WorkingPath

open Text

/-- The text can stand between two slashes: it is not empty, and it holds none. -/
def IsSegment (name : String) : Prop :=
  name.toList ≠ [] ∧ '/' ∉ name.toList

instance (name : String) : Decidable (IsSegment name) :=
  inferInstanceAs (Decidable (name.toList ≠ [] ∧ '/' ∉ name.toList))

theorem IsSegment.ne_slash {name : String} (h : IsSegment name) :
    ∀ c ∈ name.toList, (c == '/') = false :=
  beq_eq_false_of_notMem h.2

theorem parse_display {p : WorkingPath} (hp : ∀ name ∈ p.segments, IsSegment name) :
    parse p.display = p := by
  obtain ⟨segments⟩ := p
  have hruns : runs (· == '/') (joinWith '/' (segments.map String.toList)) =
      segments.map String.toList := by
    refine runs_joinWith rfl (List.forall_mem_map.2 ?_)
    intro name hname
    exact ⟨(hp name hname).1, (hp name hname).ne_slash⟩
  rw [parse, display, String.toList_ofList, hruns, List.map_map]
  simp [Function.comp_def]

theorem parse_display_of_valid {p : WorkingPath} (hp : ∀ name ∈ p.segments, ValidName name) :
    parse p.display = p :=
  parse_display fun name hname => ⟨(hp name hname).nonempty, (hp name hname).noSlash⟩

/-! ## What reading gives -/

theorem isSegment_of_mem_parse {s name : String} (h : name ∈ (parse s).segments) :
    IsSegment name := by
  obtain ⟨run, hrun, rfl⟩ := List.mem_map.1 h
  obtain ⟨hne, hslash⟩ := of_mem_runs hrun
  unfold IsSegment
  rw [String.toList_ofList]
  refine ⟨hne, ?_⟩
  intro hmem
  simpa using hslash '/' hmem

/-- **A path comes back from its text** exactly if its names can be told apart there. -/
theorem parse_display_eq_iff {p : WorkingPath} :
    parse p.display = p ↔ ∀ name ∈ p.segments, IsSegment name := by
  constructor
  · intro h
    rw [← h]
    intro name hname
    exact isSegment_of_mem_parse hname
  · exact parse_display

/-- **A text comes back from its path** exactly if no slash in it is ignored. -/
theorem display_parse_eq_iff {s : String} :
    (parse s).display = s ↔
      s.toList.head? ≠ some '/' ∧ s.toList.getLast? ≠ some '/' ∧ ¬ ['/', '/'] <:+: s.toList := by
  have htext : (parse s).display = String.ofList (joinWith '/' (runs (· == '/') s.toList)) := by
    simp [parse, display, Function.comp_def]
  rw [htext, ← joinWith_runs_eq_iff]
  constructor
  · intro h
    simpa using congrArg String.toList h
  · intro h
    rw [h, String.ofList_toList]

/-- A slash parts a text into two paths, of which the second leads on from the first. -/
theorem segments_parse_append (s t : String) :
    (parse (s ++ "/" ++ t)).segments = (parse s).segments ++ (parse t).segments := by
  have htext : (s ++ "/" ++ t).toList = s.toList ++ '/' :: t.toList := by
    simp
  have hruns : runs (· == '/') (s.toList ++ '/' :: t.toList) =
      runs (· == '/') s.toList ++ runs (· == '/') t.toList := runs_append rfl _ _
  simp only [parse, htext, hruns, List.map_append]

theorem segments_parse_of_isSegment {name : String} (h : IsSegment name) :
    (parse name).segments = [name] := by
  simp [parse, runs_of_forall h.1 h.ne_slash]

/-- **Paths and their texts agree.** Reading gives only names that can be told apart. A path comes
back from its text exactly if it has only such names, and a text from its path exactly if it has no
slash at an end and no two in a row. A slash and such a name, written after the text of such a path,
enter one folder more, also from the path above all folders. -/
theorem agrees_with_text (p : WorkingPath) (s name : String) :
    (∀ n ∈ (parse s).segments, IsSegment n) ∧
      (parse p.display = p ↔ ∀ n ∈ p.segments, IsSegment n) ∧
      ((parse s).display = s ↔
        s.toList.head? ≠ some '/' ∧ s.toList.getLast? ≠ some '/' ∧ ¬ ['/', '/'] <:+: s.toList) ∧
      ((∀ n ∈ p.segments, IsSegment n) → IsSegment name →
        parse (p.display ++ "/" ++ name) = p.join name) := by
  refine ⟨fun n => isSegment_of_mem_parse, parse_display_eq_iff, display_parse_eq_iff, ?_⟩
  intro hp hname
  have hpath : parse p.display = p := parse_display hp
  have hsegments : (parse (p.display ++ "/" ++ name)).segments = (p.join name).segments := by
    rw [segments_parse_append, hpath, segments_parse_of_isSegment hname, join]
  exact congrArg WorkingPath.mk hsegments

/-- From the path above all folders, whose text is empty, the first folder is entered. -/
theorem agrees_with_text_root :
    IsSegment "src" ∧ root.display = "" ∧ parse (root.display ++ "/" ++ "src") = ⟨["src"]⟩ ∧
      (parse "/src").display ≠ "/src" := by
  have hsrc : IsSegment "src" := by decide
  obtain ⟨-, -, htext, hjoin⟩ := agrees_with_text root "/src" "src"
  refine ⟨hsrc, rfl, hjoin (by simp [root]) hsrc, ?_⟩
  rw [Ne, htext]
  simp

end WorkspaceConsole.WorkingPath

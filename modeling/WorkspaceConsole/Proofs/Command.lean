import Mathlib.Data.List.DropRight
import WorkspaceConsole.Command
import WorkspaceConsole.Proofs.Text.Split
import WorkspaceConsole.Tree.Name

/-!
# Blank lines and words

A line is the blank command exactly when all its characters are blank (`parse_eq_blank_iff`).
Trimming takes off the wider class of Unicode blanks, and cutting into words the narrower one of
ASCII blanks. A trimmed text begins with a character that is in neither, so it has a first word
unless it is empty. An argument is one of the words (`mem_words_of_argument?`). A command and its
argument with spaces in between are cut into just these words (`parse_append`). A command of two
words stays that command, whatever comes after the space (`exists_words_trim`).
-/

namespace WorkspaceConsole

namespace Text

theorem isWordBreak_eq_false {c : Char} (h : isBlank c = false) : isWordBreak c = false :=
  Bool.eq_false_iff.2 fun hbreak => Bool.eq_false_iff.1 h (isBlank_of_isWordBreak hbreak)

theorem isBlank_head_dropWhile {c : Char} {cs rest : List Char}
    (h : cs.dropWhile isBlank = c :: rest) : isBlank c = false := by
  have hpos : 0 < (cs.dropWhile isBlank).length := by rw [h]; exact Nat.succ_pos _
  simpa [h] using List.dropWhile_get_zero_not isBlank cs hpos

/-- A trimmed text begins with a character that is not blank. -/
theorem isBlank_head_trim {c : Char} {cs rest : List Char} (h : trim cs = c :: rest) :
    isBlank c = false := by
  obtain ⟨dropped, hdropped⟩ := List.rdropWhile_prefix isBlank (cs.dropWhile isBlank)
  have hdrop : cs.dropWhile isBlank = c :: (rest ++ dropped) := by
    rw [← hdropped, ← List.cons_append, ← h]
    rfl
  exact isBlank_head_dropWhile hdrop

theorem trim_eq_nil_iff {cs : List Char} : trim cs = [] ↔ ∀ c ∈ cs, isBlank c = true := by
  rw [← List.dropWhile_eq_nil_iff]
  constructor
  · intro h
    have hall : ∀ c ∈ cs.dropWhile isBlank, isBlank c = true := List.rdropWhile_eq_nil_iff.1 h
    cases hdrop : cs.dropWhile isBlank with
    | nil => rfl
    | cons c rest =>
      have hblank := hall c (by rw [hdrop]; exact List.mem_cons_self)
      rw [isBlank_head_dropWhile hdrop] at hblank
      cases hblank
  · intro h
    rw [trim, h]
    rfl

theorem trim_cons {c : Char} (hc : isBlank c = false) (cs : List Char) :
    trim (c :: cs) = trimRight (c :: cs) := by
  rw [trim, List.dropWhile_cons_of_neg (by simp [hc])]

theorem trimRight_trim (cs : List Char) : trimRight (trim cs) = trim cs :=
  List.rdropWhile_idempotent isBlank (cs.dropWhile isBlank)

/-- Trimming takes off everything at once. -/
theorem trim_trim (cs : List Char) : trim (trim cs) = trim cs := by
  cases htrim : trim cs with
  | nil => rfl
  | cons c rest => rw [trim_cons (isBlank_head_trim htrim), ← htrim, trimRight_trim]

theorem trim_eq_self {cs : List Char} (hfirst : ∀ c, cs.head? = some c → isBlank c = false)
    (hlast : ∀ c, cs.getLast? = some c → isBlank c = false) : trim cs = cs := by
  cases cs with
  | nil => rfl
  | cons c cs =>
    rw [trim_cons (hfirst c rfl)]
    refine List.rdropWhile_eq_self_iff.2 fun hne => ?_
    simp [hlast _ (List.getLast?_eq_getLast_of_ne_nil hne)]

theorem trim_of_forall {cs : List Char} (hcs : ∀ c ∈ cs, isBlank c = false) : trim cs = cs :=
  trim_eq_self (fun c hc => hcs c (List.mem_of_mem_head? hc))
    fun c hc => hcs c (List.mem_of_getLast? hc)

/-- What stands at the end decides what is taken off there. -/
theorem trimRight_append {cs : List Char} (hne : cs ≠ []) (hcs : trimRight cs = cs)
    (before : List Char) : trimRight (before ++ cs) = before ++ cs := by
  have hlast := List.rdropWhile_eq_self_iff.1 hcs hne
  refine List.rdropWhile_eq_self_iff.2 fun hne' => ?_
  rw [List.getLast_append_of_ne_nil hne' hne]
  exact hlast

/-- Blanks are taken off the second text, and off the first if nothing is left of the second. -/
theorem trimRight_append_eq (cs ds : List Char) :
    trimRight (cs ++ ds) = if trimRight ds = [] then trimRight cs else cs ++ trimRight ds := by
  have happ : (ds.reverse ++ cs.reverse).dropWhile isBlank = _ := List.dropWhile_append
  simp only [trimRight, List.reverse_append, happ, List.isEmpty_iff, List.reverse_eq_nil_iff]
  split
  · rfl
  · rw [List.reverse_append, List.reverse_reverse]

/-- A text without blanks around it and a space: the line ends there, or goes on after the space. -/
theorem trim_append_space {cs : List Char} (hcs : trim cs = cs) (hne : cs ≠ []) (arg : List Char) :
    trim (cs ++ ' ' :: arg) = cs ∨ ∃ more, trim (cs ++ ' ' :: arg) = cs ++ ' ' :: more := by
  obtain ⟨c, rest, rfl⟩ := List.exists_cons_of_ne_nil hne
  have hc := isBlank_head_trim hcs
  have hspace := trimRight_append_eq [' '] arg
  rw [trim_cons hc] at hcs
  rw [List.cons_append, trim_cons hc, ← List.cons_append, trimRight_append_eq,
    ← List.singleton_append, hspace]
  by_cases harg : trimRight arg = []
  · rw [if_pos harg]
    exact .inl hcs
  · rw [if_neg harg]
    exact .inr ⟨trimRight arg, rfl⟩

/-- A text that does not begin with a separator has a first run. -/
theorem runs_cons_ne_nil {α : Type} {sep : α → Bool} {c : α} (hc : sep c = false) (cs : List α) :
    runs sep (c :: cs) ≠ [] := by
  rw [runs, pieces, if_neg (by simp [hc])]
  cases pieces sep cs <;> simp

end Text

/-! ## Words -/

/-- Every word break is a blank, so a valid name is one word. -/
theorem ValidName.isWordBreak {name : String} (h : ValidName name) :
    ∀ c ∈ name.toList, Text.isWordBreak c = false := fun c hc =>
  Text.isWordBreak_eq_false (h.noBlank c hc)

theorem ValidName.trimmed {name : String} (h : ValidName name) : Text.trimmed name = name := by
  rw [Text.trimmed, Text.trim_of_forall h.noBlank, String.ofList_toList]

namespace Command

open Text

theorem words_trim_eq_nil_iff {cs : List Char} : words (trim cs) = [] ↔ trim cs = [] := by
  rw [words, List.map_eq_nil_iff]
  cases htrim : trim cs with
  | nil => exact ⟨fun _ => rfl, fun _ => rfl⟩
  | cons c rest =>
    have hbreak : isWordBreak c = false := isWordBreak_eq_false (isBlank_head_trim htrim)
    exact ⟨fun h => absurd h (runs_cons_ne_nil hbreak rest), fun h => nomatch h⟩

/-- A word is not empty, and holds no word break. -/
theorem of_mem_words {cs : List Char} {w : String} (h : w ∈ words cs) :
    w.toList ≠ [] ∧ ∀ c ∈ w.toList, isWordBreak c = false := by
  obtain ⟨run, hrun, rfl⟩ := List.mem_map.1 h
  rw [String.toList_ofList]
  exact of_mem_runs hrun

/-- Only the empty row of words is blank. -/
theorem ofWords?_eq_blank_iff {ws : List String} : ofWords? ws = some .blank ↔ ws = [] := by
  constructor
  · intro h
    unfold ofWords? at h
    split at h
    next => rfl
    all_goals cases h
  · rintro rfl
    rfl

/-- **A line is blank** exactly when all its characters are. -/
theorem parse_eq_blank_iff {line : String} :
    parse line = .blank ↔ ∀ c ∈ line.toList, isBlank c = true := by
  rw [← trim_eq_nil_iff, ← words_trim_eq_nil_iff, ← ofWords?_eq_blank_iff, parse]
  cases ofWords? (words (trim line.toList)) with
  | none => simp
  | some command => simp

/-- The argument of a known command is one of its words. -/
theorem mem_of_ofWords? {ws : List String} {command : Command} {arg : String}
    (h : ofWords? ws = some command) (harg : command.argument? = some arg) : arg ∈ ws := by
  unfold ofWords? at h
  split at h <;> cases h
  case h_1 => cases harg
  case h_5 args =>
    exact List.mem_cons_of_mem _ (List.mem_cons_of_mem _ (List.mem_of_mem_head? harg))
  case h_6 app =>
    cases harg
    simp
  case h_7 => cases harg
  all_goals exact List.mem_cons_of_mem _ (List.mem_of_mem_head? harg)

theorem ofWords?_ne_unknown (ws : List String) (line : String) :
    ofWords? ws ≠ some (.unknown line) := by
  intro h
  unfold ofWords? at h
  split at h <;> cases h

theorem mem_words_of_argument? {line arg : String} (h : (parse line).argument? = some arg) :
    arg ∈ words (trim line.toList) := by
  rw [parse] at h
  cases hwords : ofWords? (words (trim line.toList)) with
  | none =>
    rw [hwords] at h
    cases h
  | some command =>
    rw [hwords] at h
    exact mem_of_ofWords? hwords h

/-- Words with a space between any two of them are the words of the line. -/
theorem words_joinWith {ws : List String}
    (hws : ∀ w ∈ ws, w.toList ≠ [] ∧ ∀ c ∈ w.toList, isWordBreak c = false) :
    words (joinWith ' ' (ws.map String.toList)) = ws := by
  have hruns : runs isWordBreak (joinWith ' ' (ws.map String.toList)) = ws.map String.toList :=
    runs_joinWith rfl (List.forall_mem_map.2 hws)
  rw [words, hruns, List.map_map]
  simp [Function.comp_def]

/-- A command and its argument, which is a word without blanks around it: the line has no blanks
around it either, and just these words. -/
theorem parse_append {before arg : String} (ws : List String) {c : Char} {rest : List Char}
    (hline : (before ++ arg).toList = joinWith ' ' ((ws ++ [arg]).map String.toList))
    (hbefore : before.toList = c :: rest) (hc : isBlank c = false)
    (hws : ∀ w ∈ ws, w.toList ≠ [] ∧ ∀ c ∈ w.toList, isWordBreak c = false)
    (hne : arg.toList ≠ []) (hword : ∀ c ∈ arg.toList, isWordBreak c = false)
    (htrim : trimmed arg = arg) :
    trimmed (before ++ arg) = before ++ arg ∧
      parse (before ++ arg) = (ofWords? (ws ++ [arg])).getD (.unknown (before ++ arg)) := by
  have harg : trimRight arg.toList = arg.toList := by
    have htrim' : trim arg.toList = arg.toList := by
      simpa [trimmed] using congrArg String.toList htrim
    rw [← htrim', trimRight_trim]
  have htrimmed : trim (before ++ arg).toList = (before ++ arg).toList := by
    rw [String.toList_append, hbefore]
    exact (trim_cons hc _).trans (trimRight_append hne harg (c :: rest))
  have hwords : words (before ++ arg).toList = ws ++ [arg] := by
    rw [hline]
    exact words_joinWith (List.forall_mem_append.2 ⟨hws, List.forall_mem_singleton.2 ⟨hne, hword⟩⟩)
  refine ⟨by rw [trimmed, htrimmed, String.ofList_toList], ?_⟩
  simp only [parse, htrimmed, hwords, String.ofList_toList]

/-- The line that asks for a new application. -/
theorem parse_createReactApp {app : String} (hne : app.toList ≠ [])
    (hword : ∀ c ∈ app.toList, isWordBreak c = false) (htrim : trimmed app = app) :
    parse ("npx create-react-app " ++ app) = .createReactApp (some app) :=
  (parse_append ["npx", "create-react-app"] String.toList_append rfl rfl
    (by simp [isWordBreak]) hne hword htrim).2

/-! ## Commands of two words -/

/-- **A command of two words** is read as these words, whatever comes after them. -/
theorem exists_words_trim (first second : List Char)
    (hfirst : first ≠ [] ∧ ∀ c ∈ first, isWordBreak c = false)
    (hsecond : second ≠ [] ∧ ∀ c ∈ second, isWordBreak c = false)
    (htrim : trim (first ++ ' ' :: second) = first ++ ' ' :: second) (arg : List Char) :
    ∃ more, words (trim (first ++ ' ' :: second ++ ' ' :: arg)) =
      String.ofList first :: String.ofList second :: more := by
  have hne : first ++ ' ' :: second ≠ [] := List.append_ne_nil_of_left_ne_nil hfirst.1 _
  rcases trim_append_space htrim hne arg with hends | ⟨more, hmore⟩
  · have hruns : runs isWordBreak (joinWith ' ' [first, second]) = [first, second] :=
      runs_joinWith rfl (List.forall_mem_cons.2 ⟨hfirst, List.forall_mem_singleton.2 hsecond⟩)
    rw [hends, words, show first ++ ' ' :: second = joinWith ' ' [first, second] from rfl, hruns]
    exact ⟨[], rfl⟩
  · rw [hmore, words, List.append_assoc, List.cons_append, runs_append_cons hfirst rfl,
      runs_append_cons hsecond rfl]
    exact ⟨words more, rfl⟩

theorem parse_npmInstall_append (arg : String) :
    ∃ package, parse ("npm install " ++ arg) = .npmInstall package := by
  obtain ⟨more, hwords⟩ := exists_words_trim "npm".toList "install".toList
    (by simp [isWordBreak]) (by simp [isWordBreak]) (by decide) arg.toList
  have hline : ("npm install " ++ arg).toList = "npm".toList ++ ' ' :: "install".toList ++
      ' ' :: arg.toList := String.toList_append
  refine ⟨more.head?, ?_⟩
  simp only [parse, hline, hwords, String.ofList_toList, ofWords?, Option.getD_some]

theorem parse_createReactApp_append (arg : String) :
    ∃ app, parse ("npx create-react-app " ++ arg) = .createReactApp app := by
  obtain ⟨more, hwords⟩ := exists_words_trim "npx".toList "create-react-app".toList
    (by simp [isWordBreak]) (by simp [isWordBreak]) (by decide) arg.toList
  have hline : ("npx create-react-app " ++ arg).toList = "npx".toList ++
      ' ' :: "create-react-app".toList ++ ' ' :: arg.toList := String.toList_append
  simp only [parse, hline, hwords, String.ofList_toList]
  cases more with
  | nil => exact ⟨none, rfl⟩
  | cons app rest =>
    cases rest with
    | nil => exact ⟨some app, rfl⟩
    | cons _ _ => exact ⟨none, rfl⟩

end Command

end WorkspaceConsole

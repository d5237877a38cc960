import WorkspaceConsole.Proofs.Json.Literal

/-!
# Documents read back

A document in its indented form reads back to the value that it stands for (`read?_pretty`). The
induction is on the document, with one statement for documents and one for the members of a record.
Each is about a text that goes on after the document, at any level of nesting, with at least as much
fuel as there are characters: every step of the reader that recurses has consumed one.
-/

namespace WorkspaceConsole.Json

/-! ## Gaps -/

@[simp] theorem skipGaps_space (cs : List Char) : skipGaps (' ' :: cs) = skipGaps cs := by
  simp [skipGaps, isGap]

theorem skipGaps_cons {c : Char} (hc : isGap c = false) (cs : List Char) :
    skipGaps (c :: cs) = c :: cs := by
  simp [skipGaps, hc]

/-- A new line and its indentation are passed over. -/
@[simp] theorem skipGaps_newLine (level : Nat) (cs : List Char) :
    skipGaps (newLine level ++ cs) = skipGaps cs := by
  have hspaces : ∀ c ∈ List.replicate (2 * level) ' ', isGap c = true := by
    intro c hc
    rw [List.eq_of_mem_replicate hc]
    rfl
  rw [skipGaps, newLine, List.cons_append, List.dropWhile_cons_of_pos (by rfl),
    List.dropWhile_append_of_pos hspaces]
  rfl

/-- Blanks before a value do not matter. -/
theorem value?_congr {cs ds : List Char} (h : skipGaps cs = skipGaps ds) (fuel : Nat) :
    value? fuel cs = value? fuel ds := by
  cases fuel with
  | zero => rfl
  | succ fuel => rw [value?, value?, h]

/-- Blanks before a member do not matter. -/
theorem members?_congr {cs ds : List Char} (h : skipGaps cs = skipGaps ds) (fuel : Nat) :
    members? fuel cs = members? fuel ds := by
  cases fuel with
  | zero => rfl
  | succ fuel => rw [members?, members?, h]

/-- Blanks before an item do not matter. -/
theorem items?_congr {cs ds : List Char} (h : skipGaps cs = skipGaps ds) (fuel : Nat) :
    items? fuel cs = items? fuel ds := by
  cases fuel with
  | zero => rfl
  | succ fuel => rw [items?, items?, value?_congr h]

/-! ## Texts and numbers -/

theorem skipGaps_literal (s : String) (rest : List Char) :
    skipGaps (literal s ++ rest) = '"' :: (s.toList.flatMap escape ++ '"' :: rest) := by
  have hliteral : literal s ++ rest = '"' :: (s.toList.flatMap escape ++ '"' :: rest) := by
    simp [literal]
  rw [hliteral, skipGaps_cons rfl]

theorem value?_literal (s : String) (fuel : Nat) (rest : List Char) :
    value? (fuel + 1) (literal s ++ rest) = some (.string s, rest) := by
  simp only [value?, skipGaps_literal, string?_literal, Option.map_some]
  rfl

theorem value?_digits (n fuel : Nat) {rest : List Char} (hrest : EndsNumber rest) :
    value? (fuel + 1) (Text.Decimal.digits n ++ rest) =
      some (.number (Text.Decimal.digits n), rest) := by
  have hread := number?_digits n hrest
  obtain ⟨d, ds, hds, hdigit, -⟩ := digits_eq_cons n
  have hgap : isGap d = false := by
    rw [Bool.eq_false_iff]
    intro hgap
    simp only [isGap, Bool.or_eq_true, beq_iff_eq] at hgap
    rcases hgap with ((rfl | rfl) | rfl) | rfl <;> cases hdigit
  rw [hds, List.cons_append] at hread ⊢
  rw [value?, skipGaps_cons hgap]
  -- Every other kind of value begins with a character that is no digit.
  split
  case h_7 => rw [hread]; rfl
  all_goals
    next h =>
      rw [(List.cons.inj h).1] at hdigit
      cases hdigit

/-! ## Rows of texts -/

/-- The text of a row of texts, up to the closing bracket. -/
theorem items?_prettyTexts (s : String) (more : List String) (level fuel : Nat)
    (rest : List Char) (hfuel : (prettyTexts level (s :: more)).length ≤ fuel) :
    items? fuel (prettyTexts level (s :: more) ++ ']' :: rest) =
      some (.string s :: more.map .string, rest) := by
  induction more generalizing s fuel with
  | nil =>
    have hclose : skipGaps (newLine level ++ ']' :: rest) = ']' :: rest := by
      rw [skipGaps_newLine, skipGaps_cons rfl]
    simp only [prettyTexts, literal, newLine, List.length_append, List.length_cons] at hfuel
    obtain ⟨fuel, rfl⟩ : ∃ n, fuel = n + 2 := ⟨fuel - 2, by omega⟩
    rw [prettyTexts, List.append_assoc, List.append_assoc, items?_congr (skipGaps_newLine _ _),
      items?, value?_literal]
    simp only [hclose, List.map_nil]
  | cons t more ih =>
    have hcomma (cs : List Char) : skipGaps (',' :: cs) = ',' :: cs := skipGaps_cons rfl cs
    simp only [prettyTexts, literal, newLine, List.length_append, List.length_cons] at hfuel
    obtain ⟨fuel, rfl⟩ : ∃ n, fuel = n + 2 := ⟨fuel - 2, by omega⟩
    have hmore := ih t (fuel + 1) (by omega)
    rw [prettyTexts, List.append_assoc, List.append_assoc, items?_congr (skipGaps_newLine _ _),
      List.cons_append, items?, value?_literal]
    simp only [hcomma, hmore, List.map_cons, Option.map_some]

/-! ## One value -/

theorem value?_null (fuel : Nat) (rest : List Char) :
    value? (fuel + 1) ('n' :: 'u' :: 'l' :: 'l' :: rest) = some (.null, rest) := by
  have hstart : skipGaps ('n' :: 'u' :: 'l' :: 'l' :: rest) = 'n' :: 'u' :: 'l' :: 'l' :: rest :=
    skipGaps_cons rfl _
  simp only [value?, hstart]

theorem value?_emptyArray (fuel : Nat) (rest : List Char) :
    value? (fuel + 1) ('[' :: ']' :: rest) = some (.array [], rest) := by
  have hopen : skipGaps ('[' :: ']' :: rest) = '[' :: ']' :: rest := skipGaps_cons rfl _
  have hclose : skipGaps (']' :: rest) = ']' :: rest := skipGaps_cons rfl _
  simp only [value?, hopen, hclose]

/-- An array whose first item is a text. -/
theorem value?_array (fuel : Nat) {cs body : List Char} (hfirst : skipGaps cs = '"' :: body) :
    value? (fuel + 1) ('[' :: cs) =
      (items? fuel cs).map fun (items, out) => (.array items, out) := by
  have hopen : skipGaps ('[' :: cs) = '[' :: cs := skipGaps_cons rfl _
  have hitems : items? fuel cs = items? fuel ('"' :: body) :=
    items?_congr (by rw [hfirst, skipGaps_cons rfl]) fuel
  simp only [value?, hopen, hfirst, hitems]
  rfl

theorem value?_emptyObject (fuel : Nat) (rest : List Char) :
    value? (fuel + 1) ('\x7b' :: '\x7d' :: rest) = some (.object [], rest) := by
  have hopen : skipGaps ('\x7b' :: '\x7d' :: rest) = '\x7b' :: '\x7d' :: rest := skipGaps_cons rfl _
  have hclose : skipGaps ('\x7d' :: rest) = '\x7d' :: rest := skipGaps_cons rfl _
  simp only [value?, hopen, hclose]

theorem value?_object (fuel : Nat) {cs body : List Char} (hfirst : skipGaps cs = '"' :: body) :
    value? (fuel + 1) ('\x7b' :: cs) =
      (members? fuel cs).map fun (members, out) => (.object members, out) := by
  have hopen : skipGaps ('\x7b' :: cs) = '\x7b' :: cs := skipGaps_cons rfl _
  have hmembers : members? fuel cs = members? fuel ('"' :: body) :=
    members?_congr (by rw [hfirst, skipGaps_cons rfl]) fuel
  simp only [value?, hopen, hfirst, hmembers]
  rfl

/-! ## One member -/

section Member

variable {value : Value} {fuel : Nat} {cs after rest : List Char}

theorem value?_space (fuel : Nat) (cs : List Char) : value? fuel (' ' :: cs) = value? fuel cs :=
  value?_congr (skipGaps_space cs) fuel

/-- The member before the closing brace. -/
theorem members?_last (key : String) (level : Nat) (hvalue : value? fuel cs = some (value, after))
    (hafter : skipGaps after = '\x7d' :: rest) :
    members? (fuel + 1) (newLine level ++ (literal key ++ ':' :: ' ' :: cs)) =
      some ([(some key, value)], rest) := by
  have hcolon : skipGaps (':' :: ' ' :: cs) = ':' :: ' ' :: cs := skipGaps_cons rfl _
  simp only [members?, skipGaps_newLine, skipGaps_literal, string?_literal, hcolon, value?_space,
    hvalue, hafter]

/-- A member before another one. -/
theorem members?_more (key : String) (level : Nat) (hvalue : value? fuel cs = some (value, after))
    (hafter : skipGaps after = ',' :: rest) :
    members? (fuel + 1) (newLine level ++ (literal key ++ ':' :: ' ' :: cs)) =
      (members? fuel rest).map fun (members, out) => ((some key, value) :: members, out) := by
  have hcolon : skipGaps (':' :: ' ' :: cs) = ':' :: ' ' :: cs := skipGaps_cons rfl _
  simp only [members?, skipGaps_newLine, skipGaps_literal, string?_literal, hcolon, value?_space,
    hvalue, hafter]

end Member

/-! ## Documents -/

theorem length_prettyAt_pos (level : Nat) (d : Document) : 0 < (prettyAt level d).length := by
  cases d with
  | number n => exact List.length_pos_iff.2 (Text.Decimal.digits_ne_nil n)
  | null | text _ | texts _ | record _ => simp [prettyAt, literal]

/-- The first item of a row of texts stands on a new line. -/
theorem skipGaps_prettyTexts (level : Nat) (s : String) (more : List String) (rest : List Char) :
    ∃ body, skipGaps (prettyTexts level (s :: more) ++ rest) = '"' :: body := by
  obtain ⟨tail, htail⟩ :
      ∃ tail, prettyTexts level (s :: more) = newLine (level + 1) ++ (literal s ++ tail) := by
    cases more with
    | nil => exact ⟨_, List.append_assoc ..⟩
    | cons t more => exact ⟨_, List.append_assoc ..⟩
  rw [htail, List.append_assoc, List.append_assoc, skipGaps_newLine, skipGaps_literal]
  exact ⟨_, rfl⟩

/-- The first member of a record stands on a new line. -/
theorem skipGaps_prettyMembers (level : Nat) (key : String) (value : Document) (more : Members)
    (rest : List Char) :
    ∃ body, skipGaps (prettyMembers level (.cons key value more) ++ rest) = '"' :: body := by
  obtain ⟨tail, htail⟩ : ∃ tail, prettyMembers level (.cons key value more) =
      newLine (level + 1) ++ (literal key ++ tail) := by
    cases more with
    | nil =>
      refine ⟨':' :: ' ' :: prettyAt (level + 1) value ++ newLine level, ?_⟩
      simp only [prettyMembers, List.append_assoc]
    | cons key' value' more =>
      refine ⟨':' :: ' ' :: prettyAt (level + 1) value ++
        ',' :: prettyMembers level (.cons key' value' more), ?_⟩
      simp only [prettyMembers, List.append_assoc]
  rw [htail, List.append_assoc, List.append_assoc, skipGaps_newLine, skipGaps_literal]
  exact ⟨_, rfl⟩

/-- What stands after a value inside a record does not go on with a number. -/
theorem endsNumber_newLine (level : Nat) (rest : List Char) :
    EndsNumber (newLine level ++ rest) :=
  endsNumber_cons (by decide)

mutual

/-- **The indented form of a document reads back** to its value, whatever comes after it. -/
theorem value?_prettyAt (d : Document) (level fuel : Nat) (rest : List Char)
    (hfuel : (prettyAt level d).length ≤ fuel) (hrest : EndsNumber rest) :
    value? fuel (prettyAt level d ++ rest) = some (d.toValue, rest) := by
  have hpos := length_prettyAt_pos level d
  obtain ⟨fuel, rfl⟩ : ∃ n, fuel = n + 1 := ⟨fuel - 1, by omega⟩
  cases d with
  | null => exact value?_null fuel rest
  | text s => exact value?_literal s fuel rest
  | number n => exact value?_digits n fuel hrest
  | texts items =>
    cases items with
    | nil => exact value?_emptyArray fuel rest
    | cons s more =>
      simp only [prettyAt, List.length_append, List.length_cons] at hfuel
      have hitems := items?_prettyTexts s more level fuel rest (by omega)
      obtain ⟨body, hfirst⟩ := skipGaps_prettyTexts level s more (']' :: rest)
      rw [prettyAt, List.append_assoc, List.cons_append, List.singleton_append,
        value?_array fuel hfirst, hitems]
      rfl
  | record members =>
    cases members with
    | nil => exact value?_emptyObject fuel rest
    | cons key value more =>
      simp only [prettyAt, List.length_append, List.length_cons] at hfuel
      have hmembers :=
        members?_prettyMembers (.cons key value more) nofun level fuel rest (by omega)
      obtain ⟨body, hfirst⟩ := skipGaps_prettyMembers level key value more ('\x7d' :: rest)
      rw [prettyAt, List.append_assoc, List.cons_append, List.singleton_append,
        value?_object fuel hfirst, hmembers]
      rfl

/-- The members of a record read back, up to its closing brace. -/
theorem members?_prettyMembers (members : Members) (hne : members ≠ .nil)
    (level fuel : Nat) (rest : List Char)
    (hfuel : (prettyMembers level members).length ≤ fuel) :
    members? fuel (prettyMembers level members ++ '\x7d' :: rest) =
      some (members.toValues, rest) := by
  match members with
  | .nil => exact absurd rfl hne
  | .cons key value .nil =>
    simp only [prettyMembers, literal, newLine, List.length_append, List.length_cons] at hfuel
    obtain ⟨fuel, rfl⟩ : ∃ n, fuel = n + 1 := ⟨fuel - 1, by omega⟩
    have hvalue := value?_prettyAt value (level + 1) fuel (newLine level ++ '\x7d' :: rest)
      (by omega) (endsNumber_newLine level _)
    have hafter : skipGaps (newLine level ++ '\x7d' :: rest) = '\x7d' :: rest := by
      rw [skipGaps_newLine, skipGaps_cons rfl]
    have hmember := members?_last key (level + 1) hvalue hafter
    simp only [prettyMembers, List.append_assoc, List.cons_append]
    exact hmember
  | .cons key value (.cons key' value' more) =>
    simp only [prettyMembers, literal, newLine, List.length_append, List.length_cons] at hfuel
    obtain ⟨fuel, rfl⟩ : ∃ n, fuel = n + 1 := ⟨fuel - 1, by omega⟩
    have hmore := members?_prettyMembers (.cons key' value' more) nofun level fuel rest (by omega)
    have hvalue := value?_prettyAt value (level + 1) fuel
      (',' :: (prettyMembers level (.cons key' value' more) ++ '\x7d' :: rest))
      (by omega) (endsNumber_cons (by decide))
    have hmember := members?_more key (level + 1) hvalue (skipGaps_cons rfl _)
    rw [hmore] at hmember
    simp only [prettyMembers, List.append_assoc, List.cons_append]
    exact hmember

end

/-- **A document reads back** from its indented form. -/
theorem read?_pretty (d : Document) : read? d.pretty.toList = some d.toValue := by
  have hlength : (prettyAt 0 d).length ≤ 2 * (prettyAt 0 d).length + 2 := by omega
  have hvalue := value?_prettyAt d 0 _ [] hlength endsNumber_nil
  rw [List.append_nil] at hvalue
  rw [Document.pretty, String.toList_ofList, read?, hvalue]
  rfl

end WorkspaceConsole.Json

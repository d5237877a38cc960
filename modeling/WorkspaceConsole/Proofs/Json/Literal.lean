import WorkspaceConsole.Json.Document
import WorkspaceConsole.Json.Reader

/-!
# Literals read back

A string literal reads back to the text that it was written for (`string?_literal`): each character
stands there as itself or as an escape, and `codePoints?` takes either for the same code point. No
code point of a text is half of a surrogate pair, so putting pairs together changes nothing.

A numeral reads back to its own digits (`number?_digits`), provided that the text after it does not
go on with the number.
-/

namespace WorkspaceConsole.Json

/-! ## The characters of a string literal -/

theorem hexValue?_hexDigit {n : Nat} (h : n < 16) : hexValue? (Text.hexDigit n) = some n := by
  revert n
  decide

theorem hexUnit?_hexDigit {n : Nat} (h : n < 0x20) :
    hexUnit? '0' '0' (Text.hexDigit (n / 16)) (Text.hexDigit (n % 16)) = some n := by
  have hzero : hexValue? '0' = some 0 := by decide
  have hhigh : hexValue? (Text.hexDigit (n / 16)) = some (n / 16) := hexValue?_hexDigit (by omega)
  have hlow : hexValue? (Text.hexDigit (n % 16)) = some (n % 16) := hexValue?_hexDigit (by omega)
  have hsum : ((0 * 16 + 0) * 16 + n / 16) * 16 + n % 16 = n := by omega
  simp only [hexUnit?, hzero, hhigh, hlow, Option.bind_eq_bind, Option.bind_some, hsum]
  rfl

/-- What stands for a character is read as the code point of that character. -/
theorem codePoints?_escape (c : Char) (rest : List Char) :
    codePoints? (escape c ++ rest) =
      (codePoints? rest).map fun (ns, out) => (c.toNat :: ns, out) := by
  unfold escape
  split
  case h_8 hquote hbackslash _ _ _ _ _ =>
    split
    next hcontrol =>
      have hunit := hexUnit?_hexDigit hcontrol
      simp only [List.cons_append, List.nil_append, codePoints?, hunit]
    next hplain =>
      have hrefused : ¬ (c.toNat < 0x20 || c == '\\') = true := by simpa [hplain] using hbackslash
      rw [List.singleton_append, codePoints?, if_neg hrefused]
      · exact hquote
      · exact fun _ _ _ _ _ h => absurd h hbackslash
      · exact fun _ _ h => absurd h hbackslash
  all_goals rfl

theorem codePoints?_flatMap_escape (cs rest : List Char) :
    codePoints? (cs.flatMap escape ++ '"' :: rest) = some (cs.map Char.toNat, rest) := by
  induction cs with
  | nil => simp [codePoints?]
  | cons c cs ih =>
    rw [List.flatMap_cons, List.append_assoc, codePoints?_escape, ih]
    rfl

/-- No character is half of a surrogate pair. -/
theorem not_surrogate (c : Char) :
    isHighSurrogate c.toNat = false ∧ isLowSurrogate c.toNat = false := by
  have hvalid : c.toNat < 0xD800 ∨ (0xDFFF < c.toNat ∧ c.toNat < 0x110000) := c.valid
  simp only [isHighSurrogate, isLowSurrogate, Bool.and_eq_false_iff, decide_eq_false_iff_not]
  omega

theorem characters?_map_toNat (cs : List Char) : characters? (cs.map Char.toNat) = some cs := by
  induction cs with
  | nil => rfl
  | cons c cs ih =>
    obtain ⟨hhigh, hlow⟩ := not_surrogate c
    cases cs with
    | nil => simp [characters?, hhigh, hlow]
    | cons d cs =>
      rw [List.map_cons] at ih
      simp [characters?, hhigh, hlow, ih]

/-- **A string literal reads back** after its opening quote. -/
theorem string?_literal (s : String) (rest : List Char) :
    string? (s.toList.flatMap escape ++ '"' :: rest) = some (some s, rest) := by
  rw [string?, codePoints?_flatMap_escape]
  simp [characters?_map_toNat]

/-! ## Numerals -/

/-- The text does not go on with a number that stands before it. -/
def EndsNumber (rest : List Char) : Prop :=
  ∀ c tail, rest = c :: tail → c.isDigit = false ∧ c ≠ '.' ∧ c ≠ 'e' ∧ c ≠ 'E'

theorem endsNumber_nil : EndsNumber [] := by
  intro c tail h
  cases h

theorem endsNumber_cons {c : Char} {tail : List Char}
    (hc : c.isDigit = false ∧ c ≠ '.' ∧ c ≠ 'e' ∧ c ≠ 'E') : EndsNumber (c :: tail) := by
  intro d tail' h
  cases h
  exact hc

/-- Digits are read up to a text that does not begin with one. -/
theorem digits?_append {ds rest : List Char} (hne : ds ≠ []) (hds : ds.all Char.isDigit = true)
    (hrest : EndsNumber rest) : digits? (ds ++ rest) = some (ds, rest) := by
  have hall : ∀ d ∈ ds, d.isDigit = true := List.all_eq_true.1 hds
  have htake : rest.takeWhile Char.isDigit = [] ∧ rest.dropWhile Char.isDigit = rest := by
    cases rest with
    | nil => exact ⟨rfl, rfl⟩
    | cons c tail =>
      have hc := (hrest c tail rfl).1
      simp [hc]
  simp [digits?, List.takeWhile_append_of_pos hall, List.dropWhile_append_of_pos hall, htake, hne]

theorem digits_of_lt {n : Nat} (h : n < 10) : Text.Decimal.digits n = [Text.Decimal.digit n] := by
  rw [Text.Decimal.digits, if_pos h]

/-- A numeral begins with a digit, and only that of zero begins with a zero. -/
theorem digits_eq_cons (n : Nat) :
    ∃ d ds, Text.Decimal.digits n = d :: ds ∧ d.isDigit = true ∧ (d = '0' → n = 0) := by
  induction n using Nat.strongRecOn with
  | ind n ih =>
    by_cases hsmall : n < 10
    · refine ⟨_, [], digits_of_lt hsmall, Text.Decimal.isDigit_digit hsmall, fun hzero => ?_⟩
      have hvalue := Text.Decimal.value_digit hsmall
      rw [hzero] at hvalue
      exact hvalue.symm
    · obtain ⟨d, ds, hds, hdigit, hzero⟩ := ih (n / 10) (by omega)
      refine ⟨d, ds ++ [Text.Decimal.digit (n % 10)], ?_, hdigit, fun h => ?_⟩
      · rw [Text.Decimal.digits, if_neg hsmall, hds, List.cons_append]
      · have hsmaller := hzero h
        omega

theorem whole?_digits (n : Nat) {rest : List Char} (hrest : EndsNumber rest) :
    whole? (Text.Decimal.digits n ++ rest) = some (Text.Decimal.digits n, rest) := by
  by_cases hn : n = 0
  · have hzero : Text.Decimal.digits n = ['0'] := by
      rw [hn, digits_of_lt (by decide)]
      rfl
    rw [hzero, List.singleton_append]
    cases rest with
    | nil => rfl
    | cons c tail =>
      have hc := (hrest c tail rfl).1
      simp [whole?, hc]
  · have hread := digits?_append (Text.Decimal.digits_ne_nil n)
      (Text.Decimal.all_isDigit_digits n) hrest
    obtain ⟨d, ds, hds, -, hd⟩ := digits_eq_cons n
    rw [hds, List.cons_append] at hread ⊢
    rw [whole?]
    · exact hread
    · rintro _ h
      exact hn (hd (List.cons.inj h).1)

theorem fraction?_of_endsNumber {rest : List Char} (hrest : EndsNumber rest) :
    fraction? rest = some ([], rest) := by
  cases rest with
  | nil => rfl
  | cons c tail =>
    rw [fraction?]
    rintro _ h
    exact (hrest c tail rfl).2.1 (List.cons.inj h).1

theorem exponent?_of_endsNumber {rest : List Char} (hrest : EndsNumber rest) :
    exponent? rest = some ([], rest) := by
  cases rest with
  | nil => rfl
  | cons c tail =>
    obtain ⟨-, -, he, hE⟩ := hrest c tail rfl
    simp [exponent?, he, hE]

/-- **A numeral reads back** to its digits. -/
theorem number?_digits (n : Nat) {rest : List Char} (hrest : EndsNumber rest) :
    number? (Text.Decimal.digits n ++ rest) = some (Text.Decimal.digits n, rest) := by
  have hmagnitude : magnitude? (Text.Decimal.digits n ++ rest) =
      some (Text.Decimal.digits n, rest) := by
    simp [magnitude?, whole?_digits n hrest, fraction?_of_endsNumber hrest,
      exponent?_of_endsNumber hrest]
  obtain ⟨d, ds, hds, hdigit, -⟩ := digits_eq_cons n
  rw [hds, List.cons_append] at hmagnitude ⊢
  rw [number?]
  · exact hmagnitude
  · rintro _ h
    rw [(List.cons.inj h).1] at hdigit
    cases hdigit

end WorkspaceConsole.Json

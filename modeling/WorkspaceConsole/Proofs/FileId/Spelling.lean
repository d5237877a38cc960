import Mathlib.Data.Nat.Digits.Defs
import WorkspaceConsole.Store

/-!
# The spellings of an identifier

A number has many decimal numerals, which differ in the zeros in front (`IsNumeral`). An identifier
is spelled by any of them, after `file-` and perhaps a plus sign (`Spells`). The reader accepts the
spellings of the numbers below `2 ^ 64` and no other text (`reads_iff`), so the store takes a text
for an identifier exactly if it spells one (`updates_spelled`).
-/

namespace WorkspaceConsole

namespace Text.Decimal

/-- The characters are a decimal numeral of the number: the last digit counts ones, the one before
it tens, and so on. -/
structure IsNumeral (ds : List Char) (n : Nat) : Prop where
  nonempty : ds ≠ []
  digits : ∀ d ∈ ds, d.isDigit = true
  sum : Nat.ofDigits 10 (ds.reverse.map value) = n

/-- Reading from the front, each digit moves what has been read so far up by one place. -/
theorem accumulate_eq_ofDigits (acc : Nat) (cs : List Char) :
    accumulate acc cs = acc * 10 ^ cs.length + Nat.ofDigits 10 (cs.reverse.map value) := by
  induction cs generalizing acc with
  | nil => simp [accumulate]
  | cons c cs ih =>
    have hstep : accumulate acc (c :: cs) = accumulate (10 * acc + value c) cs := rfl
    rw [hstep, ih]
    simp only [List.reverse_cons, List.map_append, List.map_cons, List.map_nil,
      Nat.ofDigits_append, Nat.ofDigits_singleton, List.length_map, List.length_reverse,
      List.length_cons, pow_succ]
    ring

theorem read?_eq_some_iff {cs : List Char} {n : Nat} : read? cs = some n ↔ IsNumeral cs n := by
  have hvalue : accumulate 0 cs = Nat.ofDigits 10 (cs.reverse.map value) := by
    simp [accumulate_eq_ofDigits]
  unfold read?
  split
  · next hrefused =>
    constructor
    · intro h
      cases h
    · intro h
      rcases (by simpa using hrefused) with hnil | ⟨d, hd, hother⟩
      · exact absurd hnil h.nonempty
      · simp [h.digits d hd] at hother
  · next haccepted =>
    simp only [Bool.or_eq_true, Bool.not_eq_true', not_or, List.isEmpty_iff,
      Bool.not_eq_false, List.all_eq_true] at haccepted
    constructor
    · intro h
      refine ⟨haccepted.1, haccepted.2, ?_⟩
      rw [← hvalue]
      exact Option.some.inj h
    · intro h
      rw [hvalue, h.sum]

/-- The digits that are written are a numeral. -/
theorem isNumeral_digits (n : Nat) : IsNumeral (digits n) n :=
  read?_eq_some_iff.1 (read?_digits n)

/-- A numeral is read if its number fits into 64 bits. -/
theorem readBounded?_eq_some_iff {cs : List Char} {n : Nat} :
    (readBounded? cs).map UInt64.toNat = some n ↔ IsNumeral cs n ∧ n < UInt64.size := by
  rw [← read?_eq_some_iff]
  unfold readBounded?
  cases read? cs with
  | none => simp
  | some m =>
    by_cases hm : m < UInt64.size
    · have hword : (UInt64.ofNat m).toNat = m := UInt64.toNat_ofNat_of_lt' hm
      simp only [hm, if_true, Option.map_some, hword, Option.some.injEq]
      constructor
      · rintro rfl
        exact ⟨rfl, hm⟩
      · exact And.left
    · simp only [hm, if_false, Option.map_none, Option.some.injEq]
      constructor
      · intro h
        cases h
      · rintro ⟨rfl, hn⟩
        exact absurd hn hm

/-- A plus sign is no digit. -/
theorem not_isNumeral_plus (cs : List Char) (n : Nat) : ¬ IsNumeral ('+' :: cs) n := by
  intro h
  have hplus := h.digits '+' List.mem_cons_self
  revert hplus
  decide

/-- A number is read from a numeral, with or without a plus sign in front of it. -/
theorem readWord?_eq_some_iff {cs : List Char} {n : Nat} :
    (readWord? cs).map UInt64.toNat = some n ↔
      (∃ ds, (cs = ds ∨ cs = '+' :: ds) ∧ IsNumeral ds n) ∧ n < UInt64.size := by
  unfold readWord?
  split
  · next ds =>
    rw [readBounded?_eq_some_iff]
    refine and_congr_left fun _ => ?_
    constructor
    · intro h
      exact ⟨ds, .inr rfl, h⟩
    · rintro ⟨ds', rfl | hds, h⟩
      · exact absurd h (not_isNumeral_plus ds n)
      · cases hds
        exact h
  · next hplus =>
    rw [readBounded?_eq_some_iff]
    refine and_congr_left fun _ => ?_
    constructor
    · intro h
      exact ⟨cs, .inl rfl, h⟩
    · rintro ⟨ds, rfl | hds, h⟩
      · exact h
      · exact absurd hds (hplus ds)

end Text.Decimal

namespace FileId

open Text

/-- The text spells a number as that of a file: a numeral of it stands after `file-`, or after
`file-+`. -/
inductive Spells : String → Nat → Prop
  | plain {ds : List Char} {n : Nat} :
      Decimal.IsNumeral ds n → Spells ("file-" ++ String.ofList ds) n
  | signed {ds : List Char} {n : Nat} :
      Decimal.IsNumeral ds n → Spells ("file-+" ++ String.ofList ds) n

theorem spells_iff {text : String} {n : Nat} :
    Spells text n ↔
      ∃ cs, text.toList = 'f' :: 'i' :: 'l' :: 'e' :: '-' :: cs ∧
        ∃ ds, (cs = ds ∨ cs = '+' :: ds) ∧ Decimal.IsNumeral ds n := by
  constructor
  · intro h
    cases h with
    | plain h => exact ⟨_, by simp, _, .inl rfl, h⟩
    | signed h => exact ⟨_, by simp, _, .inr rfl, h⟩
  · rintro ⟨cs, htext, ds, hcs, h⟩
    rcases hcs with hcs | hcs
    · have hplain : text = "file-" ++ String.ofList ds :=
        String.toList_injective (by simp [htext, hcs])
      rw [hplain]
      exact .plain h
    · have hsigned : text = "file-+" ++ String.ofList ds :=
        String.toList_injective (by simp [htext, hcs])
      rw [hsigned]
      exact .signed h

/-- **What is read as an identifier**: the spellings of the numbers that fit into 64 bits. -/
theorem reads_iff {text : String} {n : Nat} :
    (ofString? text).map (·.raw.toNat) = some n ↔ Spells text n ∧ n < UInt64.size := by
  rw [spells_iff]
  unfold ofString? ofChars?
  split
  · next cs htext =>
    have hraw : ((Decimal.readWord? cs).map FileId.mk).map (·.raw.toNat) =
        (Decimal.readWord? cs).map UInt64.toNat := by
      rw [Option.map_map]
      rfl
    rw [hraw, Decimal.readWord?_eq_some_iff]
    refine and_congr_left fun _ => ?_
    constructor
    · intro h
      exact ⟨cs, htext, h⟩
    · rintro ⟨cs', htext', h⟩
      rw [htext] at htext'
      cases htext'
      exact h
  · next hother =>
    constructor
    · intro h
      cases h
    · rintro ⟨⟨cs, htext, -⟩, -⟩
      exact absurd htext (hother cs)

theorem ofString?_of_spells {text : String} {id : FileId} (h : Spells text id.raw.toNat) :
    ofString? text = some id := by
  have hread := reads_iff.2 ⟨h, id.raw.toNat_lt⟩
  obtain ⟨read, hread, hraw⟩ := Option.map_eq_some_iff.1 hread
  rw [hread]
  exact congrArg (some ∘ FileId.mk) (UInt64.toNat.inj hraw)

/-- The written form of an identifier spells it. -/
theorem spells_display (id : FileId) : Spells id.display id.raw.toNat :=
  .plain (Decimal.isNumeral_digits _)

end FileId

namespace Store

open FileId

/-- **Files by the written form of their identifier.** Every identifier is read from the form in
which it is written. A text is read as the identifier with the number `n` if and only if it spells
`n` and `n` fits into 64 bits. To edit a file by any spelling of its identifier is to edit it by the
identifier itself, and a text that spells none is told back as that of a missing file. -/
theorem updates_spelled (s : Store) (text content : String) :
    (∀ id : FileId, ofString? id.display = some id) ∧
      (∀ n : Nat, (ofString? text).map (·.raw.toNat) = some n ↔ Spells text n ∧ n ≤ 2 ^ 64 - 1) ∧
      (∀ id : FileId, Spells text id.raw.toNat →
        let (result, s') := s.dispatch (.updateFileContent id content)
        s.updateFileContent text content = (result.map fun _ => (), s')) ∧
      ((∀ n ≤ 2 ^ 64 - 1, ¬ Spells text n) →
        s.updateFileContent text content = (.error (.fileNotFound text), s)) := by
  refine ⟨?_, ?_, ?_, ?_⟩
  · intro id
    exact ofString?_of_spells id.spells_display
  · intro n
    have hsize : n < UInt64.size ↔ n ≤ 2 ^ 64 - 1 := by
      rw [UInt64.size]
      omega
    rw [reads_iff, hsize]
  · intro id hspelled
    rw [updateFileContent, ofString?_of_spells hspelled]
  · intro hother
    have hunread : ofString? text = none := by
      cases hread : ofString? text with
      | none => rfl
      | some id =>
        obtain ⟨hspelled, hsize⟩ := reads_iff.1 (congrArg (Option.map (·.raw.toNat)) hread)
        rw [UInt64.size] at hsize
        exact absurd hspelled (hother _ (by omega))
    rw [updateFileContent, hunread]

/-- A plus sign and zeros in front lead to the same file. The number after the last one of the range
leads to none. -/
theorem updates_spelled_zeros :
    let s := ((empty.dispatch (.createRootFolder "src")).2.createFile "src" "Main.java").2
    Spells "file-+0001" 1 ∧
      (s.updateFileContent "file-+0001" "new").1 = .ok () ∧
      (s.updateFileContent "file-+0001" "new").2.roots.files = [⟨⟨1⟩, "Main.java", "new"⟩] ∧
      (∀ n ≤ 2 ^ 64 - 1, ¬ Spells "file-18446744073709551616" n) ∧
      s.updateFileContent "file-18446744073709551616" "new" =
        (.error (.fileNotFound "file-18446744073709551616"), s) := by
  intro s
  have hspelled : Spells "file-+0001" 1 :=
    @Spells.signed ['0', '0', '0', '1'] 1 ⟨by decide, List.all_eq_true.1 rfl, by decide⟩
  obtain ⟨-, -, hedit, -⟩ := s.updates_spelled "file-+0001" "new"
  have hedited := hedit ⟨1⟩ hspelled
  obtain ⟨-, hread, -, hmissing⟩ := s.updates_spelled "file-18446744073709551616" "new"
  have hbeyond : ∀ n ≤ 2 ^ 64 - 1, ¬ Spells "file-18446744073709551616" n := by
    intro n hn hspells
    have hnone : ofString? "file-18446744073709551616" = none := by decide
    have hsome := (hread n).2 ⟨hspells, hn⟩
    rw [hnone] at hsome
    cases hsome
  refine ⟨hspelled, ?_, ?_, hbeyond, hmissing hbeyond⟩
  · rw [hedited]
    decide
  · rw [hedited]
    decide

end Store

end WorkspaceConsole

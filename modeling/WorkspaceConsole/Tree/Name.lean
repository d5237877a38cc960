import WorkspaceConsole.Text.Blank

/-!
# Names of folders and files

A name is not empty and holds neither a slash nor a blank. A slash would make path keys
ambiguous, and a blank would make a name unusable as a word of a command line.
-/

namespace WorkspaceConsole

/-- Whether a text may name a folder or a file. -/
def isValidName (name : String) : Bool :=
  !name.toList.isEmpty && name.toList.all fun c => c ≠ '/' && !Text.isBlank c

/-- The rule for names as a proposition. -/
structure ValidName (name : String) : Prop where
  nonempty : name.toList ≠ []
  noSlash : '/' ∉ name.toList
  noBlank : ∀ c ∈ name.toList, Text.isBlank c = false

theorem isValidName_iff (name : String) : isValidName name = true ↔ ValidName name := by
  constructor
  · intro h
    simp only [isValidName, Bool.and_eq_true, List.all_eq_true, Bool.not_eq_true',
      List.isEmpty_eq_false_iff, decide_eq_true_eq] at h
    exact ⟨h.1, fun hs => (h.2 _ hs).1 rfl, fun c hc => (h.2 c hc).2⟩
  · intro h
    simp only [isValidName, Bool.and_eq_true, List.all_eq_true, Bool.not_eq_true',
      List.isEmpty_eq_false_iff, decide_eq_true_eq]
    exact ⟨h.nonempty, fun c hc => ⟨fun e => h.noSlash (e ▸ hc), h.noBlank c hc⟩⟩

end WorkspaceConsole

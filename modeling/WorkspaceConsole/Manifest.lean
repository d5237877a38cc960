import WorkspaceConsole.Json.Document
import WorkspaceConsole.Json.Fields

/-!
# Package manifests

A manifest names a package, its version and the packages that it depends on. The dependencies form
a map, kept sorted by key; the order of texts is that of their code points, which is also the order
of their UTF-8 bytes.
-/

namespace WorkspaceConsole

/-- Sets the value of a key in a row of entries sorted by key. -/
def setEntry (key value : String) : List (String × String) → List (String × String)
  | [] => [(key, value)]
  | (k, v) :: rest =>
    if key = k then (key, value) :: rest
    else if key < k then (key, value) :: (k, v) :: rest
    else (k, v) :: setEntry key value rest

theorem fst_mem_setEntry {key value : String} {entries : List (String × String)}
    {e : String × String} (h : e ∈ setEntry key value entries) : e.1 = key ∨ e ∈ entries := by
  induction entries with
  | nil => simp_all [setEntry]
  | cons e' rest ih =>
    obtain ⟨k, v⟩ := e'
    simp only [setEntry] at h
    split at h
    · rcases List.mem_cons.1 h with rfl | h
      · exact .inl rfl
      · exact .inr (List.mem_cons_of_mem _ h)
    · split at h
      · rcases List.mem_cons.1 h with rfl | h
        · exact .inl rfl
        · exact .inr h
      · rcases List.mem_cons.1 h with rfl | h
        · exact .inr (List.mem_cons_self ..)
        · exact (ih h).imp id (List.mem_cons_of_mem _)

/-- A row of entries in which the keys increase. -/
def Sorted (entries : List (String × String)) : Prop :=
  entries.Pairwise fun a b => a.1 < b.1

theorem sorted_setEntry {key value : String} {entries : List (String × String)}
    (h : Sorted entries) : Sorted (setEntry key value entries) := by
  induction entries with
  | nil => simp [setEntry, Sorted]
  | cons e rest ih =>
    obtain ⟨k, v⟩ := e
    have ⟨hk, hrest⟩ := List.pairwise_cons.1 h
    simp only [setEntry]
    split
    · next he => subst he; exact List.pairwise_cons.2 ⟨hk, hrest⟩
    · split
      · next hlt =>
        refine List.pairwise_cons.2 ⟨fun e he => ?_, h⟩
        rcases List.mem_cons.1 he with rfl | he
        · exact hlt
        · exact String.lt_trans hlt (hk e he)
      · next hne hnlt =>
        refine List.pairwise_cons.2 ⟨fun e he => ?_, ih hrest⟩
        rcases fst_mem_setEntry he with heq | he
        · have hle : k ≤ key := String.not_lt.1 hnlt
          rw [heq]
          exact Classical.byContradiction fun hn =>
            hne (String.le_antisymm (String.not_lt.1 hn) hle)
        · exact hk e he

/-- A map from texts to texts. -/
structure Dependencies where
  entries : List (String × String)
  sorted : Sorted entries

namespace Dependencies

instance : DecidableEq Dependencies := fun a b =>
  decidable_of_iff (a.entries = b.entries) (by cases a; cases b; simp)

/-- The map without entries. -/
def empty : Dependencies := ⟨[], List.Pairwise.nil⟩

/-- Sets the value of a key. -/
def insert (d : Dependencies) (key value : String) : Dependencies :=
  ⟨setEntry key value d.entries, sorted_setEntry d.sorted⟩

/-- The map of a list of entries; of those with one key the last counts. -/
def ofList (entries : List (String × String)) : Dependencies :=
  entries.foldl (fun d (key, value) => d.insert key value) empty

end Dependencies

/-- The description of a package. -/
structure Manifest where
  name : String
  version : String
  dependencies : Dependencies
deriving DecidableEq

namespace Manifest

/-- The first version of a package without dependencies. -/
def initial (name : String) : Manifest := ⟨name, "1.0.0", .empty⟩

/-- The document of a manifest. -/
def toDocument (m : Manifest) : Json.Document :=
  .ofList [
    ("name", .text m.name),
    ("version", .text m.version),
    ("dependencies", .ofList (m.dependencies.entries.map fun (k, v) => (k, .text v)))]

/-- The text of a manifest. -/
def toJson (m : Manifest) : String :=
  m.toDocument.pretty

/-- The entry that a member of an object stands for. -/
def entry? : Option String × Json.Value → Option (String × String)
  | (some key, .string value) => some (key, value)
  | _ => none

/-- The dependencies that an object stands for. -/
def dependencies? : Json.Value → Option Dependencies
  | .object members => (members.mapM entry?).map .ofList
  | _ => none

/-- The manifest that a value stands for: all three fields are required. -/
def ofValue? (v : Json.Value) : Option Manifest :=
  match v.fields? ["name", "version", "dependencies"] with
  | some [some name, some version, some dependencies] => do
    return ⟨← name.text?, ← version.text?, ← dependencies? dependencies⟩
  | _ => none

/-- Reads the text of a manifest. -/
def ofJson? (s : String) : Option Manifest :=
  (Json.read? s.toList).bind ofValue?

end Manifest

end WorkspaceConsole

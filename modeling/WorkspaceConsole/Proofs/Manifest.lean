import WorkspaceConsole.Proofs.Json.Fields
import WorkspaceConsole.Scaffold

/-!
# Manifests read back

The text of a manifest reads back to that manifest, whatever characters stand in its texts
(`reads_back`). The object of the dependencies lists them by increasing keys. A reader puts one
after the other into a map, each behind those that are there already, so it ends with the map that
was written.
-/

namespace WorkspaceConsole

/-! ## Maps -/

/-- A key above all others goes to the end. -/
theorem setEntry_of_forall_lt {key value : String} {entries : List (String × String)}
    (h : ∀ e ∈ entries, e.1 < key) : setEntry key value entries = entries ++ [(key, value)] := by
  induction entries with
  | nil => rfl
  | cons e rest ih =>
    obtain ⟨k, v⟩ := e
    obtain ⟨hlt, hrest⟩ := List.forall_mem_cons.1 h
    have hne : key ≠ k := fun he => String.lt_irrefl k (he ▸ hlt)
    have hnot : ¬ key < k := fun hkey => String.lt_irrefl k (String.lt_trans hlt hkey)
    rw [setEntry, if_neg hne, if_neg hnot, ih hrest, List.cons_append]

namespace Dependencies

/-- Entries with increasing keys come to stand behind the smaller ones that are there already. -/
theorem entries_foldl_insert (d : Dependencies) {entries : List (String × String)}
    (h : Sorted (d.entries ++ entries)) :
    (entries.foldl (fun d (key, value) => d.insert key value) d).entries =
      d.entries ++ entries := by
  induction entries generalizing d with
  | nil => exact (List.append_nil _).symm
  | cons e rest ih =>
    obtain ⟨key, value⟩ := e
    have hbelow : ∀ e ∈ d.entries, e.1 < key := fun e he =>
      (List.pairwise_append.1 h).2.2 e he (key, value) List.mem_cons_self
    have hinsert : (d.insert key value).entries = d.entries ++ [(key, value)] :=
      setEntry_of_forall_lt hbelow
    have hsorted : Sorted ((d.insert key value).entries ++ rest) := by
      rw [hinsert, List.append_assoc]
      exact h
    rw [List.foldl_cons, ih _ hsorted, hinsert, List.append_assoc]
    rfl

/-- **A map is that of its entries.** -/
theorem ofList_entries (d : Dependencies) : ofList d.entries = d := by
  have hentries : (ofList d.entries).entries = d.entries := entries_foldl_insert empty d.sorted
  cases hd : ofList d.entries
  cases d
  simp_all

end Dependencies

namespace Manifest

open Json

theorem mapM_entry (entries : List (String × String)) :
    (entries.map fun e => (some e.1, Value.string e.2)).mapM entry? = some entries := by
  induction entries with
  | nil => rfl
  | cons e rest ih => simp [ entry?, ih]

/-- The object of a map is read as that map. -/
theorem dependencies?_toValue (d : Dependencies) :
    dependencies? (Document.ofList (d.entries.map fun (k, v) => (k, .text v))).toValue =
      some d := by
  have hentries := mapM_entry d.entries
  rw [toValue_ofList, List.map_map, dependencies?]
  change (List.mapM entry? (d.entries.map fun e => (some e.1, Value.string e.2))).map _ = _
  rw [hentries, Option.map_some, Dependencies.ofList_entries]

theorem ofValue?_toDocument (m : Manifest) : ofValue? m.toDocument.toValue = some m := by
  have hnames : ["name", "version", "dependencies"].Nodup := by decide
  have hfields : m.toDocument.toValue.fields? ["name", "version", "dependencies"] =
      some
        [some (.string m.name), some (.string m.version),
          some (Document.ofList (m.dependencies.entries.map fun (k, v) => (k, .text v))).toValue] :=
    fields?_ofList hnames hnames
  have hdependencies := dependencies?_toValue m.dependencies
  rw [ofValue?, hfields]
  simp [Value.text?, hdependencies]

/-- The text of a manifest reads back to it. -/
theorem ofJson?_toJson (m : Manifest) : ofJson? m.toJson = some m := by
  rw [ofJson?, toJson, read?_pretty, Option.bind_some, ofValue?_toDocument]

/-- **Manifests read back.** The text of every manifest reads back to it. In particular, of the
files of a new application just one is called `package.json`, and that reads back to the first
version of a package with the name of the application, which depends on nothing. -/
theorem reads_back :
    (∀ m : Manifest, ofJson? m.toJson = some m) ∧
      ∀ app : String, ∃ content,
        ((Scaffold.templates app).flatMap FolderTemplate.files).filter (·.1 = "package.json") =
            [("package.json", content)] ∧
          ofJson? content = some ⟨app, "1.0.0", .empty⟩ := by
  refine ⟨ofJson?_toJson, fun app => ⟨(initial app).toJson, ?_, ofJson?_toJson (initial app)⟩⟩
  simp [Scaffold.templates, Scaffold.files, FolderTemplate.empty]

end Manifest

end WorkspaceConsole

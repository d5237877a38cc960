import WorkspaceConsole.Proofs.Json.Fields
import WorkspaceConsole.Settings

/-!
# Settings read back

The settings are written as an object of sections, and each section as an object of fields. A
settings file may leave out any of them: what is there counts, and what is missing has its default
(`reads_what_is_kept`). A missing shell root is not written at all, while a missing welcome is
written as `null`; so the default welcome stands in only where the field itself is left out.
-/

namespace WorkspaceConsole.Settings

open Json

/-- The settings without the fields that are not kept: in the place of each, or of all fields of a
section that is not kept, stands a default. A section is kept by its key, and a field by the keys of
its section and of its own. -/
def keeping (keep : List String → Bool) (s : Settings) : Settings where
  bridge :=
    { mode := if keep ["bridge"] && keep ["bridge", "mode"] then s.bridge.mode else .simulated
      endpoint :=
        if keep ["bridge"] && keep ["bridge", "endpoint"] then s.bridge.endpoint
        else "http://localhost:5000"
      timeoutMs :=
        if keep ["bridge"] && keep ["bridge", "timeout_ms"] then s.bridge.timeoutMs else 30000
      shellRoot :=
        if keep ["bridge"] && keep ["bridge", "shell_root"] then s.bridge.shellRoot else none }
  terminal :=
    { welcome :=
        if keep ["terminal"] && keep ["terminal", "welcome"] then s.terminal.welcome
        else some "Welcome to the terminal!" }
  workspace :=
    { seedFolders :=
        if keep ["workspace"] && keep ["workspace", "seed_folders"] then s.workspace.seedFolders
        else [] }

variable (keep : List String → Bool)

/-! ## Fields -/

theorem word?_digits (n : UInt64) :
    Value.word? (.number (Text.Decimal.digits n.toNat)) = some n := by
  have hsize : n.toNat < UInt64.size := n.toNat_lt
  simp [Value.word?, Text.Decimal.readBounded?, Text.Decimal.read?_digits, hsize]

theorem texts?_map_string (items : List String) :
    Value.texts? (.array (items.map .string)) = some items := by
  have hitems : (items.map Value.string).mapM Value.text? = some items := by
    induction items with
    | nil => rfl
    | cons item items ih => simp [Value.text?, ih]
  exact hitems

theorem mode?_label (m : ExecutionMode) : mode? (.string m.label) = some m :=
  m.ofLabel?_label

theorem nullable_optionalText (text : Option String) :
    nullable Value.text? (optionalText text).toValue = some text := by
  cases text <;> rfl

/-- A field that is not kept has its default, and one that is kept is read as before. -/
theorem fieldOr_ite {α : Type} {fallback : α} {read : Value → Option α} {found : Option Value}
    {x : α} (h : fieldOr fallback read found = some x) (kept : Bool) :
    fieldOr fallback read (if kept then found else none) =
      some (if kept then x else fallback) := by
  cases kept with
  | false => rfl
  | true => exact h

/-! ## Sections -/

/-- The members of the section on the bridge that are kept. A missing shell root is never there. -/
theorem fields?_bridge (b : BridgeSettings) :
    ((Document.ofList (bridgeMembers b)).prune keep ["bridge"]).toValue.fields?
        ["mode", "endpoint", "timeout_ms", "shell_root"] =
      some
        [if keep ["bridge", "mode"] then some (.string b.mode.label) else none,
          if keep ["bridge", "endpoint"] then some (.string b.endpoint) else none,
          if keep ["bridge", "timeout_ms"] then
            some (.number (Text.Decimal.digits b.timeoutMs.toNat))
          else none,
          if keep ["bridge", "shell_root"] then b.shellRoot.map .string else none] := by
  have hnames : ["mode", "endpoint", "timeout_ms", "shell_root"].Nodup := by decide
  have hshort : ["mode", "endpoint", "timeout_ms"].Nodup := by decide
  rw [bridgeMembers]
  cases b.shellRoot with
  | none => exact fields?_prune hnames hshort
  | some root => exact fields?_prune hnames hnames

/-- The section on the bridge, read from those of its members that are kept. -/
theorem bridge?_prune (b : BridgeSettings) :
    bridge? ((Document.ofList (bridgeMembers b)).prune keep ["bridge"]).toValue =
      some
        { mode := if keep ["bridge", "mode"] then b.mode else .simulated
          endpoint := if keep ["bridge", "endpoint"] then b.endpoint else "http://localhost:5000"
          timeoutMs := if keep ["bridge", "timeout_ms"] then b.timeoutMs else 30000
          shellRoot := if keep ["bridge", "shell_root"] then b.shellRoot else none } := by
  have hmode : fieldOr .simulated mode? (some (.string b.mode.label)) = some b.mode :=
    mode?_label b.mode
  have hendpoint : fieldOr "http://localhost:5000" Value.text? (some (.string b.endpoint)) =
      some b.endpoint := rfl
  have htimeout : fieldOr 30000 Value.word?
      (some (.number (Text.Decimal.digits b.timeoutMs.toNat))) = some b.timeoutMs :=
    word?_digits b.timeoutMs
  have hroot : fieldOr none (nullable Value.text?) (b.shellRoot.map Value.string) =
      some b.shellRoot := by
    cases b.shellRoot <;> rfl
  rw [bridge?, fields?_bridge]
  simp [fieldOr_ite hmode, fieldOr_ite hendpoint, fieldOr_ite htimeout, fieldOr_ite hroot]

/-- The section on the terminal, read from its member if that is kept. -/
theorem terminal?_prune (t : TerminalSettings) :
    terminal? ((Document.ofList [("welcome", optionalText t.welcome)]).prune keep
        ["terminal"]).toValue =
      some
        { welcome :=
            if keep ["terminal", "welcome"] then t.welcome
            else some "Welcome to the terminal!" } := by
  have hfields : ((Document.ofList [("welcome", optionalText t.welcome)]).prune keep
      ["terminal"]).toValue.fields? ["welcome"] =
      some [if keep ["terminal", "welcome"] then some (optionalText t.welcome).toValue
        else none] := by
    cases t.welcome <;> exact fields?_prune (List.nodup_singleton _) (List.nodup_singleton _)
  have hwelcome : fieldOr (some "Welcome to the terminal!") (nullable Value.text?)
      (some (optionalText t.welcome).toValue) = some t.welcome :=
    nullable_optionalText t.welcome
  rw [terminal?, hfields]
  simp [fieldOr_ite hwelcome]

/-- The section on the workspace, read from its member if that is kept. -/
theorem workspace?_prune (w : WorkspaceSettings) :
    workspace? ((Document.ofList [("seed_folders", .texts w.seedFolders)]).prune keep
        ["workspace"]).toValue =
      some { seedFolders := if keep ["workspace", "seed_folders"] then w.seedFolders else [] } := by
  have hfields : ((Document.ofList [("seed_folders", .texts w.seedFolders)]).prune keep
      ["workspace"]).toValue.fields? ["seed_folders"] =
      some [if keep ["workspace", "seed_folders"] then
        some (.array (w.seedFolders.map .string)) else none] :=
    fields?_prune (List.nodup_singleton _) (List.nodup_singleton _)
  have hfolders : fieldOr [] Value.texts? (some (.array (w.seedFolders.map .string))) =
      some w.seedFolders :=
    texts?_map_string w.seedFolders
  rw [workspace?, hfields]
  simp [fieldOr_ite hfolders]

/-! ## The whole -/

/-- The sections that are kept. -/
theorem fields?_toDocument (s : Settings) :
    (s.toDocument.prune keep []).toValue.fields? ["bridge", "terminal", "workspace"] =
      some
        [if keep ["bridge"] then
            some ((Document.ofList (bridgeMembers s.bridge)).prune keep ["bridge"]).toValue
          else none,
          if keep ["terminal"] then
            some ((Document.ofList [("welcome", optionalText s.terminal.welcome)]).prune keep
              ["terminal"]).toValue
          else none,
          if keep ["workspace"] then
            some ((Document.ofList [("seed_folders", .texts s.workspace.seedFolders)]).prune keep
              ["workspace"]).toValue
          else none] := by
  have hnames : ["bridge", "terminal", "workspace"].Nodup := by decide
  exact fields?_prune hnames hnames

/-- The settings, read from the sections and fields that are kept. -/
theorem ofValue?_prune (s : Settings) :
    ofValue? (s.toDocument.prune keep []).toValue = some (s.keeping keep) := by
  have hbridge : fieldOr {} bridge? (some _) = _ := bridge?_prune keep s.bridge
  have hterminal : fieldOr {} terminal? (some _) = _ := terminal?_prune keep s.terminal
  have hworkspace : fieldOr {} workspace? (some _) = _ := workspace?_prune keep s.workspace
  rw [ofValue?, fields?_toDocument]
  simp only [Option.bind_eq_bind, Option.bind_some, fieldOr_ite hbridge, fieldOr_ite hterminal,
    fieldOr_ite hworkspace, keeping]
  -- a section that is not kept is left with the defaults of all its fields
  cases keep ["bridge"] <;> cases keep ["terminal"] <;> cases keep ["workspace"] <;> simp

/-- Where everything is kept, nothing has its default. -/
theorem keeping_all (s : Settings) : s.keeping (fun _ => true) = s := by
  simp [keeping]

/-- **Settings read back, and what is left out has its default.** The text of any settings reads
back to them. When any sections, and any fields of sections, are taken out of their document, the
value of what is left and its text are still read, as the settings in which exactly the missing
fields have their defaults. So a welcome that is there as `null` stays missing. -/
theorem reads_what_is_kept (s : Settings) :
    ofJson? s.toJson = some s ∧
      ∀ keep : List String → Bool,
        ofValue? (s.toDocument.prune keep []).toValue = some (s.keeping keep) ∧
          ofJson? (s.toDocument.prune keep []).pretty = some (s.keeping keep) := by
  have hpruned (keep : List String → Bool) :
      ofJson? (s.toDocument.prune keep []).pretty = some (s.keeping keep) := by
    rw [ofJson?, read?_pretty, Option.bind_some, ofValue?_prune]
  have hall : ofJson? s.toJson = some s := by
    have hkept := hpruned fun _ => true
    rw [Document.prune_all, keeping_all] at hkept
    exact hkept
  exact ⟨hall, fun keep => ⟨ofValue?_prune keep s, hpruned keep⟩⟩

end WorkspaceConsole.Settings

import Mathlib.Data.List.Nodup
import WorkspaceConsole.Json.Fields
import WorkspaceConsole.Proofs.Json.Document

/-!
# Fields of a record

A reader of a record finds in each field the member of that name, if there is one, whatever the
order of the members is and whatever else there is beside them (`fields?_ofList`). Of an object with
any keys, it refuses those that give a name twice (`fields?_object_eq_some_iff`).

A document from which members have been taken out, at any depth, is a record of the members that
have been kept (`prune_ofList`). So its reader finds the fields that have been kept.
-/

namespace WorkspaceConsole.Json

/-! ## Slots -/

variable {names : List String}

/-- To fill the slot of a name is to change what is found under that name. -/
theorem set_map (hnames : names.Nodup) {key : String} {i : Nat} (hi : names.idxOf? key = some i)
    (found : String → Option Value) (value : Value) :
    (names.map found).set i (some value) =
      names.map fun name => if name = key then some value else found name := by
  obtain ⟨hlt, rfl, -⟩ := List.idxOf?_eq_some_iff.1 hi
  refine List.ext_getElem (by simp) fun j hj _ => ?_
  have hj' : j < names.length := by simpa using hj
  by_cases hij : i = j
  · subst hij
    simp
  · have hne : names[j] ≠ names[i] := fun h => hij (hnames.getElem_inj_iff.1 h).symm
    simp [hij, hne]

/-- The values of the members with a key, in order. -/
def valuesOf (members : List (Option String × Value)) (name : String) : List Value :=
  (members.filter (·.1 = some name)).map Prod.snd

theorem valuesOf_cons_self (name : String) (value : Value)
    (members : List (Option String × Value)) :
    valuesOf ((some name, value) :: members) name = value :: valuesOf members name := by
  simp [valuesOf]

theorem valuesOf_cons_of_ne {key name : String} (h : key ≠ name) (value : Value)
    (members : List (Option String × Value)) :
    valuesOf ((some key, value) :: members) name = valuesOf members name := by
  simp [valuesOf, h]

/-- Every name has at most one of its values, and this is what its slot holds. -/
structure Filled (names : List String) (values : String → List Value)
    (slots : List (Option Value)) : Prop where
  once : ∀ name ∈ names, (values name).length ≤ 1
  slots : slots = names.map fun name => (values name).head?

theorem filled_toList (found : String → Option Value) (slots : List (Option Value)) :
    Filled names (fun name => (found name).toList) slots ↔ slots = names.map found := by
  have hhead : (fun name => (found name).toList.head?) = found := by
    funext name
    cases found name <;> rfl
  constructor
  · rintro ⟨-, rfl⟩
    rw [hhead]
  · rintro rfl
    refine ⟨?_, by rw [hhead]⟩
    intro name _
    cases found name <;> simp

theorem Filled.congr {values values' : String → List Value} {slots : List (Option Value)}
    (h : ∀ name ∈ names, values name = values' name) (hfilled : Filled names values slots) :
    Filled names values' slots := by
  obtain ⟨honce, rfl⟩ := hfilled
  refine ⟨?_, List.map_congr_left ?_⟩
  · intro name hname
    rw [← h name hname]
    exact honce name hname
  · intro name hname
    rw [h name hname]

theorem filled_congr {values values' : String → List Value}
    (h : ∀ name ∈ names, values name = values' name) (slots : List (Option Value)) :
    Filled names values slots ↔ Filled names values' slots :=
  ⟨.congr h, .congr fun name hname => (h name hname).symm⟩

/-- Filling goes on from the values `found` exactly if all keys are texts and no name gets a second
value. -/
theorem fillSlots_eq_some_iff (hnames : names.Nodup) (members : List (Option String × Value))
    (found : String → Option Value) (slots : List (Option Value)) :
    fillSlots names (names.map found) members = some slots ↔
      (∀ member ∈ members, member.1 ≠ none) ∧
        Filled names (fun name => (found name).toList ++ valuesOf members name) slots := by
  induction members generalizing found with
  | nil =>
    have hnone : ∀ name, valuesOf [] name = [] := fun _ => rfl
    simp [fillSlots, hnone, filled_toList, eq_comm]
  | cons member members ih =>
    obtain ⟨key, value⟩ := member
    cases key with
    | none => simp [fillSlots]
    | some key =>
      have hkeys : (∀ member ∈ (some key, value) :: members, member.1 ≠ none) ↔
          ∀ member ∈ members, member.1 ≠ none := by simp
      rw [fillSlots, hkeys]
      cases hi : names.idxOf? key with
      | none =>
        have hmissing : key ∉ names := List.idxOf?_eq_none_iff.1 hi
        rw [ih, filled_congr]
        intro name hname
        rw [valuesOf_cons_of_ne]
        rintro rfl
        exact hmissing hname
      | some i =>
        obtain ⟨hlt, hname, -⟩ := List.idxOf?_eq_some_iff.1 hi
        have hslot : (names.map found)[i]? = some (found key) := by
          rw [List.getElem?_map, List.getElem?_eq_getElem hlt, hname]
          rfl
        cases hfound : found key with
        | some first =>
          -- The name has its value already, so with this one it has two.
          simp only [hslot, hfound, reduceCtorEq, false_iff]
          rintro ⟨-, honce, -⟩
          have hmem : key ∈ names := hname ▸ List.getElem_mem hlt
          have htwo := honce key hmem
          simp [hfound, valuesOf_cons_self] at htwo
        | none =>
          simp only [hslot, hfound, set_map hnames hi]
          rw [ih, filled_congr]
          intro name _
          by_cases hsame : name = key
          · subst hsame
            simp [hfound, valuesOf_cons_self]
          · rw [if_neg hsame, valuesOf_cons_of_ne (Ne.symm hsame)]

/-- The fields of an object are read exactly if all its keys are texts and none of the names
occurs twice. -/
theorem fields?_object_eq_some_iff (hnames : names.Nodup)
    {members : List (Option String × Value)} {slots : List (Option Value)} :
    Value.fields? names (.object members) = some slots ↔
      (∀ member ∈ members, member.1 ≠ none) ∧ Filled names (valuesOf members) slots :=
  fillSlots_eq_some_iff hnames members (fun _ => none) slots

/-- Where all keys are different, a name has one value or none. -/
theorem valuesOf_map {entries : List (String × Value)} (hkeys : (entries.map Prod.fst).Nodup)
    (name : String) :
    valuesOf (entries.map fun entry => (some entry.1, entry.2)) name =
      (entries.lookup name).toList := by
  induction entries with
  | nil => rfl
  | cons entry entries ih =>
    obtain ⟨key, value⟩ := entry
    obtain ⟨hkey, hkeys⟩ := List.nodup_cons.1 hkeys
    rw [List.map_cons]
    by_cases hname : key = name
    · subst hname
      have hnone : entries.lookup key = none := by
        rw [List.lookup_eq_none_iff]
        intro entry hentry
        have hmem : entry.1 ∈ entries.map Prod.fst := List.mem_map_of_mem hentry
        rw [bne_iff_ne]
        rintro rfl
        exact hkey hmem
      rw [valuesOf_cons_self, ih hkeys, hnone, List.lookup_cons_self]
      rfl
    · have hne : (name == key) = false := beq_eq_false_iff_ne.2 (Ne.symm hname)
      rw [valuesOf_cons_of_ne hname, ih hkeys, List.lookup_cons, hne]

/-- **The fields of an object** whose keys are all different. -/
theorem fields?_object (hnames : names.Nodup) {entries : List (String × Value)}
    (hkeys : (entries.map Prod.fst).Nodup) :
    Value.fields? names (.object (entries.map fun entry => (some entry.1, entry.2))) =
      some (names.map fun name => entries.lookup name) := by
  rw [fields?_object_eq_some_iff hnames, filled_congr fun name _ => valuesOf_map hkeys name]
  refine ⟨?_, (filled_toList _ _).2 rfl⟩
  intro member hmember
  obtain ⟨entry, -, rfl⟩ := List.mem_map.1 hmember
  exact Option.some_ne_none entry.1

/-! ## Optional texts -/

/-- The values of a field that may hold a text: the field may be missing or `null`. -/
inductive HoldsText : Option Value → Option String → Prop
  | missing : HoldsText none none
  | null : HoldsText (some .null) none
  | text (t : String) : HoldsText (some (.string t)) (some t)

theorem fieldOr_nullable_text?_eq_some_iff {field : Option Value} {text : Option String} :
    fieldOr none (nullable Value.text?) field = some text ↔ HoldsText field text := by
  constructor
  · intro h
    cases field with
    | none =>
      cases h
      exact .missing
    | some value =>
      cases value with
      | null =>
        cases h
        exact .null
      | string t =>
        cases h
        exact .text t
      | _ => cases h
  · intro h
    cases h <;> rfl

/-! ## Records -/

theorem toValue_ofList (members : List (String × Document)) :
    (Document.ofList members).toValue =
      .object (members.map fun member => (some member.1, member.2.toValue)) := by
  have hvalues : (Members.ofList members).toValues =
      members.map fun member => (some member.1, member.2.toValue) := by
    induction members with
    | nil => rfl
    | cons member members ih =>
      obtain ⟨key, value⟩ := member
      rw [Members.ofList, Members.toValues, ih, List.map_cons]
  rw [Document.ofList, Document.toValue, hvalues]

/-- What is found under a name, where each value has been changed. -/
theorem lookup_map {α β : Type} (f : String → α → β) (entries : List (String × α))
    (name : String) :
    (entries.map fun entry => (entry.1, f entry.1 entry.2)).lookup name =
      (entries.lookup name).map (f name) := by
  induction entries with
  | nil => rfl
  | cons entry entries ih =>
    obtain ⟨key, value⟩ := entry
    rw [List.map_cons, List.lookup_cons, List.lookup_cons, ih]
    cases hname : name == key with
    | false => rfl
    | true => rw [eq_of_beq hname]; rfl

/-- What is found under a name, where only some of the names have been kept. -/
theorem lookup_filter {α : Type} (p : String → Bool) (entries : List (String × α))
    (name : String) :
    (entries.filter fun entry => p entry.1).lookup name =
      if p name then entries.lookup name else none := by
  induction entries with
  | nil => simp
  | cons entry entries ih =>
    obtain ⟨key, value⟩ := entry
    by_cases hp : p key = true
    · rw [List.filter_cons_of_pos (by exact hp), List.lookup_cons, List.lookup_cons, ih]
      cases hname : name == key with
      | false => rfl
      | true => exact (if_pos (by rw [eq_of_beq hname, hp])).symm
    · rw [List.filter_cons_of_neg (by exact hp), ih, List.lookup_cons]
      cases hname : name == key with
      | false => rfl
      | true => rw [eq_of_beq hname, if_neg hp, if_neg hp]

/-- **The fields of a written record.** -/
theorem fields?_ofList (hnames : names.Nodup) {members : List (String × Document)}
    (hkeys : (members.map Prod.fst).Nodup) :
    (Document.ofList members).toValue.fields? names =
      some (names.map fun name => (members.lookup name).map Document.toValue) := by
  have hkeys' :
      ((members.map fun member => (member.1, member.2.toValue)).map Prod.fst).Nodup := by
    rw [List.map_map]
    exact hkeys
  have hfields := fields?_object hnames hkeys'
  simp only [lookup_map fun _ => Document.toValue] at hfields
  rw [List.map_map] at hfields
  rw [toValue_ofList]
  exact hfields

/-! ## Taking members out -/

mutual

/-- The document without the members whose paths are not to be kept. The path of a member is made of
the keys that lead to it from the outermost record, which itself is at `path`. -/
def Document.prune (keep : List String → Bool) (path : List String) : Document → Document
  | .record members => .record (members.prune keep path)
  | other => other

/-- The members that are to be kept, without what is not to be kept inside them. -/
def Members.prune (keep : List String → Bool) (path : List String) : Members → Members
  | .nil => .nil
  | .cons key value rest =>
    if keep (path ++ [key]) then
      .cons key (value.prune keep (path ++ [key])) (rest.prune keep path)
    else rest.prune keep path

end

variable {keep : List String → Bool} {path : List String}

/-- A record keeps the members that are to be kept. -/
theorem prune_ofList (members : List (String × Document)) :
    (Document.ofList members).prune keep path =
      .ofList ((members.filter fun member => keep (path ++ [member.1])).map fun member =>
        (member.1, member.2.prune keep (path ++ [member.1]))) := by
  rw [Document.ofList, Document.prune, Document.ofList]
  congr 1
  induction members with
  | nil => rfl
  | cons member members ih =>
    obtain ⟨key, value⟩ := member
    rw [Members.ofList, Members.prune, ih]
    by_cases hkeep : keep (path ++ [key]) = true
    · rw [if_pos hkeep, List.filter_cons_of_pos (by exact hkeep)]
      rfl
    · rw [if_neg hkeep, List.filter_cons_of_neg (by exact hkeep)]

mutual

/-- Where every member is to be kept, none is taken out. -/
theorem Document.prune_all (path : List String) :
    ∀ d : Document, d.prune (fun _ => true) path = d
  | .null | .text _ | .number _ | .texts _ => rfl
  | .record members => by rw [Document.prune, Members.prune_all path members]

theorem Members.prune_all (path : List String) :
    ∀ members : Members, members.prune (fun _ => true) path = members
  | .nil => rfl
  | .cons key value rest => by
    rw [Members.prune, if_pos rfl, Document.prune_all (path ++ [key]) value,
      Members.prune_all path rest]

end

/-- **The fields of a record from which members have been taken out** are those that have been
kept. -/
theorem fields?_prune (hnames : names.Nodup) {members : List (String × Document)}
    (hkeys : (members.map Prod.fst).Nodup) :
    ((Document.ofList members).prune keep path).toValue.fields? names =
      some (names.map fun name =>
        if keep (path ++ [name]) then
          (members.lookup name).map fun value => (value.prune keep (path ++ [name])).toValue
        else none) := by
  have hkept : ((members.filter fun member => keep (path ++ [member.1])).map Prod.fst).Nodup :=
    (List.filter_sublist.map Prod.fst).nodup hkeys
  have hkept' : (((members.filter fun member => keep (path ++ [member.1])).map fun member =>
      (member.1, member.2.prune keep (path ++ [member.1]))).map Prod.fst).Nodup := by
    rw [List.map_map]
    exact hkept
  rw [prune_ofList, fields?_ofList hnames hkept']
  congr 1
  refine List.map_congr_left fun name _ => ?_
  rw [lookup_map fun key (value : Document) => value.prune keep (path ++ [key]),
    lookup_filter fun key => keep (path ++ [key])]
  split
  · rw [Option.map_map]
    rfl
  · rfl

end WorkspaceConsole.Json

import WorkspaceConsole.Json.Reader

/-!
# Fields of a record

A record with named fields is written as an object, or as an array of the values in the order of
the fields. In an object, unknown members are passed over and a field must not be repeated; an array
may stop early, but must not be longer than the record.
-/

namespace WorkspaceConsole.Json

/-- The slots of the fields, filled from members in order. A repeated field, or a key that is no
text, is refused. -/
def fillSlots (names : List String) :
    List (Option Value) → List (Option String × Value) → Option (List (Option Value))
  | slots, [] => some slots
  | _, (none, _) :: _ => none
  | slots, (some key, value) :: rest =>
    match names.idxOf? key with
    | none => fillSlots names slots rest
    | some i =>
      match slots[i]? with
      | some none => fillSlots names (slots.set i (some value)) rest
      | _ => none

/-- The values of the named fields, in the order of the names. -/
def Value.fields? (names : List String) : Value → Option (List (Option Value))
  | .object members => fillSlots names (names.map fun _ => none) members
  | .array items =>
    if items.length ≤ names.length then
      some (items.map some ++ List.replicate (names.length - items.length) none)
    else none
  | _ => none

/-- Reads a field that has a default. -/
def fieldOr {α : Type} (fallback : α) (read : Value → Option α) : Option Value → Option α
  | none => some fallback
  | some value => read value

/-- Reads a value that may also be `null`. -/
def nullable {α : Type} (read : Value → Option α) : Value → Option (Option α)
  | .null => some none
  | value => (read value).map some

end WorkspaceConsole.Json

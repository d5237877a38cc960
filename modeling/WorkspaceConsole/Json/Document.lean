import WorkspaceConsole.Json.Value
import WorkspaceConsole.Text.Decimal
import WorkspaceConsole.Text.Quoted

/-!
# JSON documents as written

The documents that the console writes are records of texts, numbers, rows of texts and further
records. `pretty` gives each member a line of its own, indented by two spaces for each level;
`compact` leaves out every blank. `toValue` says which value a reader finds.
-/

namespace WorkspaceConsole.Json

mutual

/-- A document to be written. -/
inductive Document where
  | null
  | text (s : String)
  | number (n : Nat)
  | texts (items : List String)
  | record (members : Members)

/-- The members of a record in order. -/
inductive Members where
  | nil
  | cons (key : String) (value : Document) (rest : Members)

end

/-- The members of a record from a list. -/
def Members.ofList : List (String × Document) → Members
  | [] => .nil
  | (key, value) :: rest => .cons key value (ofList rest)

/-- A record from a list of members. -/
def Document.ofList (members : List (String × Document)) : Document :=
  .record (.ofList members)

/-- A character as it stands in a string literal. -/
def escape (c : Char) : List Char :=
  match c with
  | '"' => ['\\', '"']
  | '\\' => ['\\', '\\']
  | '\x08' => ['\\', 'b']
  | '\x0c' => ['\\', 'f']
  | '\n' => ['\\', 'n']
  | '\r' => ['\\', 'r']
  | '\t' => ['\\', 't']
  | c =>
    if c.toNat < 0x20 then
      ['\\', 'u', '0', '0', Text.hexDigit (c.toNat / 16), Text.hexDigit (c.toNat % 16)]
    else [c]

/-- The string literal of a text. -/
def literal (s : String) : List Char :=
  '"' :: s.toList.flatMap escape ++ ['"']

/-- A new line, indented for a level of nesting. -/
def newLine (level : Nat) : List Char :=
  '\n' :: List.replicate (2 * level) ' '

/-- The rows of texts of an indented array, up to its closing bracket. -/
def prettyTexts (level : Nat) : List String → List Char
  | [] => []
  | [s] => newLine (level + 1) ++ literal s ++ newLine level
  | s :: t :: rest => newLine (level + 1) ++ literal s ++ ',' :: prettyTexts level (t :: rest)

mutual

/-- The indented form at a level of nesting. -/
def prettyAt (level : Nat) : Document → List Char
  | .null => ['n', 'u', 'l', 'l']
  | .text s => literal s
  | .number n => Text.Decimal.digits n
  | .texts items => '[' :: prettyTexts level items ++ [']']
  | .record members => '\x7b' :: prettyMembers level members ++ ['\x7d']

/-- The indented members of a record, up to its closing brace. -/
def prettyMembers (level : Nat) : Members → List Char
  | .nil => []
  | .cons key value .nil =>
    newLine (level + 1) ++ literal key ++ ':' :: ' ' :: prettyAt (level + 1) value ++ newLine level
  | .cons key value rest =>
    newLine (level + 1) ++ literal key ++ ':' :: ' ' :: prettyAt (level + 1) value ++
      ',' :: prettyMembers level rest

end

/-- The texts of an array without blanks. -/
def compactTexts : List String → List Char
  | [] => []
  | [s] => literal s
  | s :: t :: rest => literal s ++ ',' :: compactTexts (t :: rest)

mutual

/-- The form without blanks. -/
def compactChars : Document → List Char
  | .null => ['n', 'u', 'l', 'l']
  | .text s => literal s
  | .number n => Text.Decimal.digits n
  | .texts items => '[' :: compactTexts items ++ [']']
  | .record members => '\x7b' :: compactMembers members ++ ['\x7d']

/-- The members of a record without blanks. -/
def compactMembers : Members → List Char
  | .nil => []
  | .cons key value .nil => literal key ++ ':' :: compactChars value
  | .cons key value rest => literal key ++ ':' :: compactChars value ++ ',' :: compactMembers rest

end

/-- The indented form. -/
def Document.pretty (d : Document) : String :=
  String.ofList (prettyAt 0 d)

/-- The form without blanks. -/
def Document.compact (d : Document) : String :=
  String.ofList (compactChars d)

mutual

/-- The value that a reader of the document finds. -/
def Document.toValue : Document → Value
  | .null => .null
  | .text s => .string s
  | .number n => .number (Text.Decimal.digits n)
  | .texts items => .array (items.map .string)
  | .record members => .object members.toValues

/-- The members that a reader of the record finds. -/
def Members.toValues : Members → List (Option String × Value)
  | .nil => []
  | .cons key value rest => (some key, value.toValue) :: rest.toValues

end

end WorkspaceConsole.Json

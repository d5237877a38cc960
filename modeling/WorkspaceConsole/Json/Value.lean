/-!
# JSON values as read

A value keeps what the text of a document says and nothing more: number literals as they are
written, members in order and with repetitions. A string literal can hold half of a surrogate pair;
such a literal is `brokenString`, since it stands for no text, and a member with such a key has the
key `none`.
-/

namespace WorkspaceConsole.Json

/-- A JSON value. -/
inductive Value where
  | null
  | bool (b : Bool)
  | number (literal : List Char)
  | string (text : String)
  | brokenString
  | array (items : List Value)
  | object (members : List (Option String × Value))
deriving Repr, Inhabited

namespace Value

/-- The value of a string literal. -/
def ofText? : Option String → Value
  | some text => .string text
  | none => .brokenString

/-- The text of a string. -/
def text? : Value → Option String
  | .string text => some text
  | _ => none

/-- The texts of an array of strings. -/
def texts? : Value → Option (List String)
  | .array items => items.mapM text?
  | _ => none

end Value

end WorkspaceConsole.Json

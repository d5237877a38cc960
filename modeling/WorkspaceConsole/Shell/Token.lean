import WorkspaceConsole.Shell.Script

/-!
# Tokens of a script

What the grammar tells apart. The text of a word is kept beside the token, since the grammar asks
for it only where it takes a word.
-/

namespace WorkspaceConsole.Shell

/-- A token. An operator is given by its signs. -/
inductive Token where
  | finish
  | lineEnd
  | operator (signs : String)
  | redirect (handle : Nat) (kind : RedirectKind)
  | document (handle : Nat) (dropTabs : Bool)
  | word
  | reserved (name : String)
deriving DecidableEq, Repr, Inhabited

namespace Token

/-- Words with a meaning of their own where a command may begin. -/
def reservedWords : List String :=
  ["!", "case", "do", "done", "elif", "else", "esac", "fi", "for", "if", "in", "then", "until",
    "while", "\x7b", "\x7d"]

/-- The reserved words that close what is before them. -/
def closingWords : List String :=
  ["do", "done", "elif", "else", "esac", "fi", "then", "\x7d"]

/-- The commands of a shell that are special. They cannot be defined anew. -/
def specialCommands : List String :=
  [".", ":", "break", "continue", "eval", "exec", "exit", "export", "local", "readonly", "return",
    "set", "shift", "times", "trap", "unset"]

/-- Whether a token closes the list of commands before it. -/
def closes : Token → Bool
  | .finish | .operator ")" | .operator ";;" => true
  | .reserved name => closingWords.contains name
  | _ => false

/-- A token between double quotes. -/
def inQuotes (s : String) : String :=
  "\"" ++ s ++ "\""

/-- What a token is called in a message. -/
def label : Token → String
  | .finish => "end of file"
  | .lineEnd => "newline"
  | .operator signs => inQuotes signs
  | .redirect _ _ | .document _ _ => "redirection"
  | .word => "word"
  | .reserved name => inQuotes name

end Token

end WorkspaceConsole.Shell

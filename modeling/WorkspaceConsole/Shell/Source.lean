import WorkspaceConsole.Shell.Token

/-!
# The text that is read

A script is read character by character. Where a word is an alias, the text of the alias comes in
between; while it is read, and up to the character after it, the alias is not expanded again. A
here-document is read after the line that asks for it, so the words of these documents are put into
the commands by reading the script once more with what was found.
-/

namespace WorkspaceConsole.Shell

/-- What is asked of a token where it stands: to be found behind line ends, to be looked up among
the reserved words or the aliases, or to delimit a here-document. -/
structure Checks where
  lines : Bool := false
  reserved : Bool := false
  aliases : Bool := false
  delimiter : Bool := false
deriving Inhabited

/-- The text that goes on after that of an alias. If the latter ends in a blank, the next word is
looked up among the aliases too. -/
structure Suspended where
  rest : Octets
  name : String
  endsInBlank : Bool

/-- A here-document that is still to be read. -/
structure Pending where
  number : Nat
  delimiter : Octets
  dropTabs : Bool
  isQuoted : Bool

/-- How far reading has come: the text that is left, the last token with its word, and what the
next token is checked for. A token that is `kept` is taken again. The limit is the delimiter of the
here-document that is being read, and whether leading tabs are dropped. -/
structure ReaderState where
  rest : Octets
  line : Nat
  outer : List Suspended := []
  finished : List String := []
  held : List String := []
  checks : Checks := {}
  last : Token := .lineEnd
  kept : Bool := false
  word : Word := []
  isQuoted : Bool := false
  limit : Option (Octets × Bool) := none
  atLimit : Bool := false
  pending : List Pending := []
  documents : List (Nat × Word) := []
  count : Nat := 0
deriving Inhabited

/-- What is known while a script is read: the aliases, the line that the shell has come to, and the
words of the here-documents that were found before. -/
structure Surroundings where
  aliases : List (String × Octets)
  line : Nat
  documents : List (Nat × Word)

/-- Why a script cannot be read, and on which line that shows. -/
structure ReadFailure where
  error : SyntaxError
  line : Nat

/-- An action that reads a script. -/
abbrev Reading := ReaderT Surroundings (StateT ReaderState (Except ReadFailure))

namespace Reading

/-- Gives up at the place that has been reached. -/
def refuse {α : Type} (error : SyntaxError) : Reading α := do
  throw ⟨error, (← get).line⟩

/-! ## Characters -/

/-- The next character of a text, or of those that go on after it. -/
def pull (s : ReaderState) : Octets → List Suspended → Option Char × ReaderState
  | c :: cs, outer => (some c, { s with rest := cs, outer })
  | [], [] => (none, { s with rest := [], outer := [] })
  | [], t :: outer =>
    let aliases := s.checks.aliases || t.endsInBlank
    let checks := { s.checks with aliases }
    pull { s with finished := t.name :: s.finished, checks } t.rest outer

/-- Takes a character, unless the text is at its end. -/
def rawChar? : Reading (Option Char) := do
  let s ← get
  if s.atLimit then return none
  let (c, s) := pull { s with finished := [] } s.rest s.outer
  set s
  return c

/-- Puts a character back. -/
def putBack : Option Char → Reading Unit
  | some c => modify fun s => { s with rest := c :: s.rest }
  | none => return ()

/-- Counts a line that has been read to its end. -/
def countLine : Reading Unit :=
  modify fun s => { s with line := s.line + 1 }

/-- Takes a character after all line ends that a backslash hides. -/
def char? : Nat → Reading (Option Char)
  | 0 => return none
  | fuel + 1 => do
    match ← rawChar? with
    | some '\\' =>
      match ← rawChar? with
      | some '\n' =>
        countLine
        char? fuel
      | c =>
        putBack c
        return some '\\'
    | c => return c

/-- Takes characters up to the end of the line. -/
def skipComment : Nat → Reading Unit
  | 0 => return ()
  | fuel + 1 => do
    match ← rawChar? with
    | some '\n' => putBack (some '\n')
    | none => return ()
    | _ => skipComment fuel

/-! ## Aliases -/

/-- The text of an alias, unless it is being read. -/
def aliasText? (name : Octets) : Reading (Option Octets) := do
  let s ← get
  let name := String.ofList name
  if (s.outer.map Suspended.name ++ s.finished ++ s.held).contains name then return none
  return (← read).aliases.lookup name

/-- Goes on with the text of an alias. -/
def enterAlias (name text : Octets) : Reading Unit :=
  modify fun s =>
    if text.isEmpty then s
    else
      let endsInBlank := text.getLast? = some ' ' || text.getLast? = some '\t'
      { s with rest := text, outer := ⟨s.rest, String.ofList name, endsInBlank⟩ :: s.outer }

/-- Reads another text, and goes back to the one before. -/
def within {α : Type} (text : Octets) (action : Reading α) : Reading α := do
  let saved ← get
  let held := saved.outer.map Suspended.name ++ saved.finished ++ saved.held
  let line := (← read).line
  set { saved with rest := text, line, outer := [], finished := [], held, kept := false }
  let result ← action
  modify fun s =>
    { s with rest := saved.rest, line := saved.line, outer := saved.outer
             finished := saved.finished, held := saved.held, kept := false }
  return result

/-! ## Here-documents -/

/-- The text after a delimiter that it begins with, if nothing but the delimiter is on its line. -/
def afterDelimiter? (delimiter text : Octets) : Option Octets :=
  if delimiter.isPrefixOf text then
    match text.drop delimiter.length with
    | [] => some []
    | c :: cs => if c = '\n' then some cs else none
  else none

/-- Looks for the delimiter of a here-document at the beginning of a line. -/
def checkLimit : Reading Unit := do
  let s ← get
  match s.limit with
  | none => return ()
  | some (delimiter, dropTabs) =>
    let text := if dropTabs then s.rest.dropWhile (· == '\t') else s.rest
    match afterDelimiter? delimiter text with
    | some rest => set { s with rest, atLimit := true, line := s.line + 1 }
    | none => set { s with rest := text }

/-- Notes a here-document that is to be read after the line, and gives its words if they have been
found before. -/
def askForDocument (delimiter : Octets) (dropTabs isQuoted : Bool) : Reading Word := do
  let s ← get
  let wanted : Pending := ⟨s.count, delimiter, dropTabs, isQuoted⟩
  set { s with count := s.count + 1, pending := s.pending ++ [wanted] }
  return ((← read).documents.lookup s.count).getD []

end Reading

end WorkspaceConsole.Shell

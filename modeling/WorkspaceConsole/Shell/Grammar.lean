import WorkspaceConsole.Shell.Quoting

/-!
# Reading commands

The grammar of scripts, by recursive descent. A script is read one line of commands at a time, so
that what stands before a line that cannot be read is carried out, and what a line defines holds for
the next one. Each rule takes a token or hands on to a narrower rule; a limit that grows with the
length of the text bounds the number of calls.
-/

namespace WorkspaceConsole.Shell

namespace Reading

/-! ## Tokens -/

/-- Asks for checks of the next token. -/
def expecting (checks : Checks) : Reading Unit :=
  modify fun s => { s with checks }

/-- Leaves the last token to be taken again. -/
def keep : Reading Unit :=
  modify fun s => { s with kept := true }

/-- Refuses the last token. -/
def unexpected {α : Type} (expected : Option Token) : Reading α := do
  refuse (.unexpected (← get).last.label (expected.map Token.label))

/-- Reads the sign of a redirection after the signs that it begins with. -/
def redirectSign (fuel : Nat) (handle : Option Nat) (c : Char) : Reading Token := do
  let next ← char? fuel
  if c = '>' then
    let handle := handle.getD 1
    match next with
    | some '>' => return .redirect handle .append
    | some '|' => return .redirect handle .overwrite
    | some '&' => return .redirect handle .duplicate
    | next =>
      putBack next
      return .redirect handle .create
  else
    let handle := handle.getD 0
    match next with
    | some '<' =>
      let after ← char? fuel
      if after != some '-' then putBack after
      return .document handle (after = some '-')
    | some '&' => return .redirect handle .duplicate
    | some '>' => return .redirect handle .readWrite
    | next =>
      putBack next
      return .redirect handle .read

/-- Reads a word, or the sign of a redirection with the digit before it. -/
def wordToken (script : Bool → Reading Node) (fuel : Nat) : Reading Token := do
  modify fun s => { s with isQuoted := false }
  let word ← parts script fuel .bare
  modify fun s => { s with word }
  let handle? : Option (Option Nat) :=
    match word.plain? with
    | some [] => some none
    | some [c] => if c.isDigit then some (some (c.toNat - '0'.toNat)) else none
    | _ => none
  let next ← rawChar?
  match next, handle?, (← get).isQuoted with
  | some '<', some handle, false => redirectSign fuel handle '<'
  | some '>', some handle, false => redirectSign fuel handle '>'
  | next, _, _ =>
    putBack next
    return .word

/-- Reads the next token as it stands. -/
def plainToken (script : Bool → Reading Node) : Nat → Reading Token
  | 0 => refuse .missingBrace
  | fuel + 1 => do
    let doubled (c : Char) : Reading Token := do
      let next ← char? fuel
      if next = some c then return .operator (String.ofList [c, c])
      putBack next
      return .operator (String.ofList [c])
    match ← char? fuel with
    | none => return .finish
    | some ' ' | some '\t' => plainToken script fuel
    | some '#' =>
      skipComment fuel
      plainToken script fuel
    | some '\n' =>
      countLine
      return .lineEnd
    | some '&' => doubled '&'
    | some '|' => doubled '|'
    | some ';' => doubled ';'
    | some '(' => return .operator "("
    | some ')' => return .operator ")"
    | some c =>
      putBack (some c)
      wordToken script fuel

/-- Takes the next token as it stands, or the last one if it has been left. -/
def nextToken (script : Bool → Reading Node) (fuel : Nat) : Reading Token := do
  let s ← get
  if s.kept then
    set { s with kept := false }
    return s.last
  let t ← plainToken script fuel
  modify fun s => { s with last := t }
  return t

/-- Takes the lines of a here-document in which nothing is expanded. -/
def documentLines : Nat → Reading Octets
  | 0 => return []
  | fuel + 1 => do
    match ← rawChar? with
    | none => return []
    | some c =>
      if c = '\n' then
        countLine
        checkLimit
      return c :: (← documentLines fuel)

/-- Reads the here-documents that the last line has asked for. -/
def readDocuments (script : Bool → Reading Node) (fuel : Nat) : Reading Unit := do
  let wanted := (← get).pending
  modify fun s => { s with pending := [] }
  for p in wanted do
    modify fun s => { s with limit := some (p.delimiter, p.dropTabs), atLimit := false }
    let word : Word ← if p.isQuoted then do
        checkLimit
        pure [.text true (← documentLines fuel)]
      else do
        putBack (← char? fuel)
        checkLimit
        parts script fuel .document
    modify fun s =>
      { s with limit := none, atLimit := false, documents := s.documents ++ [(p.number, word)] }

/-- Takes a token after line ends. -/
def tokenAfterLines (script : Bool → Reading Node) : Nat → Reading Token
  | 0 => return .finish
  | fuel + 1 => do
    let t ← nextToken script fuel
    if t != .lineEnd then return t
    readDocuments script fuel
    tokenAfterLines script fuel

/-- Takes a token that is checked as is asked for. -/
def checkedToken (script : Bool → Reading Node) : Nat → Checks → Reading Token
  | 0, _ => return .finish
  | fuel + 1, wanted => do
    let t ← if wanted.lines then tokenAfterLines script fuel else nextToken script fuel
    let s ← get
    let aliases := wanted.aliases || s.checks.aliases
    set { s with checks := {} }
    if t != .word || s.isQuoted then return t
    match s.word.plain? with
    | none => return t
    | some name =>
      let text := String.ofList name
      if wanted.reserved && Token.reservedWords.contains text then
        modify fun s => { s with last := .reserved text }
        return .reserved text
      if aliases then
        if let some text ← aliasText? name then
          enterAlias name text
          return ← checkedToken script fuel { wanted with aliases }
      return t

/-- Takes a token, checked as has been asked for. -/
def token (script : Bool → Reading Node) (fuel : Nat) : Reading Token := do
  checkedToken script fuel (← get).checks

/-- Refuses the next token unless it is a given one. -/
def expect (script : Bool → Reading Node) (fuel : Nat) (t : Token) : Reading Unit := do
  if (← token script fuel) != t then unexpected (some t)

/-- What a token is checked for at the beginning of a command. -/
def atCommand : Checks := { reserved := true, aliases := true }

/-- What a token is checked for at the beginning of a command that may stand on a later line. -/
def atLaterCommand : Checks := { lines := true, reserved := true, aliases := true }

/-! ## Redirections -/

/-- Takes the word after the sign of a redirection. -/
def redirectAfter (script : Bool → Reading Node) (fuel : Nat) (sign : Token) :
    Reading (Option (Redirect Word)) := do
  let target : Reading Word := do
    if (← token script fuel) != .word then unexpected none
    return (← get).word
  match sign with
  | .redirect handle kind => return some ⟨handle, kind, ← target⟩
  | .document handle dropTabs =>
    expecting { delimiter := true }
    let delimiter := (← target).characters
    let text ← askForDocument delimiter dropTabs (← get).isQuoted
    return some ⟨handle, .document, text⟩
  | _ => return none

/-- Takes the redirections after a command. -/
def redirects (script : Bool → Reading Node) : Nat → Reading (List (Redirect Word))
  | 0 => return []
  | fuel + 1 => do
    match ← redirectAfter script fuel (← token script fuel) with
    | some r => return r :: (← redirects script fuel)
    | none =>
      keep
      return []

/-! ## Simple commands -/

/-- What has been read of a simple command. -/
structure SimpleParts where
  assignments : List Word := []
  words : List Word := []
  redirects : List (Redirect Word) := []

/-- Takes the parts of a simple command. Up to its first word, words are looked up among the
aliases, and assignments are told apart. -/
def simpleParts (script : Bool → Reading Node) : Nat → SimpleParts → Reading SimpleParts
  | 0, parts => return parts
  | fuel + 1, parts => do
    let isEarly := parts.words.isEmpty
    expecting { aliases := isEarly }
    let t ← token script fuel
    match t, ← redirectAfter script fuel t with
    | _, some r => simpleParts script fuel { parts with redirects := parts.redirects ++ [r] }
    | .word, none =>
      let w := (← get).word
      if isEarly && w.isAssignment then
        simpleParts script fuel { parts with assignments := parts.assignments ++ [w] }
      else simpleParts script fuel { parts with words := parts.words ++ [w] }
    | _, none => return parts

/-- Takes the words that a loop runs over. -/
def loopWords (script : Bool → Reading Node) : Nat → Reading (List Word)
  | 0 => return []
  | fuel + 1 => do
    let t ← token script fuel
    if t = .word then
      let w := (← get).word
      return w :: (← loopWords script fuel)
    if t = .lineEnd || t = .operator ";" then return []
    unexpected none

/-- Takes the patterns of an arm and the parenthesis after them. The first one has been read. -/
def patterns (script : Bool → Reading Node) : Nat → Reading (List Word)
  | 0 => return []
  | fuel + 1 => do
    let w := (← get).word
    match ← token script fuel with
    | .operator "|" =>
      let _ ← token script fuel
      return w :: (← patterns script fuel)
    | .operator ")" => return [w]
    | _ => unexpected (some (.operator ")"))

/-! ## Commands -/

/-- What a list of commands is: the body of another command, a line, or the script of a
substitution. A body has at least one command; a line ends at the end of the line. -/
inductive ListKind where
  | body
  | line
  | enclosed
deriving DecidableEq, Repr

/-- A command put after those before it. -/
def after (before : Option Node) (node : Node) : Node :=
  match before with
  | some n => .sequence n node
  | none => node

/-- A command that is sent to the background. -/
def inBackground : Node → Node
  | .redirected line body redirects => .background (.subshell line body redirects)
  | node => .background node

mutual

/-- Reads a script that a substitution encloses; old ones end with their text. -/
def script : Nat → Bool → Reading Node
  | 0, _ => return .nothing
  | fuel + 1, isOld => do
    let node ← commands fuel .enclosed none
    if !isOld then expect (script fuel) fuel (.operator ")")
    readDocuments (script fuel) fuel
    return node.getD .nothing

/-- Reads commands up to a token that closes them, which is left. -/
def commands : Nat → ListKind → Option Node → Reading (Option Node)
  | 0, _, before => return before
  | fuel + 1, kind, before => do
    expecting { lines := kind != .line, reserved := true, aliases := true }
    let t ← token (script fuel) fuel
    if t = .lineEnd then
      readDocuments (script fuel) fuel
      return before
    if t = .finish then
      readDocuments (script fuel) fuel
      modify fun s => { s with last := .finish, kept := true }
      return before
    keep
    if (kind = .enclosed || (kind = .body && before.isSome)) && t.closes then return before
    let node ← andOr fuel
    match ← token (script fuel) fuel with
    | .operator "&" => commands fuel kind (some (after before (inBackground node)))
    | .operator ";" => commands fuel kind (some (after before node))
    | .lineEnd | .finish =>
      keep
      commands fuel kind (some (after before node))
    | _ =>
      if kind = .line then unexpected none
      keep
      return some (after before node)

/-- Reads the commands that make up the body of another one. -/
def body : Nat → Reading Node
  | 0 => return .nothing
  | fuel + 1 => do
    return (← commands fuel .body none).getD .nothing

/-- Reads pipelines that depend on each other's success. -/
def andOr : Nat → Reading Node
  | 0 => return .nothing
  | fuel + 1 => do
    andOrRest fuel (← pipeline fuel)

/-- Reads the pipelines that depend on the success of the first ones. -/
def andOrRest : Nat → Node → Reading Node
  | 0, first => return first
  | fuel + 1, first => do
    match ← token (script fuel) fuel with
    | .operator "&&" =>
      expecting atLaterCommand
      andOrRest fuel (.both first (← pipeline fuel))
    | .operator "||" =>
      expecting atLaterCommand
      andOrRest fuel (.either first (← pipeline fuel))
    | _ =>
      keep
      return first

/-- Reads a pipeline. -/
def pipeline : Nat → Reading Node
  | 0 => return .nothing
  | fuel + 1 => do
    let isNegated := (← token (script fuel) fuel) = .reserved "!"
    if isNegated then expecting atCommand else keep
    let first ← command fuel
    let rest ← pipes fuel
    let node := if rest.isEmpty then first else .pipeline (first :: rest)
    return if isNegated then .negation node else node

/-- Reads the commands that follow by pipes. -/
def pipes : Nat → Reading (List Node)
  | 0 => return []
  | fuel + 1 => do
    if (← token (script fuel) fuel) = .operator "|" then
      expecting atLaterCommand
      let next ← command fuel
      return next :: (← pipes fuel)
    keep
    return []

/-- Reads a command with its redirections. -/
def command : Nat → Reading Node
  | 0 => return .nothing
  | fuel + 1 => do
    let line := (← get).line
    let redirected (node : Node) : Reading Node := do
      expecting atCommand
      match node, ← redirects (script fuel) fuel with
      | .subshell line body _, rs => return .subshell line body rs
      | node, [] => return node
      | node, rs => return .redirected line node rs
    let closed (closing : Token) (node : Node) : Reading Node := do
      expect (script fuel) fuel closing
      redirected node
    match ← token (script fuel) fuel with
    | .operator "(" => closed (.operator ")") (.subshell line (← body fuel) [])
    | .reserved "\x7b" => closed (.reserved "\x7d") (← body fuel)
    | .reserved "if" => closed (.reserved "fi") (← conditional fuel)
    | .reserved "while" => closed (.reserved "done") (← loop fuel false)
    | .reserved "until" => closed (.reserved "done") (← loop fuel true)
    | .reserved "for" => closed (.reserved "done") (← forEach fuel line)
    | .reserved "case" => redirected (← choice fuel line)
    | .word | .redirect _ _ | .document _ _ =>
      keep
      simple fuel
    | _ => unexpected none

/-- Reads a simple command or the definition of a function. -/
def simple : Nat → Reading Node
  | 0 => return .nothing
  | fuel + 1 => do
    let line := (← get).line
    let parts ← simpleParts (script fuel) fuel {}
    match parts, (← get).last with
    | ⟨[], [word], []⟩, .operator "(" =>
      expect (script fuel) fuel (.operator ")")
      let some name := word.plain? | refuse .badFunctionName
      let text := String.ofList name
      if !isName name || Token.specialCommands.contains text then refuse .badFunctionName
      expecting atLaterCommand
      let line := (← get).line
      return .define line text (← command fuel)
    | ⟨assignments, words, rs⟩, _ =>
      keep
      return .simple line assignments words rs

/-- Reads a conditional after its first word, up to its last. -/
def conditional : Nat → Reading Node
  | 0 => return .nothing
  | fuel + 1 => do
    let test ← body fuel
    expect (script fuel) fuel (.reserved "then")
    let yes ← body fuel
    match ← token (script fuel) fuel with
    | .reserved "elif" => return .conditional test yes (← conditional fuel)
    | .reserved "else" => return .conditional test yes (← body fuel)
    | _ =>
      keep
      return .conditional test yes .nothing

/-- Reads a loop after its first word, up to its last. -/
def loop : Nat → Bool → Reading Node
  | 0, _ => return .nothing
  | fuel + 1, untilTrue => do
    let test ← body fuel
    expect (script fuel) fuel (.reserved "do")
    return .loop untilTrue test (← body fuel)

/-- Reads a loop over words after its first word, up to its last. -/
def forEach : Nat → Nat → Reading Node
  | 0, _ => return .nothing
  | fuel + 1, line => do
    let t ← token (script fuel) fuel
    let s ← get
    let some name := s.word.plain? | refuse .badLoopVariable
    if t != .word || s.isQuoted || !isName name then refuse .badLoopVariable
    expecting atLaterCommand
    let words ← match ← token (script fuel) fuel with
      | .reserved "in" => loopWords (script fuel) fuel
      | t => do
        if t != .operator ";" then keep
        pure [Word.arguments]
    expecting atLaterCommand
    expect (script fuel) fuel (.reserved "do")
    return .forEach line (String.ofList name) words (← body fuel)

/-- Reads a choice between patterns after its first word. -/
def choice : Nat → Nat → Reading Node
  | 0, _ => return .nothing
  | fuel + 1, line => do
    if (← token (script fuel) fuel) != .word then unexpected (some .word)
    let word := (← get).word
    expecting atLaterCommand
    expect (script fuel) fuel (.reserved "in")
    return .choice line word (← arms fuel)

/-- Reads the arms of a choice and its last word. -/
def arms : Nat → Reading (List (Arm Word Node))
  | 0 => return []
  | fuel + 1 => do
    expecting { lines := true, reserved := true }
    let t ← token (script fuel) fuel
    if t = .reserved "esac" then return []
    if t = .operator "(" then let _ ← token (script fuel) fuel
    let ps ← patterns (script fuel) fuel
    let arm : Arm Word Node := ⟨ps, (← commands fuel .enclosed none).getD .nothing⟩
    expecting { lines := true, reserved := true }
    match ← token (script fuel) fuel with
    | .reserved "esac" => return [arm]
    | .operator ";;" => return arm :: (← arms fuel)
    | _ => unexpected (some (.operator ";;"))

end

/-- Reads the next line of commands, unless the text is at its end. -/
def line? (fuel : Nat) : Reading (Option Node) := do
  let node ← commands fuel .line none
  let s ← get
  if node.isNone && s.last = .finish then return none
  return some (node.getD .nothing)

end Reading

/-! ## Whole lines -/

namespace ReaderState

/-- Reading a text from its beginning. -/
def ofText (line : Nat) (text : Octets) : ReaderState :=
  { rest := text, line }

/-- Whether nothing follows what has been read. -/
def isAtEnd (s : ReaderState) : Bool :=
  s.kept && s.last == .finish

/-- A limit for the number of steps that reading takes. -/
def stepLimit (s : ReaderState) (aliases : List (String × Octets)) : Nat :=
  let text := (s.rest :: s.outer.map Suspended.rest).flatten.length
  let inserted := aliases.foldl (fun n a => n + a.2.length) 0
  16 * (text + 2) * (inserted + 2)

/-- Reads a line of commands, with the here-documents as they have been found before. -/
def lineWith (s : ReaderState) (aliases : List (String × Octets)) (shellLine : Nat)
    (documents : List (Nat × Word)) : Except ReadFailure (Option Node × ReaderState) :=
  ((Reading.line? (s.stepLimit aliases)).run ⟨aliases, shellLine, documents⟩).run
    { s with kept := false, checks := {}, pending := [], documents := [], count := 0 }

/-- Reads a line of commands again, a number of times, with the here-documents found each time. -/
def lineAgain (s : ReaderState) (aliases : List (String × Octets)) (shellLine : Nat) :
    Nat → List (Nat × Word) → Except ReadFailure (Option Node × ReaderState)
  | 0, documents => s.lineWith aliases shellLine documents
  | rounds + 1, documents => do
    let (_, found) ← s.lineWith aliases shellLine documents
    s.lineAgain aliases shellLine rounds found.documents

/-- Reads a line of commands, unless the text is at its end. A here-document may hold a script with
here-documents, so there are as many rounds as there are documents. -/
def line? (s : ReaderState) (aliases : List (String × Octets)) (shellLine : Nat) :
    Except ReadFailure (Option Node × ReaderState) := do
  let (node, found) ← s.lineWith aliases shellLine []
  if found.documents.isEmpty then return (node, found)
  s.lineAgain aliases shellLine (found.documents.length - 1) found.documents

/-- Reads a text like the inside of double quotes. -/
def document (s : ReaderState) (aliases : List (String × Octets)) (shellLine : Nat) :
    Except ReadFailure Word := do
  let limit := s.stepLimit aliases
  let (word, _) ←
    ((Reading.parts (Reading.script limit) limit .document).run ⟨aliases, shellLine, []⟩).run s
  return word

end ReaderState

end WorkspaceConsole.Shell

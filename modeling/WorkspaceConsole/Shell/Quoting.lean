import WorkspaceConsole.Shell.Source

/-!
# Reading words

A word is read together with its quotes and substitutions. Where a character stands decides what it
means: outside quotes, between double quotes, in the word of a parameter, in a here-document or in
an arithmetic expression. What a command substitution encloses is a script, so how scripts are read
is an argument here.
-/

namespace WorkspaceConsole.Shell

/-- Where a character stands. The word of a parameter is an `operand`, and a `doubledOperand` if the
parameter is between double quotes; in the latter, quotes toggle whether a brace is part of the
word. Between double quotes it matters whether they are part of an operand. An arithmetic expression
counts its open parentheses. -/
inductive Zone where
  | bare
  | operand
  | doubled (inOperand : Bool)
  | doubledOperand (inner : Bool)
  | document
  | arithmetic (depth : Nat)
deriving DecidableEq, Repr

namespace Zone

/-- Whether characters there are quoted. -/
def quotes : Zone → Bool
  | .bare | .operand => false
  | _ => true

/-- Whether a backslash quotes a character there. In a here-document it leaves double quotes
alone. -/
def escapes (zone : Zone) (inDocument : Bool) : Char → Bool
  | '$' | '\x60' | '\\' => true
  | '"' =>
    match zone with
    | .document | .arithmetic _ => !inDocument
    | _ => true
  | '\x7d' =>
    match zone with
    | .bare | .operand | .doubled true | .doubledOperand _ => true
    | _ => false
  | _ => !zone.quotes

/-- The zone of the word of a parameter that stands in a zone. -/
def ofOperand (zone : Zone) : Zone :=
  if zone.quotes then .doubledOperand false else .operand

end Zone

/-- Whether a character ends a word in a command. -/
def endsWord (c : Char) : Bool :=
  [' ', '\t', '\n', ';', '&', '|', '<', '>', '(', ')'].contains c

/-- Whether a character is the name of a parameter by itself. -/
def isSpecialName (c : Char) : Bool :=
  ['!', '#', '$', '*', '-', '@', '?'].contains c || c.isDigit

namespace Reading

/-! ## Parts of words -/

/-- Puts a character before the word that an action reads. -/
def withChar (quoted : Bool) (c : Char) (action : Reading Word) : Reading Word := do
  return Word.cons quoted c (← action)

/-- Notes that the word is quoted. -/
def noteQuotes : Reading Unit :=
  modify fun s => { s with isQuoted := true }

/-- The mark of a quote; in a here-document quotes leave none. -/
def quoteMark : Reading Word := do
  return if (← get).limit.isSome then [] else [.mark]

/-- Takes characters up to a single quote. -/
def singleQuoted : Nat → Reading Octets
  | 0 => refuse .unterminatedQuote
  | fuel + 1 => do
    match ← rawChar? with
    | none => refuse (if (← get).limit.isSome then .missingBrace else .unterminatedQuote)
    | some '\x27' => return []
    | some c =>
      if c = '\n' then
        countLine
        checkLimit
      return c :: (← singleQuoted fuel)

/-- Takes characters up to a backquote, with the backslashes that backquotes require removed. -/
def backquoted (doubled : Bool) : Nat → Reading Octets
  | 0 => refuse .unterminatedBackquote
  | fuel + 1 => do
    match ← char? fuel with
    | none => refuse .unterminatedBackquote
    | some '\x60' => return []
    | some '\\' =>
      match ← rawChar? with
      | none => refuse .unterminatedBackquote
      | some c =>
        let isEscaped := c = '\x60' || c = '\\' || c = '$' || (doubled && c = '"')
        return (if isEscaped then [c] else ['\\', c]) ++ (← backquoted doubled fuel)
    | some c =>
      if c = '\n' then countLine
      return c :: (← backquoted doubled fuel)

/-- Takes characters as long as they are of a kind, and the one after them. -/
def charsWhile (isKind : Char → Bool) : Nat → Option Char → Reading (Octets × Option Char)
  | fuel + 1, some c => do
    if !isKind c then return ([], some c)
    let (cs, next) ← charsWhile isKind fuel (← char? fuel)
    return (c :: cs, next)
  | _, c => return ([], c)

/-- What stands in braces after a dollar sign, up to the word of the parameter: the name, and what
the word is for. -/
inductive BraceHead where
  | whole
  | withWord (use : Word → ParameterUse Word)
  | withPattern (use : Word → ParameterUse Word)

/-- Reads the sign after a name in braces. -/
def braceSign (fuel : Nat) (c : Option Char) : Reading BraceHead := do
  let use? (orEmpty : Bool) : Option Char → Option (Word → ParameterUse Word)
    | some '-' => some (.orElse orEmpty)
    | some '=' => some (.orAssign orEmpty)
    | some '?' => some (.orFail orEmpty)
    | some '+' => some (.ifSet orEmpty)
    | _ => none
  let trim (sign : Char) (use : Bool → Word → ParameterUse Word) : Reading BraceHead := do
    let next ← char? fuel
    if next = some sign then return .withPattern (use true)
    putBack next
    return .withPattern (use false)
  match c with
  | some '\x7d' => return .whole
  | some '%' => trim '%' .withoutEnd
  | some '#' => trim '#' .withoutStart
  | some ':' => return .withWord ((use? true (← char? fuel)).getD fun _ => .malformed)
  | c => return .withWord ((use? false c).getD fun _ => .malformed)

/-- Reads the name of a parameter in braces, and what it is for. -/
def braceHead (fuel : Nat) (c : Option Char) : Reading (Octets × BraceHead) := do
  let malformed (c : Option Char) : Reading (Octets × BraceHead) := do
    putBack c
    return ([], .withWord fun _ => .malformed)
  let named (name : Octets) (c : Option Char) : Reading (Octets × BraceHead) := do
    return (name, ← braceSign fuel c)
  let length (name : Octets) (c : Option Char) : Reading (Octets × BraceHead) := do
    putBack c
    return (name, .withWord fun _ => if c = some '\x7d' then .length else .malformed)
  match c with
  | none | some '\x7d' => malformed c
  | some c =>
    if isNameStart c then
      let (name, next) ← charsWhile isNameChar fuel (some c)
      named name next
    else if c.isDigit then
      let (name, next) ← charsWhile Char.isDigit fuel (some c)
      named name next
    else
      let next ← char? fuel
      match c, next with
      | '#', some d =>
        if isNameStart d then
          let (name, next) ← charsWhile isNameChar fuel next
          length name next
        else if d.isDigit then
          let (name, next) ← charsWhile Char.isDigit fuel next
          length name next
        else
          let after ← char? fuel
          if d != '\x7d' && after = some '\x7d' then
            if isSpecialName d then length [d] after else malformed after
          else
            putBack after
            named ['#'] next
      | c, next => if isSpecialName c then named [c] next else malformed next

mutual

/-- Reads what belongs to a zone: up to its end, which is taken except for that of a bare word. -/
def parts (script : Bool → Reading Node) : Nat → Zone → Reading Word
  | 0, _ => refuse .unterminatedQuote
  | fuel + 1, zone => do
    let inDocument := (← get).limit.isSome
    let more := parts script fuel zone
    let plain (c : Char) : Reading Word := withChar zone.quotes c more
    let within' (inner : Reading Word) : Reading Word := do
      let opening ← quoteMark
      let inside ← inner
      let closing ← quoteMark
      noteQuotes
      return opening ++ inside ++ closing ++ (← more)
    match ← char? fuel with
    | none =>
      match zone, inDocument with
      | .arithmetic _, _ => refuse .missingParentheses
      | .bare, _ | .document, _ => return []
      | .operand, _ | _, true => refuse .missingBrace
      | _, false => refuse .unterminatedQuote
    | some '\n' =>
      if zone = .bare then
        putBack (some '\n')
        return []
      countLine
      if inDocument then
        putBack (← char? fuel)
        checkLimit
      plain '\n'
    | some '\\' =>
      match ← rawChar? with
      | none => withChar true '\\' more
      | some c =>
        noteQuotes
        if zone.escapes inDocument c then withChar true c more
        else withChar true '\\' (withChar true c more)
    | some '$' => do
      let part ← dollar script fuel zone
      match part with
      | some part => return part :: (← more)
      | none => plain '$'
    | some '\x60' =>
      if (← get).checks.delimiter then plain '\x60'
      else
        let source ← backquoted zone.quotes fuel
        let part ← enclosed (within source (script true))
        return part :: (← more)
    | some '"' =>
      match zone with
      | .bare => within' (parts script fuel (.doubled false))
      | .operand => within' (parts script fuel (.doubled true))
      | .doubled _ => return []
      | .doubledOperand inner =>
        let mark ← quoteMark
        noteQuotes
        return mark ++ (← parts script fuel (.doubledOperand !inner))
      | .document | .arithmetic _ => plain '"'
    | some '\x27' =>
      if zone.quotes then plain '\x27'
      else within' do
        return [.text (!inDocument) (← singleQuoted fuel)]
    | some '\x7d' =>
      match zone with
      | .operand | .doubledOperand false => return []
      | _ => plain '\x7d'
    | some c =>
      match zone, c with
      | .arithmetic depth, '(' => withChar true '(' (parts script fuel (.arithmetic (depth + 1)))
      | .arithmetic 0, ')' =>
        let next ← char? fuel
        if next = some ')' then return []
        putBack next
        plain ')'
      | .arithmetic (depth + 1), ')' => withChar true ')' (parts script fuel (.arithmetic depth))
      | .bare, c =>
        if endsWord c then
          putBack (some c)
          return []
        plain c
      | _, c => plain c

/-- Reads what a dollar sign stands for with the text after it, if it has a meaning. -/
def dollar (script : Bool → Reading Node) : Nat → Zone → Reading (Option Part)
  | 0, _ => return none
  | fuel + 1, zone => do
    let c ← char? fuel
    let literal : Reading (Option Part) := do
      putBack c
      return none
    if (← get).checks.delimiter then return ← literal
    match c with
    | some '(' =>
      let next ← char? fuel
      if next = some '(' then return some (.arithmetic (← parts script fuel (.arithmetic 0)))
      putBack next
      return some (← enclosed (script false))
    | some '\x7b' =>
      let (name, head) ← braceHead fuel (← char? fuel)
      let name := String.ofList name
      match head with
      | .whole => return some (.parameter name .value)
      | .withWord use =>
        return some (.parameter name (use (← parts script fuel zone.ofOperand)))
      | .withPattern use => return some (.parameter name (use (← parts script fuel .operand)))
    | some c =>
      if isNameStart c then
        let (name, next) ← charsWhile isNameChar fuel (some c)
        putBack next
        return some (.parameter (String.ofList name) .value)
      else if isSpecialName c then return some (.parameter (String.ofList [c]) .value)
      else literal
    | none => literal

/-- Reads a script that a word encloses. What has been noted about the word stays. -/
def enclosed (script : Reading Node) : Reading Part := do
  let saved ← get
  set { saved with limit := none, isQuoted := false, pending := [] }
  let node ← script
  modify fun s =>
    { s with limit := saved.limit, isQuoted := saved.isQuoted, pending := saved.pending }
  return .command node

end

end Reading

end WorkspaceConsole.Shell

import WorkspaceConsole.Shell.Octets

/-!
# Patterns

A star stands for any row of characters, a question mark for any one, and a bracket for one out of a
set; quoted characters stand for themselves, and so does what follows a backslash.
`Pattern.ofMarked` reads a pattern from characters that are marked as quoted or not.
-/

namespace WorkspaceConsole.Shell

/-- A row of characters, each with a note whether it is quoted. -/
abbrev MarkedText := List (Char × Bool)

/-! ## Sets of characters -/

/-- The order of octets in a range: those beyond seven bits come first. -/
def octetRank (c : Char) : Nat :=
  (c.toNat + 128) % 256

/-- The classes of characters that have a name. -/
def classes : List (String × (Char → Bool)) :=
  let isGraphic (c : Char) : Bool := '!' ≤ c && c ≤ '~'
  [("alnum", Char.isAlphanum), ("alpha", Char.isAlpha), ("blank", fun c => c == ' ' || c == '\t'),
    ("cntrl", fun c => c < ' ' || c == '\x7f'), ("digit", Char.isDigit), ("graph", isGraphic),
    ("lower", Char.isLower), ("print", fun c => ' ' ≤ c && c ≤ '~'),
    ("punct", fun c => isGraphic c && !c.isAlphanum),
    ("space", fun c => c == ' ' || ('\t' ≤ c && c ≤ '\r')), ("upper", Char.isUpper),
    ("xdigit", fun c => c.isDigit || ('a' ≤ c && c ≤ 'f') || ('A' ≤ c && c ≤ 'F'))]

/-- What a bracket lists: a range of characters, or a class. -/
inductive SetMember where
  | range (low high : Char)
  | named (name : String)
deriving DecidableEq, Repr

/-- Whether a character is listed. -/
def SetMember.includes (c : Char) : SetMember → Bool
  | .range low high => octetRank low ≤ octetRank c && octetRank c ≤ octetRank high
  | .named name => (classes.lookup name).any (· c)

/-- One item of a pattern. -/
inductive PatternItem where
  | char (c : Char)
  | one
  | any
  | set (negated : Bool) (members : List SetMember)
deriving DecidableEq, Repr

/-- A pattern. -/
abbrev Pattern := List PatternItem

/-- Whether a character is one that an item stands for. -/
def PatternItem.accepts (c : Char) : PatternItem → Bool
  | .char d => c == d
  | .one | .any => true
  | .set negated members => members.any (·.includes c) != negated

namespace Pattern

/-! ## Reading -/

/-- A text in which a backslash outside quotes quotes what follows it. -/
def escaped : MarkedText → MarkedText
  | ('\\', false) :: (c, _) :: rest => (c, true) :: escaped rest
  | ('\\', false) :: [] => [('\\', true)]
  | c :: rest => c :: escaped rest
  | [] => []

/-- The class that is named where a bracket stands inside a bracket, and the text after it. -/
def className? (cs : MarkedText) : Option (String × MarkedText) :=
  classes.findSome? fun (name, _) =>
    let spelling : MarkedText := ((':' :: name.toList) ++ [':', ']']).map (·, false)
    if spelling.isPrefixOf cs then some (name, cs.drop spelling.length) else none

/-- What a bracket lists up to its end, and the text after it. The first character is listed
whatever it is. -/
def members? : Bool → Nat → MarkedText → Option (List SetMember × MarkedText)
  | _, 0, _ | _, _, [] => none
  | isFirst, fuel + 1, c :: cs =>
    let add (m : SetMember) (rest : MarkedText) :=
      (members? false fuel rest).map fun (more, rest) => (m :: more, rest)
    if c = (']', false) && !isFirst then some ([], cs)
    else match if c = ('[', false) then className? cs else none with
      | some (name, rest) => add (.named name) rest
      | none =>
        match cs with
        | ('-', false) :: (high, quoted) :: rest =>
          if (high, quoted) = (']', false) then add (.range c.1 c.1) cs
          else add (.range c.1 high) rest
        | cs => add (.range c.1 c.1) cs

/-- Reads a pattern. A bracket that has no end stands for itself. -/
def readFrom : Nat → MarkedText → Pattern
  | 0, _ | _, [] => []
  | fuel + 1, (c, true) :: cs => .char c :: readFrom fuel cs
  | fuel + 1, ('*', false) :: cs => .any :: readFrom fuel cs
  | fuel + 1, ('?', false) :: cs => .one :: readFrom fuel cs
  | fuel + 1, ('[', false) :: cs =>
    let (negated, inside) : Bool × MarkedText := match cs with
      | ('!', false) :: rest => (true, rest)
      | cs => (false, cs)
    match members? true (inside.length + 1) inside with
    | some (members, rest) => .set negated members :: readFrom fuel rest
    | none => .char '[' :: readFrom fuel cs
  | fuel + 1, (c, false) :: cs => .char c :: readFrom fuel cs

/-- The pattern that marked characters stand for. -/
def ofMarked (s : MarkedText) : Pattern :=
  readFrom s.length (escaped s)

/-! ## Matching -/

/-- Whether a pattern stands for a row of characters. -/
def accepts : Pattern → Octets → Bool
  | [], s => s.isEmpty
  | .any :: p, s => (List.range (s.length + 1)).any fun n => accepts p (s.drop n)
  | _ :: _, [] => false
  | item :: p, c :: s => item.accepts c && accepts p s

/-- Whether a pattern stands for more than its own characters. -/
def isOpen (p : Pattern) : Bool :=
  p.any fun item =>
    match item with
    | .char _ => false
    | _ => true

/-- Whether a pattern stands for the name of a file. A name that begins with a dot is meant only by
a pattern that does so too. -/
def acceptsName (p : Pattern) (name : Octets) : Bool :=
  (name.head? != some '.' || p.head? == some (.char '.')) && p.accepts name

/-- What a pattern sees of a text. Where arguments are put together with zero bytes in between, it
sees only the first one. -/
def seen (s : Octets) : Octets :=
  s.takeWhile (· != '\x00')

/-- What is left of `s` without the beginning that a pattern stands for. -/
def withoutStart (p : Pattern) (longest : Bool) (s : Octets) : Octets :=
  let cuts := (List.range (s.length + 1)).filter fun n => p.accepts (seen (s.take n))
  match if longest then cuts.getLast? else cuts.head? with
  | some n => s.drop n
  | none => s

/-- What is left of `s` without the end that a pattern stands for. The longest one is looked for no
further than a pattern sees. -/
def withoutEnd (p : Pattern) (longest : Bool) (s : Octets) : Octets :=
  let places := List.range ((if longest then (seen s).length else s.length) + 1)
  let cuts := places.filter fun n => p.accepts (seen (s.drop n))
  match if longest then cuts.head? else cuts.getLast? with
  | some n => s.take n
  | none => s

end Pattern

end WorkspaceConsole.Shell

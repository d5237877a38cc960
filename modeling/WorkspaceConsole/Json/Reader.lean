import WorkspaceConsole.Json.Value
import WorkspaceConsole.Text.Decimal

/-!
# Reading JSON

`read?` accepts strict JSON: one value, with blanks around it and between its parts. The recursion
carries fuel; twice the length of the text is always enough, since every second step consumes a
character.
-/

namespace WorkspaceConsole.Json

/-- The blanks of JSON. -/
def isGap (c : Char) : Bool :=
  c == ' ' || c == '\n' || c == '\t' || c == '\r'

/-- The text after the blanks at its start. -/
def skipGaps (cs : List Char) : List Char :=
  cs.dropWhile isGap

/-- The value of a hexadecimal digit, in either case. -/
def hexValue? (c : Char) : Option Nat :=
  if '0' ≤ c ∧ c ≤ '9' then some (c.toNat - '0'.toNat)
  else if 'a' ≤ c ∧ c ≤ 'f' then some (c.toNat - 'a'.toNat + 10)
  else if 'A' ≤ c ∧ c ≤ 'F' then some (c.toNat - 'A'.toNat + 10)
  else none

/-- The number that four hexadecimal digits stand for. -/
def hexUnit? (a b c d : Char) : Option Nat := do
  let a ← hexValue? a
  let b ← hexValue? b
  let c ← hexValue? c
  let d ← hexValue? d
  return ((a * 16 + b) * 16 + c) * 16 + d

/-- The character that a backslash and `c` stand for. -/
def escaped? (c : Char) : Option Char :=
  match c with
  | '"' => some '"'
  | '\\' => some '\\'
  | '/' => some '/'
  | 'b' => some '\x08'
  | 'f' => some '\x0c'
  | 'n' => some '\n'
  | 'r' => some '\r'
  | 't' => some '\t'
  | _ => none

/-- The code points of a string literal after its opening quote, and the text after its closing one.
A surrogate written by an escape stands as itself. -/
def codePoints? : List Char → Option (List Nat × List Char)
  | [] => none
  | '"' :: rest => some ([], rest)
  | '\\' :: 'u' :: a :: b :: c :: d :: rest =>
    match hexUnit? a b c d with
    | some n => (codePoints? rest).map fun (ns, out) => (n :: ns, out)
    | none => none
  | '\\' :: c :: rest =>
    match escaped? c with
    | some e => (codePoints? rest).map fun (ns, out) => (e.toNat :: ns, out)
    | none => none
  | c :: rest =>
    if c.toNat < 0x20 || c == '\\' then none
    else (codePoints? rest).map fun (ns, out) => (c.toNat :: ns, out)

/-- Whether a code point is the first half of a surrogate pair. -/
def isHighSurrogate (n : Nat) : Bool := 0xD800 ≤ n && n < 0xDC00

/-- Whether a code point is the second half of a surrogate pair. -/
def isLowSurrogate (n : Nat) : Bool := 0xDC00 ≤ n && n < 0xE000

/-- The characters of a row of code points, with surrogate pairs put together. A half without its
partner has none. -/
def characters? : List Nat → Option (List Char)
  | [] => some []
  | [n] => if isHighSurrogate n || isLowSurrogate n then none else some [Char.ofNat n]
  | n :: m :: rest =>
    if isHighSurrogate n then
      if isLowSurrogate m then
        (characters? rest).map (Char.ofNat (0x10000 + (n - 0xD800) * 0x400 + (m - 0xDC00)) :: ·)
      else none
    else if isLowSurrogate n then none
    else (characters? (m :: rest)).map (Char.ofNat n :: ·)

/-- Reads a string literal after its opening quote. The text is missing if it would hold half of a
surrogate pair. -/
def string? (cs : List Char) : Option (Option String × List Char) :=
  (codePoints? cs).map fun (ns, rest) => ((characters? ns).map String.ofList, rest)

/-- Reads one or more digits. -/
def digits? (cs : List Char) : Option (List Char × List Char) :=
  let ds := cs.takeWhile Char.isDigit
  if ds.isEmpty then none else some (ds, cs.dropWhile Char.isDigit)

/-- Reads the digits before the point: a zero stands alone. -/
def whole? : List Char → Option (List Char × List Char)
  | '0' :: rest =>
    match rest with
    | c :: _ => if c.isDigit then none else some (['0'], rest)
    | [] => some (['0'], [])
  | cs => digits? cs

/-- Reads a point and the digits after it, if there is a point. -/
def fraction? : List Char → Option (List Char × List Char)
  | '.' :: rest => (digits? rest).map fun (ds, out) => ('.' :: ds, out)
  | cs => some ([], cs)

/-- Reads the sign of an exponent, if there is one. -/
def exponentSign : List Char → List Char × List Char
  | '+' :: rest => (['+'], rest)
  | '-' :: rest => (['-'], rest)
  | cs => ([], cs)

/-- Reads an exponent, if there is one. -/
def exponent? (cs : List Char) : Option (List Char × List Char) :=
  match cs with
  | c :: rest =>
    if c == 'e' || c == 'E' then
      let (sign, rest') := exponentSign rest
      (digits? rest').map fun (ds, out) => (c :: sign ++ ds, out)
    else some ([], cs)
  | [] => some ([], [])

/-- Reads a number without a sign. -/
def magnitude? (cs : List Char) : Option (List Char × List Char) := do
  let (i, cs) ← whole? cs
  let (f, cs) ← fraction? cs
  let (e, cs) ← exponent? cs
  return (i ++ f ++ e, cs)

/-- Reads a number literal. -/
def number? : List Char → Option (List Char × List Char)
  | '-' :: rest => (magnitude? rest).map fun (ds, out) => ('-' :: ds, out)
  | cs => magnitude? cs

mutual

/-- Reads a value and the blanks before it. -/
def value? : Nat → List Char → Option (Value × List Char)
  | 0, _ => none
  | fuel + 1, cs =>
    match skipGaps cs with
    | 'n' :: 'u' :: 'l' :: 'l' :: rest => some (.null, rest)
    | 't' :: 'r' :: 'u' :: 'e' :: rest => some (.bool true, rest)
    | 'f' :: 'a' :: 'l' :: 's' :: 'e' :: rest => some (.bool false, rest)
    | '"' :: rest => (string? rest).map fun (text, out) => (.ofText? text, out)
    | '[' :: rest =>
      match skipGaps rest with
      | ']' :: out => some (.array [], out)
      | body => (items? fuel body).map fun (items, out) => (.array items, out)
    | '{' :: rest =>
      match skipGaps rest with
      | '}' :: out => some (.object [], out)
      | body => (members? fuel body).map fun (members, out) => (.object members, out)
    | body => (number? body).map fun (literal, out) => (.number literal, out)

/-- Reads the items of an array up to its closing bracket. -/
def items? : Nat → List Char → Option (List Value × List Char)
  | 0, _ => none
  | fuel + 1, cs =>
    match value? fuel cs with
    | none => none
    | some (item, rest) =>
      match skipGaps rest with
      | ',' :: more => (items? fuel more).map fun (items, out) => (item :: items, out)
      | ']' :: out => some ([item], out)
      | _ => none

/-- Reads the members of an object up to its closing brace. -/
def members? : Nat → List Char → Option (List (Option String × Value) × List Char)
  | 0, _ => none
  | fuel + 1, cs =>
    match skipGaps cs with
    | '"' :: afterQuote =>
      match string? afterQuote with
      | none => none
      | some (key, afterKey) =>
        match skipGaps afterKey with
        | ':' :: afterColon =>
          match value? fuel afterColon with
          | none => none
          | some (value, rest) =>
            match skipGaps rest with
            | ',' :: more =>
              (members? fuel more).map fun (members, out) => ((key, value) :: members, out)
            | '}' :: out => some ([(key, value)], out)
            | _ => none
        | _ => none
    | _ => none

end

/-- Reads a document: one value and the blanks around it. -/
def read? (cs : List Char) : Option Value :=
  match value? (2 * cs.length + 2) cs with
  | some (value, rest) => if (skipGaps rest).isEmpty then some value else none
  | none => none

/-- The number that a literal of digits alone stands for, if it fits into 64 bits. -/
def Value.word? : Value → Option UInt64
  | .number literal => Text.Decimal.readBounded? literal
  | _ => none

end WorkspaceConsole.Json

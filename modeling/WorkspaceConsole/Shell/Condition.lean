import WorkspaceConsole.Disk
import WorkspaceConsole.Shell.Arithmetic

/-!
# Conditions

The expressions of `test`: checks of texts, numbers and files, joined by `-a` and `-o`, negated by
`!` and grouped by parentheses. The sign of a check of one operand is an operand itself where a
comparison or nothing follows it. An expression that is missing does not hold.
-/

namespace WorkspaceConsole.Shell

namespace Condition

/-! ## Checks -/

/-- What a path leads to: what kind of thing, where it stands, and when it was last changed. -/
structure Sight where
  entry : Option Entry
  place : Place
  changed : Option Nat

/-- What is seen where a path leads. Without an entry it is a device. -/
abbrev Look := Octets → Option Sight

/-- A check of one operand. -/
abbrev Check := Octets → Except Octets Bool

/-- Whether an entry has something in it. A directory always has. -/
def hasContent : Entry → Bool
  | .directory => true
  | .file bytes => !bytes.isEmpty

/-- The number that an operand is. -/
def number (s : Octets) : Except Octets Int :=
  let wrong : Except Octets Int := .error ("Illegal number: ".toList ++ s)
  let cs := s.dropWhile Arithmetic.isSpace
  let (sign, cs) : Int × Octets := match cs with
    | '-' :: cs => (-1, cs)
    | '+' :: cs => (1, cs)
    | cs => (1, cs)
  let ds := cs.takeWhile Char.isDigit
  let n := sign * Text.Decimal.accumulate 0 ds
  if ds.isEmpty || !(cs.drop ds.length).all Arithmetic.isSpace || !Arithmetic.isInRange n then wrong
  else .ok n

/-- The checks of one operand. -/
def unary? (look : Look) : String → Option Check
  | "-n" => some fun s => .ok !s.isEmpty
  | "-z" => some fun s => .ok s.isEmpty
  | "-t" => some fun s => do
    let _ ← number s
    return false
  | "-e" | "-r" | "-w" | "-O" | "-G" => some fun s => .ok (look s).isSome
  | "-d" | "-x" => some fun s => .ok ((look s).bind Sight.entry = some .directory)
  | "-f" => some fun s =>
    match (look s).bind Sight.entry with
    | some (.file _) => .ok true
    | _ => .ok false
  | "-s" => some fun s => .ok (((look s).bind Sight.entry).any hasContent)
  | "-c" => some fun s => .ok ((look s).any fun sight => sight.entry.isNone)
  | "-L" | "-h" | "-p" | "-b" | "-S" | "-u" | "-g" | "-k" => some fun _ => .ok false
  | _ => none

/-- Whether one of two files was changed later. What stood there from the beginning was changed
before all else. -/
def isLater (a b : Sight) : Bool :=
  match a.changed, b.changed with
  | some m, some n => n < m
  | some _, none => true
  | none, _ => false

/-- The checks of two operands. -/
def binary? (look : Look) : String → Option (Octets → Octets → Except Octets Bool)
  | "=" => some fun a b => .ok (a = b)
  | "!=" => some fun a b => .ok (a ≠ b)
  | "<" => some fun a b => .ok (a < b)
  | ">" => some fun a b => .ok (b < a)
  | "-eq" => some fun a b => return (← number a) = (← number b)
  | "-ne" => some fun a b => return (← number a) ≠ (← number b)
  | "-lt" => some fun a b => return (← number a) < (← number b)
  | "-le" => some fun a b => return (← number a) ≤ (← number b)
  | "-gt" => some fun a b => return (← number b) < (← number a)
  | "-ge" => some fun a b => return (← number b) ≤ (← number a)
  | "-nt" => some (files isLater)
  | "-ot" => some (files fun a b => isLater b a)
  | "-ef" => some (files fun a b => a.place = b.place)
  | _ => none
where
  /-- Compares two files, which must both be there. -/
  files (compare : Sight → Sight → Bool) (a b : Octets) : Except Octets Bool :=
    match look a, look b with
    | some a, some b => .ok (compare a b)
    | _, _ => .ok false

/-! ## Words -/

/-- What a word is for. -/
inductive Role where
  | missing
  | operand
  | unary (check : Check)
  | binary (check : Octets → Octets → Except Octets Bool)
  | not
  | both
  | either
  | opening
  | closing

/-- What the first of a row of words is for. -/
def role (look : Look) : List Octets → Role
  | [] => .missing
  | word :: rest =>
    let name := String.ofList word
    let isComparison (w : Octets) : Bool := (binary? look (String.ofList w)).isSome
    match unary? look name, binary? look name with
    | some check, _ =>
      match rest with
      | [] => .operand
      | [_] => .unary check
      | next :: _ => if isComparison next then .operand else .unary check
    | none, some check => .binary check
    | none, none =>
      match name with
      | "!" => .not
      | "-a" => .both
      | "-o" => .either
      | "(" => if rest.isEmpty then .operand else .opening
      | ")" => .closing
      | _ => .operand

/-! ## Evaluation -/

/-- An evaluation, over the words from the current one on. -/
abbrev Evaluating := StateT (List Octets) (Except Octets)

/-- Refuses a word. -/
def refuse {α : Type} (word : Octets) (why : String) : Evaluating α :=
  throw ((if word.isEmpty then [] else word ++ [':', ' ']) ++ why.toList)

/-- Goes on to the next word and gives what it is for. -/
def advance (look : Look) : Evaluating Role := do
  modify (·.drop 1)
  return role look (← get)

/-- What the next word is for. -/
def ahead (look : Look) : Evaluating Role := do
  return role look ((← get).drop 1)

mutual

/-- Evaluates conditions of which one must hold; the last word of them stays the current one. -/
def anyOf (look : Look) : Nat → Role → Evaluating Bool
  | 0, _ => return false
  | fuel + 1, r => do
    let a ← allOf look fuel r
    match ← ahead look with
    | .either =>
      modify (·.drop 1)
      let b ← anyOf look fuel (← advance look)
      return a || b
    | _ => return a

/-- Evaluates conditions that must all hold. -/
def allOf (look : Look) : Nat → Role → Evaluating Bool
  | 0, _ => return false
  | fuel + 1, r => do
    let a ← negatable look fuel r
    match ← ahead look with
    | .both =>
      modify (·.drop 1)
      let b ← allOf look fuel (← advance look)
      return a && b
    | _ => return a

/-- Evaluates a condition that may be negated. -/
def negatable (look : Look) : Nat → Role → Evaluating Bool
  | 0, _ => return false
  | fuel + 1, r => do
    match r with
    | .not =>
      match ← ahead look with
      | .missing => return !(← negatable look fuel .missing)
      | next =>
        modify (·.drop 1)
        return !(← negatable look fuel next)
    | r => single look fuel r

/-- Evaluates one condition. -/
def single (look : Look) : Nat → Role → Evaluating Bool
  | 0, _ => return false
  | fuel + 1, r => do
    let word := (← get).headD []
    match r with
    | .missing => return false
    | .opening =>
      match ← advance look with
      | .closing => return false
      | inside =>
        let result ← anyOf look fuel inside
        match ← advance look with
        | .closing => return result
        | _ => refuse [] "closing paren expected"
    | .unary check =>
      modify (·.drop 1)
      match (← get).head? with
      | none => refuse word "argument expected"
      | some s => liftM (check s)
    | _ =>
      match ← ahead look with
      | .binary check =>
        let sign := ((← get).drop 1).headD []
        modify (·.drop 2)
        match (← get).head? with
        | none => refuse sign "argument expected"
        | some s => liftM (check word s)
      | _ => return !word.isEmpty

end

/-- Whether a condition holds, read from words of which the first is for something. -/
def whole (look : Look) (words : List Octets) (first : Role) : Except Octets Bool := do
  let (result, rest) ← (anyOf look (8 * words.length + 16) first).run words
  match rest with
  | word :: _ :: _ => throw ((if word.isEmpty then [] else word ++ [':', ' ']) ++
      "unexpected operator".toList)
  | _ => return result

/-- Whether a condition holds, or does not if it is negated. Three and four words are understood by
their number: a comparison comes before a negation, and a negation or parentheses before all else.
-/
def evaluate (look : Look) : Nat → Bool → List Octets → Except Octets Bool
  | 0, _, _ | _, _, [] => .ok false
  | fuel + 1, negated, words =>
    let settled (result : Except Octets Bool) : Except Octets Bool := result.map (· != negated)
    let general (words : List Octets) := settled (whole look words (role look words))
    match words with
    | [a, op, b] =>
      if (binary? look (String.ofList op)).isSome then settled (whole look words .operand)
      else if a = ['('] && b = [')'] then general [op]
      else if a = ['!'] then evaluate look fuel true [op, b]
      else general words
    | [a, b, c, d] =>
      if a = ['('] && d = [')'] then general [b, c]
      else if a = ['!'] then evaluate look fuel true [b, c, d]
      else general words
    | words => general words

end Condition

end WorkspaceConsole.Shell

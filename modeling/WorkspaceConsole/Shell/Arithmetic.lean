import WorkspaceConsole.Shell.Octets
import WorkspaceConsole.Text.Decimal

/-!
# Arithmetic expansion

Expressions over signed 64-bit numbers, which wrap around. A name stands for the number that is the
value of a variable, and for zero when there is no value. An expression is evaluated while it is
read, so what was assigned before a mistake stays assigned. An operand that does not matter is read
without being evaluated.
-/

namespace WorkspaceConsole.Shell

/-- A binary operation. -/
inductive ArithmeticOp where
  | mul | div | mod
  | add | sub
  | shiftLeft | shiftRight
  | lt | le | gt | ge
  | eq | ne
  | bitAnd | bitXor | bitOr
deriving DecidableEq, Repr

/-- How loosely an operation binds its operands. -/
def ArithmeticOp.rank : ArithmeticOp → Nat
  | .mul | .div | .mod => 0
  | .add | .sub => 1
  | .shiftLeft | .shiftRight => 2
  | .lt | .le | .gt | .ge => 3
  | .eq | .ne => 4
  | .bitAnd => 5
  | .bitXor => 6
  | .bitOr => 7

/-- Why an expression has no value. -/
inductive ArithmeticError where
  | divisionByZero
  | quotientTooLarge
  | expected (what : String)
  | notNumber (value : Octets)
deriving DecidableEq, Repr

namespace Arithmetic

/-! ## Numerals -/

/-- The value of a digit up to `f`. -/
def digitValue (c : Char) : Nat :=
  if c.isDigit then c.toNat - '0'.toNat
  else if 'a' ≤ c && c ≤ 'f' then c.toNat - 'a'.toNat + 10
  else if 'A' ≤ c && c ≤ 'F' then c.toNat - 'A'.toNat + 10
  else 16

/-- The digits of a base at the start of a text, and the text after them. -/
def spanDigits (base : Nat) (cs : Octets) : Octets × Octets :=
  (cs.takeWhile (digitValue · < base), cs.dropWhile (digitValue · < base))

/-- The number that digits of a base give. -/
def ofDigits (base : Nat) (ds : Octets) : Nat :=
  ds.foldl (fun n c => n * base + digitValue c) 0

/-- The numeral at the start of a text that begins with a digit: hexadecimal after `0x`, binary
after `0b`, octal after `0`, or decimal. -/
def numeral (cs : Octets) : Nat × Octets :=
  let plain (base : Nat) (cs : Octets) : Nat × Octets :=
    let (ds, rest) := spanDigits base cs
    (ofDigits base ds, rest)
  let marked (base : Nat) (rest : Octets) : Nat × Octets :=
    if rest.head?.any (digitValue · < base) then plain base rest else (0, cs.drop 1)
  match cs with
  | '0' :: 'x' :: rest | '0' :: 'X' :: rest => marked 16 rest
  | '0' :: 'b' :: rest | '0' :: 'B' :: rest => marked 2 rest
  | '0' :: _ => plain 8 cs
  | _ => plain 10 cs

/-- Whether a character is a blank or the end of a line. -/
def isSpace (c : Char) : Bool :=
  c == ' ' || ('\t' ≤ c && c ≤ '\r')

/-- The number at the start of a text, with a sign and after blanks, and the text after it. -/
def signedNumeral? (cs : Octets) : Option (Int × Octets) :=
  let signed (sign : Int) (cs : Octets) : Option (Int × Octets) :=
    if cs.head?.any Char.isDigit then
      let (n, rest) := numeral cs
      some (sign * n, rest)
    else none
  match cs.dropWhile isSpace with
  | '-' :: cs => signed (-1) cs
  | '+' :: cs => signed 1 cs
  | cs => signed 1 cs

/-- Whether a number is one of 64 bits with a sign. -/
def isInRange (n : Int) : Bool :=
  Int64.minValue.toInt ≤ n && n ≤ Int64.maxValue.toInt

/-- The number that the value of a variable is. -/
def ofValue? (value : Octets) : Option Int64 :=
  let (n, rest) := (signedNumeral? value).getD (0, value)
  if rest.all isSpace && isInRange n then some (Int64.ofInt n) else none

/-- The decimal numeral of a number. -/
def write (n : Int64) : Octets :=
  match n.toInt with
  | .ofNat m => Text.Decimal.digits m
  | .negSucc m => '-' :: Text.Decimal.digits (m + 1)

/-! ## Tokens -/

/-- The signs of the operators, longer ones before their beginnings. -/
def signs : List String :=
  ["<<=", ">>=", "<<", ">>", "<=", ">=", "==", "!=", "&&", "||", "+=", "-=", "*=", "/=", "%=", "&=",
    "^=", "|=", "+", "-", "*", "/", "%", "<", ">", "=", "!", "~", "&", "^", "|", "(", ")", "?", ":"]

/-- A token of an expression. -/
inductive Token where
  | finish
  | number (n : Int64)
  | name (x : String)
  | sign (s : String)
  | stray
deriving DecidableEq

/-- The first token of an expression, and the text after it. A numeral that is too large stands for
the largest number. -/
def firstToken (s : Octets) : Token × Octets :=
  match s.dropWhile fun c => c == ' ' || c == '\t' || c == '\n' with
  | [] => (.finish, [])
  | c :: cs =>
    if c.isDigit then
      let (n, rest) := numeral (c :: cs)
      (.number (if n < Int64.maxValue.toInt then Int64.ofNat n else Int64.maxValue), rest)
    else if isNameStart c then
      (.name (String.ofList ((c :: cs).takeWhile isNameChar)), (c :: cs).dropWhile isNameChar)
    else match signs.find? fun s => s.toList.isPrefixOf (c :: cs) with
      | some s => (.sign s, (c :: cs).drop s.length)
      | none => (.stray, cs)

/-- The operation that a token stands for. -/
def binary? : Token → Option ArithmeticOp
  | .sign "|" => some .bitOr
  | .sign "^" => some .bitXor
  | .sign "&" => some .bitAnd
  | .sign "==" => some .eq
  | .sign "!=" => some .ne
  | .sign "<" => some .lt
  | .sign "<=" => some .le
  | .sign ">" => some .gt
  | .sign ">=" => some .ge
  | .sign "<<" => some .shiftLeft
  | .sign ">>" => some .shiftRight
  | .sign "+" => some .add
  | .sign "-" => some .sub
  | .sign "*" => some .mul
  | .sign "/" => some .div
  | .sign "%" => some .mod
  | _ => none

/-- The operation that an assignment combines with. -/
def assignment? : Token → Option (Option ArithmeticOp)
  | .sign "=" => some none
  | .sign "+=" => some (some .add)
  | .sign "-=" => some (some .sub)
  | .sign "*=" => some (some .mul)
  | .sign "/=" => some (some .div)
  | .sign "%=" => some (some .mod)
  | .sign "<<=" => some (some .shiftLeft)
  | .sign ">>=" => some (some .shiftRight)
  | .sign "&=" => some (some .bitAnd)
  | .sign "^=" => some (some .bitXor)
  | .sign "|=" => some (some .bitOr)
  | _ => none

/-! ## Evaluation -/

/-- How far an expression has been read and evaluated: the text that is left, the token that ended
the last operand, the values of variables, and the assignments in order. -/
structure Progress where
  rest : Octets
  last : Token := .finish
  values : String → Octets
  assignments : List (String × Octets) := []

/-- An action on an expression that may fail. -/
abbrev Evaluating := ExceptT ArithmeticError (StateM Progress)

/-- Takes the next token. -/
def take : Evaluating Token := do
  let p ← get
  let (t, rest) := firstToken p.rest
  set { p with rest }
  return t

/-- Notes the token that ends an operand. -/
def endAt (t : Token) : Evaluating Unit :=
  modify fun p => { p with last := t }

/-- The number for a truth value. -/
def ofBool (b : Bool) : Int64 :=
  if b then 1 else 0

/-- Applies a binary operation. -/
def apply (op : ArithmeticOp) (a b : Int64) : Except ArithmeticError Int64 :=
  let divided (n : Int64) : Except ArithmeticError Int64 :=
    if b = 0 then .error .divisionByZero
    else if a = Int64.minValue && b = -1 then .error .quotientTooLarge
    else .ok n
  match op with
  | .add => .ok (a + b)
  | .sub => .ok (a - b)
  | .mul => .ok (a * b)
  | .div => divided (a / b)
  | .mod => divided (a % b)
  | .shiftLeft => .ok (a <<< b)
  | .shiftRight => .ok (a >>> b)
  | .lt => .ok (ofBool (a < b))
  | .le => .ok (ofBool (a ≤ b))
  | .gt => .ok (ofBool (b < a))
  | .ge => .ok (ofBool (b ≤ a))
  | .eq => .ok (ofBool (a = b))
  | .ne => .ok (ofBool (a ≠ b))
  | .bitAnd => .ok (a &&& b)
  | .bitXor => .ok (a ^^^ b)
  | .bitOr => .ok (a ||| b)

/-- Applies a binary operation, unless it does not matter. -/
def applied (matters : Bool) (op : ArithmeticOp) (a b : Int64) : Evaluating Int64 := do
  if !matters then return b
  match apply op a b with
  | .ok n => return n
  | .error e => throw e

/-- The number that a variable stands for. -/
def valueOf (x : String) : Evaluating Int64 := do
  let value := (← get).values x
  match ofValue? value with
  | some n => return n
  | none => throw (.notNumber value)

/-- Gives a variable a value. -/
def assignValue (x : String) (n : Int64) : Evaluating Unit :=
  modify fun p =>
    { p with
      values := fun y => if y = x then write n else p.values y
      assignments := p.assignments ++ [(x, write n)] }

mutual

/-- Evaluates an operand that begins with a token; the token after that has been taken too. -/
def operand (matters : Bool) : Nat → Token → Token → Evaluating Int64
  | 0, _, _ => throw (.expected "primary")
  | fuel + 1, first, next => do
    match first with
    | .sign "(" =>
      let n ← assignment matters fuel next
      if (← get).last != .sign ")" then throw (.expected "')'")
      endAt (← take)
      return n
    | .number n =>
      endAt next
      return n
    | .name x =>
      endAt next
      if matters then valueOf x else return 0
    | .sign "+" => operand matters fuel next (← take)
    | .sign "-" => return -(← operand matters fuel next (← take))
    | .sign "!" => return ofBool ((← operand matters fuel next (← take)) = 0)
    | .sign "~" => return ~~~(← operand matters fuel next (← take))
    | _ => throw (.expected "primary")

/-- Evaluates operations that bind more tightly than a rank, after their first operand. -/
def operationsFrom (matters : Bool) : Nat → Int64 → ArithmeticOp → Nat → Evaluating Int64
  | 0, _, _, _ => throw (.expected "primary")
  | fuel + 1, a, op, rank => do
    let first ← take
    let b ← operand matters fuel first (← take)
    let b ← match binary? (← get).last with
      | some op' =>
        if op'.rank < op.rank then operationsFrom matters fuel b op' op.rank else pure b
      | none => pure b
    let a ← applied matters op a b
    match binary? (← get).last with
    | some op' => if op'.rank < rank then operationsFrom matters fuel a op' rank else return a
    | none => return a

/-- Evaluates binary operations. -/
def operations (matters : Bool) : Nat → Token → Token → Evaluating Int64
  | 0, _, _ => throw (.expected "primary")
  | fuel + 1, first, next => do
    let a ← operand matters fuel first next
    match binary? (← get).last with
    | some op => operationsFrom matters fuel a op 8
    | none => return a

/-- Evaluates operands joined by `&&`. -/
def conjunction (matters : Bool) : Nat → Token → Token → Evaluating Int64
  | 0, _, _ => throw (.expected "primary")
  | fuel + 1, first, next => do
    let a ← operations matters fuel first next
    if (← get).last != .sign "&&" then return a
    let first ← take
    let b ← conjunction (matters && a ≠ 0) fuel first (← take)
    return ofBool (a ≠ 0 && b ≠ 0)

/-- Evaluates operands joined by `||`. -/
def disjunction (matters : Bool) : Nat → Token → Token → Evaluating Int64
  | 0, _, _ => throw (.expected "primary")
  | fuel + 1, first, next => do
    let a ← conjunction matters fuel first next
    if (← get).last != .sign "||" then return a
    let first ← take
    let b ← disjunction (matters && a = 0) fuel first (← take)
    return ofBool (a ≠ 0 || b ≠ 0)

/-- Evaluates a conditional expression. -/
def conditional (matters : Bool) : Nat → Token → Token → Evaluating Int64
  | 0, _, _ => throw (.expected "primary")
  | fuel + 1, first, next => do
    let a ← disjunction matters fuel first next
    if (← get).last != .sign "?" then return a
    let b ← assignment (matters && a ≠ 0) fuel (← take)
    if (← get).last != .sign ":" then throw (.expected "':'")
    let first ← take
    let c ← conditional (matters && a = 0) fuel first (← take)
    return if a ≠ 0 then b else c

/-- Evaluates an assignment or a conditional expression. -/
def assignment (matters : Bool) : Nat → Token → Evaluating Int64
  | 0, _ => throw (.expected "primary")
  | fuel + 1, first => do
    let next ← take
    match first, assignment? next with
    | .name x, some op =>
      let n ← assignment matters fuel (← take)
      if !matters then return n
      let n ← match op with
        | none => pure n
        | some op => do applied true op (← valueOf x) n
      assignValue x n
      return n
    | first, _ => conditional matters fuel first next

end

/-- The value of an expression or what is wrong with it, and the assignments that it makes. -/
def evaluate (values : String → Octets) (s : Octets) :
    Except ArithmeticError Int64 × List (String × Octets) :=
  let whole : Evaluating Int64 := do
    let n ← assignment true (16 * s.length + 64) (← take)
    if (← get).last != .finish then throw (.expected "EOF")
    return n
  let (result, p) := whole.run.run { rest := s, values }
  (result, p.assignments)

/-- The wording of a reason. -/
def message (source : Octets) : ArithmeticError → Octets
  | .divisionByZero =>
    "arithmetic expression: division by zero: \"".toList ++ source ++ ['"']
  | .expected what =>
    ("arithmetic expression: expecting " ++ what ++ ": \"").toList ++ source ++ ['"']
  | .notNumber value => "Illegal number: ".toList ++ value
  | .quotientTooLarge => []

end Arithmetic

end WorkspaceConsole.Shell

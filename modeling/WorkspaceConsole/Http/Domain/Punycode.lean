import WorkspaceConsole.Text.Split

/-!
# Names in plain letters

A name with letters outside ASCII is sent as plain letters, digits and hyphens: first its ASCII
characters, then, after a hyphen, numbers that say where each of the others goes and which it is, in
the order of their code points (RFC 3492). The digits of a number are 36 letters and digits; where a
number ends follows from thresholds, which depend on the numbers before it (`bias`).
-/

namespace WorkspaceConsole.Http.Domain.Punycode

/-! ## Numbers -/

/-- A digit. -/
def digit (n : Nat) : Char :=
  if n < 26 then Char.ofNat ('a'.toNat + n) else Char.ofNat ('0'.toNat + (n - 26))

/-- The value of a digit. -/
def value? (c : Char) : Option Nat :=
  if 'a' ≤ c ∧ c ≤ 'z' then some (c.toNat - 'a'.toNat)
  else if c.isDigit then some (c.toNat - '0'.toNat + 26)
  else none

/-- The digit at position `k` ends a number if it is below this. -/
def threshold (bias k : Nat) : Nat :=
  min 26 (max 1 (36 * (k + 1) - bias))

/-- How often a number can be divided by 35 until it is at most 455, and what is left. -/
def damped (times n : Nat) : Nat × Nat :=
  if 455 < n then damped (times + 1) (n / 35) else (times, n)
termination_by n
decreasing_by omega

/-- The bias after a number, with the count of characters placed so far. -/
def biasAfter (first : Bool) (number count : Nat) : Nat :=
  let n := if first then number / 700 else number / 2
  let (times, n) := damped 0 (n + n / count)
  36 * times + 36 * n / (n + 38)

/-- The bias at the start. -/
def firstBias : Nat := 72

/-! ## Writing -/

/-- The digits of a number from position `k` on. -/
def digits (bias k : Nat) (n : Nat) : List Char :=
  let t := threshold bias k
  if h : n < t then [digit n]
  else digit (t + (n - t) % (36 - t)) :: digits bias (k + 1) ((n - t) / (36 - t))
termination_by n
decreasing_by
  have ht : 1 ≤ threshold bias k := by unfold threshold; omega
  have := Nat.div_le_self (n - threshold bias k) (36 - threshold bias k)
  simp only [t] at h
  omega

/-- A name that is being written: what is written, the number that is due, the bias, and the count
of characters written. -/
structure Writing where
  written : List Char
  due : Nat
  bias : Nat
  count : Nat

/-- Goes over a character of the name when those below `n` are written and `n` is next. -/
def Writing.step (plain n : Nat) (w : Writing) (c : Char) : Writing :=
  if c.toNat < n then { w with due := w.due + 1 }
  else if c.toNat = n then
    { written := w.written ++ digits w.bias 0 w.due, due := 0,
      bias := biasAfter (w.count == plain) w.due (w.count + 1), count := w.count + 1 }
  else w

/-- Writes all characters that are the code point `n` after those that are at most `last`. -/
def Writing.turn (name : List Char) (plain : Nat) (state : Writing × Nat) (n : Nat) :
    Writing × Nat :=
  let (w, next) := state
  let w := name.foldl (Writing.step plain n) { w with due := w.due + (n - next) * (w.count + 1) }
  ({ w with due := w.due + 1 }, n + 1)

/-- Writes a name. -/
def encode (name : List Char) : List Char :=
  let plain := name.filter (·.toNat < 0x80)
  let others := ((name.map Char.toNat).filter (0x80 ≤ ·)).eraseDups.mergeSort
  let (w, _) := others.foldl (Writing.turn name plain.length)
    (⟨[], 0, firstBias, plain.length⟩, 0x80)
  (if plain.isEmpty then [] else plain ++ ['-']) ++ w.written

/-! ## Reading -/

/-- The most that a number may be. -/
def limit : Nat := UInt32.size

/-- Reads a number from position `k` on, with the weight of the next digit: the number, and the
rest. -/
def number? (bias k weight sum : Nat) : List Char → Option (Nat × List Char)
  | [] => none
  | c :: rest => do
    let v ← value? c
    let sum := sum + v * weight
    let t := threshold bias k
    if limit ≤ sum then none
    else if v < t then return (sum, rest)
    else if limit ≤ weight * (36 - t) then none
    else number? bias (k + 1) (weight * (36 - t)) sum rest

/-- Reads numbers and puts their characters into a name. The next character comes after the place
`place`, and its code point is at least `n`. -/
def place? (fuel : Nat) (name : List Char) (n place bias : Nat) (first : Bool)
    (cs : List Char) : Option (List Char) :=
  match fuel, cs with
  | _, [] => some name
  | 0, _ => none
  | fuel + 1, cs => do
    let (number, rest) ← number? bias 0 1 0 cs
    let count := name.length + 1
    let n := n + (place + number) / count
    let place := (place + number) % count
    if Nat.isValidChar n then
      place? fuel (name.take place ++ Char.ofNat n :: name.drop place) n (place + 1)
        (biasAfter first number count) false rest
    else none

/-- Reads a name. -/
def decode? (cs : List Char) : Option (List Char) :=
  let back := cs.reverse.takeWhile (· != '-')
  let front := cs.take (cs.length - back.length - 1)
  let (plain, numbers) := if front.isEmpty then ([], cs) else (front, back.reverse)
  if plain.all (·.toNat < 0x80) then place? numbers.length plain 0x80 0 firstBias true numbers
  else none

end WorkspaceConsole.Http.Domain.Punycode

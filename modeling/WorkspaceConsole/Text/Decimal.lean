/-!
# Decimal numerals

`write` gives the digits of a number without leading zeros. `read?` accepts one or more ASCII
digits, leading zeros included, and `readWord?` accepts an unsigned 64-bit number with an optional
single `+` in front. What `write` gives, `read?` takes back.
-/

namespace WorkspaceConsole.Text.Decimal

/-- The digit of a number below ten. -/
def digit (n : Nat) : Char :=
  Char.ofNat ('0'.toNat + n)

/-- The value of an ASCII digit. -/
def value (c : Char) : Nat :=
  c.toNat - '0'.toNat

/-- The decimal digits of `n`, most significant first. -/
def digits (n : Nat) : List Char :=
  if n < 10 then [digit n] else digits (n / 10) ++ [digit (n % 10)]

/-- The decimal numeral of `n`. -/
def write (n : Nat) : String :=
  String.ofList (digits n)

/-- The number that a row of digits continues `acc` to. -/
def accumulate (acc : Nat) (cs : List Char) : Nat :=
  cs.foldl (fun n c => 10 * n + value c) acc

/-- Reads one or more ASCII digits. -/
def read? (cs : List Char) : Option Nat :=
  if cs.isEmpty || !cs.all Char.isDigit then none else some (accumulate 0 cs)

/-- Reads a number below `2 ^ 64`. -/
def readBounded? (cs : List Char) : Option UInt64 :=
  match read? cs with
  | some n => if n < UInt64.size then some (UInt64.ofNat n) else none
  | none => none

/-- Reads a number below `2 ^ 64`, with an optional single `+` in front. -/
def readWord? : List Char → Option UInt64
  | '+' :: cs => readBounded? cs
  | cs => readBounded? cs

theorem isDigit_digit {n : Nat} (h : n < 10) : (digit n).isDigit = true := by
  have : n = 0 ∨ n = 1 ∨ n = 2 ∨ n = 3 ∨ n = 4 ∨ n = 5 ∨ n = 6 ∨ n = 7 ∨ n = 8 ∨ n = 9 := by omega
  rcases this with rfl | rfl | rfl | rfl | rfl | rfl | rfl | rfl | rfl | rfl <;> decide

theorem value_digit {n : Nat} (h : n < 10) : value (digit n) = n := by
  have : n = 0 ∨ n = 1 ∨ n = 2 ∨ n = 3 ∨ n = 4 ∨ n = 5 ∨ n = 6 ∨ n = 7 ∨ n = 8 ∨ n = 9 := by omega
  rcases this with rfl | rfl | rfl | rfl | rfl | rfl | rfl | rfl | rfl | rfl <;> decide

theorem accumulate_append (acc : Nat) (xs ys : List Char) :
    accumulate acc (xs ++ ys) = accumulate (accumulate acc xs) ys := by
  simp [accumulate, List.foldl_append]

theorem digits_ne_nil (n : Nat) : digits n ≠ [] := by
  unfold digits
  split <;> simp

theorem all_isDigit_digits (n : Nat) : (digits n).all Char.isDigit = true := by
  induction n using Nat.strongRecOn with
  | ind n ih =>
    unfold digits
    split
    · next h => simp [isDigit_digit h]
    · next h =>
      simp [List.all_append, ih (n / 10) (by omega), isDigit_digit (Nat.mod_lt n (by omega))]

theorem accumulate_digits (n : Nat) : accumulate 0 (digits n) = n := by
  induction n using Nat.strongRecOn with
  | ind n ih =>
    unfold digits
    split
    · next h => simp [accumulate, value_digit h]
    · next h =>
      rw [accumulate_append, ih (n / 10) (by omega)]
      simp only [accumulate, List.foldl_cons, List.foldl_nil, value_digit (Nat.mod_lt n (by omega))]
      omega

/-- A written numeral reads back. -/
theorem read?_digits (n : Nat) : read? (digits n) = some n := by
  simp [read?, digits_ne_nil, all_isDigit_digits, accumulate_digits]

end WorkspaceConsole.Text.Decimal

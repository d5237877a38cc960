/-!
# Sums and differences

Rows of a view are counted in machine words, and so is the height of a window. A sum of two words
may be larger than any word, and a difference smaller. What then comes of a computation depends on
the arithmetic that it is carried out in, so a computation takes it as a parameter.

In the arithmetic of all numbers nothing can go wrong. The checked one breaks off at the first
result that no word holds, and the wrapping one goes on with what is left of it.
-/

namespace WorkspaceConsole

/-- Which result does not fit a word. -/
inductive Overflow where
  | sum
  | difference
deriving DecidableEq, Repr

/-- The words with which a computation breaks off. -/
def Overflow.message : Overflow → String
  | sum => "attempt to add with overflow"
  | difference => "attempt to subtract with overflow"

/-- What sums and differences come to. -/
structure Arithmetic (m : Type → Type) where
  add : Nat → Nat → m Nat
  sub : Nat → Nat → m Nat

namespace Arithmetic

/-- All numbers are there, and differences stop at zero. -/
def natural : Arithmetic Id where
  add a b := a + b
  sub a b := a - b

/-- There is no result that does not fit a word of 64 bits. -/
def checked : Arithmetic (Except Overflow) where
  add a b := if a + b < UInt64.size then .ok (a + b) else .error .sum
  sub a b := if b ≤ a then .ok (a - b) else .error .difference

/-- Results are cut to a word of 64 bits. -/
def wrapping : Arithmetic Id where
  add a b := (a.toUInt64 + b.toUInt64).toNat
  sub a b := (a.toUInt64 - b.toUInt64).toNat

end Arithmetic

end WorkspaceConsole

/-!
# Classes of characters

A class is given by its boundaries in increasing order: the first code point that belongs to it, the
first after that which does not, and so on in turn.
-/

namespace WorkspaceConsole.Text

/-- A class of code points, given by the points at which membership changes. -/
structure CharClass where
  boundaries : List Nat

namespace CharClass

/-- Whether the code point `n` belongs to the class that starts as `inside` and changes at each
boundary. -/
def member (inside : Bool) (n : Nat) : List Nat → Bool
  | [] => inside
  | b :: bs => if n < b then inside else member (!inside) n bs

/-- Whether a character belongs to a class. -/
def contains (k : CharClass) (c : Char) : Bool :=
  member false c.toNat k.boundaries

end CharClass

end WorkspaceConsole.Text

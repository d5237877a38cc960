import WorkspaceConsole.Text.Utf8

/-!
# Bytes as characters

A shell works on bytes. Here a byte is written as the character with its number, so that what a
script says can be compared with characters, and bytes that are no text pass through unharmed.
-/

namespace WorkspaceConsole.Shell

/-- Bytes, each as the character with its number. -/
abbrev Octets := List Char

namespace Octets

/-- The octets of a row of bytes. -/
def ofBytes (bytes : List UInt8) : Octets :=
  bytes.map fun b => Char.ofNat b.toNat

/-- The bytes of a row of octets. -/
def toBytes (s : Octets) : List UInt8 :=
  s.map fun c => UInt8.ofNat c.toNat

/-- The octets of a text. -/
def ofText (s : String) : Octets :=
  ofBytes (Text.Utf8.encode s)

/-- The text that octets stand for. -/
def toText (s : Octets) : String :=
  Text.Utf8.decodeLossy (toBytes s)

end Octets

/-- Whether a character can begin a name. -/
def isNameStart (c : Char) : Bool :=
  c.isAlpha || c == '_'

/-- Whether a character can continue a name. -/
def isNameChar (c : Char) : Bool :=
  c.isAlphanum || c == '_'

/-- Whether octets are a name. -/
def isName : Octets → Bool
  | [] => false
  | c :: cs => isNameStart c && cs.all isNameChar

end WorkspaceConsole.Shell

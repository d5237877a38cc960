import WorkspaceConsole.Text.Utf8

/-!
# Characters by their bytes

Where a character may not stand in an address, its bytes do: each as a percent sign with two
hexadecimal digits. `encode` writes texts so, and `bytes` reads them.
-/

namespace WorkspaceConsole.Http.Percent

/-- A hexadecimal digit in upper case. -/
def digit (n : Nat) : Char :=
  if n < 10 then Char.ofNat ('0'.toNat + n) else Char.ofNat ('A'.toNat + (n - 10))

/-- The value of a hexadecimal digit in either case. -/
def value? (c : Char) : Option Nat :=
  if c.isDigit then some (c.toNat - '0'.toNat)
  else if 'a' ≤ c ∧ c ≤ 'f' then some (c.toNat - 'a'.toNat + 10)
  else if 'A' ≤ c ∧ c ≤ 'F' then some (c.toNat - 'A'.toNat + 10)
  else none

/-- A byte as it is written where its character may not stand. -/
def byte (b : UInt8) : List Char :=
  ['%', digit (b.toNat / 16), digit (b.toNat % 16)]

/-- Writes the characters of a class, and all controls and characters outside ASCII, by their
bytes. -/
def encode (escaped : Char → Bool) (cs : List Char) : List Char :=
  cs.flatMap fun c =>
    if c.toNat < 0x20 || 0x7E < c.toNat || escaped c then
      (Text.Utf8.encode (String.singleton c)).flatMap byte
    else [c]

/-- The bytes that a text stands for. A percent sign without two digits stands for itself. -/
def bytes : List Char → List UInt8
  | '%' :: a :: b :: rest =>
    match value? a, value? b with
    | some high, some low => UInt8.ofNat (16 * high + low) :: bytes rest
    | _, _ => 0x25 :: bytes (a :: b :: rest)
  | c :: rest => Text.Utf8.encode (String.singleton c) ++ bytes rest
  | [] => []

/-- The text that a text stands for, if its bytes are one. -/
def decode? (cs : List Char) : Option String :=
  Text.Utf8.decode? (bytes cs)

end WorkspaceConsole.Http.Percent

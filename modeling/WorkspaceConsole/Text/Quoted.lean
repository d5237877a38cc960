import WorkspaceConsole.Text.Mark
import WorkspaceConsole.Text.Unprintable

/-!
# Quoted text

A text in double quotes from which every character can be told: quotes and backslashes are escaped,
and what would not show, or would change its neighbour, is written by its code point.
-/

namespace WorkspaceConsole.Text

/-- The hexadecimal digit of a number below sixteen, in lower case. -/
def hexDigit (n : Nat) : Char :=
  if n < 10 then Char.ofNat ('0'.toNat + n) else Char.ofNat ('a'.toNat + (n - 10))

/-- The hexadecimal digits of `n`, without leading zeros. -/
def hexDigits (n : Nat) : List Char :=
  if n < 16 then [hexDigit n] else hexDigits (n / 16) ++ [hexDigit (n % 16)]

/-- The halfwidth sound marks, which are drawn beside the letter that they change. -/
def isHalfwidthMark (c : Char) : Bool :=
  c.toNat = 0xFF9E || c.toNat = 0xFF9F

/-- Whether a character shows as itself between quotes. -/
def showsPlain (c : Char) : Bool :=
  if c.toNat < 0x7F then ' ' ≤ c
  else !unprintable.contains c && (!extending.contains c || isHalfwidthMark c)

/-- A character as it stands between quotes. -/
def quoteChar (c : Char) : List Char :=
  match c with
  | '\x00' => ['\\', '0']
  | '\t' => ['\\', 't']
  | '\n' => ['\\', 'n']
  | '\r' => ['\\', 'r']
  | '"' => ['\\', '"']
  | '\\' => ['\\', '\\']
  | c =>
    if showsPlain c then [c]
    else ['\\', 'u', '\x7b'] ++ hexDigits c.toNat ++ ['\x7d']

/-- The text in double quotes. -/
def quoted (s : String) : String :=
  String.ofList ('"' :: s.toList.flatMap quoteChar ++ ['"'])

end WorkspaceConsole.Text

/-!
# UTF-8

`parts` runs over bytes and finds in turn each character, or `none` for each maximal piece that is
no part of a character. `decode?` wants characters only, and `decodeLossy` puts a replacement
character in the place of every other piece.
-/

namespace WorkspaceConsole.Text.Utf8

/-- A character begun: the bits so far, the range of the next byte, and how many bytes are owed. -/
structure Pending where
  bits : Nat
  least : Nat
  most : Nat
  owed : Nat

/-- What a byte begins. -/
inductive Lead where
  | character (c : Char)
  | sequence (p : Pending)
  | malformed

/-- What a byte begins. A range narrower than that of a continuation byte keeps out overlong forms,
surrogates and numbers beyond the last code point. -/
def lead (byte : UInt8) : Lead :=
  let b := byte.toNat
  if b < 0x80 then .character (Char.ofNat b)
  else if b < 0xC2 then .malformed
  else if b < 0xE0 then .sequence ⟨b - 0xC0, 0x80, 0xBF, 1⟩
  else if b = 0xE0 then .sequence ⟨0, 0xA0, 0xBF, 2⟩
  else if b = 0xED then .sequence ⟨0xD, 0x80, 0x9F, 2⟩
  else if b < 0xF0 then .sequence ⟨b - 0xE0, 0x80, 0xBF, 2⟩
  else if b = 0xF0 then .sequence ⟨0, 0x90, 0xBF, 3⟩
  else if b < 0xF4 then .sequence ⟨b - 0xF0, 0x80, 0xBF, 3⟩
  else if b = 0xF4 then .sequence ⟨4, 0x80, 0x8F, 3⟩
  else .malformed

/-- The characters and malformed pieces of a row of bytes, after a character that may have begun. -/
def partsFrom : Option Pending → List UInt8 → List (Option Char)
  | none, [] => []
  | some _, [] => [none]
  | none, b :: bs =>
    match lead b with
    | .character c => some c :: partsFrom none bs
    | .sequence p => partsFrom (some p) bs
    | .malformed => none :: partsFrom none bs
  | some p, b :: bs =>
    if p.least ≤ b.toNat ∧ b.toNat ≤ p.most then
      let bits := p.bits * 64 + (b.toNat - 0x80)
      if p.owed ≤ 1 then some (Char.ofNat bits) :: partsFrom none bs
      else partsFrom (some ⟨bits, 0x80, 0xBF, p.owed - 1⟩) bs
    else
      none :: match lead b with
        | .character c => some c :: partsFrom none bs
        | .sequence q => partsFrom (some q) bs
        | .malformed => none :: partsFrom none bs

/-- The characters and malformed pieces of a row of bytes. -/
def parts (bytes : List UInt8) : List (Option Char) :=
  partsFrom none bytes

/-- The text that a row of bytes encodes, if all of it is well formed. -/
def decode? (bytes : List UInt8) : Option String :=
  if (parts bytes).all Option.isSome then some (String.ofList ((parts bytes).filterMap id))
  else none

/-- The text of a row of bytes, with U+FFFD for each malformed piece. -/
def decodeLossy (bytes : List UInt8) : String :=
  String.ofList ((parts bytes).map fun part => part.getD '\uFFFD')

/-- The bytes of a text. -/
def encode (s : String) : List UInt8 :=
  s.toUTF8.data.toList

end WorkspaceConsole.Text.Utf8

import WorkspaceConsole.Text.Decimal

/-!
# Floating-point numbers

A `Floating` is a sign with an exact magnitude `mantissa * 2 ^ exponent` of at most 53 bits, an
infinity, or no number. Numerals are rounded to the nearest such number, ties to the even one, and
numbers are written with a given count of digits, rounded the same way. All of it is arithmetic on
natural numbers.
-/

namespace WorkspaceConsole.Text

/-- A floating-point number. -/
inductive Floating where
  | finite (negative : Bool) (mantissa : Nat) (exponent : Int)
  | infinite (negative : Bool)
  | undefined (negative : Bool)
deriving DecidableEq, Repr

namespace Floating

/-! ## Rounding -/

/-- A power of a number; a negative exponent counts as zero. -/
def pow (base : Nat) (e : Int) : Nat :=
  Nat.pow base e.toNat

/-- The quotient of two numbers, rounded to the nearest one, ties to the even one. -/
def roundedQuotient (p q : Nat) : Nat :=
  let n := p / q
  let twice := 2 * (p % q)
  if twice < q then n else if q < twice then n + 1 else n + n % 2

/-- The quotient of two numbers times a power of two, rounded. -/
def scaledQuotient (p q : Nat) (shift : Int) : Nat :=
  if 0 ≤ shift then roundedQuotient (p * pow 2 shift) q
  else roundedQuotient p (q * pow 2 (-shift))

/-- The number nearest to a quotient, and whether the quotient lies out of range. -/
def ofQuotient (negative : Bool) (p q : Nat) : Floating × Bool :=
  if p = 0 then (.finite negative 0 0, false)
  else
    let guess : Int := (p.log2 : Int) - (q.log2 : Int) - 53
    let e := if scaledQuotient p q (-guess) < pow 2 53 then guess else guess + 1
    let e := max e (-1074)
    let m := scaledQuotient p q (-e)
    let (m, e) := if m = pow 2 53 then (pow 2 52, e + 1) else (m, e)
    if 971 < e then (.infinite negative, true)
    else
      let isExact := if 0 ≤ e then m * pow 2 e * q = p else m * q = p * pow 2 (-e)
      (.finite negative m e, decide (m < pow 2 52) && !isExact)

/-! ## Reading -/

/-- The value of a hexadecimal digit. -/
def hexValue? (c : Char) : Option Nat :=
  if c.isDigit then some (c.toNat - '0'.toNat)
  else if 'a' ≤ c && c ≤ 'f' then some (c.toNat - 'a'.toNat + 10)
  else if 'A' ≤ c && c ≤ 'F' then some (c.toNat - 'A'.toNat + 10)
  else none

/-- The number that digits of a base give. -/
def ofDigits (base : Nat) (ds : List Char) : Nat :=
  ds.foldl (fun n c => n * base + (hexValue? c).getD 0) 0

/-- The exponent after a mark, and the text after it; without digits there is none. -/
def exponent (mark : Char) (cs : List Char) : Int × List Char :=
  let read (sign : Int) (ds : List Char) : Int × List Char :=
    let digits := ds.takeWhile Char.isDigit
    if digits.isEmpty then (0, cs)
    else (sign * min (Decimal.accumulate 0 digits) 100000, ds.drop digits.length)
  match cs with
  | c :: '-' :: ds => if c.toLower = mark then read (-1) ds else (0, cs)
  | c :: '+' :: ds => if c.toLower = mark then read 1 ds else (0, cs)
  | c :: ds => if c.toLower = mark then read 1 ds else (0, cs)
  | [] => (0, [])

/-- The digits before and after a point, and the text after them; there must be one. -/
def fraction? (isDigit : Char → Bool) (cs : List Char) :
    Option (List Char × List Char × List Char) :=
  let whole := cs.takeWhile isDigit
  let (part, rest) := match cs.drop whole.length with
    | '.' :: ds => (ds.takeWhile isDigit, ds.dropWhile isDigit)
    | rest => ([], rest)
  if whole.isEmpty && part.isEmpty then none else some (whole, part, rest)

/-- The numeral without sign at the start of a text: the number, whether it lies out of range, and
the text after it. -/
def unsigned? (negative : Bool) (cs : List Char) : Option (Floating × Bool × List Char) :=
  let word (w : String) : Bool := w.toList.isPrefixOf (cs.map Char.toLower)
  let decimal : Option (Floating × Bool × List Char) :=
    (fraction? Char.isDigit cs).map fun (whole, part, rest) =>
      let (e, rest) := exponent 'e' rest
      let digits := (whole ++ part).dropWhile (· == '0')
      let n := Decimal.accumulate 0 digits
      let e := e - part.length
      let (x, outside) : Floating × Bool :=
        if n ≠ 0 && 400 < e + digits.length then (.infinite negative, true)
        else if n ≠ 0 && e + digits.length < -400 then (.finite negative 0 0, true)
        else if 0 ≤ e then ofQuotient negative (n * pow 10 e) 1
        else ofQuotient negative n (pow 10 (-e))
      (x, outside, rest)
  let hexadecimal (cs : List Char) : Option (Floating × Bool × List Char) :=
    (fraction? (fun c => (hexValue? c).isSome) cs).map fun (whole, part, rest) =>
      let (e, rest) := exponent 'p' rest
      let digits := (whole ++ part).dropWhile (· == '0')
      let n := ofDigits 16 digits
      let e := e - 4 * part.length
      let (x, outside) : Floating × Bool :=
        if n ≠ 0 && 1100 < e + 4 * digits.length then (.infinite negative, true)
        else if n ≠ 0 && e + 4 * digits.length < -1200 then (.finite negative 0 0, true)
        else if 0 ≤ e then ofQuotient negative (n * pow 2 e) 1
        else ofQuotient negative n (pow 2 (-e))
      (x, outside, rest)
  if word "infinity" then some (.infinite negative, false, cs.drop 8)
  else if word "inf" then some (.infinite negative, false, cs.drop 3)
  else if word "nan" then some (.undefined negative, false, cs.drop 3)
  else match cs with
    | '0' :: x :: rest => if x.toLower = 'x' then (hexadecimal rest).or decimal else decimal
    | _ => decimal

/-- The numeral at the start of a text, after blanks and with a sign. -/
def read? (cs : List Char) : Option (Floating × Bool × List Char) :=
  match cs.dropWhile fun c => c == ' ' || ('\t' ≤ c && c ≤ '\r') with
  | '-' :: cs => unsigned? true cs
  | '+' :: cs => unsigned? false cs
  | cs => unsigned? false cs

/-! ## Writing -/

/-- The magnitude of a finite number as a quotient. -/
def quotient (mantissa : Nat) (e : Int) : Nat × Nat :=
  if 0 ≤ e then (mantissa * pow 2 e, 1) else (mantissa, pow 2 (-e))

/-- A magnitude times a power of ten, rounded. -/
def timesTen (p q : Nat) (power : Int) : Nat :=
  if 0 ≤ power then roundedQuotient (p * pow 10 power) q
  else roundedQuotient p (q * pow 10 (-power))

/-- Digits with zeros before them up to a length. -/
def padded (length : Nat) (ds : List Char) : List Char :=
  List.replicate (length - ds.length) '0' ++ ds

/-- Digits with a point before the last ones. -/
def withPoint (places : Nat) (always : Bool) (ds : List Char) : List Char :=
  let ds := padded (places + 1) ds
  let whole := ds.take (ds.length - places)
  let part := ds.drop (ds.length - places)
  if part.isEmpty && !always then whole else whole ++ '.' :: part

/-- A magnitude with a number of places after the point. -/
def fixed (places : Nat) (always : Bool) (p q : Nat) : List Char :=
  withPoint places always (Decimal.digits (timesTen p q places))

/-- The power of ten of the first digit of a magnitude that is rounded to a number of places after
that digit, and the digits. -/
def leading (places : Nat) (p q : Nat) : Int × Nat :=
  if p = 0 then (0, 0)
  else
    let digits (n : Nat) : Int := (Decimal.digits n).length
    let guess : Int := if q ≤ p then digits (p / q) - 1 else -(digits (q / p))
    let below := p * pow 10 (-guess) < q * pow 10 guess
    let x := if below then guess - 1 else guess
    let x := if !below && q * pow 10 (guess + 1) ≤ p * pow 10 (-(guess + 1)) then guess + 1 else x
    let n := timesTen p q (places - x)
    if n = pow 10 (places + 1) then (x + 1, pow 10 places) else (x, n)

/-- A power after a mark, with a sign and at least a number of digits. -/
def powerText (mark : Char) (least : Nat) (x : Int) : List Char :=
  mark :: (if x < 0 then '-' else '+') :: padded least (Decimal.digits x.natAbs)

/-- A magnitude with one digit before the point and a power of ten. -/
def scientific (places : Nat) (always : Bool) (p q : Nat) : List Char :=
  let (x, n) := leading places p q
  withPoint places always (Decimal.digits n) ++ powerText 'e' 2 x

/-- Digits without zeros after the point. -/
def withoutZeros (ds : List Char) : List Char :=
  if ds.contains '.' then
    ((ds.reverse.dropWhile (· == '0')).dropWhile (· == '.')).reverse
  else ds

/-- A magnitude with a number of digits, in the shorter of the two ways. -/
def general (digits : Nat) (always : Bool) (p q : Nat) : List Char :=
  let digits := max 1 digits
  let (x, n) := leading (digits - 1) p q
  let shown (ds : List Char) : List Char := if always then ds else withoutZeros ds
  if -4 ≤ x && x < digits then shown (fixed (digits - 1 - x).toNat always p q)
  else
    shown (withPoint (digits - 1) always (Decimal.digits n)) ++ powerText 'e' 2 x

/-- A magnitude in hexadecimal digits, with a power of two. -/
def hexadecimal (places : Option Nat) (always : Bool) (mantissa : Nat) (e : Int) : List Char :=
  let isSmall := mantissa < pow 2 52
  let power : Int := if mantissa = 0 then 0 else e + 52
  let all : List Char := padded 14 (Nat.toDigits 16 mantissa)
  let ds := match places with
    | some n =>
      if n < 13 then
        padded (n + 1) (Nat.toDigits 16 (roundedQuotient mantissa (pow 16 (13 - n))))
      else all ++ List.replicate (n - 13) '0'
    | none => (all.reverse.dropWhile (· == '0')).reverse
  let ds := if ds.isEmpty then ['0'] else ds
  let part := ds.drop 1
  let point := if part.isEmpty && !always then [] else '.' :: part
  let power := if isSmall && mantissa ≠ 0 then -1022 else power
  ds.take 1 ++ point ++ powerText 'p' 1 power

end Floating

end WorkspaceConsole.Text

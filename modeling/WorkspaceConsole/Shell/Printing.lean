import WorkspaceConsole.Shell.Arithmetic
import WorkspaceConsole.Text.Floating
import WorkspaceConsole.Text.Split

/-!
# Printing

Escapes with a backslash, and formats that are filled in with arguments. A format is used again as
long as it takes arguments and some are left.
-/

namespace WorkspaceConsole.Shell

namespace Printing

/-! ## Escapes -/

/-- Whether a character is an octal digit. -/
def isOctal (c : Char) : Bool :=
  '0' ≤ c && c ≤ '7'

/-- The octet that octal digits stand for. -/
def octal (ds : Octets) : Char :=
  Char.ofNat (Arithmetic.ofDigits 8 ds % 256)

/-- Up to `n` octal digits at the start of a text, and what follows them. -/
def spanOctal (n : Nat) (cs : Octets) : Octets × Octets :=
  let ds := (cs.take n).takeWhile isOctal
  (ds, cs.drop ds.length)

/-- What a backslash and the text after it stand for, and what follows. A backslash before any other
character stands for itself. -/
def escape : Octets → Octets × Octets
  | 'a' :: cs => (['\x07'], cs)
  | 'b' :: cs => (['\x08'], cs)
  | 'e' :: cs => (['\x1b'], cs)
  | 'f' :: cs => (['\x0c'], cs)
  | 'n' :: cs => (['\n'], cs)
  | 'r' :: cs => (['\r'], cs)
  | 't' :: cs => (['\t'], cs)
  | 'v' :: cs => (['\x0b'], cs)
  | '\\' :: cs => (['\\'], cs)
  | c :: cs =>
    if isOctal c then
      let (ds, rest) := spanOctal 3 (c :: cs)
      ([octal ds], rest)
    else (['\\'], c :: cs)
  | [] => (['\\'], [])

/-- A text with its escapes put in, and whether it was cut short by `\c`. After a zero there may be
three more octal digits. -/
def unescape : Nat → Octets → Octets × Bool
  | 0, _ | _, [] => ([], false)
  | _, '\\' :: 'c' :: _ => ([], true)
  | fuel + 1, '\\' :: '0' :: cs =>
    let (ds, rest) := spanOctal 3 cs
    let (more, cut) := unescape fuel rest
    (octal ds :: more, cut)
  | fuel + 1, '\\' :: cs =>
    let (front, rest) := escape cs
    let (more, cut) := unescape fuel rest
    (front ++ more, cut)
  | fuel + 1, c :: cs =>
    let (more, cut) := unescape fuel cs
    (c :: more, cut)

/-- What `echo` prints. -/
def echo (args : List Octets) : Octets :=
  let (args, lineEnd) : List Octets × Octets := match args with
    | ['-', 'n'] :: rest => (rest, [])
    | args => (args, ['\n'])
  let text := Text.joinWith ' ' args
  let (text, cut) := unescape (text.length + 1) text
  if cut then text else text ++ lineEnd

/-! ## Formats -/

/-- How one argument is put in. -/
structure Directive where
  left : Bool := false
  zero : Bool := false
  plus : Bool := false
  space : Bool := false
  marked : Bool := false
  width : Nat := 0
  precision : Option Nat := none

/-- What has been printed so far, the arguments that are left, the complaints, and whether the rest
is cut off. A failure ends the command at once. -/
structure Progress where
  out : Octets := []
  arguments : List Octets := []
  complaints : List Octets := []
  stopped : Bool := false
  failure : Option Octets := none

namespace Progress

/-- Prints more. -/
def print (p : Progress) (s : Octets) : Progress :=
  { p with out := p.out ++ s }

/-- Complains, which makes the command fail in the end. -/
def complain (p : Progress) (message : Octets) : Progress :=
  { p with complaints := p.complaints ++ [message] }

/-- Fails. -/
def fail (p : Progress) (message : Octets) : Progress :=
  { p with failure := some message, stopped := true }

/-- Takes the next argument, if there is one. -/
def take (p : Progress) : Option Octets × Progress :=
  match p.arguments with
  | [] => (none, p)
  | a :: rest => (some a, { p with arguments := rest })

/-- Complains if an argument is no number, if something follows the number, or if the number is out
of range. -/
def checked (p : Progress) (s rest : Octets) (isNumber isInRange : Bool) : Progress :=
  if !isNumber && !s.isEmpty then p.complain (s ++ ": expected numeric value".toList)
  else if !rest.isEmpty then p.complain (s ++ ": not completely converted".toList)
  else if !isInRange then p.complain (s ++ ": Numerical result out of range".toList)
  else p

/-- The character after a quote at the beginning of an argument, by its number. -/
def quotedChar? : Octets → Option Nat
  | '"' :: cs | '\x27' :: cs => some ((cs.head?.map Char.toNat).getD 0)
  | _ => none

/-- Takes the next argument as a number in a range; what lies outside becomes the nearest bound. -/
def takeNumber (p : Progress) (low high : Int) : Int × Progress :=
  match p.take with
  | (none, p) => (0, p)
  | (some s, p) =>
    match quotedChar? s, Arithmetic.signedNumeral? s with
    | some n, _ => (n, p)
    | none, none => (0, p.checked s s false true)
    | none, some (n, rest) =>
      let isInRange := low ≤ n && n ≤ high
      (max low (min high n), p.checked s rest true isInRange)

/-- Takes the next argument as a signed number. -/
def takeSigned (p : Progress) : Int × Progress :=
  p.takeNumber Int64.minValue.toInt Int64.maxValue.toInt

/-- Takes the next argument as a number without sign; negative ones wrap around. -/
def takeUnsigned (p : Progress) : Nat × Progress :=
  let top : Int := UInt64.size - 1
  let (n, p) := p.takeNumber (-top) top
  ((n % UInt64.size).toNat, p)

/-- Takes the next argument as a floating-point number. -/
def takeFloating (p : Progress) : Text.Floating × Progress :=
  let zero : Text.Floating := .finite false 0 0
  match p.take with
  | (none, p) => (zero, p)
  | (some s, p) =>
    match quotedChar? s, Text.Floating.read? s with
    | some n, _ => (.finite false n 0, p)
    | none, none => (zero, p.checked s s false true)
    | none, some (x, outside, rest) => (x, p.checked s rest true !outside)

end Progress

/-- Fills a text up to a width. -/
def pad (d : Directive) (s : Octets) : Octets :=
  let blanks := List.replicate (d.width - s.length) ' '
  if d.left then s ++ blanks else blanks ++ s

/-- The part of a text that a precision leaves. -/
def cutText (d : Directive) (s : Octets) : Octets :=
  match d.precision with
  | some n => s.take n
  | none => s

/-- Fills up to a width, between a sign and digits where zeros are asked for. -/
def padDigits (d : Directive) (zeros : Bool) (sign digits : Octets) : Octets :=
  if zeros && d.zero && !d.left then
    sign ++ List.replicate (d.width - sign.length - digits.length) '0' ++ digits
  else pad d (sign ++ digits)

/-- Digits of a whole number with the zeros that a precision asks for. -/
def wholeDigits (d : Directive) (base n : Nat) : Octets :=
  let digits := if n = 0 then [] else Nat.toDigits base n
  List.replicate (d.precision.getD 1 - digits.length) '0' ++ digits

/-- The sign of a number. -/
def signText (d : Directive) (isNegative : Bool) : Octets :=
  if isNegative then ['-'] else if d.plus then ['+'] else if d.space then [' '] else []

/-- Puts a floating-point number in. -/
def floating (d : Directive) (kind : Char) (x : Text.Floating) : Octets :=
  let places := d.precision.getD 6
  let text : Octets := match x, kind with
    | .finite _ m e, 'f' => (fun (p, q) => Text.Floating.fixed places d.marked p q)
        (Text.Floating.quotient m e)
    | .finite _ m e, 'e' => (fun (p, q) => Text.Floating.scientific places d.marked p q)
        (Text.Floating.quotient m e)
    | .finite _ m e, 'g' => (fun (p, q) => Text.Floating.general places d.marked p q)
        (Text.Floating.quotient m e)
    | .finite _ m e, _ => Text.Floating.hexadecimal d.precision d.marked m e
    | .infinite _, _ => "inf".toList
    | .undefined _, _ => "nan".toList
  match x with
  | .finite negative _ _ =>
    padDigits d true (signText d negative ++ if kind = 'a' then ['0', 'x'] else []) text
  | .infinite negative | .undefined negative => pad d (signText d negative ++ text)

/-- Puts one argument in. A directive that is unknown ends the format. -/
def fill (d : Directive) (source : Octets) (kind : Char) (p : Progress) : Progress :=
  let number (base : Nat) (mark : Octets) : Progress :=
    let (n, p) := p.takeUnsigned
    let digits := wholeDigits d base n
    let digits := if base = 8 && d.marked && digits.head? != some '0' then '0' :: digits else digits
    p.print (padDigits d d.precision.isNone (if d.marked && n ≠ 0 then mark else []) digits)
  match kind with
  | 's' =>
    let (s, p) := p.take
    p.print (pad d (cutText d (s.getD [])))
  | 'b' =>
    let (s, p) := p.take
    let s := s.getD []
    let (s, cut) := unescape (s.length + 1) s
    { p.print (pad d (cutText d s)) with stopped := cut }
  | 'c' =>
    let (s, p) := p.take
    p.print (pad d [(s.getD []).headD '\x00'])
  | 'd' | 'i' =>
    let (n, p) := p.takeSigned
    p.print (padDigits d d.precision.isNone (signText d (n < 0)) (wholeDigits d 10 n.natAbs))
  | 'u' => number 10 []
  | 'o' => number 8 []
  | 'x' => number 16 ['0', 'x']
  | 'X' =>
    let (n, p) := p.takeUnsigned
    let mark : Octets := if d.marked && n ≠ 0 then ['0', 'X'] else []
    p.print (padDigits d d.precision.isNone mark ((wholeDigits d 16 n).map Char.toUpper))
  | kind =>
    if ['a', 'e', 'f', 'g'].contains kind then
      let (x, p) := p.takeFloating
      p.print (floating d kind x)
    else if ['A', 'E', 'F', 'G'].contains kind then
      let (x, p) := p.takeFloating
      p.print ((floating d kind.toLower x).map Char.toUpper)
    else p.fail (source ++ ": invalid directive".toList)

/-- Reads the flags of a directive. -/
def flags : Directive → Octets → Directive × Octets
  | d, '-' :: cs => flags { d with left := true } cs
  | d, '0' :: cs => flags { d with zero := true } cs
  | d, '+' :: cs => flags { d with plus := true } cs
  | d, ' ' :: cs => flags { d with space := true } cs
  | d, '#' :: cs => flags { d with marked := true } cs
  | d, cs => (d, cs)

/-- Reads a number of a directive, which may be given as an argument. -/
def measure (cs : Octets) (p : Progress) : Option Int × Octets × Progress :=
  match cs with
  | '*' :: rest =>
    let (n, p) := p.takeSigned
    (some n, rest, p)
  | cs =>
    let ds := cs.takeWhile Char.isDigit
    (if ds.isEmpty then none else some (Text.Decimal.accumulate 0 ds), cs.drop ds.length, p)

/-- Puts in the argument for the directive after a percent sign, and gives the rest of the format.
-/
def directive (format : Octets) (p : Progress) : Octets × Progress :=
  let (d, cs) := flags {} format
  let (width, cs, p) := measure cs p
  let d := match width with
    | some n => { d with width := n.natAbs, left := d.left || n < 0 }
    | none => d
  let (d, cs, p) : Directive × Octets × Progress := match cs with
    | '.' :: cs =>
      let (precision, cs, p) := measure cs p
      let n := precision.getD 0
      ({ d with precision := if n < 0 then none else some n.toNat }, cs, p)
    | cs => (d, cs, p)
  match cs with
  | [] => ([], p.fail "missing format character".toList)
  | kind :: cs => (cs, fill d ('%' :: format.take (format.length - cs.length)) kind p)

/-- Prints a format once. -/
def once : Nat → Octets → Progress → Progress
  | 0, _, p | _, [], p => p
  | fuel + 1, '\\' :: cs, p =>
    let (s, rest) := escape cs
    once fuel rest (p.print s)
  | fuel + 1, '%' :: '%' :: cs, p => once fuel cs (p.print ['%'])
  | fuel + 1, '%' :: cs, p =>
    let (rest, p) := directive cs p
    if p.stopped then p else once fuel rest p
  | fuel + 1, c :: cs, p => once fuel cs (p.print [c])

/-- Prints a format as long as it takes arguments and some are left. -/
def again : Nat → Octets → Progress → Progress
  | 0, _, p => p
  | fuel + 1, format, p =>
    let before := p.arguments.length
    let p := once (format.length + 1) format p
    if p.stopped || p.arguments.isEmpty || p.arguments.length = before then p
    else again fuel format p

/-- What `printf` prints. -/
def formatted (format : Octets) (arguments : List Octets) : Progress :=
  again (arguments.length + 1) format { arguments }

end Printing

end WorkspaceConsole.Shell

import WorkspaceConsole.Http.Domain
import WorkspaceConsole.Http.Percent
import WorkspaceConsole.Text.Decimal

/-!
# Hosts

The name of a server, or its address: four bytes with points between them, in one of many spellings,
or eight groups of hexadecimal digits in brackets. Each host has one usual form.
-/

namespace WorkspaceConsole.Http

/-! ## Addresses of four bytes -/

/-- Reads a part of a numeric host: octal after a zero, hexadecimal after `0x`. -/
def hostNumber? (cs : List Char) : Option Nat :=
  let digits (base : Nat) (cs : List Char) : Option Nat :=
    cs.foldl
      (fun acc c => acc.bind fun n =>
        let v := if c.isDigit then c.toNat - '0'.toNat
          else if 'a' ≤ c ∧ c ≤ 'f' then c.toNat - 'a'.toNat + 10 else base
        if v < base then some (n * base + v) else none)
      (some 0)
  match cs with
  | [] => none
  | '0' :: 'x' :: rest => digits 16 rest
  | '0' :: c :: rest => digits 8 (c :: rest)
  | cs => digits 10 cs

/-- Whether the last part of a name is a number, so that the whole must be one. -/
def endsInNumber (parts : List (List Char)) : Bool :=
  match parts.getLast? with
  | none => false
  | some last => (!last.isEmpty && last.all Char.isDigit) || (hostNumber? last).isSome

/-- The number of values that so many bytes can have. -/
def valuesOfBytes : Nat → Nat
  | 0 => 1
  | n + 1 => 256 * valuesOfBytes n

/-- The number of a numeric host: each part but the last is a byte, and the last fills the rest. -/
def hostAddress? (numbers : List Nat) : Option Nat :=
  match numbers.reverse with
  | [] => none
  | last :: front =>
    if 4 < numbers.length || front.any (255 < ·) || valuesOfBytes (4 - front.length) ≤ last then
      none
    else
      let high := front.reverse.foldl (fun acc n => 256 * acc + n) 0
      some (high * valuesOfBytes (4 - front.length) + last)

/-- The four bytes of a numeric host with points between them. -/
def dotted (n : Nat) : String :=
  ".".intercalate ((List.range 4).map fun i =>
    Text.Decimal.write (n / valuesOfBytes (3 - i) % 256))

/-! ## Addresses of eight groups -/

/-- A group of up to four hexadecimal digits. -/
def group? (cs : List Char) : Option Nat :=
  if cs.isEmpty || 4 < cs.length then none
  else (cs.mapM Percent.value?).map fun digits => digits.foldl (fun n d => 16 * n + d) 0

/-- The two groups that four bytes with points between them stand for. -/
def dottedGroups? (cs : List Char) : Option (List Nat) := do
  let byte? (ds : List Char) : Option Nat := do
    let n ← Text.Decimal.read? ds
    if 255 < n || (ds.length != 1 && ds.head? = some '0') then none else return n
  match ← (Text.pieces (· == '.') cs).mapM byte? with
  | [a, b, c, d] => return [a * 256 + b, c * 256 + d]
  | _ => none

/-- The groups between colons; four bytes may stand in the place of the last two. -/
def groups? (cs : List Char) : Option (List Nat) :=
  if cs.isEmpty then some []
  else
    let parts := Text.pieces (· == ':') cs
    match parts.getLast? with
    | some last =>
      if last.contains '.' then do
        let front ← parts.dropLast.mapM group?
        return front ++ (← dottedGroups? last)
      else parts.mapM group?
    | none => none

/-- The text before the first double colon, and the text after it. -/
def cutAtDoubleColon : List Char → Option (List Char × List Char)
  | [] => none
  | ':' :: ':' :: rest => some ([], rest)
  | c :: rest => (cutAtDoubleColon rest).map fun (front, back) => (c :: front, back)

/-- The eight groups of an address. A double colon stands for one or more groups that are zero. -/
def eightGroups? (cs : List Char) : Option (List Nat) :=
  match cutAtDoubleColon cs with
  | none => do
    let groups ← groups? cs
    if groups.length = 8 then return groups else none
  | some (front, back) => do
    if front.contains '.' then none
    let front ← groups? front
    let back ← groups? back
    let missing := 8 - (front.length + back.length)
    if missing = 0 then none else return front ++ List.replicate missing 0 ++ back

/-- The hexadecimal digits of a number. -/
def hexadecimal (n : Nat) : String :=
  String.ofList (Nat.toDigits 16 n)

/-- The start and the length of the first of the longest runs of zeros. -/
def longestZeros (groups : List Nat) : Nat × Nat :=
  let runs := (List.range groups.length).map fun i =>
    (i, ((groups.drop i).takeWhile (· == 0)).length)
  runs.foldl (fun best run => if best.2 < run.2 then run else best) (0, 0)

/-- The written form of eight groups: a double colon for the longest run of two or more zeros. -/
def writeGroups (groups : List Nat) : String :=
  let row (groups : List Nat) : String := ":".intercalate (groups.map hexadecimal)
  let (start, length) := longestZeros groups
  if length < 2 then row groups
  else row (groups.take start) ++ "::" ++ row (groups.drop (start + length))

/-- The usual form of an address in brackets. -/
def bracketed? (cs : List Char) : Option String :=
  if cs.getLast? = some ']' then
    (eightGroups? (cs.drop 1).dropLast).map fun groups => "[" ++ writeGroups groups ++ "]"
  else none

/-! ## Hosts -/

/-- The signs that may not stand in the name of a host whose scheme is not one of the web. -/
def hostStops : List Char :=
  ['\x00', '\t', '\n', '\r', ' ', '#', '/', ':', '<', '>', '?', '@', '[', '\\', ']', '^', '|']

/-- The host of an address that is not one of the web, which is left as it is. -/
def opaqueHost? (cs : List Char) : Option String :=
  match cs with
  | '[' :: _ => bracketed? cs
  | cs =>
    if cs.any hostStops.contains then none
    else some (String.ofList (Percent.encode (fun _ => false) cs))

/-- The host of an address of the web in its usual form. -/
def host? (cs : List Char) : Option String :=
  match cs with
  | '[' :: _ => bracketed? cs
  | cs => do
    let name ← Domain.written? (Percent.bytes cs)
    if name.isEmpty then none
    let parts := Text.pieces (· == '.') name
    let parts := if 1 < parts.length && parts.getLast? = some [] then parts.dropLast else parts
    if endsInNumber parts then ((parts.mapM hostNumber?).bind hostAddress?).map dotted
    else return String.ofList name

end WorkspaceConsole.Http

import WorkspaceConsole.Shell.Builtin.Basic
import WorkspaceConsole.Shell.Printing

/-!
# Commands that print and read lines

`echo` and `printf` write; `read` takes a line of input and shares it out among variables.
-/

namespace WorkspaceConsole.Shell.Builtin

open Run

/-- Prints words on a line. -/
def echo : Command := fun args =>
  print (Printing.echo args)

/-- Prints a format filled in. -/
def printFormat : Command := fun args => do
  match ← operands args with
  | [] => fail "usage: printf format [arg ...]".toList
  | format :: arguments =>
    let p := Printing.formatted format arguments
    for message in p.complaints do complain message
    let status ← print p.out
    if let some message := p.failure then fail message
    return if p.complaints.isEmpty then status else 1

/-- The stretches of a line in which a backslash quotes what follows it, and whether one is left at
the end. -/
def unescapedLine : Octets → Octets → List Stretch × Bool
  | [], plain => ([⟨.fields, Item.ofOctets false plain⟩], false)
  | ['\\'], plain => ([⟨.fields, Item.ofOctets false plain⟩], true)
  | '\\' :: c :: cs, plain =>
    let (more, isOpen) := unescapedLine cs []
    (⟨.fields, Item.ofOctets false plain⟩ :: ⟨.whole, [.char c true]⟩ :: more, isOpen)
  | c :: cs, plain => unescapedLine cs (plain ++ [c])

/-- Takes a line of input, in which a backslash quotes what follows it unless `raw`. The flag says
that the line has an end. -/
def inputLine (raw : Bool) : Nat → Run (List Stretch × Bool)
  | 0 => return ([], false)
  | fuel + 1 => do
    let s := (← readUpTo 0 (· == '\n')).filter (· != '\x00')
    let isEnded := s.getLast? = some '\n'
    let s := if isEnded then s.dropLast else s
    if raw then return ([⟨.fields, Item.ofOctets false s⟩], isEnded)
    let (stretches, isOpen) := unescapedLine s []
    if isOpen && isEnded then
      let (more, isEnded) ← inputLine raw fuel
      return (stretches ++ more, isEnded)
    return (stretches, isEnded)

/-- Reads a line into variables; the last one takes what is left. -/
def readLine : Command := fun args => do
  let (found, names) ← options "p:r" args
  let raw := found.any fun o => o.1 = 'r'
  if names.isEmpty then fail "arg count".toList
  let (stretches, isEnded) ← inputLine raw 1000
  let fields := splitFields (← separators) (some names.length) stretches
  for (name, n) in names.zipIdx do
    if !isName name then fail (name ++ ": bad variable name".toList)
    assign (String.ofList name) (Item.text (fields.getD n []))
  return if isEnded then 0 else 1

end WorkspaceConsole.Shell.Builtin

import WorkspaceConsole.Shell.Arithmetic
import WorkspaceConsole.Shell.Field
import WorkspaceConsole.Shell.Machine

/-!
# Expansion of words

A word expands to stretches of text, which are split into fields; a field with an open pattern gives
way to the names of files that it stands for. How commands are carried out is left open here: the
functions take it as an argument.
-/

namespace WorkspaceConsole.Shell

/-- How a word is expanded: into fields or into one text, inside quotes, as the word of a parameter,
and with tildes also after the equals sign and the colons of an assignment. -/
structure Manner where
  toFields : Bool := false
  quoted : Bool := false
  inOperand : Bool := false
  atStart : Bool := false
  assigns : Bool := false
deriving Inhabited

/-- The switches by name, with their letters. -/
def switchLetters : List (String × Option Char) :=
  [("errexit", some 'e'), ("noglob", some 'f'), ("ignoreeof", some 'I'), ("interactive", some 'i'),
    ("monitor", some 'm'), ("noexec", some 'n'), ("stdin", some 's'), ("xtrace", some 'x'),
    ("verbose", some 'v'), ("vi", some 'V'), ("emacs", some 'E'), ("noclobber", some 'C'),
    ("allexport", some 'a'), ("notify", some 'b'), ("nounset", some 'u'), ("privileged", some 'p'),
    ("nolog", none), ("debug", none)]

/-! ## Tildes -/

/-- What is known about home directories: that of the user, and whether tildes count after equals
signs and colons. -/
structure Tildes where
  home : Option Octets
  assigns : Bool
  endsWord : Bool

namespace Tildes

/-- The home directory of a user, if it is known. -/
def directory? (t : Tildes) (user : Octets) : Option Octets :=
  if user.isEmpty then t.home
  else if user = "root".toList then some "/root".toList
  else none

/-- The items of a text in which tildes are expanded. The flags say that a tilde counts here, and
that an equals sign still counts. -/
def items (t : Tildes) : Nat → Bool → Bool → Octets → List Item
  | 0, _, _, _ | _, _, _, [] => []
  | fuel + 1, counts, equals, c :: cs =>
    let plain : List Item :=
      let counts := t.assigns && (c == ':' || (c == '=' && equals))
      .char c false :: t.items fuel counts (equals && c != '=') cs
    if counts && c == '~' then
      let isEnd (d : Char) : Bool := d == '/' || (t.assigns && d == ':')
      let user := cs.takeWhile (!isEnd ·)
      let rest := cs.drop user.length
      match if rest.isEmpty && !t.endsWord then none else t.directory? user with
      | some home => Item.ofOctets true home ++ t.items fuel false equals rest
      | none => plain
    else plain

end Tildes

namespace Run

/-! ## Parameters -/

/-- The characters of the switches that are on, the last one first. -/
def switchText (on : List String) : Octets :=
  switchLetters.reverse.filterMap fun (name, letter) => if on.contains name then letter else none

/-- What stands between arguments that are put together, if anything does. -/
def argumentSeparator (manner : Manner) (name : String) : Run (Option Item) := do
  if name = "@" && manner.quoted && manner.toFields then return some .gap
  match ← value? "IFS" with
  | none => return some (.char ' ' manner.quoted)
  | some ifs =>
    if manner.toFields && !manner.quoted then return some .gap
    return ifs.head?.map (.char · manner.quoted)

/-- The items of a parameter, if it is set. -/
def parameter? (manner : Manner) (name : String) : Run (Option (List Item)) := do
  let s ← shell
  let result (v : Octets) : Option (List Item) := some (Item.ofOctets manner.quoted v)
  let number (n : Nat) : Option (List Item) := result (Text.Decimal.digits n)
  match name with
  | "?" => return number s.status
  | "#" => return number s.arguments.length
  | "$" => return number s.number
  | "!" => return s.background.bind number
  | "-" => return result (switchText s.switches)
  | "@" | "*" =>
    let between := (← argumentSeparator manner name).toList
    return some ((s.arguments.map (Item.ofOctets manner.quoted)).intersperse between).flatten
  | name =>
    match Text.Decimal.read? name.toList with
    | some 0 => return result s.name
    | some n => return s.arguments[n - 1]?.bind result
    | none => return (← value? name).bind result

/-- Fails because a parameter is not set. -/
def failUnset {α : Type} (name : String) (why : Octets) : Run α :=
  fail (name.toList ++ ": ".toList ++ why)

/-- The value of an arithmetic expression, after its assignments. -/
def arithmetic (s : Octets) : Run Int64 := do
  let m ← shell
  let line : Octets := Text.Decimal.digits m.line
  let values (x : String) : Octets :=
    if x = "LINENO" && m.countsLines then line
    else ((m.bindings.lookup x).bind Variable.value).getD []
  let (result, assignments) := Arithmetic.evaluate values s
  for (x, value) in assignments do assign x value
  match result with
  | .ok n => return n
  | .error .quotientTooLarge => throw (.killed 8)
  | .error e => fail (Arithmetic.message s e)

/-! ## Words -/

/-- Whether the items of a parameter count as missing. -/
def isMissing (orEmpty : Bool) (items : Option (List Item)) : Bool :=
  match items with
  | none => true
  | some items => orEmpty && items.isEmpty

mutual

/-- Expands a word; the flag says that quotes are open. `capture` carries out a script and gives
what it prints. -/
def expand (capture : Node → Run Octets) : Nat → Manner → Bool → Word → Run (List Stretch)
  | 0, _, _, _ => throw .stuck
  | _, _, _, [] => return []
  | fuel + 1, m, inQuotes, part :: rest => do
    let later := { m with atStart := false }
    let quoted := { later with quoted := m.quoted || inQuotes }
    let followed (s : List Stretch) (inQuotes : Bool) (rest : Word) : Run (List Stretch) := do
      return s ++ (← expand capture fuel later inQuotes rest)
    match part, rest with
    | .mark, .parameter "@" .value :: .mark :: rest' =>
      if inQuotes then followed [⟨.whole, [.mark]⟩] false rest
      else
        let all ← parameter capture fuel { later with quoted := true } "@" .value
        followed all false rest'
    | .mark, rest => followed [⟨.whole, [.mark]⟩] (!inQuotes) rest
    | .text true s, rest => followed [⟨.whole, Item.ofOctets true s⟩] inQuotes rest
    | .text false s, rest =>
      let tildes : Tildes := ⟨← value? "HOME", m.assigns, rest.isEmpty⟩
      let items := tildes.items (s.length + 1) m.atStart true s
      let isSplit := m.inOperand && !m.quoted && !inQuotes
      followed [⟨if isSplit then .fields else .whole, items⟩] inQuotes rest
    | .parameter name use, rest =>
      followed (← parameter capture fuel quoted name use) inQuotes rest
    | .command script, rest =>
      followed [.ofResult quoted.quoted (← capture script)] inQuotes rest
    | .arithmetic inside, rest =>
      let source := Stretch.text (← expand capture fuel {} false inside)
      let n ← arithmetic source
      followed [.ofResult quoted.quoted (Arithmetic.write n)] inQuotes rest

/-- Expands a parameter. -/
def parameter (capture : Node → Run Octets) :
    Nat → Manner → String → ParameterUse Word → Run (List Stretch)
  | 0, _, _, _ => throw .stuck
  | fuel + 1, m, name, use => do
    let items ← parameter? m name
    let found (items : List Item) : Run (List Stretch) := do
      let isList := name = "@" && !(← shell).arguments.isEmpty
      let splitting := if !m.quoted then .fields else if isList then .arguments else .whole
      return [⟨splitting, items⟩]
    let known : Run (List Item) := do
      match items with
      | some items => return items
      | none =>
        if ← isOn "nounset" then failUnset name "parameter not set".toList
        return []
    let operand (word : Word) : Run (List Stretch) :=
      expand capture fuel { m with inOperand := true, atStart := true } false word
    let plain (word : Word) : Run Octets := do
      return Stretch.text (← expand capture fuel { atStart := true } false word)
    let pattern (word : Word) : Run Pattern := do
      let stretches ← expand capture fuel { atStart := true } false word
      return Pattern.ofMarked (Item.marked (Stretch.allItems stretches))
    let trimmed (cut : Octets → Octets) : Run (List Stretch) := do
      return ← found (Item.ofGappedText m.quoted (cut (Item.gappedText (← known))))
    match use with
    | .malformed => fail "Bad substitution".toList
    | .value => found (← known)
    | .length => found (Item.ofOctets m.quoted (Text.Decimal.digits (← known).length))
    | .orElse orEmpty word =>
      if isMissing orEmpty items then operand word else found (items.getD [])
    | .ifSet orEmpty word => if isMissing orEmpty items then return [] else operand word
    | .orFail orEmpty word =>
      if !isMissing orEmpty items then found (items.getD [])
      else if word.isEmpty then
        failUnset name ("parameter not set" ++ if orEmpty then " or null" else "").toList
      else failUnset name (← plain word)
    | .orAssign orEmpty word =>
      if !isMissing orEmpty items then found (items.getD [])
      else
        let v ← plain word
        if !isName name.toList then fail (name.toList ++ ": bad variable name".toList)
        assign name v
        found ((← parameter? m name).getD [])
    | .withoutEnd longest word =>
      let _ ← known
      let p ← pattern word
      trimmed (p.withoutEnd longest)
    | .withoutStart longest word =>
      let _ ← known
      let p ← pattern word
      trimmed (p.withoutStart longest)

end

/-! ## Names of files -/

/-- What stands before the last slash before a pattern, the pattern up to the next slash, and the
text after that slash if there is one. -/
def firstPattern? :
    MarkedText → Octets → MarkedText → Option (Octets × MarkedText × Option MarkedText)
  | [], _, _ => none
  | c :: cs, shown, part =>
    let front := part ++ [c]
    if c.1 = '/' then firstPattern? cs (shown ++ front.map Prod.fst) []
    else
      let rest := cs.takeWhile fun d => d.1 != '/'
      let whole := front ++ rest
      if (Pattern.ofMarked whole).isOpen then
        some (shown, whole, match cs.drop rest.length with
          | [] => none
          | _ :: after => some after)
      else firstPattern? cs shown front

/-- The files that a field leads to after what is shown already. -/
def filesAfter (look : Octets → Bool) (names : Octets → List Octets) :
    Nat → Octets → MarkedText → List Octets
  | 0, _, _ => []
  | fuel + 1, shown, field =>
    match firstPattern? field [] [] with
    | none =>
      let path := shown ++ field.map Prod.fst
      if look path then [path] else []
    | some (front, part, after) =>
      let base := shown ++ front
      let found := (names base).filter (Pattern.ofMarked part).acceptsName
      match after with
      | none => found.map (base ++ ·)
      | some after =>
        found.flatMap fun name => filesAfter look names fuel (base ++ name ++ ['/']) after

/-- The names that a field stands for: those of files that it is a pattern for, or itself. -/
def fileNames (field : MarkedText) : Run (List Octets) := do
  let s ← shell
  let plain := field.map Prod.fst
  if s.switches.contains "noglob" || !(Pattern.ofMarked field).isOpen then return [plain]
  let disk := (← get).disk
  let look (path : Octets) : Bool :=
    match disk.entryFrom s.directory (Octets.toText path) with
    | .ok _ => true
    | .error _ => false
  let names (base : Octets) : List Octets :=
    match disk.entryFrom s.directory (if base.isEmpty then "." else Octets.toText base) with
    | .ok (place, .directory) => ([".", ".."] ++ disk.children place).map Octets.ofText
    | _ => []
  let found := filesAfter look names (field.length + 1) [] (Pattern.escaped field)
  if found.isEmpty then return [plain]
  return found.mergeSort fun a b => !decide (b < a)

/-- Expands words to fields. -/
def fields (capture : Node → Run Octets) (fuel : Nat) (ws : List Word) : Run (List Octets) := do
  let mut out := #[]
  for w in ws do
    let stretches ← expand capture fuel { toFields := true, atStart := true } false w
    for field in splitFields (← separators) none stretches do
      out := out ++ (← fileNames (Item.marked field))
  return out.toList

/-- Expands a word to a single text. -/
def textOf (capture : Node → Run Octets) (fuel : Nat) (manner : Manner) (w : Word) :
    Run Octets := do
  return Stretch.text (← expand capture fuel manner false w)

end Run

end WorkspaceConsole.Shell

import WorkspaceConsole.Shell.Builtin.Basic

/-!
# Commands about variables, arguments and switches

Variables are marked, listed, forgotten and kept to a function; arguments are replaced and dropped;
switches are set by letters or by names.
-/

namespace WorkspaceConsole.Shell.Builtin

open Run

/-! ## Variables -/

/-- The name and the value of an argument that may be an assignment. -/
def splitAssignment (s : Octets) : Octets × Option Octets :=
  match s.dropWhile (· != '=') with
  | _ :: value => (s.takeWhile (· != '='), some value)
  | [] => (s, none)

/-- A name of a variable. -/
def variableName (name : Octets) : Run String := do
  if isName name then return String.ofList name
  fail (name ++ ": bad variable name".toList)

/-- Lists variables of a kind after a word. -/
def listVariables (word : Octets) (isMeant : Variable → Bool) : Run Nat := do
  let s ← shell
  let sorted := (s.bindings.filter fun (_, v) => isMeant v).mergeSort fun a b => decide (a.1 ≤ b.1)
  let line (name : String) (v : Variable) : Octets :=
    let value := match v.value with
      | some value => '=' :: singleQuoted value
      | none => []
    (if word.isEmpty then [] else word ++ [' ']) ++ name.toList ++ value ++ ['\n']
  print (sorted.flatMap fun (name, v) => line name v)

/-- Marks variables and gives them values, or lists the marked ones. -/
def declare (word : String) (isMarked : Variable → Bool) (mark : Variable → Variable) : Command :=
  fun args => do
    let (found, names) ← options "p" args
    if !found.isEmpty || names.isEmpty then return ← listVariables word.toList isMarked
    for a in names do
      let (name, value) := splitAssignment a
      let name ← variableName name
      change name value mark
    return 0

/-- Marks variables as exported. -/
def exportVariables : Command :=
  declare "export" Variable.exported fun v => { v with exported := true }

/-- Marks variables as read-only. -/
def protectVariables : Command :=
  declare "readonly" Variable.readOnly fun v => { v with readOnly := true }

/-- Forgets variables, or functions. -/
def forgetVariables : Command := fun args => do
  let (found, names) ← options "vf" args
  let ofFunctions := (found.getLast?.map Prod.fst) = some 'f'
  for a in names do
    if ofFunctions then
      let name := String.ofList a
      modifyShell fun s => { s with functions := s.functions.filter (·.1 ≠ name) }
    else forget (← variableName a)
  return 0

/-- Notes what a function keeps to itself. -/
def keepLocal (saved : Saved) : Run Unit :=
  modifyShell fun s =>
    { s with locals := match s.locals with
        | frame :: frames => (saved :: frame) :: frames
        | [] => [] }

/-- Keeps a variable to a function, with a new value if there is one. -/
def makeLocal (mark : Variable → Variable) (a : Octets) : Run Unit := do
  let (name, value) := splitAssignment a
  let name ← variableName name
  let old ← binding? name
  change name value mark
  keepLocal (.variable name old)

/-- Keeps variables of a function to itself; a dash stands for the switches. -/
def localVariables : Command := fun args => do
  let (_, names) ← options "" args
  if (← shell).locals.isEmpty then fail "not in a function".toList
  for a in names do
    if a = ['-'] then keepLocal (.switches (← shell).switches) else makeLocal id a
  return 0

/-! ## Arguments and switches -/

/-- Replaces the arguments. -/
def setArguments (args : List Octets) : Run Unit :=
  modifyShell fun s => { s with arguments := args, optionPlace := (1, none) }

/-- Drops arguments from the front. -/
def shift : Command := fun args => do
  let n ← match args with
    | [] => pure 1
    | s :: _ => number s
  let arguments := (← shell).arguments
  if arguments.length < n then fail "can't shift that many".toList
  setArguments (arguments.drop n)
  return 0

/-- Turns a switch on or off. -/
def turn (on : Bool) (name : String) : Run Unit :=
  modifyShell fun s =>
    let others := s.switches.filter (· != name)
    { s with switches := if on then name :: others else others }

/-- Lists the switches, as they are or such that a shell reads them back. -/
def listSwitches (plain : Bool) : Run Nat := do
  let on := (← shell).switches
  print (switchLetters.flatMap fun (name, _) =>
    let isOn := on.contains name
    if plain then
      name.toList ++ List.replicate (16 - name.length) ' ' ++
        (if isOn then "on\n" else "off\n").toList
    else ((if isOn then "set -o " else "set +o ") ++ name ++ "\n").toList)

/-- Turns a switch on or off by its letter. The two ways of editing a line exclude each other. -/
def turnLetter (on : Bool) (letter : Char) : Run Unit := do
  match switchLetters.find? fun w => w.2 = some letter with
  | some (name, _) =>
    turn on name
    if on && name = "vi" then turn false "emacs"
    if on && name = "emacs" then turn false "vi"
  | none => fail ("Illegal option -".toList ++ [letter])

/-- Turns switches on or off by their letters. An `o` takes a name, or lists them all. -/
def turnLetters (on : Bool) : Octets → List Octets → Run (List Octets)
  | [], rest => return rest
  | 'o' :: letters, rest => do
    match rest with
    | [] =>
      if on then let _ ← write 1 "Current option settings\n".toList
      let _ ← listSwitches on
      turnLetters on letters []
    | name :: rest =>
      let name := String.ofList name
      match switchLetters.lookup name with
      | some _ => turn on name
      | none => fail ("Illegal option -o " ++ name).toList
      turnLetters on letters rest
  | letter :: letters, rest => do
    turnLetter on letter
    turnLetters on letters rest

/-- Turns switches on or off, within a number of arguments, and gives the arguments that follow if
there are any. -/
def turnSwitches : Nat → List Octets → Run (Option (List Octets))
  | fuel + 1, arg :: rest => do
    match arg with
    | ['-'] =>
      turn false "xtrace"
      turn false "verbose"
      return if rest.isEmpty then none else some rest
    | ['-', '-'] => return some rest
    | '-' :: letters => turnSwitches fuel (← turnLetters true letters rest)
    | '+' :: letters => turnSwitches fuel (← turnLetters false letters rest)
    | _ => return some (arg :: rest)
  | _, _ => return none

/-- Sets switches and arguments, or lists the variables. -/
def setSwitches : Command := fun args => do
  if args.isEmpty then return ← listVariables [] fun v => v.value.isSome
  let rest ← turnSwitches (args.length + 1) args
  if ← isOn "monitor" then
    complain "can't access tty; job control turned off".toList
    turn false "monitor"
  if let some rest := rest then setArguments rest
  return 0

/-! ## Options of a script -/

/-- What `getopts` has found: an option with its argument, the place after it, and a complaint. The
place is the number of the next argument, and how much has been taken of the one before. -/
structure FoundOption where
  option : Char
  value : Option Octets
  place : Nat × Option Nat
  complaint : Octets := []

/-- Takes the next option of a row of arguments, or gives the place behind all options. -/
def nextOption (wanted : Octets) (args : List Octets) (place : Nat × Option Nat) :
    FoundOption ⊕ (Nat × Option Nat) :=
  let isQuiet := wanted.head? = some ':'
  let (index, offset) := place
  let previous := args.getD (index - 2) []
  let started : Octets := match offset with
    | some n => if 1 < index then previous.drop n else []
    | none => []
  let next : Option (Octets × Nat) ⊕ Nat :=
    if !started.isEmpty then .inl (some (started, index))
    else match args[index - 1]? with
      | some ['-', '-'] => .inr (index + 1)
      | some ('-' :: c :: cs) => .inl (some (c :: cs, index + 1))
      | _ => .inr index
  match next with
  | .inr index => .inr (index, none)
  | .inl none | .inl (some ([], _)) => .inr (index, none)
  | .inl (some (c :: cs, index)) =>
    let length := (args.getD (index - 2) []).length
    let after : Nat × Option Nat := (index, some (length - cs.length))
    match wanted.dropWhile (· != c) with
    | _ :: ':' :: _ =>
      match cs, args[index - 1]? with
      | [], none =>
        if isQuiet then .inl ⟨':', some [c], after, []⟩
        else .inl ⟨'?', none, after, "No arg for -".toList ++ [c] ++ " option\n".toList⟩
      | [], some value => .inl ⟨c, some value, (index + 1, none), []⟩
      | value, _ => .inl ⟨c, some value, (index, none), []⟩
    | _ :: _ => .inl ⟨c, some [], after, []⟩
    | [] =>
      if isQuiet then .inl ⟨'?', some [c], after, []⟩
      else .inl ⟨'?', none, after, "Illegal option -".toList ++ [c, '\n']⟩

/-- Takes the next option of the arguments into a variable. -/
def getopts : Command := fun args => do
  match ← operands args with
  | wanted :: name :: given =>
    let s ← shell
    let arguments := if given.isEmpty then s.arguments else given
    let place := if arguments.length + 1 < s.optionPlace.1 then (1, none) else s.optionPlace
    let settle (option : Char) (place : Nat × Option Nat) : Run Unit := do
      let old := ((← binding? "OPTIND").getD {})
      if old.readOnly then fail "OPTIND: is read only".toList
      putVariable "OPTIND" (some { old with value := some (Text.Decimal.digits place.1) })
      assign (← variableName name) [option]
      modifyShell fun s => { s with optionPlace := place }
    match nextOption wanted arguments place with
    | .inr place =>
      settle '?' place
      return 1
    | .inl found =>
      let _ ← write 2 found.complaint
      match found.value with
      | some value => assign "OPTARG" value
      | none => forget "OPTARG"
      settle found.option found.place
      return 0
  | _ => fail "Usage: getopts optstring var [arg...]".toList

/-! ## Aliases -/

/-- The place of an alias in the list of all. -/
def aliasRank (name : String) : Nat :=
  let codes := name.toList.map Char.toNat
  codes.foldl (· + ·) (16 * codes.headD 0) % 39

/-- An alias as it is listed. -/
def aliasLine (name : String) (text : Octets) : Octets :=
  name.toList ++ '=' :: singleQuoted text

/-- Gives words another meaning, or lists such words. -/
def defineAliases : Command := fun args => do
  let known := (← shell).aliases
  if args.isEmpty then
    let sorted := known.mergeSort fun a b => decide (aliasRank a.1 ≤ aliasRank b.1)
    return ← print (sorted.flatMap fun (name, text) => aliasLine name text ++ ['\n'])
  let mut status := 0
  for a in args do
    match (a.drop 1).dropWhile (· != '=') with
    | _ :: text =>
      let name := String.ofList (a.take (a.length - text.length - 1))
      modifyShell fun s =>
        { s with aliases :=
            if s.aliases.any (·.1 == name) then
              s.aliases.map fun (n, t) => (n, if n = name then text else t)
            else s.aliases ++ [(name, text)] }
    | [] =>
      let name := String.ofList a
      match (← shell).aliases.lookup name with
      | some text =>
        let _ ← printLine (aliasLine name text)
      | none =>
        let _ ← write 2 ("alias: ".toList ++ a ++ " not found\n".toList)
        status := 1
  return status

/-- Takes other meanings of words away. -/
def dropAliases : Command := fun args => do
  let (found, names) ← options "a" args
  if !found.isEmpty then
    modifyShell fun s => { s with aliases := [] }
    return 0
  let mut status := 0
  for a in names do
    let name := String.ofList a
    if ((← shell).aliases.lookup name).isSome then
      modifyShell fun s => { s with aliases := s.aliases.filter (·.1 != name) }
    else
      let _ ← write 2 ("unalias: ".toList ++ a ++ " not found\n".toList)
      status := 1
  return status

end WorkspaceConsole.Shell.Builtin

import WorkspaceConsole.Shell.Octets

/-!
# Shell scripts

The commands of a script as they are read, before anything is expanded. A word holds the scripts of
its command substitutions, so words and commands are defined together.
-/

namespace WorkspaceConsole.Shell

/-! ## What commands are made of -/

/-- What becomes of the value of a parameter. A value that is empty counts as missing where
`orEmpty` says so. `ω` is the type of words. -/
inductive ParameterUse (ω : Type) where
  | value
  | length
  | orElse (orEmpty : Bool) (word : ω)
  | orAssign (orEmpty : Bool) (word : ω)
  | orFail (orEmpty : Bool) (word : ω)
  | ifSet (orEmpty : Bool) (word : ω)
  | withoutEnd (longest : Bool) (pattern : ω)
  | withoutStart (longest : Bool) (pattern : ω)
  | malformed
deriving Inhabited

/-- How a redirection treats its handle: open a file, take another handle or close it, or supply a
text. Only `create` refuses to overwrite where that is asked for. -/
inductive RedirectKind where
  | read
  | readWrite
  | create
  | overwrite
  | append
  | duplicate
  | document
deriving DecidableEq, Repr, Inhabited

/-- A redirection of a numbered handle. -/
structure Redirect (ω : Type) where
  handle : Nat
  kind : RedirectKind
  target : ω
deriving Inhabited

/-- An arm of a choice: its body is carried out for what one of its patterns stands for. -/
structure Arm (ω ν : Type) where
  patterns : List ω
  body : ν

mutual

/-- A part of a word. A `mark` stands where double or single quotes begin or end; what is quoted is
neither split nor matched against names of files. -/
inductive Part where
  | text (quoted : Bool) (s : Octets)
  | mark
  | parameter (name : String) (use : ParameterUse (List Part))
  | command (script : Node)
  | arithmetic (inside : List Part)

/-- A command. A line is the one on which a command begins. -/
inductive Node where
  | nothing
  | simple (line : Nat) (assignments words : List (List Part))
      (redirects : List (Redirect (List Part)))
  | sequence (first second : Node)
  | both (first second : Node)
  | either (first second : Node)
  | negation (body : Node)
  | pipeline (commands : List Node)
  | background (body : Node)
  | subshell (line : Nat) (body : Node) (redirects : List (Redirect (List Part)))
  | redirected (line : Nat) (body : Node) (redirects : List (Redirect (List Part)))
  | conditional (test yes no : Node)
  | loop (untilTrue : Bool) (test body : Node)
  | forEach (line : Nat) (name : String) (words : List (List Part)) (body : Node)
  | choice (line : Nat) (word : List Part) (arms : List (Arm (List Part) Node))
  | define (line : Nat) (name : String) (body : Node)

end

instance : Inhabited Part := ⟨.mark⟩

instance : Inhabited Node := ⟨.nothing⟩

/-- A word of a command. -/
abbrev Word := List Part

/-! ## Words -/

namespace Word

/-- Puts a character before a word. -/
def cons (quoted : Bool) (c : Char) : Word → Word
  | .text q s :: rest =>
    if q = quoted then .text q (c :: s) :: rest else .text quoted [c] :: .text q s :: rest
  | w => .text quoted [c] :: w

/-- The text of a word without quotes and substitutions. -/
def plain? : Word → Option Octets
  | [] => some []
  | [.text false s] => some s
  | _ => none

/-- The characters of a word outside substitutions, quoted or not. -/
def characters (w : Word) : Octets :=
  w.flatMap fun part =>
    match part with
    | .text _ s => s
    | _ => []

/-- Whether a word begins like an assignment. -/
def isAssignment : Word → Bool
  | .text false s :: _ =>
    match s.dropWhile isNameChar with
    | '=' :: _ => isName (s.takeWhile isNameChar)
    | _ => false
  | _ => false

/-- The word that stands for all arguments, each kept apart. -/
def arguments : Word :=
  [.mark, .parameter "@" .value, .mark]

end Word

/-! ## What is wrong with a script -/

/-- Why a script cannot be read. -/
inductive SyntaxError where
  | unexpected (token : String) (expected : Option String)
  | unterminatedQuote
  | unterminatedBackquote
  | missingBrace
  | missingParentheses
  | badLoopVariable
  | badFunctionName
  | badHandle
deriving DecidableEq, Repr

/-- The wording of a reason. -/
def SyntaxError.message : SyntaxError → String
  | .unexpected token none => "Syntax error: " ++ token ++ " unexpected"
  | .unexpected token (some expected) =>
    "Syntax error: " ++ token ++ " unexpected (expecting " ++ expected ++ ")"
  | .unterminatedQuote => "Syntax error: Unterminated quoted string"
  | .unterminatedBackquote => "Syntax error: EOF in backquote substitution"
  | .missingBrace => "Syntax error: Missing '\x7d'"
  | .missingParentheses => "Syntax error: Missing '))'"
  | .badLoopVariable => "Syntax error: Bad for loop variable"
  | .badFunctionName => "Syntax error: Bad function name"
  | .badHandle => "Syntax error: Bad fd number"

end WorkspaceConsole.Shell

import WorkspaceConsole.Settings
import WorkspaceConsole.Text.Decimal

/-!
# Command-line options

Each option has a long name; its value is the next argument or follows an equals sign. All but
`--seed` may be given once. There are no other arguments. Arguments are read in order, so that a
request for help is answered if nothing before it is wrong.
-/

namespace WorkspaceConsole

/-- What the command line says. -/
structure Options where
  mode : Option ExecutionMode := none
  endpoint : Option String := none
  timeoutMs : Option UInt64 := none
  shellRoot : Option String := none
  lineMode : Bool := false
  seeds : List String := []
deriving DecidableEq, Repr, Inhabited

/-- Why the program stops at its command line. -/
inductive OptionsStop where
  | help
  | version
  | usage
deriving DecidableEq, Repr

namespace OptionsStop

/-- The exit code of the program. -/
def exitCode : OptionsStop → UInt8
  | .help | .version => 0
  | .usage => 2

end OptionsStop

namespace Options

/-- The text on the version. -/
def versionText : String := "wsterm 0.1.0\n"

/-- The text on how to call the program. -/
def helpText : String :=
  "Workspace tree driven by a terminal-style command language\n\n" ++
  "Usage: wsterm [OPTIONS]\n\n" ++
  "Options:\n" ++
  "      --mode <MODE>              Where commands are executed (overrides settings) " ++
  "[possible values: local, http, shell]\n" ++
  "      --endpoint <ENDPOINT>      Base URL of the remote execution endpoint\n" ++
  "      --timeout-ms <TIMEOUT_MS>  Remote command timeout in milliseconds\n" ++
  "      --shell-root <SHELL_ROOT>  Directory that shell mode runs commands under\n" ++
  "      --line-mode                Read commands from stdin line by line instead of starting " ++
  "the TUI\n" ++
  "      --seed <SEED>              Root folder created at startup (can be repeated)\n" ++
  "  -h, --help                     Print help\n" ++
  "  -V, --version                  Print version\n"

/-- The options that take a value. -/
inductive Valued where
  | mode
  | endpoint
  | timeoutMs
  | shellRoot
  | seed
deriving DecidableEq, Repr

/-- The option with a long name. -/
def Valued.ofName? : String → Option Valued
  | "mode" => some .mode
  | "endpoint" => some .endpoint
  | "timeout-ms" => some .timeoutMs
  | "shell-root" => some .shellRoot
  | "seed" => some .seed
  | _ => none

/-- Sets a field that is not set yet. -/
def once {α : Type} (old new : Option α) : Option (Option α) :=
  match old, new with
  | none, some value => some (some value)
  | _, _ => none

/-- The options after one more with its value, unless that is refused. -/
def set? (o : Options) (name : Valued) (value : String) : Option Options :=
  match name with
  | .mode => (once o.mode (ExecutionMode.ofLabel? value)).map fun mode => { o with mode }
  | .endpoint => (once o.endpoint (some value)).map fun endpoint => { o with endpoint }
  | .timeoutMs =>
    (once o.timeoutMs (Text.Decimal.readWord? value.toList)).map fun timeoutMs =>
      { o with timeoutMs }
  | .shellRoot =>
    (once o.shellRoot (if value.isEmpty then none else some value)).map fun shellRoot =>
      { o with shellRoot }
  | .seed => some { o with seeds := o.seeds ++ [value] }

/-- An argument, by its form: a long name with the value that follows an equals sign, the first
letter of a row of short names, the mark after which no options follow, or anything else. -/
inductive Argument where
  | long (name : String) (value : Option String)
  | short (letter : Char)
  | endOfOptions
  | plain
deriving DecidableEq, Repr

/-- The form of an argument. -/
def Argument.ofString (arg : String) : Argument :=
  match arg.toList with
  | ['-', '-'] => .endOfOptions
  | '-' :: '-' :: cs =>
    let name := String.ofList (cs.takeWhile (· != '='))
    match cs.dropWhile (· != '=') with
    | '=' :: value => .long name (some (String.ofList value))
    | _ => .long name none
  | '-' :: c :: _ => .short c
  | _ => .plain

/-- Reads arguments in order, after those that gave `o`. -/
def parseFrom (o : Options) : List String → Except OptionsStop Options
  | [] => .ok o
  | arg :: rest =>
    match Argument.ofString arg with
    | .plain => .error .usage
    | .endOfOptions => if rest.isEmpty then .ok o else .error .usage
    | .short 'h' => .error .help
    | .short 'V' => .error .version
    | .short _ => .error .usage
    | .long "help" none => .error .help
    | .long "version" none => .error .version
    | .long "line-mode" none =>
      if o.lineMode then .error .usage else parseFrom { o with lineMode := true } rest
    | .long name attached =>
      match Valued.ofName? name, attached with
      | none, _ => .error .usage
      | some option, some value =>
        match o.set? option value with
        | some o => parseFrom o rest
        | none => .error .usage
      | some option, none =>
        match rest with
        | [] => .error .usage
        | value :: rest =>
          match Argument.ofString value, o.set? option value with
          | .plain, some o => parseFrom o rest
          | _, _ => .error .usage

/-- Reads the arguments of the program. -/
def parse (args : List String) : Except OptionsStop Options :=
  parseFrom {} args

end Options

end WorkspaceConsole

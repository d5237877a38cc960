import WorkspaceConsole.Bridge
import WorkspaceConsole.Command
import WorkspaceConsole.Evaluation
import WorkspaceConsole.Scaffold
import WorkspaceConsole.Store

/-!
# Carrying out command lines

A line is either simulated on the store or handed to a bridge. A simulated command changes the
store by at most one action; a bridged one never touches it, and asks the front end to read the tree
again when it succeeded.
-/

namespace WorkspaceConsole

/-! ## Simulated commands -/

/-- What a session says about a change that the store refused. -/
def TreeError.notice : TreeError → String
  | .parentNotFound name | .folderNotFound name => "Folder not found: " ++ name
  | .fileNotFound label => "File not found: " ++ label
  | .nameExists name => "Already exists: " ++ name
  | .invalidName name => "Invalid name: " ++ name
  | e@(.duplicateFileId _ _) => "Error: " ++ e.message

namespace Store

/-- What a command says that needs a folder when none has been entered. -/
def notInFolder : String := "Not inside a folder: run cd <folder_name> first"

/-- Applies an action and says `success`, or why it was refused. -/
def perform (s : Store) (action : Action) (success : String) : Evaluation × Store :=
  match s.dispatch action with
  | (.ok _, s') => ((Evaluation.line success).withEffect .refreshTree, s')
  | (.error e, s') => (.line e.notice, s')

/-- Enters a folder. Its name is looked up in the whole tree, and the path grows by it. -/
def changeDir (s : Store) (name : String) (cwd : WorkingPath) : Evaluation :=
  match s.roots.folder? name with
  | none => .line ("Folder not found: " ++ name)
  | some _ =>
    (Evaluation.line ("Changed directory to " ++ name)).withEffect
      (.changeDirectory (cwd.join name))

/-- Whether a name ends in `.java`. -/
def isJavaFile (name : String) : Bool :=
  ".java".toList.isSuffixOf name.toList

/-- Runs a file that is in the tree. -/
def runJava (s : Store) (file : String) : Evaluation :=
  if isJavaFile file && (s.roots.fileNamed? file).isSome then
    { lines := ["Running " ++ file ++ "...", "Output of " ++ file ++ ": Hello World!"] }
  else .line ("File not found: " ++ file)

/-- The root folder that the last name of a path refers to. -/
def currentFolder? (cwd : WorkingPath) : Option ParentRef :=
  cwd.last?.map .amongRoots

/-- Carries out a command on the store. -/
def carryOut (s : Store) (command : Command) (cwd : WorkingPath) : Evaluation × Store :=
  match command with
  | .blank => (.silent, s)
  | .changeDir (some name) => (s.changeDir name cwd, s)
  | .makeDir (some name) => s.perform (.createRootFolder name) ("Created directory: " ++ name)
  | .npmInstall (some package) =>
    match currentFolder? cwd with
    | none => (.line notInFolder, s)
    | some parent => s.perform (.createFile parent package "") ("Installed package " ++ package)
  | .createReactApp (some app) =>
    match currentFolder? cwd with
    | none => (.line notInFolder, s)
    | some parent =>
      s.perform (.insertTemplates parent (Scaffold.templates app)) ("Created React app: " ++ app)
  | .java (some file) => (s.runJava file, s)
  | .unknown line => (.line ("Command not recognized: " ++ line), s)
  | missing =>
    match missing.usage? with
    | some usage => (.line usage, s)
    | none => (.silent, s)

/-- Carries out a line on the store. -/
def evaluate (s : Store) (line : String) (cwd : WorkingPath) : Evaluation × Store :=
  s.carryOut (Command.parse line) cwd

end Store

/-! ## Bridged commands -/

/-- What a session makes of the outcome of a call. -/
def Evaluation.ofResult : Except BridgeError Output → Evaluation
  | .ok output =>
    { lines := Text.lines output.stdout
      effects := match output.newDirectory with
        | some directory => [.changeDirectory (.parse directory), .refreshTree]
        | none => [.refreshTree] }
  | .error e => .line ("Error: " ++ e.message)

/-- The request for a line; a blank line has none. -/
def Request.ofLine? (line : String) (cwd : WorkingPath) : Option Request :=
  let command := Text.trimmed line
  if command.isEmpty then none else some ⟨command, cwd.display⟩

variable {σ : Type}

/-- Hands a line to a bridge and waits for the answer for a limited time. -/
def Bridge.evaluate (b : Bridge σ) (limitMs : UInt64) (line : String) (cwd : WorkingPath)
    (state : σ) : Evaluation × σ :=
  match Request.ofLine? line cwd with
  | none => (.silent, state)
  | some request =>
    let (reply, state') := b.execute request state
    (.ofResult (reply.within limitMs), state')

/-! ## Either -/

/-- How lines are carried out. -/
inductive Interpreter (σ : Type) where
  | simulated
  | bridged (bridge : Bridge σ) (limitMs : UInt64)

/-- What carrying out a line may change: the store, and the state of the bridge. -/
structure Backend (σ : Type) where
  store : Store
  bridge : σ

/-- Carries out a line. -/
def Interpreter.evaluate (x : Interpreter σ) (line : String) (cwd : WorkingPath)
    (b : Backend σ) : Evaluation × Backend σ :=
  match x with
  | .simulated =>
    let (evaluation, store) := b.store.evaluate line cwd
    (evaluation, { b with store })
  | .bridged bridge limitMs =>
    let (evaluation, state) := bridge.evaluate limitMs line cwd b.bridge
    (evaluation, { b with bridge := state })

end WorkspaceConsole

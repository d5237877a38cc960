import WorkspaceConsole.Text.Decimal

/-!
# Bridges to where commands are carried out

A bridge takes a command line with the directory it is meant for and answers once, with output or
with a failure. One call stands for one command: nothing is tried again, since a command that failed
may have had part of its effect.

The state `σ` of a bridge is what its answers depend on besides the request.
-/

namespace WorkspaceConsole

/-- A command line and the directory to carry it out in. -/
structure Request where
  command : String
  directory : String
deriving DecidableEq, Repr

/-- What a command printed, and the directory that it moved to. -/
structure Output where
  stdout : String
  newDirectory : Option String := none
deriving DecidableEq, Repr

/-- Why a call failed: the command failed, it could not be run or its answer not be read, or the
answer did not come in time. -/
inductive BridgeError where
  | remote (message : String)
  | transport (message : String)
  | timeout (limitMs : UInt64)
deriving DecidableEq, Repr

/-- The wording of a failure. -/
def BridgeError.message : BridgeError → String
  | .remote message | .transport message => message
  | .timeout limitMs => "command timed out after " ++ Text.Decimal.write limitMs.toNat ++ "ms"

/-- An answer and the milliseconds that it takes; without them it is there at once. -/
structure Reply where
  result : Except BridgeError Output
  delayMs : Option Nat := none

/-- The longest time that is told apart from longer ones, a little more than two years. -/
def longestWaitMs : Nat := 68719476734

/-- What a caller sees who waits for a limited time. -/
def Reply.within (r : Reply) (limitMs : UInt64) : Except BridgeError Output :=
  match r.delayMs with
  | none => r.result
  | some delay =>
    if min delay longestWaitMs ≤ limitMs.toNat then r.result else .error (.timeout limitMs)

/-- A way to carry out commands. -/
structure Bridge (σ : Type) where
  name : String
  execute : Request → σ → Reply × σ

/-- Prepared answers, and the requests seen so far. -/
structure Script where
  replies : List Reply := []
  requests : List Request := []

namespace Script

/-- The answer when no prepared one is left: the request itself. -/
def echo (r : Request) : Reply :=
  ⟨.ok ⟨r.command ++ " @ " ++ r.directory ++ "\n", none⟩, none⟩

/-- Takes the next prepared answer and keeps the request. -/
def answer (request : Request) (s : Script) : Reply × Script :=
  match s.replies with
  | [] => (echo request, { s with requests := s.requests ++ [request] })
  | reply :: replies => (reply, ⟨replies, s.requests ++ [request]⟩)

/-- The bridge that answers from a script. -/
def bridge : Bridge Script := ⟨"script", answer⟩

end Script

end WorkspaceConsole

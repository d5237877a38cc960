import WorkspaceConsole.Bridge
import WorkspaceConsole.Http.Status
import WorkspaceConsole.Http.Url
import WorkspaceConsole.Json.Document
import WorkspaceConsole.Json.Fields

/-!
# Carrying out commands by HTTP

A command is posted to the `execute` resource of an endpoint as a JSON object, and the answer is a
JSON object with output, an error or a new directory. What becomes of an answer depends on its
status and its body alone (`Answer.result`); how it travels is left to a network.
-/

namespace WorkspaceConsole.Http

/-- The answer of a server. -/
structure Answer where
  status : Nat
  body : List UInt8
deriving DecidableEq, Repr

/-- What a body says. -/
structure Body where
  output : Option String
  error : Option String
  newDirectory : Option String
deriving DecidableEq, Repr

/-- Reads a body: a record of three texts, each of which may be missing or `null`. -/
def Body.ofText? (text : String) : Option Body := do
  let value ← Json.read? text.toList
  match ← value.fields? ["output", "error", "newDirectory"] with
  | [output, error, newDirectory] =>
    let read := Json.fieldOr none (Json.nullable Json.Value.text?)
    return ⟨← read output, ← read error, ← read newDirectory⟩
  | _ => none

/-- The body that arrives with an answer, as text. -/
def Answer.text (a : Answer) : String :=
  if isBodiless a.status then "" else Text.Utf8.decodeLossy a.body

/-- The result that a status and a text stand for. Outside the statuses of success, the error in the
body counts, and without one the status itself. `refusal` says what is wrong with a text that is not
the one of a body. -/
def resultOf (refusal : String → String) (status : Nat) (text : String) :
    Except BridgeError Output :=
  match isSuccess status, Body.ofText? text with
  | false, some ⟨_, some error, _⟩ => .error (.remote error)
  | false, _ => .error (.remote ("request failed with status " ++ statusText status))
  | true, none => .error (.transport ("invalid response body: " ++ refusal text))
  | true, some ⟨_, some error, _⟩ => .error (.remote error)
  | true, some ⟨output, none, newDirectory⟩ => .ok ⟨output.getD "", newDirectory⟩

/-- The result that an answer stands for. After one that does not end the exchange, nothing more
comes. -/
def Answer.result (refusal : String → String) (a : Answer) : Except BridgeError Output :=
  if isFinal a.status then resultOf refusal a.status a.text
  else .error (.transport "connection closed before message completed")

/-- The resource that commands are posted to. -/
def executeUrl (endpoint : String) : String :=
  String.ofList (endpoint.toList.reverse.dropWhile (· == '/')).reverse ++ "/execute"

/-- The body of a request. -/
def requestBody (r : Request) : String :=
  (Json.Document.ofList
    [("command", .text r.command), ("currentDirectory", .text r.directory)]).compact

/-- Why an address cannot be used: it is none, or it is not one of HTTP. -/
def unusable : Option Url → Option String
  | none => some "builder error"
  | some u => if u.isHttp then none else some ("builder error for url (" ++ u.display ++ ")")

/-- How a post to an address fares: an answer, or no answer, with the milliseconds that it takes.
The reader of JSON at this end has its own words for a `refusal`. -/
structure Network (σ : Type) where
  post : Url → String → σ → Except BridgeError Answer × Option Nat × σ
  refusal : String → String

/-- The network on which nobody listens, so that nothing is ever refused. Finding that out takes a
moment. -/
def Network.unreachable (σ : Type) : Network σ where
  post u _ s :=
    (.error (.transport ("error sending request for url (" ++ u.display ++ ")")), some 1, s)
  refusal _ := ""

/-- The bridge to an endpoint. -/
def bridge {σ : Type} (network : Network σ) (endpoint : String) : Bridge σ where
  name := "http"
  execute request s :=
    match Url.parse? (executeUrl endpoint) with
    | none => (⟨.error (.transport "builder error"), none⟩, s)
    | some u =>
      let u := u.withoutCredentials
      match unusable (some u) with
      | some message => (⟨.error (.transport message), none⟩, s)
      | none =>
        let (outcome, delayMs, s) := network.post u (requestBody request) s
        (⟨outcome.bind (Answer.result network.refusal), delayMs⟩, s)

end WorkspaceConsole.Http

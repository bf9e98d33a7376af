import ContentNode.Bytes.Hex
import ContentNode.Engine.Read
import ContentNode.Engine.Write
import ContentNode.Rpc.Response

/-!
# Answering requests

A body is read as a request, the call is carried out, and the response repeats
the identifier.  A body that is no request is answered without asking the store.
-/

namespace ContentNode.Rpc

/-- A payload as a result: text as it is, other bytes as hexadecimal digits,
marked as such. -/
def renderPayload (payload : ByteArray) : Json.Value :=
  match String.fromUTF8? payload with
  | some text => .string text
  | none =>
    .ofMembers [
      ("encoding", .string "hex"),
      ("data", .string (Bytes.Hex.ofByteArray payload))]

/-- What became of the call of a request. -/
inductive CallOutcome where
  | read (outcome : Except EngineError ByteArray)
  | write (outcome : Except EngineError Engine.Receipt)

/-- The result of a call, or its error. -/
def CallOutcome.result : CallOutcome → Except Error Json.Value
  | read (.ok payload) => .ok (renderPayload payload)
  | write (.ok receipt) => .ok (.string receipt.address.encode)
  | read (.error e) | write (.error e) => .error (.ofEngine e)

/-- What became of a body. -/
inductive Handling where
  /-- The body is not JSON. -/
  | notJson (details : String)
  /-- The body is no request. -/
  | rejected (id : Json.Value) (error : Error)
  | called (request : Request) (outcome : CallOutcome)

/-- The response to a body. -/
def Handling.response : Handling → Response
  | notJson details => .failure .null (.parseError details)
  | rejected id error => .failure id error
  | called request outcome =>
    match outcome.result with
    | .ok result => .success request.id result
    | .error error => .failure request.id error

/-- Carries out a call. -/
def perform (config : EngineConfig) : Call → StoreProgram CallOutcome
  | .read address => do return .read (← Engine.read config address)
  | .write data => do return .write (← Engine.write config data.toUTF8)

/-- Handles a value. -/
def handleValue (config : EngineConfig) (v : Json.Value) : StoreProgram Handling :=
  match Request.ofValue v with
  | .error e => .done (.rejected (echoOf v) e)
  | .ok request => do return .called request (← perform config request.call)

/-- Handles a body. -/
def handle (config : EngineConfig) (body : ByteArray) : StoreProgram Handling :=
  let text := body.data.toList
  match Json.Parser.parse text with
  | .error failure => .done (.notJson (failure.message text))
  | .ok v => handleValue config v

/-- The response to a value. -/
def dispatchValue (config : EngineConfig) (v : Json.Value) : StoreProgram Response := do
  return (← handleValue config v).response

/-- The response to a body. -/
def dispatch (config : EngineConfig) (body : ByteArray) : StoreProgram Response := do
  return (← handle config body).response

/-- The identifier that every response to a body repeats. -/
def echoOfBody (body : ByteArray) : Json.Value :=
  match Json.Parser.parse body.data.toList with
  | .ok v => echoOf v
  | .error _ => .null

end ContentNode.Rpc

import ContentNode.Rpc.Request

/-!
# Responses

A response repeats the identifier of its request and carries either a result or
an error, as the member of that name.
-/

namespace ContentNode.Rpc

/-- What became of a call. -/
inductive Outcome where
  | result (value : Json.Value)
  | error (error : ErrorObject)
deriving DecidableEq

namespace Outcome

/-- The names of the members that hold an outcome. -/
def names : List String := ["result", "error"]

/-- The outcome as a member of a response. -/
def render : Outcome → String × String
  | result value => ("result", value.render)
  | error e => ("error", e.render)

/-- The outcome that the member of a name holds. -/
def ofMember (name : String) (v : Json.Value) : Except Schema.DataError Outcome :=
  if name = "result" then .ok (.result v.canonical)
  else (Json.FromValue.leafRecord .ofBuffer ErrorObject.shape v).map .error

/-- The outcome that the first member of a fitting name holds. -/
def ofMembers (members : List (String × Json.Value)) : Except Schema.DataError Outcome :=
  match members.find? fun member => member.1 ∈ names with
  | some (name, v) => ofMember name v
  | none => .error (.refused "no variant of enum RpcOutcome found in flattened data")

end Outcome

/-- The answer to a request. -/
structure Response where
  version : String
  id : Json.Value
  outcome : Outcome
deriving DecidableEq

namespace Response

/-- The response of a call that succeeded. -/
def success (id result : Json.Value) : Response := ⟨protocolVersion, id, .result result⟩

/-- The response of a call that failed. -/
def failure (id : Json.Value) (e : Error) : Response := ⟨protocolVersion, id, .error e.toObject⟩

/-- Whether the call succeeded. -/
def isSuccess (r : Response) : Bool :=
  match r.outcome with
  | .result _ => true
  | .error _ => false

/-- The result of a call that succeeded. -/
def result? (r : Response) : Option Json.Value :=
  match r.outcome with
  | .result v => some v
  | .error _ => none

/-- The error of a call that failed. -/
def error? (r : Response) : Option ErrorObject :=
  match r.outcome with
  | .result _ => none
  | .error e => some e

/-- The text of a response. -/
def render (r : Response) : String :=
  Json.renderRecord [
    ("jsonrpc", Json.quote r.version),
    ("id", r.id.render),
    r.outcome.render]

end Response

end ContentNode.Rpc

import ContentNode.Rpc.Call
import ContentNode.Rpc.Error

/-!
# Requests

A request wraps a call in an envelope with the protocol version, an identifier
that the response repeats, and the fixed method `local`.
-/

namespace ContentNode.Rpc

/-- The only protocol version. -/
def protocolVersion : String := "2.0"

/-- The only method of the envelope. -/
def localMethod : String := "local"

/-- A call in its envelope. -/
structure Request where
  version : String
  id : Json.Value
  method : String
  call : Call
deriving DecidableEq

/-- Whether a value identifies a request: a string or a number. -/
def isIdentifier : Json.Value → Bool
  | .string _ | .number _ => true
  | _ => false

/-- The identifier that the response to a value repeats, or null if the value has
none. -/
def echoOf (v : Json.Value) : Json.Value :=
  match v.member? "id" with
  | some id => if isIdentifier id then id else .null
  | none => .null

namespace Request

/-- The request of a call. -/
def ofCall (id : Json.Value) (call : Call) : Request :=
  ⟨protocolVersion, id, localMethod, call⟩

/-- The shape of a request, of any version and method. -/
def shape : Schema.Record Schema.Member Request where
  name := "RpcRequest"
  blank := ⟨"", .null, "", .read ""⟩
  required := true
  fields := [
    { name := "jsonrpc"
      type := String
      shape := .leaf (.scalar .text)
      set := fun version r => { r with version } },
    { name := "id"
      type := Json.Value
      shape := .free
      set := fun id r => { r with id } },
    { name := "method"
      type := String
      shape := .leaf (.scalar .text)
      set := fun method r => { r with method } },
    { name := "params"
      type := Call
      shape := .tagged Call.shape
      set := fun call r => { r with call } }]

/-- The text of an error of shape in JSON. -/
def shapeMessage (e : Schema.DataError) : String := e.message Number.Format.general

/-- Checks the protocol version. -/
def checkVersion (members : List (String × Json.Value)) : Except Error Unit :=
  match Json.Value.lookup "jsonrpc" members with
  | none => .error (.invalidRequest "missing `jsonrpc`")
  | some v =>
    if v = .string protocolVersion then .ok ()
    else .error (.invalidRequest s!"unsupported jsonrpc version {v.render}")

/-- The identifier, which has to be a string or a number. -/
def checkId (members : List (String × Json.Value)) : Except Error Json.Value :=
  match Json.Value.lookup "id" members with
  | none => .error (.invalidRequest "missing `id`")
  | some id =>
    if isIdentifier id then .ok id
    else .error (.invalidRequest s!"`id` must be a string or number, got {id.render}")

/-- Checks the method of the envelope. -/
def checkMethod (members : List (String × Json.Value)) : Except Error Unit :=
  match Json.Value.lookup "method" members with
  | none => .error (.invalidRequest "missing `method`")
  | some (.string method) =>
    if method = localMethod then .ok ()
    else .error (.invalidRequest s!"unsupported method `{method}`")
  | some _ => .error (.invalidRequest "`method` must be a string")

/-- The call within the envelope. -/
def checkCall (members : List (String × Json.Value)) : Except Error Call :=
  match Json.Value.lookup "params" members with
  | none => .error (.invalidRequest "missing `params`")
  | some params =>
    match Json.FromValue.tagged Call.shape params with
    | .ok call => .ok call
    | .error e => .error (.invalidRequest s!"bad `params`: {shapeMessage e}")

/-- The valid request that a value denotes.  The envelope is checked before the
call: the version, the identifier and the method, in that order. -/
def ofValue : Json.Value → Except Error Request
  | .object members => do
    checkVersion members
    let id ← checkId members
    checkMethod members
    let call ← checkCall members
    return ofCall id call
  | _ => .error (.invalidRequest "request must be a JSON object")

/-- A request as a value. -/
def toValue (r : Request) : Json.Value :=
  .ofMembers [
    ("jsonrpc", .string r.version),
    ("id", r.id),
    ("method", .string r.method),
    ("params", r.call.toValue)]

/-- The text of a request. -/
def render (r : Request) : String :=
  Json.renderRecord [
    ("jsonrpc", Json.quote r.version),
    ("id", r.id.render),
    ("method", Json.quote r.method),
    ("params", r.call.render)]

end Request

end ContentNode.Rpc

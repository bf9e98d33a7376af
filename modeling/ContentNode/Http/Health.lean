import ContentNode.Rpc.Request

/-!
# Health reports
-/

namespace ContentNode.Http

/-- The version of the node. -/
def nodeVersion : String := "0.1.0"

/-- What a node answers when asked whether it is well. -/
structure Health where
  status : String
  version : String
  protocol : String
deriving DecidableEq

namespace Health

/-- The report of a running node. -/
def ok : Health := ⟨"ok", nodeVersion, Rpc.protocolVersion⟩

/-- The shape of a report. -/
def shape : Schema.Record Schema.Leaf Health where
  name := "HealthResponse"
  blank := ⟨"", "", ""⟩
  required := true
  fields := [
    { name := "status"
      type := String
      shape := .scalar .text
      set := fun status health => { health with status } },
    { name := "version"
      type := String
      shape := .scalar .text
      set := fun version health => { health with version } },
    { name := "jsonrpc"
      type := String
      shape := .scalar .text
      set := fun protocol health => { health with protocol } }]

/-- A report in JSON. -/
def render (health : Health) : String :=
  Json.renderRecord [
    ("status", Json.quote health.status),
    ("version", Json.quote health.version),
    ("jsonrpc", Json.quote health.protocol)]

end Health

end ContentNode.Http

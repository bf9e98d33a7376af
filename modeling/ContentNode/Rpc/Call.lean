import ContentNode.Json.FromText
import ContentNode.Json.Printer

/-!
# Calls

What a client asks of the node: the object of an address, or to keep a payload.
-/

namespace ContentNode.Rpc

/-- What is asked of the node. -/
inductive Call where
  /-- The object whose address has this text. -/
  | read (address : String)
  /-- To keep this text. -/
  | write (data : String)
deriving DecidableEq

namespace Call

/-- The name of a call. -/
def name : Call → String
  | read _ => "read"
  | write _ => "write"

/-- The argument of a call. -/
def argument : Call → String
  | read address => address
  | write data => data

/-- The name of the argument. -/
def argumentName : Call → String
  | read _ => "id"
  | write _ => "data"

/-- The call of a name. -/
def ofName? (name : String) (argument : String) : Option Call :=
  [read argument, write argument].find? fun call => call.name == name

/-- A record of one text. -/
def parameters (name field : String) (call : String → Call) : Schema.Record Schema.Leaf Call where
  name := name
  blank := call ""
  required := true
  fields := [
    { name := field
      type := String
      shape := .scalar .text
      set := fun text _ => call text }]

/-- The shape of a call: its name and its argument. -/
def shape : Schema.Tagged Call where
  name := "LocalCall"
  tagMember := "method"
  contentMember := "params"
  alternatives := [
    ⟨"read", parameters "ReadParams" "id" .read⟩,
    ⟨"write", parameters "WriteParams" "data" .write⟩]

/-- A call as a value. -/
def toValue (call : Call) : Json.Value :=
  .object [
    ("method", .string call.name),
    ("params", .object [(call.argumentName, .string call.argument)])]

/-- The text of a call. -/
def render (call : Call) : String := call.toValue.render

end Call

end ContentNode.Rpc

import ContentNode.Engine.Config
import ContentNode.Engine.Error
import ContentNode.Store.Operation

/-!
# Writing objects

A payload is stored under its address.  If there is such an object already, the
store is not asked to store it again.
-/

namespace ContentNode.Engine

/-- How a payload came to be stored. -/
inductive Receipt where
  /-- The object was there. -/
  | deduplicated (address : Address)
  /-- The store was asked to store the object. -/
  | committed (address : Address) (outcome : PutOutcome)
deriving DecidableEq

/-- The address of the object. -/
def Receipt.address : Receipt → Address
  | deduplicated address | committed address _ => address

/-- Why a payload cannot be stored. -/
inductive PayloadProblem where
  | empty
  | tooLong (size limit : Nat)
deriving DecidableEq

/-- The text of a problem. -/
def PayloadProblem.message : PayloadProblem → String
  | empty => "payload is empty"
  | tooLong size limit => s!"payload of {size} bytes exceeds the {limit} byte limit"

/-- The problem of a payload. -/
def payloadProblem? (config : EngineConfig) (payload : ByteArray) : Option PayloadProblem :=
  if payload.size = 0 then some .empty
  else if config.maxPayloadSize < payload.size then
    some (.tooLong payload.size config.maxPayloadSize)
  else none

/-- Stores a payload that may be stored. -/
def commit (config : EngineConfig) (payload : ByteArray) :
    StoreProgram (Except EngineError Receipt) :=
  let address := config.codec.derive payload
  .step (.exists_ address) fun (present : Bool) =>
    if present then .done (.ok (.deduplicated address))
    else .step (.put address payload) fun
      | .ok outcome => .done (.ok (.committed address outcome))
      | .error e => .done (.error (.storageFailure e.message))

/-- Stores a payload. -/
def write (config : EngineConfig) (payload : ByteArray) :
    StoreProgram (Except EngineError Receipt) :=
  match payloadProblem? config payload with
  | some problem => .done (.error (.invalidPayload problem.message))
  | none => commit config payload

end ContentNode.Engine

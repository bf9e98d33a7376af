import ContentNode.Engine.Config
import ContentNode.Engine.Error
import ContentNode.Store.Operation

/-!
# Reading objects

What is stored under an address is given out only if its payload has that
address.
-/

namespace ContentNode.Engine

/-- The payload of what a store gave for an address. -/
def verify (config : EngineConfig) (address : Address) :
    Except StoreError StoredObject → Except EngineError ByteArray
  | .ok object =>
    let computed := config.codec.derive object.payload
    if computed = address then .ok object.payload
    else .error (.integrityViolation address (.foreign computed))
  | .error (.notFound a) => .error (.notFound a)
  | .error (.corrupt a reason) => .error (.integrityViolation a (.corrupt reason))
  | .error e => .error (.storageFailure e.message)

/-- The payload of an address. -/
def readAddress (config : EngineConfig) (address : Address) :
    StoreProgram (Except EngineError ByteArray) :=
  .step (.get address) fun object => .done (verify config address object)

/-- The payload of the address that a text denotes.  The store is not asked if
the text is no address. -/
def read (config : EngineConfig) (text : String) :
    StoreProgram (Except EngineError ByteArray) :=
  match config.codec.decode text with
  | .error report => .done (.error (.malformedAddress report))
  | .ok address => readAddress config address

end ContentNode.Engine

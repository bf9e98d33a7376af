import ContentNode.Engine.Config

/-!
# Dumps of writers and readers
-/

namespace ContentNode.Engine

/-- The writer on a store of a name, as a structure. -/
def debugWriter (config : EngineConfig) (backend : String) : String :=
  Text.dump "WriteCoordinator" [
    ("backend", Text.Quoted.string backend),
    ("codec", config.codec.debug),
    ("max_payload_size", toString config.maxPayloadSize)]

/-- The reader on a store of a name, as a structure. -/
def debugReader (config : EngineConfig) (backend : String) : String :=
  Text.dump "ReadCoordinator" [
    ("backend", Text.Quoted.string backend),
    ("codec", config.codec.debug)]

/-- The dispatcher on a store of a name, as a structure. -/
def debugDispatcher (config : EngineConfig) (backend : String) : String :=
  Text.dump "RpcDispatcher" [
    ("writer", debugWriter config backend),
    ("reader", debugReader config backend)]

end ContentNode.Engine

import ContentNode.Engine.Read
import ContentNode.Engine.Write

/-!
# Tasks

What is asked of those who write and read objects, and what they are given for it.
-/

namespace ContentNode.Engine

/-- What someone asks for. -/
inductive Task where
  /-- To store a payload. -/
  | write (payload : ByteArray)
  /-- The payload of an address. -/
  | read (address : Address)

namespace Task

/-- What comes of a task. -/
abbrev Reply : Task → Type
  | write _ => Except EngineError Receipt
  | read _ => Except EngineError ByteArray

/-- How a task is carried out. -/
def program (config : EngineConfig) : (task : Task) → StoreProgram task.Reply
  | write payload => Engine.write config payload
  | read address => readAddress config address

end Task

end ContentNode.Engine

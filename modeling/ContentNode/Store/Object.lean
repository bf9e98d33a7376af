import ContentNode.Address.Basic
import ContentNode.FileSystem.Basic

/-!
# Stored objects
-/

namespace ContentNode

/-- An object in a store: it never changes. -/
structure StoredObject where
  address : Address
  payload : ByteArray
  /-- When the object was first stored. -/
  createdAt : Instant

namespace StoredObject

/-- The number of bytes of the payload. -/
def size (object : StoredObject) : Nat := object.payload.size

end StoredObject

/-- What became of an object that was to be stored. -/
inductive PutOutcome where
  | created
  /-- There was an object of this address before. -/
  | alreadyPresent
deriving DecidableEq

namespace PutOutcome

/-- Whether the object was stored now. -/
def isCreated : PutOutcome → Bool
  | created => true
  | alreadyPresent => false

end PutOutcome

end ContentNode

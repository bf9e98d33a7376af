import ContentNode.Program
import ContentNode.Store.Error
import ContentNode.Store.Object
import ContentNode.Store.Stats

/-!
# Operations of stores

What every store can be asked for.  Objects are written once: storing an object
under an address that is taken changes nothing and says so.
-/

namespace ContentNode

/-- What a store is asked for. -/
inductive StoreOperation where
  /-- To store a payload under an address unless the address is taken. -/
  | put (address : Address) (payload : ByteArray)
  /-- The object of an address. -/
  | get (address : Address)
  /-- Whether there is an object of an address. -/
  | exists_ (address : Address)
  /-- How much there is. -/
  | stats

/-- The type of the answer to an operation. -/
abbrev StoreOperation.Answer : StoreOperation → Type
  | put _ _ => Except StoreError PutOutcome
  | get _ => Except StoreError StoredObject
  | exists_ _ => Bool
  | stats => Except StoreError StoreStats

/-- A program that uses a store. -/
abbrev StoreProgram := Program StoreOperation StoreOperation.Answer

end ContentNode

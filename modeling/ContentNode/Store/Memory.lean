import ContentNode.Store.Operation
import ContentNode.Text.Structure

/-!
# Stores in memory
-/

namespace ContentNode

/-- A store that keeps its objects in memory, the first one first. -/
structure MemoryStore where
  objects : List StoredObject

namespace MemoryStore

/-- A store without objects. -/
def empty : MemoryStore := ⟨[]⟩

/-- The object of an address. -/
def get? (store : MemoryStore) (address : Address) : Option StoredObject :=
  store.objects.find? fun object => object.address == address

/-- Whether there is an object of an address. -/
def contains (store : MemoryStore) (address : Address) : Bool := (store.get? address).isSome

/-- Stores a payload unless its address is taken. -/
def put (now : Instant) (address : Address) (payload : ByteArray) (store : MemoryStore) :
    PutOutcome × MemoryStore :=
  if store.contains address then (.alreadyPresent, store)
  else (.created, ⟨store.objects ++ [⟨address, payload, now⟩]⟩)

/-- The number of objects. -/
def size (store : MemoryStore) : Nat := store.objects.length

/-- How much there is. -/
def stats (store : MemoryStore) : StoreStats := .ofSizes (store.objects.map StoredObject.size)

/-- The sum of the sizes of all payloads. -/
def totalBytes (store : MemoryStore) : Nat := store.stats.totalBytes

/-- All addresses in order. -/
def addresses (store : MemoryStore) : List Address :=
  Address.sorted (store.objects.map (·.address))

/-- A store as a structure with the number of its objects. -/
def debug (store : MemoryStore) : String :=
  Text.dump "InMemoryObjectStore" [("object_count", toString store.size)]

/-- Performs an operation. -/
def perform (now : Instant) (op : StoreOperation) (store : MemoryStore) :
    op.Answer × MemoryStore :=
  match op with
  | .put address payload =>
    let (outcome, store) := store.put now address payload
    (.ok outcome, store)
  | .get address =>
    match store.get? address with
    | some object => (.ok object, store)
    | none => (.error (.notFound address), store)
  | .exists_ address => (store.contains address, store)
  | .stats => (.ok store.stats, store)

end MemoryStore

end ContentNode

import ContentNode.Store.Memory

/-!
# Stores that count
-/

namespace ContentNode

/-- A store in memory that counts how often it was asked for objects and to
store them. -/
structure RecordingStore where
  inner : MemoryStore
  puts : Nat
  gets : Nat

namespace RecordingStore

/-- A store that was not asked for anything. -/
def empty : RecordingStore := ⟨.empty, 0, 0⟩

/-- The store with an operation counted. -/
def count (store : RecordingStore) : StoreOperation → RecordingStore
  | .put _ _ => { store with puts := store.puts + 1 }
  | .get _ => { store with gets := store.gets + 1 }
  | .exists_ _ | .stats => store

/-- Performs an operation. -/
def perform (now : Instant) (op : StoreOperation) (store : RecordingStore) :
    op.Answer × RecordingStore :=
  let (answer, inner) := store.inner.perform now op
  (answer, { store.count op with inner })

end RecordingStore

end ContentNode

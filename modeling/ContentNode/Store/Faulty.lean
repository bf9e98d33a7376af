import ContentNode.Store.Memory

/-!
# Stores that misbehave

Stores that change what they hold, fail, never answer, or give up.
-/

namespace ContentNode

/-- Why an operation has no answer. -/
inductive Interruption where
  /-- The operation goes on for ever. -/
  | waiting
  /-- The one who performed it gave up. -/
  | panicked
deriving DecidableEq

/-- A payload with its first byte inverted. -/
def tamper (payload : ByteArray) : ByteArray :=
  match payload.data.toList with
  | [] => payload
  | b :: rest => ⟨((b ^^^ 0xff) :: rest).toArray⟩

/-- A store in memory that inverts the first byte of every payload it gives out. -/
def MemoryStore.performTampering (now : Instant) (op : StoreOperation) (store : MemoryStore) :
    op.Answer × MemoryStore :=
  match op with
  | .get address =>
    match store.get? address with
    | some object => (.ok { object with payload := tamper object.payload }, store)
    | none => (.error (.notFound address), store)
  | op => store.perform now op

namespace FailingStore

/-- The error of a store that always fails. -/
def error : StoreError := .io (.other "disk on fire")

/-- The answers of a store that always fails. -/
def answer : (op : StoreOperation) → op.Answer
  | .put _ _ => .error error
  | .get _ => .error error
  | .exists_ _ => false
  | .stats => .error error

end FailingStore

namespace PanickingStore

/-- The answers of a store that gives up when it is asked for objects. -/
def answer : (op : StoreOperation) → Except Interruption op.Answer
  | .put _ _ => .error .panicked
  | .get _ => .error .panicked
  | .exists_ _ => .ok false
  | .stats => .ok (.error (.serialization "no stats"))

end PanickingStore

/-- A store in memory behind a gate: until it is opened, nothing is stored, and
those who want to store something wait. -/
structure GatedStore where
  inner : MemoryStore
  isOpen : Bool
  /-- What waits to be stored, the first one first. -/
  waiting : List (Address × ByteArray)

namespace GatedStore

/-- An empty store behind a closed gate. -/
def closed : GatedStore := ⟨.empty, false, []⟩

/-- Performs an operation behind the gate. -/
def pass (now : Instant) (op : StoreOperation) (store : GatedStore) :
    Except Interruption op.Answer × GatedStore :=
  let (answer, inner) := store.inner.perform now op
  (.ok answer, { store with inner })

/-- Performs an operation. -/
def perform (now : Instant) (op : StoreOperation) (store : GatedStore) :
    Except Interruption op.Answer × GatedStore :=
  match op with
  | .put address payload =>
    if store.isOpen then store.pass now (.put address payload)
    else (.error .waiting, { store with waiting := store.waiting ++ [(address, payload)] })
  | op => store.pass now op

/-- Opens the gate for good; all that waited is stored. -/
def release (now : Instant) (store : GatedStore) : GatedStore :=
  ⟨store.waiting.foldl (fun inner (address, payload) => (inner.put now address payload).2)
    store.inner, true, []⟩

end GatedStore

end ContentNode

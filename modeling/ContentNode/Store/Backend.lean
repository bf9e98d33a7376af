import ContentNode.Store.Faulty
import ContentNode.Store.File
import ContentNode.Store.Recording

/-!
# Kinds of stores

A store of any kind together with the files around it.
-/

namespace ContentNode

open FileSystem

/-- A store of some kind. -/
inductive Backend where
  | memory (store : MemoryStore)
  | file (store : FileStore)
  | recording (store : RecordingStore)
  | tampering (store : MemoryStore)
  | failing
  | gated (store : GatedStore)
  | panicking

namespace Backend

/-- The name of the kind. -/
def name : Backend → String
  | memory _ => "memory"
  | file _ => "file"
  | recording _ => "recording"
  | tampering _ => "tampering"
  | failing => "failing"
  | gated _ => "gate"
  | panicking => "panicking"

/-- The objects of a store that keeps them in memory. -/
def objects? : Backend → Option MemoryStore
  | memory store | tampering store => some store
  | recording store => some store.inner
  | gated store => some store.inner
  | file _ | failing | panicking => none

/-- Performs an operation on a store and the files around it. -/
def perform (actor : Actor) (now : Instant) (op : StoreOperation) (backend : Backend)
    (tree : FileTree) : Except Interruption op.Answer × Backend × FileTree :=
  match backend with
  | memory store =>
    let (answer, store) := store.perform now op
    (.ok answer, memory store, tree)
  | file store =>
    let (answer, tree) := store.perform actor now op tree
    (.ok answer, file store, tree)
  | recording store =>
    let (answer, store) := store.perform now op
    (.ok answer, recording store, tree)
  | tampering store =>
    let (answer, store) := store.performTampering now op
    (.ok answer, tampering store, tree)
  | failing => (.ok (FailingStore.answer op), failing, tree)
  | gated store =>
    let (answer, store) := store.perform now op
    (answer, gated store, tree)
  | panicking => (PanickingStore.answer op, panicking, tree)

end Backend

end ContentNode

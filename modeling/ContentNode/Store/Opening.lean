import ContentNode.Store.Backend

/-!
# Opening stores

A store keeps its objects in files below a directory, or in memory if it is
given none.
-/

namespace ContentNode

open FileSystem

/-- A store that was opened. -/
inductive Opening where
  | memory
  /-- A store in files, and what was done about temporary files. -/
  | files (store : FileStore) (sweep : FileStore.Sweep)

namespace Opening

/-- The opened store. -/
def backend : Opening → Backend
  | memory => .memory .empty
  | files store _ => .file store

/-- Opens a store in files. -/
def ofStore (actor : Actor) (now : Instant) (store : FileStore) (tree : FileTree) :
    Except StoreError Opening × FileTree :=
  match (store.open_ now).run.run (FileTree.perform actor now) tree with
  | (.ok sweep, tree) => (.ok (.files store sweep), tree)
  | (.error e, tree) => (.error e, tree)

/-- Opens the store of a directory, or one in memory. -/
def ofDirectory (actor : Actor) (now : Instant) (directory : Option String) (tree : FileTree) :
    Except StoreError Opening × FileTree :=
  match directory with
  | none => (.ok .memory, tree)
  | some root => ofStore actor now ⟨root⟩ tree

end Opening

end ContentNode

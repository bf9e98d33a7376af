import ContentNode.Proofs.FileSystem.Fresh
import ContentNode.Proofs.Store.File.Layout

/-!
# The steps of a store

What each operation that a store asks for answers, and what it does to the files, if
these have the shape of a store.
-/

namespace ContentNode.FileStore

open FileSystem

variable {store : FileStore} {actor : Actor} {now modified : Instant} {top : Location}
  {tree : FileTree} {address : Address} {content bytes : ByteArray} {number mode : Nat}
  {parent : Entry}

/-- The path of a temporary file. -/
def temporaryPath (store : FileStore) (address : Address) (number : Nat) : FilePath :=
  (store.directory address).child (FileTree.temporaryName number)

/-- The place of a temporary file. -/
def temporaryPlace (top : Location) (address : Address) (number : Nat) : Location :=
  filePlace top (directoryName address) (FileTree.temporaryName number)

theorem changed_insert_temporary (tree : FileTree) (top : Location) (address : Address)
    (number : Nat) (entry : Entry) :
    tree.Changed (tree.insert (temporaryPlace top address number) entry)
      (temporaryPlace top address number) (some entry) :=
  tree.changed_insert filePlace_ne_nil entry

theorem changed_erase_temporary (tree : FileTree) (top : Location) (address : Address)
    (number : Nat) :
    tree.Changed (tree.erase (temporaryPlace top address number))
      (temporaryPlace top address number) none :=
  tree.changed_erase filePlace_ne_nil

theorem changed_insert_object (tree : FileTree) (top : Location) (address : Address)
    (entry : Entry) :
    tree.Changed (tree.insert (objectPlace top address) entry) (objectPlace top address)
      (some entry) :=
  tree.changed_insert filePlace_ne_nil entry

/-- A temporary file is not at the place of an object. -/
theorem temporaryPlace_ne_objectPlace {other : Address} :
    temporaryPlace top address number ≠ objectPlace top other := fun same =>
  ne_fileName (isTemporary_temporaryName number) (filePlace_injective same).2

variable {after : FileTree} {left : Option Entry} {other : Address}

/-- A change of a temporary file is none of an object. -/
theorem object?_of_temporary
    (changed : tree.Changed after (temporaryPlace top address number) left) :
    object? top after other = object? top tree other :=
  object?_of_changed changed temporaryPlace_ne_objectPlace.symm

theorem may_temporaryMode (actor : Actor) : actor.may .read Entry.temporaryMode = true := by
  cases actor <;> rfl

namespace Layout

theorem perform_exists_object (layout : store.Layout actor top tree) :
    tree.perform actor now (.exists_ (store.objectPath address)) =
      (.ok (object? top tree address).isSome, tree) := by
  rw [FileTree.perform, exists_eq (layout.legible address), layout.file?_eq]

theorem perform_read_object (layout : store.Layout actor top tree) :
    tree.perform actor now (.read (store.objectPath address)) =
      (match object? top tree address with
        | some bytes => .ok bytes
        | none => .error (.os .noEntry), tree) := by
  have content := contentOf_eq (layout.legible address)
  rw [layout.file?_eq] at content
  cases held : object? top tree address with
  | none =>
      rw [held] at content
      exact Prod.ext content rfl
  | some bytes =>
      rw [held] at content
      exact Prod.ext content rfl

/-! ### Directories -/

/-- The directory of all objects is not made again. -/
theorem perform_makeObjects (layout : store.Layout actor top tree) :
    tree.perform actor now (.makeDirectories store.objects) = (.ok (), tree) := by
  obtain ⟨mode, there, -⟩ := layout.objects
  rw [FileTree.perform, objects_eq]
  exact FileTree.makeMissing_child layout.slot_objects there

/-- The directory of an object is there afterwards, and no file has changed. -/
theorem perform_makeDirectory (layout : store.Layout actor top tree) (now : Instant)
    (address : Address) :
    ∃ after, tree.perform actor now (.makeDirectories (store.directory address)) =
        (.ok (), after) ∧ store.Layout actor top after ∧ tree.Keeps after ∧
      (∃ parent, after.get? (directoryPlace top address) = some parent) ∧
      ∀ directory name, after.get? (filePlace top directory name) =
        tree.get? (filePlace top directory name) := by
  cases there : tree.get? (directoryPlace top address) with
  | some parent =>
      obtain ⟨mode, found, -⟩ := layout.usable there
      have made : tree.perform actor now (.makeDirectories (store.directory address)) =
          (.ok (), tree) := by
        rw [FileTree.perform, directory_eq]
        exact FileTree.makeMissing_child (layout.slot_directory address) found
      exact ⟨tree, made, layout, .refl tree, ⟨parent, there⟩, fun _ _ => rfl⟩
  | none =>
      have made : tree.perform actor now (.makeDirectories (store.directory address)) =
          (.ok (), tree.insert (directoryPlace top address) (.directory Entry.directoryMode)) := by
        rw [FileTree.perform, directory_eq]
        exact FileTree.makeMissing_child_of_free (layout.slot_directory address) there
          (layout.objects.mayUse .write)
      have kept : tree.Keeps
          (tree.insert (directoryPlace top address) (.directory Entry.directoryMode)) := by
        apply FileTree.Keeps.changed (tree.changed_insert directoryPlace_ne_nil _)
        intro old found
        cases there.symm.trans found
      exact ⟨_, made, layout.insert_directory there, kept,
        ⟨_, FileTree.get?_insert_self _ directoryPlace_ne_nil _⟩,
        fun _ _ => FileTree.get?_insert_of_ne _ directoryPlace_ne_nil _ directoryPlace_ne_file.symm⟩

theorem perform_syncDirectory (layout : store.Layout actor top tree)
    (there : tree.get? (directoryPlace top address) = some parent) :
    tree.perform actor now (.syncDirectory (store.directory address)) = (.ok (), tree) := by
  obtain ⟨mode, found, allowed⟩ := layout.usable there
  rw [FileTree.perform, directory_eq,
    FileTree.openDirectory_child (layout.slot_directory address) found (allowed .read)]
  rfl

/-! ### Temporary files -/

theorem belongs_temporary (actor : Actor) (address : Address) (number mode : Nat) :
    Belongs actor (directoryName address) (FileTree.temporaryName number) mode := by
  refine .inl ⟨isTemporary_temporaryName number, (plain_temporaryName number).1, ?_⟩
  rw [(plain_temporaryName number).2]
  decide

/-- A temporary file comes, changes or goes. -/
theorem changed_temporary (layout : store.Layout actor top tree)
    (there : tree.get? (directoryPlace top address) = some parent) (distinct : after.Distinct)
    (changed : tree.Changed after (temporaryPlace top address number) left)
    (file : ∀ entry, left = some entry → entry.type = .file) : store.Layout actor top after := by
  apply layout.changed_file distinct changed
  intro entry placed
  cases entry with
  | file content modified mode =>
      exact ⟨⟨parent, there⟩, _, _, _, rfl, belongs_temporary actor address number mode⟩
  | directory mode => cases file _ placed
  | link target => cases file _ placed

/-- A temporary file is made at a place that was free, if there is one. -/
theorem perform_createTemporary (layout : store.Layout actor top tree) (now : Instant)
    (there : tree.get? (directoryPlace top address) = some parent) :
    ((∀ number, tree.get? (temporaryPlace top address number) ≠ none) ∧
      ∃ e, tree.perform actor now (.createTemporary (store.directory address)) =
        (.error e, tree)) ∨
      ∃ number after, tree.get? (temporaryPlace top address number) = none ∧
        tree.perform actor now (.createTemporary (store.directory address)) =
          (.ok (store.temporaryPath address number), after) ∧ store.Layout actor top after ∧
        tree.Changed after (temporaryPlace top address number)
          (some (.file ByteArray.empty now Entry.temporaryMode)) := by
  obtain ⟨mode, found, allowed⟩ := layout.usable there
  have made := FileTree.createTemporary_child (layout.slot_directory address) now found
    (allowed .search) (allowed .write)
  rw [← directory_eq] at made
  cases fresh : tree.freshNumber? (objectsPlace top ++ [directoryName address])
      (tree.entries.length + 1) tree.temporaries with
  | none =>
      rw [fresh] at made
      have stepped := FileTree.perform_createTemporary_of_error made
      exact .inl ⟨FileTree.used_of_freshNumber?_eq_none fresh, _, stepped⟩
  | some number =>
      rw [fresh] at made
      have stepped := FileTree.perform_createTemporary_of_ok made
      have changed := changed_insert_temporary tree top address number
        (.file ByteArray.empty now Entry.temporaryMode)
      exact .inr ⟨number, _, FileTree.free_of_freshNumber? fresh, stepped,
        layout.changed_temporary there (layout.distinct.insert _ _) changed
          (fun _ placed => by cases placed; rfl), changed⟩

section Temporary

variable (layout : store.Layout actor top tree)
  (there : tree.get? (directoryPlace top address) = some parent)
  (temporary : tree.get? (temporaryPlace top address number) = some (.file content modified mode))

include layout there temporary

/-- Bytes are appended to a temporary file. -/
theorem appendTo_temporary (now : Instant) (bytes : ByteArray) :
    store.Layout actor top (tree.appendTo now (store.temporaryPath address number) bytes) ∧
      tree.Changed (tree.appendTo now (store.temporaryPath address number) bytes)
        (temporaryPlace top address number) (some (.file (content ++ bytes) now mode)) := by
  have appended : tree.appendTo now (store.temporaryPath address number) bytes =
      tree.insert (temporaryPlace top address number) (.file (content ++ bytes) now mode) :=
    FileTree.appendTo_child (layout.slot_temporary there number) temporary
  have changed := changed_insert_temporary tree top address number
    (.file (content ++ bytes) now mode)
  rw [appended]
  exact ⟨layout.changed_temporary there (layout.distinct.insert _ _) changed
    fun _ placed => by cases placed; rfl, changed⟩

/-- A temporary file is removed. -/
theorem perform_discard (now : Instant) :
    ∃ after, tree.perform actor now (.discard (store.temporaryPath address number)) =
        ((), after) ∧ store.Layout actor top after ∧
      tree.Changed after (temporaryPlace top address number) none := by
  have removed : tree.perform actor now (.discard (store.temporaryPath address number)) =
      ((), tree.erase (temporaryPlace top address number)) := by
    rw [FileTree.perform, temporaryPath,
      FileTree.remove_child (layout.slot_temporary there number) temporary
        ((layout.usable there).mayUse .write)]
    rfl
  have changed := changed_erase_temporary tree top address number
  exact ⟨_, removed, layout.changed_temporary there (layout.distinct.erase _) changed
    (fun _ placed => by cases placed), changed⟩

/-- A temporary file that may be read becomes an object where there is none. -/
theorem perform_link (now : Instant) (readable : actor.may .read mode = true)
    (free : object? top tree address = none) :
    ∃ after, tree.perform actor now
          (.link (store.temporaryPath address number) (store.objectPath address)) =
        (.ok (), after) ∧ store.Layout actor top after ∧
      tree.Changed after (objectPlace top address) (some (.file content modified mode)) := by
  have linked : tree.perform actor now
        (.link (store.temporaryPath address number) (store.objectPath address)) =
      (.ok (), tree.insert (objectPlace top address) (.file content modified mode)) := by
    rw [FileTree.perform, temporaryPath, objectPath_eq,
      FileTree.link_child (layout.slot_temporary there number) temporary (layout.slot_file there)
        (layout.free_of_object? free) ((layout.usable there).mayUse .write)]
    rfl
  have changed := changed_insert_object tree top address (.file content modified mode)
  refine ⟨_, linked, layout.changed_file (layout.distinct.insert _ _) changed ?_, changed⟩
  intro entry placed
  cases placed
  exact ⟨⟨parent, there⟩, _, _, _, rfl, .inr ⟨address, rfl, rfl, readable⟩⟩

/-- Where there is an object, a temporary file does not become one. -/
theorem perform_link_of_taken (taken : object? top tree address = some bytes) :
    tree.perform actor now
        (.link (store.temporaryPath address number) (store.objectPath address)) =
      (.error (.os .exists_), tree) := by
  obtain ⟨-, _, _, found, -⟩ := layout.file_of_object? taken
  have final (text : String) :
      tree.get? (directoryPlace top address ++ [fileName address]) ≠ some (.link text) := by
    intro linked
    cases linked.symm.trans found
  rw [FileTree.perform, temporaryPath, objectPath_eq,
    FileTree.link_child_of_taken (layout.slot_temporary there number) temporary
      (layout.slot_file there) final found]
  rfl

end Temporary

/-! ### Listings -/

theorem perform_kind_objects (layout : store.Layout actor top tree) :
    tree.perform actor now (.kind store.objects) = (.ok .directory, tree) := by
  obtain ⟨mode, there, -⟩ := layout.objects
  have final (text : String) : tree.get? (top ++ [objectsName]) ≠ some (.link text) := by
    intro linked
    cases linked.symm.trans there
  rw [FileTree.perform, objects_eq, FileTree.kindOf_child layout.slot_objects final there]
  rfl

theorem perform_list_objects (layout : store.Layout actor top tree) :
    tree.perform actor now (.list store.objects) =
      (.ok (tree.contents (objectsPlace top)), tree) := by
  obtain ⟨mode, there, allowed⟩ := layout.objects
  rw [FileTree.perform, objects_eq,
    FileTree.listDirectory_child layout.slot_objects there (allowed .read)]
  rfl

theorem perform_list_directory (layout : store.Layout actor top tree)
    (there : tree.get? (directoryPlace top address) = some parent) :
    tree.perform actor now (.list (store.directory address)) =
      (.ok (tree.contents (directoryPlace top address)), tree) := by
  obtain ⟨mode, found, allowed⟩ := layout.usable there
  rw [FileTree.perform, directory_eq,
    FileTree.listDirectory_child (layout.slot_directory address) found (allowed .read)]
  rfl

theorem perform_metadata_object (layout : store.Layout actor top tree)
    (held : object? top tree address = some content) :
    ∃ modified, tree.perform actor now (.metadata (store.objectPath address)) =
      (.ok ⟨content.size, modified⟩, tree) := by
  obtain ⟨⟨parent, below⟩, modified, mode, there, -⟩ := layout.file_of_object? held
  refine ⟨modified, ?_⟩
  rw [FileTree.perform, objectPath_eq, FileTree.metadata_child (layout.slot_file below) there]

end Layout

end ContentNode.FileStore

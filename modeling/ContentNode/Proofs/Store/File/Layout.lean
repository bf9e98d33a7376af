import ContentNode.Proofs.FileSystem.Effects
import ContentNode.Proofs.Store.File.Reading

/-!
# The files of a store

The shape that the files below the root of a store have, and the changes that keep
it: directories are made, temporary files come and go, and objects are added.
-/

namespace ContentNode

open FileSystem

namespace FileStore

variable {store : FileStore} {actor : Actor} {top : Location} {tree : FileTree}
  {address other : Address} {directory name : FileName} {content : ByteArray}
  {modified : Instant} {mode : Nat} {entry : Entry}

/-- The place of a file in one of the directories. -/
def filePlace (top : Location) (directory name : FileName) : Location :=
  objectsPlace top ++ [directory] ++ [name]

theorem objectPlace_eq (top : Location) (address : Address) :
    objectPlace top address = filePlace top (directoryName address) (fileName address) := rfl

/-- A file is temporary, or it is an object in its own directory that may be read. -/
def Belongs (actor : Actor) (directory name : FileName) (mode : Nat) : Prop :=
  (isTemporary name = true ∧ name.Plain ∧ name.display.utf8ByteSize ≤ 62) ∨
    ∃ address, directory = directoryName address ∧ name = fileName address ∧
      actor.may .read mode = true

/-- The shape of the files of a store whose root leads to the directory `top`. -/
structure Layout (store : FileStore) (actor : Actor) (top : Location) (tree : FileTree) :
    Prop where
  distinct : tree.Distinct
  root : tree.Reaches actor (.ofText store.root) top pathRoom
  objects : tree.Usable actor (objectsPlace top)
  directories : ∀ name entry, tree.get? (objectsPlace top ++ [name]) = some entry →
    tree.Usable actor (objectsPlace top ++ [name]) ∧ ∃ address, name = directoryName address
  files : ∀ directory name entry, tree.get? (filePlace top directory name) = some entry →
    (∃ parent, tree.get? (objectsPlace top ++ [directory]) = some parent) ∧
      ∃ content modified mode, entry = .file content modified mode ∧
        Belongs actor directory name mode

/-- The bytes of the file of an object. -/
def object? (top : Location) (tree : FileTree) (address : Address) : Option ByteArray :=
  match tree.get? (objectPlace top address) with
  | some (.file content _ _) => some content
  | _ => none

/-! ### Places -/

theorem objectsPlace_ne_nil : objectsPlace top ≠ [] := by
  simp [objectsPlace]

theorem directoryPlace_ne_nil : directoryPlace top address ≠ [] := by
  simp [directoryPlace]

theorem filePlace_ne_nil : filePlace top directory name ≠ [] := by
  simp [filePlace]

theorem filePlace_injective {directory' name' : FileName}
    (same : filePlace top directory name = filePlace top directory' name') :
    directory = directory' ∧ name = name' := by
  simpa [filePlace] using same

theorem filePlace_ne_directory {other : FileName} :
    objectsPlace top ++ [other] ≠ filePlace top directory name := by
  intro same
  have lengths := congrArg List.length same
  simp [filePlace] at lengths

theorem directoryPlace_ne_file : directoryPlace top address ≠ filePlace top directory name :=
  filePlace_ne_directory

/-- A temporary name is not that of an object. -/
theorem ne_fileName (temporary : isTemporary name = true) : name ≠ fileName address := by
  rintro rfl
  rw [isTemporary_fileName] at temporary
  cases temporary

theorem objectPlace_injective (same : objectPlace top address = objectPlace top other) :
    address = other := by
  obtain ⟨sameDirectory, sameFile⟩ := filePlace_injective same
  exact address_injective sameDirectory sameFile

/-! ### What paths lead to -/

namespace Layout

theorem reaches_objects (layout : store.Layout actor top tree) :
    tree.Reaches actor store.objects (objectsPlace top) 66 :=
  FileStore.reaches_objects layout.root layout.objects.searchable

theorem slot_objects (layout : store.Layout actor top tree) :
    tree.Slot actor (.ofText store.root) top objectsName :=
  FileStore.slot_objects layout.root

theorem slot_directory (layout : store.Layout actor top tree) (address : Address) :
    tree.Slot actor store.objects (objectsPlace top) (directoryName address) :=
  FileStore.slot_directory layout.reaches_objects address

/-- A directory that is there may be used. -/
theorem usable (layout : store.Layout actor top tree)
    (there : tree.get? (directoryPlace top address) = some entry) :
    tree.Usable actor (directoryPlace top address) :=
  (layout.directories _ _ there).1

theorem reaches_directory (layout : store.Layout actor top tree)
    (there : tree.get? (directoryPlace top address) = some entry) :
    tree.Reaches actor (store.directory address) (directoryPlace top address) 63 :=
  FileStore.reaches_directory layout.reaches_objects (layout.usable there).searchable

theorem slot_file (layout : store.Layout actor top tree)
    (there : tree.get? (directoryPlace top address) = some entry) :
    tree.Slot actor (store.directory address) (directoryPlace top address) (fileName address) :=
  FileStore.slot_file (layout.reaches_directory there)

/-- The slot of a temporary file. -/
theorem slot_temporary (layout : store.Layout actor top tree)
    (there : tree.get? (directoryPlace top address) = some entry) (number : Nat) :
    tree.Slot actor (store.directory address) (directoryPlace top address)
      (FileTree.temporaryName number) := by
  apply (layout.reaches_directory there).slot _ (plain_temporaryName number).1
  have size := (plain_temporaryName number).2
  omega

/-- An object has a regular file, which may be read, in a directory. -/
theorem file_of_object? (layout : store.Layout actor top tree)
    (held : object? top tree address = some content) :
    (∃ parent, tree.get? (directoryPlace top address) = some parent) ∧
      ∃ modified mode, tree.get? (objectPlace top address) =
        some (.file content modified mode) ∧ actor.may .read mode = true := by
  unfold object? at held
  split at held
  · rename_i content' modified mode there
    cases held
    obtain ⟨parent, content', modified', mode', same, belongs⟩ := layout.files _ _ _ there
    cases same
    refine ⟨parent, modified, mode, there, ?_⟩
    rcases belongs with ⟨temporary, -⟩ | ⟨_, _, _, readable⟩
    · exact absurd rfl (ne_fileName temporary)
    · exact readable
  · cases held

/-- Where there is no object, the place of its file is free. -/
theorem free_of_object? (layout : store.Layout actor top tree)
    (absent : object? top tree address = none) : tree.get? (objectPlace top address) = none := by
  cases there : tree.get? (objectPlace top address) with
  | none => rfl
  | some entry =>
      obtain ⟨-, content, modified, mode, rfl, -⟩ := layout.files _ _ _ there
      unfold object? at absent
      rw [there] at absent
      cases absent

/-- The path of an object leads to its file. -/
theorem stat_of_some (layout : store.Layout actor top tree)
    (held : object? top tree address = some content) :
    ∃ modified mode, tree.stat actor true (store.objectPath address) =
      .ok (objectPlace top address, .file content modified mode) ∧
        actor.may .read mode = true := by
  obtain ⟨⟨parent, below⟩, modified, mode, there, readable⟩ := layout.file_of_object? held
  exact ⟨modified, mode, (layout.slot_file below).stat_of_some there fun _ => nofun, readable⟩

/-- The path of an object that is not there leads nowhere. -/
theorem stat_of_none (layout : store.Layout actor top tree)
    (absent : object? top tree address = none) :
    tree.stat actor true (store.objectPath address) = .error (.os .noEntry) := by
  cases below : tree.get? (directoryPlace top address) with
  | some entry => exact (layout.slot_file below).stat_of_none (layout.free_of_object? absent)
  | none =>
      rw [objectPath_eq, directory_eq]
      have sizes : 1 + (directoryName address).display.utf8ByteSize +
          (1 + (fileName address).display.utf8ByteSize) ≤ 66 := by
        have front := (plain_directoryName address).2
        have back := (plain_fileName address).2
        omega
      exact layout.reaches_objects.stat_below_free sizes (plain_directoryName address).1
        (plain_fileName address).1 below

theorem legible (layout : store.Layout actor top tree) (address : Address) :
    store.Legible actor address tree := by
  cases held : object? top tree address with
  | none => exact .inl (layout.stat_of_none held)
  | some content =>
      obtain ⟨modified, mode, found, readable⟩ := layout.stat_of_some held
      exact .inr ⟨_, _, _, _, found, readable⟩

theorem file?_eq (layout : store.Layout actor top tree) (address : Address) :
    store.file? actor address tree = object? top tree address := by
  cases held : object? top tree address with
  | none =>
      unfold file?
      rw [layout.stat_of_none held]
  | some content =>
      obtain ⟨modified, mode, found, -⟩ := layout.stat_of_some held
      exact file?_of_stat found

/-! ### Changes that keep the shape -/

/-- The directory of an object is made. -/
theorem insert_directory (layout : store.Layout actor top tree)
    (free : tree.get? (directoryPlace top address) = none) :
    store.Layout actor top
      (tree.insert (directoryPlace top address) (.directory Entry.directoryMode)) := by
  have kept : tree.Keeps
      (tree.insert (directoryPlace top address) (.directory Entry.directoryMode)) :=
    .changed (tree.changed_insert directoryPlace_ne_nil _) fun old there => by
      rw [free] at there
      cases there
  constructor
  · exact layout.distinct.insert _ _
  · exact layout.root.keeps kept
  · exact kept.usable layout.objects
  · intro name entry there
    rw [FileTree.get?_insert _ directoryPlace_ne_nil] at there
    by_cases same : objectsPlace top ++ [name] = directoryPlace top address
    · rw [same]
      exact ⟨⟨_, FileTree.get?_insert_self _ directoryPlace_ne_nil _,
        FileTree.may_directoryMode actor⟩, address, by simpa [directoryPlace] using same⟩
    · rw [if_neg same] at there
      obtain ⟨usable, named⟩ := layout.directories name entry there
      exact ⟨kept.usable usable, named⟩
  · intro directory name entry there
    rw [FileTree.get?_insert_of_ne _ directoryPlace_ne_nil _ directoryPlace_ne_file.symm] at there
    obtain ⟨⟨parent, below⟩, file⟩ := layout.files directory name entry there
    obtain ⟨mode, found, -⟩ := (layout.directories _ _ below).1
    exact ⟨⟨_, kept _ _ (by simp [Entry.type]) found⟩, file⟩

/-- A file comes, changes or goes. -/
theorem changed_file (layout : store.Layout actor top tree) {after : FileTree}
    {left : Option Entry} (distinct : after.Distinct)
    (changed : tree.Changed after (filePlace top directory name) left)
    (allowed : ∀ entry, left = some entry →
      (∃ parent, tree.get? (objectsPlace top ++ [directory]) = some parent) ∧
        ∃ content modified mode, entry = .file content modified mode ∧
          Belongs actor directory name mode) :
    store.Layout actor top after := by
  have kept : tree.Keeps after := .changed changed fun old there => by
    obtain ⟨-, _, _, _, rfl, -⟩ := layout.files directory name old there
    rfl
  have sameDirectory (other : FileName) :
      after.get? (objectsPlace top ++ [other]) = tree.get? (objectsPlace top ++ [other]) :=
    changed.get?_of_ne filePlace_ne_directory
  constructor
  · exact distinct
  · exact layout.root.keeps kept
  · exact kept.usable layout.objects
  · intro other entry there
    rw [sameDirectory] at there
    obtain ⟨usable, named⟩ := layout.directories other entry there
    exact ⟨kept.usable usable, named⟩
  · intro directory' name' entry there
    rw [sameDirectory]
    by_cases same : filePlace top directory' name' = filePlace top directory name
    · obtain ⟨rfl, rfl⟩ := filePlace_injective same
      rw [changed.get?_self] at there
      exact allowed entry there
    · rw [changed.get?_of_ne same] at there
      exact layout.files directory' name' entry there

end Layout

/-! ### What changes do to objects -/

theorem object?_congr {changed : FileTree}
    (same : changed.get? (objectPlace top address) = tree.get? (objectPlace top address)) :
    object? top changed address = object? top tree address := by
  unfold object?
  rw [same]

variable {after : FileTree} {left : Option Entry} {place : Location}

/-- A change elsewhere does not change an object. -/
theorem object?_of_changed (changed : tree.Changed after place left)
    (apart : objectPlace top address ≠ place) :
    object? top after address = object? top tree address :=
  object?_congr (changed.get?_of_ne apart)

/-- A file that is put at the place of an object is that object. -/
theorem object?_of_added
    (changed : tree.Changed after (objectPlace top other) (some (.file content modified mode))) :
    object? top after address =
      if address = other then some content else object? top tree address := by
  by_cases same : address = other
  · subst same
    unfold object?
    rw [changed.get?_self, if_pos rfl]
  · rw [if_neg same]
    exact object?_of_changed changed fun places => same (objectPlace_injective places)

end FileStore

end ContentNode

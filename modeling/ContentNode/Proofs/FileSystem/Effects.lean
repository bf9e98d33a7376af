import ContentNode.FileSystem.Operation
import ContentNode.Proofs.FileSystem.Reaching

/-!
# Operations in reachable directories

What each operation answers, and what it does to the tree, if its path is a name
behind a path to a directory.
-/

namespace ContentNode.FileSystem.FileTree

variable {tree : FileTree} {actor : Actor} {now modified : Instant} {path : FilePath}
  {place : Location} {name : FileName} {entry : Entry} {content bytes : ByteArray}
  {mode : Nat}

/-! ### Asking -/

theorem isDirectory_child (slot : tree.Slot actor path place name)
    (there : tree.get? (place ++ [name]) = some (.directory mode)) :
    tree.isDirectory actor (path.child name) = true := by
  rw [isDirectory, slot.stat (by simp [there]), there]
  rfl

theorem metadata_child (slot : tree.Slot actor path place name)
    (there : tree.get? (place ++ [name]) = some (.file content modified mode)) :
    tree.metadata actor now (path.child name) = .ok ⟨content.size, modified⟩ := by
  rw [metadata, slot.stat (by simp [there]), there]

theorem kindOf_child (slot : tree.Slot actor path place name)
    (final : ∀ target, tree.get? (place ++ [name]) ≠ some (.link target))
    (there : tree.get? (place ++ [name]) = some entry) :
    tree.kindOf actor (path.child name) = .ok entry.type := by
  rw [kindOf, slot.stat final, there]
  rfl

theorem openDirectory_child (slot : tree.Slot actor path place name)
    (there : tree.get? (place ++ [name]) = some (.directory mode))
    (readable : actor.may .read mode = true) :
    tree.openDirectory actor (path.child name) = .ok (place ++ [name]) := by
  have allowed : tree.mayUse actor .read (place ++ [name]) = true := by
    simp only [mayUse, directoryMode, there, Entry.mode, readable]
  unfold openDirectory
  rw [slot.stat (by simp [there]), there]
  simp only [bind, Except.bind, Entry.isDirectory, allowed, Bool.not_true, Bool.false_eq_true,
    if_false]
  rfl

theorem listDirectory_child (slot : tree.Slot actor path place name)
    (there : tree.get? (place ++ [name]) = some (.directory mode))
    (readable : actor.may .read mode = true) :
    tree.listDirectory actor (path.child name) =
      .ok (tree.contents (place ++ [name])) := by
  rw [listDirectory, openDirectory_child slot there readable]
  rfl

/-- What is listed is there. -/
theorem Distinct.of_contents {kind : FileType} (distinct : tree.Distinct)
    (listed : (name, kind) ∈ tree.contents place) :
    ∃ entry, tree.get? (place ++ [name]) = some entry ∧ entry.type = kind := by
  obtain ⟨⟨_, entry⟩, member, same⟩ := List.mem_map.mp listed
  cases same
  exact ⟨entry, distinct.mem_children_iff.mp member, rfl⟩

/-- A file that is listed is there. -/
theorem Distinct.file_of_contents (distinct : tree.Distinct)
    (listed : (name, FileType.file) ∈ tree.contents place) :
    ∃ content modified mode, tree.get? (place ++ [name]) = some (.file content modified mode) := by
  obtain ⟨entry, there, kind⟩ := distinct.of_contents listed
  cases entry with
  | file content modified mode => exact ⟨content, modified, mode, there⟩
  | directory mode => cases kind
  | link target => cases kind

/-- So is a directory. -/
theorem Distinct.directory_of_contents (distinct : tree.Distinct)
    (listed : (name, FileType.directory) ∈ tree.contents place) :
    ∃ mode, tree.get? (place ++ [name]) = some (.directory mode) := by
  obtain ⟨entry, there, kind⟩ := distinct.of_contents listed
  cases entry with
  | file content modified mode => cases kind
  | directory mode => exact ⟨mode, there⟩
  | link target => cases kind

/-! ### Making directories -/

/-- The path itself is the first of the paths that are made, before those above it. -/
theorem ancestry_child (path : FilePath) (plain : name.Plain) :
    ancestry (path.child name) = path.child name :: ancestry path := by
  have shown : decide ((path.child name).display ≠ "") = true := by
    simpa using path.display_child_ne_empty plain
  have same (n : Nat) (above : n ∈ (List.range (path.below.length + 1)).reverse) :
      FilePath.mk path.base ((path.below ++ [name]).take n) =
        FilePath.mk path.base (path.below.take n) := by
    rw [List.mem_reverse, List.mem_range] at above
    rw [List.take_append_of_le_length (by omega)]
  have below : (List.range ((path.child name).below.length + 1)).reverse.map
      (fun n => FilePath.mk (path.child name).base ((path.child name).below.take n)) =
      path.child name :: (List.range (path.below.length + 1)).reverse.map
        (fun n => FilePath.mk path.base (path.below.take n)) := by
    rw [List.range_succ, List.reverse_append, List.reverse_singleton, List.singleton_append,
      List.map_cons, List.take_length]
    simp only [FilePath.child, List.length_append, List.length_singleton]
    rw [List.map_congr_left same]
  unfold ancestry
  rw [below]
  dsimp only
  rw [List.filter_cons_of_pos (by exact shown), List.cons_append]
  rfl

theorem ensureDirectory_child (slot : tree.Slot actor path place name)
    (there : tree.get? (place ++ [name]) = some (.directory mode)) :
    tree.ensureDirectory actor (path.child name) = (.ok (), tree) := by
  unfold ensureDirectory makeDirectory
  rw [slot.resolve (by simp [there]), lookup, there]
  simp only [bind, Except.bind, isDirectory_child slot there, if_true]

theorem ensureDirectory_child_of_free (slot : tree.Slot actor path place name)
    (free : tree.get? (place ++ [name]) = none) (writable : tree.mayUse actor .write place = true) :
    tree.ensureDirectory actor (path.child name) =
      (.ok (), tree.insert (place ++ [name]) (.directory Entry.directoryMode)) := by
  unfold ensureDirectory makeDirectory
  rw [slot.resolve (by simp [free]), lookup, free]
  simp only [bind, Except.bind, writable, if_true]
  rfl

/-- A directory that is there is not made again. -/
theorem makeMissing_child (slot : tree.Slot actor path place name)
    (there : tree.get? (place ++ [name]) = some (.directory mode)) :
    makeMissing actor (ancestry (path.child name)) tree = (.ok (), tree) := by
  rw [ancestry_child path slot.plain, makeMissing, ensureDirectory_child slot there]

/-- A directory that is missing is made. -/
theorem makeMissing_child_of_free (slot : tree.Slot actor path place name)
    (free : tree.get? (place ++ [name]) = none) (writable : tree.mayUse actor .write place = true) :
    makeMissing actor (ancestry (path.child name)) tree =
      (.ok (), tree.insert (place ++ [name]) (.directory Entry.directoryMode)) := by
  rw [ancestry_child path slot.plain, makeMissing, ensureDirectory_child_of_free slot free writable]

/-- No directory is made where something else is. -/
theorem makeMissing_child_of_taken (slot : tree.Slot actor path place name)
    (final : ∀ target, tree.get? (place ++ [name]) ≠ some (.link target))
    (taken : tree.get? (place ++ [name]) = some entry) (other : entry.isDirectory = false) :
    makeMissing actor (ancestry (path.child name)) tree = (.error (.os .exists_), tree) := by
  have missing : tree.isDirectory actor (path.child name) = false := by
    rw [isDirectory, slot.stat final, taken]
    exact other
  rw [ancestry_child path slot.plain, makeMissing, ensureDirectory, makeDirectory,
    slot.resolve final, lookup, taken]
  simp only [bind, Except.bind, missing, Bool.false_eq_true, if_false]

/-- No directory is made in one that may not be changed. -/
theorem makeMissing_child_of_closed (slot : tree.Slot actor path place name)
    (free : tree.get? (place ++ [name]) = none)
    (closed : tree.mayUse actor .write place = false) :
    makeMissing actor (ancestry (path.child name)) tree = (.error (.os .accessDenied), tree) := by
  have missing : tree.isDirectory actor (path.child name) = false := by
    rw [isDirectory, slot.stat_of_none free]
  rw [ancestry_child path slot.plain, makeMissing, ensureDirectory, makeDirectory,
    slot.resolve (by simp [free]), lookup, free]
  simp only [bind, Except.bind, closed, Bool.false_eq_true, if_false, missing]

/-! ### Changing files -/

theorem appendTo_child (slot : tree.Slot actor path place name)
    (there : tree.get? (place ++ [name]) = some (.file content modified mode)) :
    tree.appendTo now (path.child name) bytes =
      tree.insert (place ++ [name]) (.file (content ++ bytes) now mode) := by
  rw [appendTo, slot.privileged.stat (by simp [there]), there]

theorem remove_child (slot : tree.Slot actor path place name)
    (there : tree.get? (place ++ [name]) = some (.file content modified mode))
    (writable : tree.mayUse actor .write place = true) :
    tree.remove actor (path.child name) = .ok (tree.erase (place ++ [name])) := by
  unfold remove
  rw [slot.stat (by simp [there]), there]
  simp only [bind, Except.bind, List.dropLast_concat, writable, Entry.isDirectory, Bool.not_true,
    Bool.false_eq_true, if_false]
  rfl

theorem link_child {target : FileName} (slot : tree.Slot actor path place name)
    (there : tree.get? (place ++ [name]) = some (.file content modified mode))
    (slot' : tree.Slot actor path place target)
    (free : tree.get? (place ++ [target]) = none)
    (writable : tree.mayUse actor .write place = true) :
    tree.link actor (path.child name) (path.child target) =
      .ok (tree.insert (place ++ [target]) (.file content modified mode)) := by
  unfold link
  rw [slot.stat (by simp [there]), there,
    slot'.resolve (by simp [free]), lookup, free]
  simp only [bind, Except.bind, writable, if_true]
  rfl

/-- A name that is taken is not given to another file. -/
theorem link_child_of_taken {target : FileName} (slot : tree.Slot actor path place name)
    (there : tree.get? (place ++ [name]) = some (.file content modified mode))
    (slot' : tree.Slot actor path place target)
    (final : ∀ text, tree.get? (place ++ [target]) ≠ some (.link text))
    (taken : tree.get? (place ++ [target]) = some entry) :
    tree.link actor (path.child name) (path.child target) = .error (.os .exists_) := by
  unfold link
  rw [slot.stat (by simp [there]), there,
    slot'.resolve final, lookup, taken]
  rfl

/-! ### Making temporary files -/

/-- The number that is found is one whose name is not in use. -/
theorem free_of_freshNumber? {parent : Location} {limit start number : Nat}
    (found : tree.freshNumber? parent limit start = some number) :
    tree.get? (parent ++ [temporaryName number]) = none := by
  induction limit generalizing start with
  | zero => cases found
  | succ limit ih =>
      rw [freshNumber?] at found
      split at found
      · rename_i free
        cases found
        exact free
      · exact ih found

/-- A temporary file is made under a name that was not in use, if there is one. -/
theorem createTemporary_child (slot : tree.Slot actor path place name) (now : Instant)
    (there : tree.get? (place ++ [name]) = some (.directory mode))
    (searchable : actor.may .search mode = true) (writable : actor.may .write mode = true) :
    tree.createTemporary actor now (path.child name) =
      match tree.freshNumber? (place ++ [name]) (tree.entries.length + 1) tree.temporaries with
      | none => .error (.other (s!"too many temporary files exist at path " ++
          Text.Quoted.path (path.child name).display))
      | some number => .ok ((path.child name).child (temporaryName number),
          { tree.insert (place ++ [name] ++ [temporaryName number])
              (.file ByteArray.empty now Entry.temporaryMode) with
            temporaries := number + 1 }) := by
  have allowed {access : Access} (may : actor.may access mode = true) :
      tree.mayUse actor access (place ++ [name]) = true := by
    simp only [mayUse, directoryMode, there, Entry.mode, may]
  unfold createTemporary
  rw [slot.stat (by simp [there]), there]
  simp only [Entry.isDirectory, allowed searchable, allowed writable, Bool.and_self, Bool.not_true,
    Bool.false_eq_true, if_false]
  rfl

end ContentNode.FileSystem.FileTree

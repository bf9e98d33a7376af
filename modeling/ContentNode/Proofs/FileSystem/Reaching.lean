import ContentNode.Proofs.FileSystem.Following

/-!
# Names in reachable directories

A path that leads to a directory can be extended by a name: the longer path leads
to what the directory has under this name.
-/

namespace ContentNode.FileSystem

/-- A name that can be appended to a path: it is not empty, has no null character
and is not too long. -/
structure FileName.Plain (name : FileName) : Prop where
  nonempty : name.display ≠ ""
  clean : '\x00' ∉ name.display.toList
  short : name.toBytes.length ≤ maxSize

namespace FilePath

variable {path : FilePath} {name : FileName} {room less : Nat}

/-- The text of a path can be used and has room for more bytes. -/
structure Fits (path : FilePath) (room : Nat) : Prop where
  clean : '\x00' ∉ path.display.toList
  size : path.display.utf8ByteSize + room < sizeLimit

theorem display_child (path : FilePath) (name : FileName) :
    (path.child name).display = append path.display name.display := by
  simp [display, child]

theorem components_child (path : FilePath) (name : FileName) :
    (path.child name).components = path.components ++ [.name name] := by
  simp [components, child]

theorem utf8ByteSize_append_le (path name : String) :
    (append path name).utf8ByteSize ≤ path.utf8ByteSize + (1 + name.utf8ByteSize) := by
  unfold append
  split
  · rw [String.utf8ByteSize_append]
    omega
  · rw [String.utf8ByteSize_append, String.utf8ByteSize_append]
    have slash : "/".utf8ByteSize = 1 := rfl
    omega

theorem not_mem_append {c : Char} {path name : String} (other : c ≠ '/')
    (absent : c ∉ path.toList) (absent' : c ∉ name.toList) : c ∉ (append path name).toList := by
  unfold append
  split <;> simp [absent, absent', other]

theorem append_ne_empty {path name : String} (nonempty : name ≠ "") : append path name ≠ "" := by
  unfold append
  split <;> simp [String.append_eq_empty_iff, nonempty]

theorem Fits.le (fits : path.Fits room) (fewer : less ≤ room) : path.Fits less :=
  ⟨fits.clean, Nat.lt_of_le_of_lt (Nat.add_le_add_left fewer _) fits.size⟩

/-- A path that has room for a name and more has room for more once it has the name. -/
theorem Fits.child (fits : path.Fits (1 + name.display.utf8ByteSize + room))
    (plain : name.Plain) : (path.child name).Fits room := by
  constructor
  · rw [display_child]
    exact not_mem_append (by decide) fits.clean plain.clean
  · rw [display_child]
    have grown := utf8ByteSize_append_le path.display name.display
    have limit := fits.size
    omega

theorem display_child_ne_empty (path : FilePath) (plain : name.Plain) :
    (path.child name).display ≠ "" := by
  rw [display_child]
  exact append_ne_empty plain.nonempty

end FilePath

namespace FileTree

variable {tree other : FileTree} {actor : Actor} {followLast : Bool} {path : FilePath}
  {place : Location} {name : FileName} {entry : Entry} {room less mode : Nat}

/-- A usable path with room for more bytes leads to a directory that may be searched. -/
structure Reaches (tree : FileTree) (actor : Actor) (path : FilePath) (place : Location)
    (room : Nat) : Prop where
  fits : path.Fits room
  leads : Leads tree actor maxLinks [] path.components place
  searchable : tree.Searchable actor place

/-- A path whose text can be used leads where its steps lead. -/
theorem resolve_of_fits (fits : path.Fits room) (nonempty : path.display ≠ "") :
    tree.resolve actor followLast path =
      (tree.follow actor followLast maxLinks [] path.components).mapError .os := by
  have clean : path.display.toList.contains '\x00' = false := by
    simpa using fits.clean
  have size : ¬ FilePath.sizeLimit ≤ path.display.utf8ByteSize := by
    have limit := fits.size
    omega
  unfold resolve
  simp only [clean, size, nonempty, Bool.false_eq_true, if_false]

namespace Reaches

theorem le (reaches : tree.Reaches actor path place room) (fewer : less ≤ room) :
    tree.Reaches actor path place less :=
  ⟨reaches.fits.le fewer, reaches.leads, reaches.searchable⟩

/-- Changes that keep directories and links do not break a path. -/
theorem keeps (reaches : tree.Reaches actor path place room) (kept : tree.Keeps other) :
    other.Reaches actor path place room :=
  ⟨reaches.fits, kept.leads reaches.leads, kept.searchable reaches.searchable⟩

theorem privileged (reaches : tree.Reaches actor path place room) :
    tree.Reaches .privileged path place room := by
  obtain ⟨mode, there, -⟩ := reaches.searchable
  exact ⟨reaches.fits, reaches.leads.privileged, mode, there, Actor.may_privileged _ _⟩

/-- The way to a directory in a reachable directory. -/
theorem child (reaches : tree.Reaches actor path place (1 + name.display.utf8ByteSize + room))
    (plain : name.Plain) (there : tree.Searchable actor (place ++ [name])) :
    tree.Reaches actor (path.child name) (place ++ [name]) room := by
  refine ⟨reaches.fits.child plain, ?_, there⟩
  obtain ⟨mode, found, -⟩ := there
  rw [FilePath.components_child]
  exact reaches.leads.append fun left =>
    .down reaches.searchable plain.short found (.arrived found)

/-- Below a name that is free there is nothing. -/
theorem stat_below_free {last : FileName} (reaches : tree.Reaches actor path place room)
    (enough : 1 + name.display.utf8ByteSize + (1 + last.display.utf8ByteSize) ≤ room)
    (plain : name.Plain) (plain' : last.Plain) (free : tree.get? (place ++ [name]) = none) :
    tree.stat actor followLast ((path.child name).child last) = .error (.os .noEntry) := by
  have fits : ((path.child name).child last).Fits 0 :=
    ((reaches.fits.le enough).child plain).child plain'
  obtain ⟨left, further⟩ := reaches.leads.follow_append followLast [.name name, .name last]
    (.inl (List.cons_ne_nil _ _))
  rw [follow_free reaches.searchable plain.short free (List.cons_ne_nil _ _)] at further
  unfold stat
  rw [resolve_of_fits fits ((path.child name).display_child_ne_empty plain'),
    FilePath.components_child, FilePath.components_child, List.append_assoc,
    List.singleton_append, further]
  rfl

end Reaches

/-- A usable name behind a path to a directory: whatever is there can be asked for. -/
structure Slot (tree : FileTree) (actor : Actor) (path : FilePath) (place : Location)
    (name : FileName) : Prop where
  reaches : tree.Reaches actor path place (1 + name.display.utf8ByteSize)
  plain : name.Plain

theorem Reaches.slot (reaches : tree.Reaches actor path place room)
    (enough : 1 + name.display.utf8ByteSize ≤ room) (plain : name.Plain) :
    tree.Slot actor path place name :=
  ⟨reaches.le enough, plain⟩

namespace Slot

theorem keeps (slot : tree.Slot actor path place name) (kept : tree.Keeps other) :
    other.Slot actor path place name :=
  ⟨slot.reaches.keeps kept, slot.plain⟩

theorem privileged (slot : tree.Slot actor path place name) :
    tree.Slot .privileged path place name :=
  ⟨slot.reaches.privileged, slot.plain⟩

/-- A name behind a path is looked up in the directory. -/
theorem resolve (slot : tree.Slot actor path place name)
    (final : ∀ target, tree.get? (place ++ [name]) ≠ some (.link target)) :
    tree.resolve actor followLast (path.child name) = .ok (tree.lookup place name) := by
  have fits : (path.child name).Fits 0 := slot.reaches.fits.child slot.plain
  obtain ⟨left, further⟩ :=
    slot.reaches.leads.follow_append followLast [.name name] (.inl (List.cons_ne_nil _ _))
  rw [resolve_of_fits fits (path.display_child_ne_empty slot.plain), FilePath.components_child,
    further, follow_last slot.reaches.searchable slot.plain.short final]
  rfl

/-- The entry behind a path and a name. -/
theorem stat (slot : tree.Slot actor path place name)
    (final : ∀ target, tree.get? (place ++ [name]) ≠ some (.link target)) :
    tree.stat actor followLast (path.child name) =
      match tree.get? (place ++ [name]) with
      | some entry => .ok (place ++ [name], entry)
      | none => .error (.os .noEntry) := by
  unfold FileTree.stat
  rw [slot.resolve final, lookup]
  cases tree.get? (place ++ [name]) <;> rfl

theorem stat_of_some (slot : tree.Slot actor path place name)
    (there : tree.get? (place ++ [name]) = some entry) (final : ∀ target, entry ≠ .link target) :
    tree.stat actor followLast (path.child name) = .ok (place ++ [name], entry) := by
  rw [slot.stat, there]
  intro target linked
  rw [there] at linked
  exact final target (Option.some.inj linked)

theorem stat_of_none (slot : tree.Slot actor path place name)
    (free : tree.get? (place ++ [name]) = none) :
    tree.stat actor followLast (path.child name) = .error (.os .noEntry) := by
  rw [slot.stat, free]
  simp [free]

end Slot

end FileTree

end ContentNode.FileSystem

import ContentNode.Proofs.Address.Text
import ContentNode.Proofs.FileSystem.Reaching
import ContentNode.Store.File

/-!
# Names of files

The names that a store gives to its directories and files.  They can be appended to
any path that is not too long, different addresses have different names, and no
object has a temporary name.
-/

namespace ContentNode

open FileSystem Bytes

namespace FileSystem.FileName

/-- A text that has characters of one byte only, none of them null, is a usable name. -/
theorem plain_of_bytes (chars : List Char) (nonempty : chars ≠ [])
    (bytes : ∀ c ∈ chars, c ≠ '\x00' ∧ c.utf8Size = 1) (short : chars.length ≤ maxSize) :
    (text (String.ofList chars)).Plain ∧
      (text (String.ofList chars)).display.utf8ByteSize = chars.length := by
  have size : (String.ofList chars).utf8ByteSize = chars.length :=
    Address.utf8ByteSize_ofList fun c member => (bytes c member).2
  refine ⟨⟨?_, ?_, ?_⟩, size⟩
  · simpa [display] using nonempty
  · intro null
    rw [display, String.toList_ofList] at null
    exact (bytes _ null).1 rfl
  · have length : (text (String.ofList chars)).toBytes.length = chars.length := size
    rw [length]
    exact short

end FileSystem.FileName

namespace FileSystem.FileTree

/-- Letters of temporary names take one byte each. -/
theorem letter_plain {value : Nat} (small : value < 62) :
    letter value ≠ '\x00' ∧ (letter value).utf8Size = 1 := by
  have every : ∀ v : Fin 62, letter v ≠ '\x00' ∧ (letter v).utf8Size = 1 := by decide
  exact every ⟨value, small⟩

theorem length_letters (count n : Nat) : (letters count n).length = count := by
  induction count generalizing n with
  | zero => rfl
  | succ count ih => rw [letters, List.length_cons, ih]

theorem plain_of_mem_letters {count n : Nat} {c : Char} (member : c ∈ letters count n) :
    c ≠ '\x00' ∧ c.utf8Size = 1 := by
  induction count generalizing n with
  | zero => cases member
  | succ count ih =>
      rcases List.mem_cons.mp member with rfl | member
      · exact letter_plain (Nat.mod_lt _ (by decide))
      · exact ih member

theorem toList_temporaryMark : temporaryMark.toList = ['.', 't', 'm', 'p', '-'] := by decide

theorem temporaryName_eq (n : Nat) :
    temporaryName n = .text (String.ofList (temporaryMark.toList ++ letters 6 n)) := by
  rw [temporaryName, String.ofList_append, String.ofList_toList]

end FileSystem.FileTree

namespace FileStore

variable {store : FileStore} {address other : Address}

/-- The name of the directory of all objects. -/
def objectsName : FileName := .text "objects"

/-- The name of the directory of an object. -/
def directoryName (address : Address) : FileName :=
  .text (String.ofList (address.hexDigits.take 2))

/-- The name of the file of an object. -/
def fileName (address : Address) : FileName :=
  .text (String.ofList (address.hexDigits.drop 2))

theorem objects_eq (store : FileStore) :
    store.objects = (FilePath.ofText store.root).child objectsName := rfl

theorem directory_eq (store : FileStore) (address : Address) :
    store.directory address = store.objects.child (directoryName address) := rfl

theorem objectPath_eq (store : FileStore) (address : Address) :
    store.objectPath address = (store.directory address).child (fileName address) := rfl

/-- The names of the directory and the file determine the address. -/
theorem address_injective (sameDirectory : directoryName address = directoryName other)
    (sameFile : fileName address = fileName other) : address = other := by
  have front : address.hexDigits.take 2 = other.hexDigits.take 2 :=
    String.ofList_injective (FileName.text.inj sameDirectory)
  have back : address.hexDigits.drop 2 = other.hexDigits.drop 2 :=
    String.ofList_injective (FileName.text.inj sameFile)
  apply Address.hexDigits_injective
  rw [← List.take_append_drop 2 address.hexDigits, ← List.take_append_drop 2 other.hexDigits,
    front, back]

/-- The path of an object has two names behind the directory of all objects. -/
theorem components_objectPath (store : FileStore) (address : Address) :
    (store.objectPath address).components =
      store.objects.components ++ [.name (directoryName address), .name (fileName address)] := by
  rw [objectPath_eq, directory_eq, FilePath.components_child, FilePath.components_child,
    List.append_assoc]
  rfl

/-- No two objects have one path. -/
theorem eq_of_components_eq
    (same : (store.objectPath address).components = (store.objectPath other).components) :
    address = other := by
  rw [components_objectPath, components_objectPath, List.append_cancel_left_eq] at same
  simp only [List.cons.injEq, Component.name.injEq, and_true] at same
  exact address_injective same.1 same.2

/-! ### Usable names -/

theorem plain_objectsName : objectsName.Plain ∧ objectsName.display.utf8ByteSize = 7 := by
  refine ⟨⟨?_, ?_, ?_⟩, ?_⟩ <;> decide

private theorem digit_plain {c : Char} (digit : Hex.isDigit c = true) :
    c ≠ '\x00' ∧ c.utf8Size = 1 := by
  refine ⟨?_, Hex.utf8Size_of_isDigit digit⟩
  rintro rfl
  cases digit

theorem plain_directoryName (address : Address) :
    (directoryName address).Plain ∧ (directoryName address).display.utf8ByteSize = 2 := by
  have length : (address.hexDigits.take 2).length = 2 := by
    rw [List.length_take, Address.length_hexDigits]
    rfl
  have usable := FileName.plain_of_bytes (address.hexDigits.take 2)
    (fun nothing => by simp [nothing] at length)
    (fun c member => digit_plain (Address.isDigit_of_mem_hexDigits (List.mem_of_mem_take member)))
    (by rw [length]; decide)
  rwa [length] at usable

theorem plain_fileName (address : Address) :
    (fileName address).Plain ∧ (fileName address).display.utf8ByteSize = 62 := by
  have length : (address.hexDigits.drop 2).length = 62 := by
    rw [List.length_drop, Address.length_hexDigits]
  have usable := FileName.plain_of_bytes (address.hexDigits.drop 2)
    (fun nothing => by simp [nothing] at length)
    (fun c member => digit_plain (Address.isDigit_of_mem_hexDigits (List.mem_of_mem_drop member)))
    (by rw [length]; decide)
  rwa [length] at usable

theorem plain_temporaryName (n : Nat) : (FileTree.temporaryName n).Plain ∧
    (FileTree.temporaryName n).display.utf8ByteSize = 11 := by
  have length : (FileTree.temporaryMark.toList ++ FileTree.letters 6 n).length = 11 := by
    rw [List.length_append, FileTree.length_letters]
    rfl
  have usable := FileName.plain_of_bytes (FileTree.temporaryMark.toList ++ FileTree.letters 6 n)
    (fun nothing => by simp [nothing] at length)
    (fun c member => by
      rcases List.mem_append.mp member with mark | letter
      · rw [FileTree.toList_temporaryMark] at mark
        simp only [List.mem_cons, List.not_mem_nil, or_false] at mark
        rcases mark with rfl | rfl | rfl | rfl | rfl <;> decide
      · exact FileTree.plain_of_mem_letters letter)
    (by rw [length]; decide)
  rwa [length, ← FileTree.temporaryName_eq] at usable

/-! ### Temporary names -/

theorem isTemporary_temporaryName (n : Nat) : isTemporary (FileTree.temporaryName n) = true := by
  rw [FileTree.temporaryName_eq, isTemporary, String.toList_ofList]
  exact List.isPrefixOf_iff_prefix.mpr (List.prefix_append _ _)

/-- The name of an object begins with a digit, a temporary one with a dot. -/
theorem isTemporary_fileName (address : Address) : isTemporary (fileName address) = false := by
  have length : (address.hexDigits.drop 2).length = 62 := by
    rw [List.length_drop, Address.length_hexDigits]
  rw [fileName, isTemporary, String.toList_ofList]
  cases digits : address.hexDigits.drop 2 with
  | nil => simp [digits] at length
  | cons c rest =>
      have member : c ∈ address.hexDigits :=
        List.mem_of_mem_drop (digits ▸ List.mem_cons_self)
      have digit := Address.isDigit_of_mem_hexDigits member
      have different : c ≠ '.' := by
        rintro rfl
        cases digit
      rw [FileTree.toList_temporaryMark, List.isPrefixOf, beq_false_of_ne (Ne.symm different),
        Bool.false_and]

/-! ### Paths -/

variable {tree : FileTree} {actor : Actor} {top : Location} {name : FileName}

/-- The room that the paths of a store need behind its root. -/
def pathRoom : Nat := 74

/-- The place of the directory of all objects. -/
def objectsPlace (top : Location) : Location := top ++ [objectsName]

/-- The place of the directory of an object. -/
def directoryPlace (top : Location) (address : Address) : Location :=
  objectsPlace top ++ [directoryName address]

/-- The place of the file of an object. -/
def objectPlace (top : Location) (address : Address) : Location :=
  directoryPlace top address ++ [fileName address]

theorem slot_objects (root : tree.Reaches actor (.ofText store.root) top pathRoom) :
    tree.Slot actor (.ofText store.root) top objectsName := by
  apply root.slot _ plain_objectsName.1
  have size := plain_objectsName.2
  rw [pathRoom]
  omega

theorem reaches_objects (root : tree.Reaches actor (.ofText store.root) top pathRoom)
    (objects : tree.Searchable actor (objectsPlace top)) :
    tree.Reaches actor store.objects (objectsPlace top) 66 := by
  rw [objects_eq]
  apply (root.le _).child plain_objectsName.1 objects
  have size := plain_objectsName.2
  rw [pathRoom]
  omega

theorem slot_directory (reaches : tree.Reaches actor store.objects (objectsPlace top) 66)
    (address : Address) :
    tree.Slot actor store.objects (objectsPlace top) (directoryName address) := by
  apply reaches.slot _ (plain_directoryName address).1
  have size := (plain_directoryName address).2
  omega

theorem reaches_directory (reaches : tree.Reaches actor store.objects (objectsPlace top) 66)
    (directory : tree.Searchable actor (directoryPlace top address)) :
    tree.Reaches actor (store.directory address) (directoryPlace top address) 63 := by
  rw [directory_eq]
  apply (reaches.le _).child (plain_directoryName address).1 directory
  have size := (plain_directoryName address).2
  omega

theorem slot_file (reaches : tree.Reaches actor (store.directory address)
      (directoryPlace top address) 63) :
    tree.Slot actor (store.directory address) (directoryPlace top address) (fileName address) := by
  apply reaches.slot _ (plain_fileName address).1
  have size := (plain_fileName address).2
  omega

end FileStore

end ContentNode

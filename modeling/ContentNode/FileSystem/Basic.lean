import ContentNode.FileSystem.Errno

/-!
# File trees

A tree of directories, regular files and symbolic links, as a list of entries by
their paths below the top.  Directories have permission bits and files have the
time of their last change.
-/

namespace ContentNode

/-- A moment in nanoseconds since the beginning of 1970. -/
abbrev Instant := Int

namespace Instant

/-- The whole milliseconds of a moment. -/
def milliseconds (t : Instant) : Int := Int.fdiv t 1000000

/-- The moment of a number of milliseconds. -/
def ofMilliseconds (ms : Int) : Instant := ms * 1000000

/-- The moment of a number of seconds. -/
def ofSeconds (s : Int) : Instant := s * 1000000000

end Instant

namespace FileSystem

/-- The name of an entry: text, or bytes that are no text. -/
inductive FileName where
  | text (name : String)
  | raw (bytes : List UInt8)
deriving DecidableEq

namespace FileName

/-- The bytes of a name. -/
def toBytes : FileName → List UInt8
  | text name => name.toUTF8.data.toList
  | raw bytes => bytes

/-- The text of a name in messages. -/
def display : FileName → String
  | text name => name
  | raw _ => "\ufffd"

/-- The largest number of bytes in a name. -/
def maxSize : Nat := 255

/-- Names compare byte by byte. -/
def compare (a b : FileName) : Ordering := List.compareLex Ord.compare a.toBytes b.toBytes

end FileName

/-- A path of names from the top of a tree. -/
abbrev Location := List FileName

/-- What stands at a place of a tree. -/
inductive Entry where
  | file (content : ByteArray) (modified : Instant) (mode : Nat)
  | directory (mode : Nat)
  /-- A symbolic link, by the path that it leads to. -/
  | link (target : String)

namespace Entry

/-- The permission bits of new directories. -/
def directoryMode : Nat := 0o755

/-- The permission bits of new files. -/
def fileMode : Nat := 0o644

/-- The permission bits of new temporary files. -/
def temporaryMode : Nat := 0o600

/-- The permission bits of an entry. -/
def mode : Entry → Nat
  | file _ _ mode | directory mode => mode
  | link _ => 0o777

/-- Whether an entry is a directory. -/
def isDirectory : Entry → Bool
  | directory _ => true
  | _ => false

end Entry

/-- The kinds of entries, as a listing shows them. -/
inductive FileType where
  | file
  | directory
  | link
deriving DecidableEq

/-- The kind of an entry. -/
def Entry.type : Entry → FileType
  | file _ _ _ => .file
  | directory _ => .directory
  | link _ => .link

/-- A tree, of which the top is a directory that is always there. -/
structure FileTree where
  entries : List (Location × Entry)
  /-- The number of temporary names that have been given out. -/
  temporaries : Nat

namespace FileTree

/-- A tree with nothing in it. -/
def empty : FileTree := ⟨[], 0⟩

/-- The entry at a place. -/
def get? (tree : FileTree) (place : Location) : Option Entry :=
  if place = [] then some (.directory Entry.directoryMode) else List.lookup place tree.entries

/-- The tree with an entry put at a place. -/
def insert (place : Location) (entry : Entry) (tree : FileTree) : FileTree :=
  match List.lookup place tree.entries with
  | some _ =>
    { tree with entries := tree.entries.map fun (p, old) => if p = place then (p, entry) else (p, old) }
  | none => { tree with entries := tree.entries ++ [(place, entry)] }

/-- The tree without the entry at a place. -/
def erase (place : Location) (tree : FileTree) : FileTree :=
  { tree with entries := tree.entries.filter fun (p, _) => p ≠ place }

/-- The tree without a place and all that is below it. -/
def eraseBelow (place : Location) (tree : FileTree) : FileTree :=
  { tree with entries := tree.entries.filter fun (p, _) => !place.isPrefixOf p }

/-- The names in a directory and their entries, in the order in which they were
made. -/
def children (tree : FileTree) (place : Location) : List (FileName × Entry) :=
  tree.entries.filterMap fun (p, entry) =>
    match p.getLast? with
    | some name => if p = place ++ [name] then some (name, entry) else none
    | none => none

end FileTree

end FileSystem

end ContentNode

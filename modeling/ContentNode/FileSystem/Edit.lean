import ContentNode.FileSystem.Operation

/-!
# Changing files by hand

What someone other than a store does to the files of a tree.  No permission
stops them, and what cannot be done changes nothing.  Only a listing shows no
more than the owner of the files may look at.
-/

namespace ContentNode.FileSystem.FileTree

/-- A tree in which the directory of a path exists. -/
def withDirectory (path : FilePath) (tree : FileTree) : FileTree :=
  (makeMissing .privileged (ancestry path) tree).2

/-- A tree in which the directory above a path exists. -/
def withParent (path : FilePath) (tree : FileTree) : FileTree :=
  (makeMissing .privileged ((ancestry path).drop 1) tree).2

/-- The place and the entry of a path. -/
def at? (path : FilePath) (tree : FileTree) : Option (Location × Entry) :=
  (tree.stat .privileged true path).toOption

/-- Writes a file that was last changed at a moment. -/
def writeFile (path : FilePath) (content : ByteArray) (modified : Instant) (tree : FileTree) :
    FileTree :=
  let tree := tree.withParent path
  match tree.resolve .privileged true path with
  | .ok (.found place (.file _ _ mode)) => tree.insert place (.file content modified mode)
  | .ok (.free parent name) =>
    tree.insert (parent ++ [name]) (.file content modified Entry.fileMode)
  | _ => tree

/-- Changes the content of a file. -/
def editFile (path : FilePath) (now : Instant) (edit : ByteArray → ByteArray)
    (tree : FileTree) : FileTree :=
  match tree.at? path with
  | some (place, .file content _ mode) => tree.insert place (.file (edit content) now mode)
  | _ => tree

/-- Inverts the bits of a mask in one byte of a file.  A negative position
counts from the end. -/
def patchFile (path : FilePath) (now : Instant) (position : Int) (mask : UInt8)
    (tree : FileTree) : FileTree :=
  tree.editFile path now fun content =>
    let index := if position < 0 then position + content.size else position
    if h : 0 ≤ index ∧ index.toNat < content.size then
      content.set index.toNat (content.get index.toNat h.2 ^^^ mask) h.2
    else content

/-- A byte string cut or filled up with zeros to a size. -/
def resized (size : Nat) (content : ByteArray) : ByteArray :=
  if size ≤ content.size then content.extract 0 size
  else content ++ ⟨Array.replicate (size - content.size) 0⟩

/-- Gives a file to another path too. -/
def copyFile (source target : FilePath) (now : Instant) (tree : FileTree) : FileTree :=
  match tree.at? source with
  | some (_, .file content _ _) => tree.writeFile target content now
  | _ => tree

/-- Makes a symbolic link. -/
def makeLink (path : FilePath) (target : String) (tree : FileTree) : FileTree :=
  let tree := tree.withParent path
  match tree.resolve .privileged false path with
  | .ok (.free parent name) => tree.insert (parent ++ [name]) (.link target)
  | _ => tree

/-- Changes the permission bits of an entry. -/
def setMode (path : FilePath) (mode : Nat) (tree : FileTree) : FileTree :=
  match tree.at? path with
  | some (place, .file content modified _) => tree.insert place (.file content modified mode)
  | some (place, .directory _) => tree.insert place (.directory mode)
  | _ => tree

/-- Removes a file, a link, or a directory with all that is in it. -/
def removeAll (path : FilePath) (tree : FileTree) : FileTree :=
  match tree.stat .privileged false path with
  | .ok (place, _) => tree.eraseBelow place
  | .error _ => tree

/-- What is in a directory, as far as its owner may look into it. -/
def visible (tree : FileTree) (place : Location) : List (FileName × Entry) :=
  if tree.mayUse .owner .read place && tree.mayUse .owner .search place then tree.children place
  else []

/-- What its owner sees below a directory: paths from there and entries, every directory
before what is in it, the names of each directory in order. -/
def listing (tree : FileTree) : Nat → Location → Location → List (Location × Entry)
  | 0, _, _ => []
  | depth + 1, place, shown =>
    let seen := (tree.visible place).mergeSort fun a b => (a.1.compare b.1).isLE
    seen.flatMap fun (name, entry) =>
      (shown ++ [name], entry) :: listing tree depth (place ++ [name]) (shown ++ [name])

/-- All that its owner sees below a path. -/
def below (path : FilePath) (tree : FileTree) : List (Location × Entry) :=
  match tree.at? path with
  | some (place, _) => tree.listing (tree.entries.length + 1) place []
  | none => []

end ContentNode.FileSystem.FileTree

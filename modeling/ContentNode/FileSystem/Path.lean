import ContentNode.FileSystem.Basic
import ContentNode.Text.Pieces

/-!
# Paths

A path as it was given, with names appended to it, and where it leads in a tree.
Symbolic links are followed up to forty times, and every directory on the way
has to be open to the one who asks.
-/

namespace ContentNode.FileSystem

/-- A path as it was given, and names below it. -/
structure FilePath where
  base : String
  below : List FileName
deriving DecidableEq

/-- One step of a path. -/
inductive Component where
  | name (n : FileName)
  /-- The directory itself. -/
  | here
  /-- The directory above. -/
  | parent
deriving DecidableEq

namespace Component

/-- The step that a piece of a path stands for. -/
def ofText (piece : String) : Component :=
  if piece = "." then here else if piece = ".." then parent else name (.text piece)

/-- The steps of a path.  A slash at the end asks for a directory. -/
def ofPath (path : String) : List Component :=
  let steps := (Text.words '/' path.toList).map fun piece => ofText (String.ofList piece)
  if path.endsWith "/" then steps ++ [here] else steps

end Component

namespace FilePath

/-- A path as it was given. -/
def ofText (path : String) : FilePath := ⟨path, []⟩

/-- A path with one more name. -/
def child (path : FilePath) (name : FileName) : FilePath := ⟨path.base, path.below ++ [name]⟩

/-- The text of a path with a name appended. -/
def append (path name : String) : String :=
  if path = "" ∨ path.endsWith "/" then path ++ name else path ++ "/" ++ name

/-- The text of a path. -/
def display (path : FilePath) : String :=
  path.below.foldl (fun text name => append text name.display) path.base

/-- The steps of a path. -/
def components (path : FilePath) : List Component :=
  Component.ofPath path.base ++ path.below.map .name

/-- One more than the largest number of bytes in a path. -/
def sizeLimit : Nat := 4096

end FilePath

/-- On whose behalf files are used. -/
inductive Actor where
  /-- One whom no permission stops. -/
  | privileged
  /-- The owner of all files, whom their permissions stop. -/
  | owner
deriving DecidableEq

/-- What permissions are about. -/
inductive Access where
  | read
  | write
  | search
deriving DecidableEq

/-- The bit of the owner's permission. -/
def Access.bit : Access → Nat
  | read => 0o400
  | write => 0o200
  | search => 0o100

/-- Whether permission bits let someone in. -/
def Actor.may (actor : Actor) (access : Access) (mode : Nat) : Bool :=
  actor == .privileged || mode &&& access.bit != 0

/-- Where a path leads. -/
inductive Target where
  | found (place : Location) (entry : Entry)
  /-- Nothing of this name is in the directory at `parent`. -/
  | free (parent : Location) (name : FileName)

namespace FileTree

variable (tree : FileTree) (actor : Actor)

/-- The permission bits of a directory. -/
def directoryMode (place : Location) : Nat :=
  match tree.get? place with
  | some entry => entry.mode
  | none => 0

/-- Whether someone may use a directory. -/
def mayUse (access : Access) (place : Location) : Bool :=
  actor.may access (tree.directoryMode place)

/-- Follows the steps of a path from a directory.  `jump` goes on from a
directory when a symbolic link was met; a link at the end is not followed if
`followLast` is false. -/
def along (followLast : Bool) (jump : Location → List Component → Except Errno Target) :
    Location → List Component → Except Errno Target
  | at_, [] =>
    match tree.get? at_ with
    | some entry => .ok (.found at_ entry)
    | none => .error .noEntry
  | at_, .here :: rest =>
    if tree.mayUse actor .search at_ then along followLast jump at_ rest
    else .error .accessDenied
  | at_, .parent :: rest =>
    if tree.mayUse actor .search at_ then along followLast jump at_.dropLast rest
    else .error .accessDenied
  | at_, .name n :: rest =>
    if !tree.mayUse actor .search at_ then .error .accessDenied
    else if FileName.maxSize < n.toBytes.length then .error .nameTooLong
    else
      match tree.get? (at_ ++ [n]) with
      | none => if rest = [] then .ok (.free at_ n) else .error .noEntry
      | some (.directory _) => along followLast jump (at_ ++ [n]) rest
      | some (.link target) =>
        if rest = [] ∧ !followLast then .ok (.found (at_ ++ [n]) (.link target))
        else jump (if target.startsWith "/" then [] else at_) (Component.ofPath target ++ rest)
      | some entry =>
        if rest = [] then .ok (.found (at_ ++ [n]) entry) else .error .notDirectory

/-- Follows the steps of a path from a directory, through at most `links`
symbolic links. -/
def follow (followLast : Bool) : Nat → Location → List Component → Except Errno Target
  | 0 => along tree actor followLast fun _ _ => .error .tooManyLinks
  | links + 1 => along tree actor followLast (follow followLast links)

/-- The number of symbolic links that are followed. -/
def maxLinks : Nat := 40

/-- Where a path leads. -/
def resolve (followLast : Bool) (path : FilePath) : Except IoError Target :=
  let text := path.display
  if text.toList.contains '\x00' then .error .nullInPath
  else if FilePath.sizeLimit ≤ text.utf8ByteSize then .error (.os .nameTooLong)
  else if text = "" then .error (.os .noEntry)
  else (follow tree actor followLast maxLinks [] path.components).mapError .os

/-- The entry that a path leads to. -/
def stat (followLast : Bool) (path : FilePath) : Except IoError (Location × Entry) := do
  match ← tree.resolve actor followLast path with
  | .found place entry => return (place, entry)
  | .free _ _ => .error (.os .noEntry)

/-! ### No more steps -/

variable {tree actor} {followLast : Bool} {links : Nat} {at_ place : Location} {entry : Entry}

theorem follow_nil (there : tree.get? at_ = some entry) :
    tree.follow actor followLast links at_ [] = .ok (.found at_ entry) := by
  cases links <;> simp [follow, along, there]

/-- What is found without another step is there. -/
theorem found_of_follow_nil
    (walk : tree.follow actor followLast links at_ [] = .ok (.found place entry)) :
    place = at_ ∧ tree.get? at_ = some entry := by
  cases there : tree.get? at_ with
  | none => cases links <;> simp [follow, along, there] at walk
  | some held =>
      rw [follow_nil there] at walk
      cases walk
      exact ⟨rfl, rfl⟩

end FileTree

end ContentNode.FileSystem

import ContentNode.FileSystem.Path
import ContentNode.Program

/-!
# Operations on files

The operations that a store performs on the files of its tree, each at once, and
what they do to the tree.
-/

namespace ContentNode.FileSystem

/-- What a listing tells of a file. -/
structure Metadata where
  size : Nat
  modified : Instant

/-- An operation on files. -/
inductive Operation where
  /-- Asks whether a path leads anywhere. -/
  | exists_ (path : FilePath)
  /-- Makes a directory and those above it that are missing. -/
  | makeDirectories (path : FilePath)
  /-- Makes an empty file under a fresh temporary name. -/
  | createTemporary (directory : FilePath)
  /-- Appends bytes to a temporary file.  The answer is the number of bytes
  taken. -/
  | append (file : FilePath) (bytes : ByteArray)
  /-- Makes the content of a temporary file durable. -/
  | sync (file : FilePath)
  /-- Gives a file another name too, unless there is something. -/
  | link (file target : FilePath)
  /-- Removes a temporary file. -/
  | discard (file : FilePath)
  /-- Makes the entries of a directory durable. -/
  | syncDirectory (path : FilePath)
  /-- The content of a file. -/
  | read (path : FilePath)
  /-- The kind of what a path leads to. -/
  | kind (path : FilePath)
  /-- The entries of a directory. -/
  | list (path : FilePath)
  | metadata (path : FilePath)
  | remove (path : FilePath)

/-- The type of the answer to an operation. -/
abbrev Operation.Answer : Operation → Type
  | exists_ _ => Except IoError Bool
  | makeDirectories _ => Except IoError Unit
  | createTemporary _ => Except IoError FilePath
  | append _ _ => Except IoError Nat
  | sync _ => Except IoError Unit
  | link _ _ => Except IoError Unit
  | discard _ => Unit
  | syncDirectory _ => Except IoError Unit
  | read _ => Except IoError ByteArray
  | kind _ => Except IoError FileType
  | list _ => Except IoError (List (FileName × FileType))
  | metadata _ => Except IoError Metadata
  | remove _ => Except IoError Unit

/-- A program that uses files. -/
abbrev FileProgram := Program Operation Operation.Answer

namespace FileTree

variable (actor : Actor) (now : Instant)

/-- Whether a path leads anywhere. -/
def exists_ (path : FilePath) (tree : FileTree) : Except IoError Bool :=
  match tree.stat actor true path with
  | .ok _ => .ok true
  | .error (.os .noEntry) => .ok false
  | .error e => .error e

/-- Whether a path leads to a directory. -/
def isDirectory (path : FilePath) (tree : FileTree) : Bool :=
  match tree.stat actor true path with
  | .ok (_, entry) => entry.isDirectory
  | .error _ => false

/-- Makes one directory. -/
def makeDirectory (path : FilePath) (tree : FileTree) : Except IoError FileTree := do
  match ← tree.resolve actor false path with
  | .found _ _ => .error (.os .exists_)
  | .free parent name =>
    if tree.mayUse actor .write parent then
      return tree.insert (parent ++ [name]) (.directory Entry.directoryMode)
    else .error (.os .accessDenied)

/-- Makes one directory unless there is one. -/
def ensureDirectory (path : FilePath) (tree : FileTree) : Except IoError Unit × FileTree :=
  match tree.makeDirectory actor path with
  | .ok tree => (.ok (), tree)
  | .error e => (if tree.isDirectory actor path then .ok () else .error e, tree)

/-- Makes directories from the top down, given their paths from the bottom up.  If
one of them cannot be made, those above it stay. -/
def makeMissing : List FilePath → FileTree → Except IoError Unit × FileTree
  | [], tree => (.ok (), tree)
  | path :: above, tree =>
    match tree.ensureDirectory actor path with
    | (.error (.os .noEntry), _) =>
      match makeMissing above tree with
      | (.ok (), tree) => tree.ensureDirectory actor path
      | failed => failed
    | outcome => outcome

/-- A path and the paths above it, from the bottom up. -/
def ancestry (path : FilePath) : List FilePath :=
  let below := (List.range (path.below.length + 1)).reverse.map fun n =>
    FilePath.mk path.base (path.below.take n)
  let given := Text.pieces '/' path.base.toList
  let above := (List.range (given.length - 1)).reverse.filterMap fun n =>
    let text := String.intercalate "/" ((given.take (n + 1)).map String.ofList)
    if text = "" then none else some (FilePath.ofText text)
  below.filter (fun p => p.display ≠ "") ++ above

/-- The digit or letter of a value below sixty-two. -/
def letter (value : Nat) : Char :=
  if value < 10 then Char.ofNat (48 + value)
  else if value < 36 then Char.ofNat (55 + value)
  else Char.ofNat (61 + value)

/-- The lowest digits of a number to the base sixty-two, the lowest one first. -/
def letters : Nat → Nat → List Char
  | 0, _ => []
  | count + 1, n => letter (n % 62) :: letters count (n / 62)

/-- The beginning of temporary names. -/
def temporaryMark : String := ".tmp-"

/-- The name of a temporary file: the mark and six digits or letters. -/
def temporaryName (n : Nat) : FileName :=
  .text (temporaryMark ++ String.ofList (letters 6 n))

/-- The first number, of `limit` from `n` on, whose temporary name is not in use. -/
def freshNumber? (tree : FileTree) (parent : Location) : Nat → Nat → Option Nat
  | 0, _ => none
  | limit + 1, n =>
    match tree.get? (parent ++ [temporaryName n]) with
    | none => some n
    | some _ => freshNumber? tree parent limit (n + 1)

/-- Makes a temporary file in a directory, under a name that is not in use.  The
names are tried from the one after the last that was given out on. -/
def createTemporary (directory : FilePath) (tree : FileTree) :
    Except IoError (FilePath × FileTree) :=
  let failed (e : Errno) : IoError := .creating e (directory.child (.text ".tmp-*")).display
  match tree.stat actor true directory with
  | .error (.os e) => .error (failed e)
  | .error e => .error e
  | .ok (place, entry) =>
    if !entry.isDirectory then .error (failed .notDirectory)
    else if !(tree.mayUse actor .search place && tree.mayUse actor .write place) then
      .error (failed .accessDenied)
    else
      match tree.freshNumber? place (tree.entries.length + 1) tree.temporaries with
      | none =>
        .error (.other
          s!"too many temporary files exist at path {Text.Quoted.path directory.display}")
      | some number =>
        let name := temporaryName number
        let file := Entry.file ByteArray.empty now Entry.temporaryMode
        .ok (directory.child name,
          { tree.insert (place ++ [name]) file with temporaries := number + 1 })

/-- Appends bytes to a temporary file.  One that someone removed takes them
nonetheless. -/
def appendTo (file : FilePath) (bytes : ByteArray) (tree : FileTree) : FileTree :=
  match tree.stat .privileged false file with
  | .ok (place, .file content _ mode) => tree.insert place (.file (content ++ bytes) now mode)
  | _ => tree

/-- Gives a file another name too. -/
def link (file target : FilePath) (tree : FileTree) : Except IoError FileTree := do
  let (_, entry) ← tree.stat actor false file
  match ← tree.resolve actor false target with
  | .found _ _ => .error (.os .exists_)
  | .free parent name =>
    if tree.mayUse actor .write parent then
      return tree.insert (parent ++ [name]) entry
    else .error (.os .accessDenied)

/-- Removes a file or a link. -/
def remove (path : FilePath) (tree : FileTree) : Except IoError FileTree := do
  let (place, entry) ← tree.stat actor false path
  if !tree.mayUse actor .write place.dropLast then .error (.os .accessDenied)
  else if entry.isDirectory then .error (.os .isDirectory)
  else return tree.erase place

/-- Refuses a directory that may not be listed. -/
def openDirectory (path : FilePath) (tree : FileTree) : Except IoError Location := do
  let (place, entry) ← tree.stat actor true path
  if !entry.isDirectory then .error (.os .notDirectory)
  else if !tree.mayUse actor .read place then .error (.os .accessDenied)
  else return place

/-- The content of a file. -/
def contentOf (path : FilePath) (tree : FileTree) : Except IoError ByteArray := do
  match ← tree.stat actor true path with
  | (_, .file content _ mode) =>
    if actor.may .read mode then return content else .error (.os .accessDenied)
  | (_, .directory mode) =>
    .error (.os (if actor.may .read mode then .isDirectory else .accessDenied))
  | (_, .link _) => .error (.os .tooManyLinks)

/-- An error on a walk through a tree, which names the path. -/
def visiting (path : FilePath) : IoError → IoError
  | .os e => .visiting e path.display
  | e => e

/-- The kind of what a path leads to. -/
def kindOf (path : FilePath) (tree : FileTree) : Except IoError FileType :=
  ((tree.stat actor true path).map fun (_, entry) => entry.type).mapError (visiting path)

/-- What stands right below a place, and its kinds. -/
def contents (tree : FileTree) (place : Location) : List (FileName × FileType) :=
  (tree.children place).map fun (name, entry) => (name, entry.type)

/-- The entries of a directory and their kinds. -/
def listDirectory (path : FilePath) (tree : FileTree) :
    Except IoError (List (FileName × FileType)) :=
  ((tree.openDirectory actor path).map tree.contents).mapError (visiting path)

/-- What a listing tells of a file. -/
def metadata (path : FilePath) (tree : FileTree) : Except IoError Metadata :=
  match tree.stat actor false path with
  | .ok (_, .file content modified _) => .ok ⟨content.size, modified⟩
  | .ok (_, .directory _) => .ok ⟨0, now⟩
  | .ok (_, .link target) => .ok ⟨target.utf8ByteSize, now⟩
  | .error e => .error (visiting path e)

/-- The outcome of a change to a tree: the new tree, or the old one and an error. -/
def change (tree : FileTree) : Except IoError FileTree → Except IoError Unit × FileTree
  | .ok tree => (.ok (), tree)
  | .error e => (.error e, tree)

/-- Performs an operation. -/
def perform : (op : Operation) → FileTree → op.Answer × FileTree
  | .exists_ path, tree => (tree.exists_ actor path, tree)
  | .makeDirectories path, tree => makeMissing actor (ancestry path) tree
  | .createTemporary directory, tree =>
    match tree.createTemporary actor now directory with
    | .ok (file, tree) => (.ok file, tree)
    | .error e => (.error e, tree)
  | .append file bytes, tree => (.ok bytes.size, tree.appendTo now file bytes)
  | .sync _, tree => (.ok (), tree)
  | .link file target, tree => tree.change (tree.link actor file target)
  | .discard file, tree => ((), (tree.change (tree.remove actor file)).2)
  | .syncDirectory path, tree => ((tree.openDirectory actor path).map fun _ => (), tree)
  | .read path, tree => (tree.contentOf actor path, tree)
  | .kind path, tree => (tree.kindOf actor path, tree)
  | .list path, tree => (tree.listDirectory actor path, tree)
  | .metadata path, tree => (tree.metadata actor now path, tree)
  | .remove path, tree => tree.change (tree.remove actor path)

variable {actor now} {tree after : FileTree} {path file : FilePath} {e : IoError}

/-- The operation gives out the file that was made. -/
theorem perform_createTemporary_of_ok
    (made : tree.createTemporary actor now path = .ok (file, after)) :
    tree.perform actor now (.createTemporary path) = (.ok file, after) := by
  simp only [perform, made]

theorem createTemporary_of_perform
    (performed : tree.perform actor now (.createTemporary path) = (.ok file, after)) :
    tree.createTemporary actor now path = .ok (file, after) := by
  rw [perform] at performed
  split at performed <;> cases performed
  assumption

/-- If no file is made, the operation changes nothing. -/
theorem perform_createTemporary_of_error
    (failed : tree.createTemporary actor now path = .error e) :
    tree.perform actor now (.createTemporary path) = (.error e, tree) := by
  simp only [perform, failed]

end FileTree

end ContentNode.FileSystem

import ContentNode.FileSystem.Operation
import ContentNode.Store.Operation
import ContentNode.Store.Record
import ContentNode.Text.Structure

/-!
# Stores in files

Every object has a file of its own, in a directory named for the first two
digits of the address.  A record is written to a temporary file first and gets
its final name when it is complete, unless the name is taken by then; so nobody
ever sees a part of a record, and of all who store the same object one succeeds.
-/

namespace ContentNode

open FileSystem

/-- A store in the files below a directory. -/
structure FileStore where
  root : String
deriving DecidableEq

namespace FileStore

variable (store : FileStore)

/-- The directory of all objects. -/
def objects : FilePath := ⟨store.root, [.text "objects"]⟩

/-- The directory of an object: the first two digits of its address. -/
def directory (address : Address) : FilePath :=
  store.objects.child (.text (String.ofList (address.hexDigits.take 2)))

/-- The file of an object. -/
def objectPath (address : Address) : FilePath :=
  (store.directory address).child (.text (String.ofList (address.hexDigits.drop 2)))

/-- A store as a structure with its directory. -/
def debug : String := Text.dump "FileObjectStore" [("root", Text.Quoted.path store.root)]

/-- Whether a name is temporary. -/
def isTemporary : FileName → Bool
  | .text name => FileTree.temporaryMark.toList.isPrefixOf name.toList
  | .raw _ => false

/-- The age from which on a temporary file is taken to be left over. -/
def staleAge : Instant := Instant.ofSeconds (15 * 60)

/-- A program on files that can fail as a store does. -/
abbrev Step (α : Type) := ExceptT StoreError FileProgram α

/-- Asks for an operation on files. -/
def request (op : Operation) : FileProgram op.Answer := Program.perform op

/-- Goes on with the answer of a program. -/
def ask (program : FileProgram α) : Step α := ExceptT.lift program

/-- Goes on with the answer of a program and stops if it failed. -/
def attempt (program : FileProgram (Except IoError α)) : Step α :=
  ExceptT.mk do return (← program).mapError StoreError.io

/-! ### Storing -/

/-- Appends bytes to a temporary file until all are taken.  `fuel` is their
number. -/
def appendAll (file : FilePath) : Nat → ByteArray → Step Unit
  | 0, _ => return ()
  | fuel + 1, bytes =>
    if bytes.isEmpty then return ()
    else do
      let taken ← attempt (request (.append file bytes))
      if taken = 0 then throw (.io (.other "failed to write whole buffer"))
      else appendAll file fuel (bytes.extract taken bytes.size)

/-- Writes a record to a temporary file and makes it durable. -/
def fill (file : FilePath) (record : ByteArray) : Step Unit := do
  appendAll file record.size record
  attempt (request (.sync file))

/-- Removes a temporary file and stops. -/
def discardAfter (file : FilePath) (e : StoreError) : Step α := do
  ask (request (.discard file))
  throw e

/-- Gives a filled temporary file its final name, unless the name is taken.  In
both cases the temporary name is given up. -/
def publish (file target directory : FilePath) : Step PutOutcome := do
  match ← ask (request (.link file target)) with
  | .ok () =>
    ask (request (.discard file))
    attempt (request (.syncDirectory directory))
    return .created
  | .error (.os .exists_) =>
    ask (request (.discard file))
    return .alreadyPresent
  | .error e => discardAfter file (.io e)

/-- Stores a payload unless its address is taken. -/
def put (now : Instant) (address : Address) (payload : ByteArray) : Step PutOutcome := do
  let path := store.objectPath address
  if ← attempt (request (.exists_ path)) then return .alreadyPresent
  else
    let directory := store.directory address
    attempt (request (.makeDirectories directory))
    let record ← ExceptT.mk (pure (Record.encode now payload))
    let file ← attempt (request (.createTemporary directory))
    match ← ask (fill file record).run with
    | .ok () => publish file path directory
    | .error e => discardAfter file e

/-! ### Fetching -/

/-- The object of an address. -/
def get (address : Address) : Step StoredObject := do
  match ← ask (request (.read (store.objectPath address))) with
  | .ok bytes => ExceptT.mk (pure (Record.decodeObject address bytes))
  | .error (.os .noEntry) => throw (.notFound address)
  | .error e => throw (.io e)

/-- Whether there is an object of an address, or why that cannot be told. -/
def exists_ (address : Address) : FileProgram (Except IoError Bool) :=
  request (.exists_ (store.objectPath address))

/-! ### Walking -/

/-- Passes a value along the files in one directory. -/
def visitFiles (visit : α → FilePath → FileName → Step α) (directory : FilePath) :
    List (FileName × FileType) → α → Step α
  | [], value => return value
  | (name, .file) :: rest, value => do
    let value ← visit value (directory.child name) name
    visitFiles visit directory rest value
  | _ :: rest, value => visitFiles visit directory rest value

/-- Passes a value along the files in the directories of a listing. -/
def visitDirectories (visit : α → FilePath → FileName → Step α) (parent : FilePath) :
    List (FileName × FileType) → α → Step α
  | [], value => return value
  | (name, .directory) :: rest, value => do
    let directory := parent.child name
    let entries ← attempt (request (.list directory))
    let value ← visitFiles visit directory entries value
    visitDirectories visit parent rest value
  | _ :: rest, value => visitDirectories visit parent rest value

/-- Passes a value along all files that are two levels below the directory of
objects.  There are none if something else stands in its place. -/
def walk (visit : α → FilePath → FileName → Step α) (value : α) : Step α := do
  match ← attempt (request (.kind store.objects)) with
  | .directory =>
    let entries ← attempt (request (.list store.objects))
    visitDirectories visit store.objects entries value
  | _ => return value

/-- Adds a file to the totals unless it is temporary. -/
def count (stats : StoreStats) (path : FilePath) (name : FileName) : Step StoreStats := do
  if isTemporary name then return stats
  else
    let info ← attempt (request (.metadata path))
    return ⟨stats.objects + 1, stats.totalBytes + (info.size - Record.overhead)⟩

/-- How much there is. -/
def stats : Step StoreStats := store.walk count .empty

/-! ### Opening -/

/-- What was done about temporary files. -/
structure Sweep where
  /-- The files that were left because they are young, the last one first. -/
  kept : List FilePath
  /-- The number of files that were removed. -/
  removed : Nat

/-- How long ago a moment was; nothing if it is still to come. -/
def age (now modified : Instant) : Instant := max 0 (now - modified)

/-- Removes a file if it is temporary and old. -/
def sweepFile (now : Instant) (sweep : Sweep) (path : FilePath) (name : FileName) :
    Step Sweep := do
  if !isTemporary name then return sweep
  else
    let info ← attempt (request (.metadata path))
    if age now info.modified < staleAge then return { sweep with kept := path :: sweep.kept }
    else
      match ← ask (request (.remove path)) with
      | .ok () => return { sweep with removed := sweep.removed + 1 }
      | .error (.os .noEntry) => return sweep
      | .error e => throw (.io e)

/-- Removes the temporary files that are left over. -/
def sweep (now : Instant) : Step Sweep := store.walk (sweepFile now) ⟨[], 0⟩

/-- Makes the directories of a store and removes what is left over from those
who stored objects before. -/
def open_ (now : Instant) : Step Sweep := do
  attempt (request (.makeDirectories store.objects))
  store.sweep now

/-! ### The operations of a store -/

/-- The program of an operation. -/
def program (now : Instant) : (op : StoreOperation) → FileProgram op.Answer
  | .put address payload => (store.put now address payload).run
  | .get address => (store.get address).run
  | .exists_ address => do
    match ← store.exists_ address with
    | .ok present => return present
    | .error _ => return false
  | .stats => store.stats.run

/-- Performs an operation on a tree. -/
def perform (actor : Actor) (now : Instant) (op : StoreOperation) (tree : FileTree) :
    op.Answer × FileTree :=
  (store.program now op).run (FileTree.perform actor now) tree

end FileStore

end ContentNode

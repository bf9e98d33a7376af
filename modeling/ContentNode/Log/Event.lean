import ContentNode.Config.Basic
import ContentNode.Log.Filter
import ContentNode.Rpc.Dispatch
import ContentNode.Store.Opening

/-!
# Events

What happens in a node, as it is logged: every event has a level, a target that
tells where it happened, a message, and fields.
-/

namespace ContentNode.Log

/-- What a log line says. -/
structure Line where
  level : Level
  target : String
  message : String
  fields : List (String × String)
deriving DecidableEq

/-- The names of what a line says: the message is a field as well. -/
def Line.names (line : Line) : List String := "message" :: line.fields.map (·.1)

/-- The text of a line.  The texts of fields stand as they are. -/
def Line.render (line : Line) : String :=
  let fields := String.join (line.fields.map fun (name, text) => s!" {name}={text}")
  s!"{line.level.label} {line.target}: {line.message}{fields}"

/-- Something that happened. -/
inductive Event where
  /-- A payload is about to be written. -/
  | writing (dataDir : String) (size : Nat)
  /-- A payload is about to be read. -/
  | reading (dataDir address : String)
  /-- The totals of a store are about to be collected. -/
  | collecting (dataDir : String)
  | resolvedConfig (config : Config)
  | usingMemory
  /-- A temporary file was left because it is young. -/
  | keptTemporary (path : String)
  | removedTemporaries (count : Nat)
  | openedStore (root : String)
  | storedFile (address : Address) (size : Nat)
  /-- It could not be told whether an object is there. -/
  | presenceUnknown (address : Address) (error : IoError)
  | deduplicated (address : Address)
  | committed (address : Address) (size : Nat) (created : Bool)
  | verified (address : Address) (size : Nat)
  | corruptRecord (address : Address) (reason : String)
  | foreignPayload (address computed : Address)
  | notJson (details : String)
  | rejected (id : Json.Value) (error : Rpc.Error)
  | completed (id : Json.Value) (call : String)
  | failed (id : Json.Value) (call : String) (error : Rpc.Error)
  | listening (address backend : String) (algorithm : HashAlgorithm)

namespace Event

/-- The line of an event. -/
def line : Event → Line
  | writing dataDir size =>
    ⟨.info, "cas::commands", "writing payload", [("data_dir", dataDir), ("bytes", toString size)]⟩
  | reading dataDir address =>
    ⟨.info, "cas::commands", "reading payload", [("data_dir", dataDir), ("address", address)]⟩
  | collecting dataDir =>
    ⟨.debug, "cas::commands", "collecting store stats", [("data_dir", dataDir)]⟩
  | resolvedConfig config =>
    ⟨.debug, "cas::commands", "resolved server config", [("config", config.debug)]⟩
  | usingMemory => ⟨.info, "cas_server::server", "using in-memory object store", []⟩
  | keptTemporary path =>
    ⟨.debug, "cas_store::file", "keeping recent temporary file", [("path", path)]⟩
  | removedTemporaries count =>
    ⟨.warn, "cas_store::file", "removed stale temporary object files",
      [("removed", toString count)]⟩
  | openedStore root => ⟨.info, "cas_store::file", "opened file object store", [("root", root)]⟩
  | storedFile address size =>
    ⟨.debug, "cas_store::file", "file put",
      [("address", address.short), ("size", toString size)]⟩
  | presenceUnknown address error =>
    ⟨.warn, "cas_store::file", "exists check failed",
      [("address", address.short), ("error", error.message)]⟩
  | deduplicated address =>
    ⟨.debug, "cas_engine::write", "write deduplicated", [("address", address.short)]⟩
  | committed address size created =>
    ⟨.debug, "cas_engine::write", "write committed",
      [("address", address.short), ("size", toString size), ("created", toString created)]⟩
  | verified address size =>
    ⟨.debug, "cas_engine::read", "read verified",
      [("address", address.short), ("size", toString size)]⟩
  | corruptRecord address reason =>
    ⟨.error, "cas_engine::read", "stored record is corrupt",
      [("address", address.encode), ("reason", reason)]⟩
  | foreignPayload address computed =>
    ⟨.error, "cas_engine::read", "stored payload does not hash to its address",
      [("address", address.encode), ("computed", computed.encode)]⟩
  | notJson details =>
    ⟨.debug, "cas_rpc::dispatcher", "request body is not JSON", [("error", details)]⟩
  | rejected id error =>
    ⟨.debug, "cas_rpc::dispatcher", "rejected envelope",
      [("id", id.render), ("error", error.display)]⟩
  | completed id call =>
    ⟨.debug, "cas_rpc::dispatcher", "call completed",
      [("id", id.render), ("call", Text.Quoted.string call)]⟩
  | failed id call error =>
    ⟨.warn, "cas_rpc::dispatcher", "call failed",
      [("id", id.render), ("call", Text.Quoted.string call), ("code", toString error.code),
        ("error", error.message)]⟩
  | listening address backend algorithm =>
    ⟨.info, "cas_server::server", "CAS node listening",
      [("addr", address), ("backend", Text.Quoted.string backend), ("hash", algorithm.name)]⟩

/-- What happens when a store is opened. -/
def ofOpening : Opening → List Event
  | .memory => [usingMemory]
  | .files store sweep =>
    (sweep.kept.reverse.map fun path => keptTemporary path.display) ++
    (if sweep.removed = 0 then [] else [removedTemporaries sweep.removed]) ++
    [openedStore store.root]

/-- What happens when an object is read. -/
def ofRead (codec : AddressCodec) (text : String) : Except EngineError ByteArray → List Event
  | .ok payload =>
    match codec.decode text with
    | .ok address => [verified address payload.size]
    | .error _ => []
  | .error (.integrityViolation address (.corrupt reason)) => [corruptRecord address reason]
  | .error (.integrityViolation address (.foreign computed)) => [foreignPayload address computed]
  | .error _ => []

/-- What happens when an object is written. -/
def ofWrite (size : Nat) : Except EngineError Engine.Receipt → List Event
  | .ok (.deduplicated address) => [deduplicated address]
  | .ok (.committed address outcome) => [committed address size outcome.isCreated]
  | .error _ => []

/-- What happens when a call was carried out. -/
def ofCall (request : Rpc.Request) (outcome : Rpc.CallOutcome) : Event :=
  match outcome.result with
  | .ok _ => completed request.id request.call.name
  | .error e => failed request.id request.call.name e

/-- What happens when a body is handled, apart from what happens in the store. -/
def ofHandling (config : EngineConfig) : Rpc.Handling → List Event
  | .notJson details => [notJson details]
  | .rejected id error => [rejected id error]
  | .called request (.read outcome) =>
    ofRead config.codec request.call.argument outcome ++ [ofCall request (.read outcome)]
  | .called request (.write outcome) =>
    ofWrite request.call.argument.utf8ByteSize outcome ++ [ofCall request (.write outcome)]

/-- Performs an operation on a store in files and tells what happened. -/
def observe (actor : FileSystem.Actor) (now : Instant) (store : FileStore)
    (op : StoreOperation) (files : FileSystem.FileTree) :
    op.Answer × FileSystem.FileTree × List Event :=
  let (answer, after) := store.perform actor now op files
  match op, answer with
  | .put address payload, .ok .created => (.ok .created, after, [storedFile address payload.size])
  | .exists_ address, present =>
    match files.exists_ actor (store.objectPath address) with
    | .ok _ => (present, after, [])
    | .error e => (present, after, [presenceUnknown address e])
  | _, answer => (answer, after, [])

end Event

end ContentNode.Log

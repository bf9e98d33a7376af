import ContentNode.CommandLine.Failure
import ContentNode.Log.Event
import ContentNode.Network

/-!
# Local calls

What commands do with objects.  They are written and read by the same calls that
a node answers, on a store that is opened for each command.
-/

namespace ContentNode.CommandLine

open FileSystem Log

/-- What a command depends on, apart from files. -/
structure Surroundings where
  actor : Actor
  now : Instant
  /-- Whether results are printed in color. -/
  color : Bool
  /-- What is to be logged. -/
  logFilter : Option String
  network : Network

/-- The files that a command works on, and what has happened. -/
structure World where
  files : FileTree
  events : List Event

/-- A part of a command. -/
abbrev Action := ExceptT Failure (StateM World)

/-- Adds to what has happened. -/
def tell (events : List Event) : Action Unit :=
  modify fun world => { world with events := world.events ++ events }

/-- Uses the files. -/
def onFiles (use : FileTree → α × FileTree) : Action α :=
  modifyGet fun world =>
    let (value, files) := use world.files
    (value, { world with files })

/-- The value of an outcome, or a failure. -/
def orFail (failure : ε → Failure) : Except ε α → Action α
  | .ok value => return value
  | .error e => throw (failure e)

/-! ### Stores -/

/-- The directory of objects if none is configured. -/
def standardDataDir : String := ".cas"

/-- The store that commands work on. -/
def storeOf (dataDir : Option String) (config : Config) : FileStore :=
  ⟨(dataDir <|> config.dataDir).getD standardDataDir⟩

/-- Opens a store. -/
def openStore (s : Surroundings) (store : FileStore) : Action Unit := do
  let opening ← orFail (fun e => .ofNode (.store e))
    (← onFiles (Opening.ofStore s.actor s.now store))
  tell (Event.ofOpening opening)

/-- Runs a program on a store. -/
def runOn (s : Surroundings) (store : FileStore) (program : StoreProgram α) : Action α :=
  modifyGet (program.run fun op world =>
    let (answer, files, events) := Event.observe s.actor s.now store op world.files
    (answer, ⟨files, world.events ++ events⟩))

/-! ### Calls -/

/-- The identifier of the requests of commands. -/
def requestId : Json.Value := .string "cli"

/-- The result of a call. -/
def call (s : Surroundings) (store : FileStore) (config : Config) (call : Rpc.Call) :
    Action Json.Value := do
  let request := (Rpc.Request.ofCall requestId call).toValue
  let handling ← runOn s store (Rpc.handleValue config.engine request)
  tell (Event.ofHandling config.engine handling)
  match handling.response.outcome with
  | .result v => return v
  | .error e => throw ⟨s!"{e.message} (code {e.code})", []⟩

/-- A result that is a text. -/
def resultText : Json.Value → Except Failure String
  | .string text => .ok text
  | v => .error ⟨s!"unexpected result {v.render}", []⟩

/-- A result that is a payload.  One that is no text is given in hexadecimal
digits. -/
def payloadText (v : Json.Value) : Except Failure String :=
  match v.member? "encoding", v.member? "data" with
  | some (.string "hex"), some (.string digits) => .ok s!"hex:{digits}"
  | _, _ => resultText v

/-- Stores a text.  The result is its address. -/
def writePayload (s : Surroundings) (config : Config) (store : FileStore) (data : String) :
    Action String := do
  openStore s store
  orFail id (resultText (← call s store config (.write data)))

/-- The payload of an address. -/
def readPayload (s : Surroundings) (config : Config) (store : FileStore) (address : String) :
    Action String := do
  openStore s store
  orFail id (payloadText (← call s store config (.read address)))

/-- How much is stored. -/
def storeStats (s : Surroundings) (store : FileStore) : Action StoreStats := do
  openStore s store
  orFail .ofStore (← runOn s store (Program.perform StoreOperation.stats))

end ContentNode.CommandLine

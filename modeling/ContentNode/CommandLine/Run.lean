import ContentNode.CommandLine.Local
import ContentNode.CommandLine.Parser
import ContentNode.Config.File
import ContentNode.Node

/-!
# Running command lines

A command line is run on a tree of files, under the configuration that it names.
Some commands work on the objects in a directory: the one that the arguments
name, or the configuration, or else a standard one.
-/

namespace ContentNode.CommandLine

open FileSystem Log

/-! ### Commands -/

/-- Stores a text and prints its address. -/
def write (s : Surroundings) (format : Format) (config : Config) (store : FileStore)
    (data : String) : Action String := do
  tell [.writing store.root data.utf8ByteSize]
  let address ← writePayload s config store data
  return match format with
    | .text => address ++ "\n"
    | .json => Json.renderRecord [("address", Json.quote address)] ++ "\n"

/-- Prints the payload of an address. -/
def read (s : Surroundings) (format : Format) (config : Config) (store : FileStore)
    (address : String) : Action String := do
  tell [.reading store.root address]
  let data ← readPayload s config store address
  return match format with
    | .text => data ++ "\n"
    | .json =>
      Json.renderRecord [("address", Json.quote address), ("data", Json.quote data)] ++ "\n"

/-- The ways in which a text stands out. -/
inductive Style where
  | bold
  | cyan
  | yellow

/-- The number of a style on terminals. -/
def Style.code : Style → Nat
  | bold => 1
  | cyan => 36
  | yellow => 33

/-- What begins a style on terminals. -/
def Style.start (style : Style) : String := s!"\x1b[{style.code}m"

/-- What ends every style on terminals. -/
def Style.reset : String := "\x1b[0m"

/-- A text in a style, which begins again wherever the text itself ends styles. -/
def Style.paint (style : Style) (color : Bool) (text : String) : String :=
  if color then
    style.start ++ text.replace Style.reset (Style.reset ++ style.start) ++ Style.reset
  else text

/-- The totals of a store as text. -/
def statsText (color : Bool) (config : Config) (store : FileStore) (stats : StoreStats) :
    String :=
  "Store: " ++ Style.bold.paint color store.root ++ "\n" ++
  "  Objects: " ++ Style.cyan.paint color (toString stats.objects) ++ "\n" ++
  "  Bytes:   " ++ Style.cyan.paint color (toString stats.totalBytes) ++ "\n" ++
  "  Hash:    " ++ Style.yellow.paint color config.algorithm.name ++ "\n"

/-- Prints how much is stored. -/
def stat (s : Surroundings) (format : Format) (config : Config) (store : FileStore) :
    Action String := do
  tell [.collecting store.root]
  let stats ← storeStats s store
  return match format with
    | .text => statsText s.color config store stats
    | .json => stats.render ++ "\n"

/-- The configuration of a node, with what the arguments say about it. -/
def servedConfig (config : Config) (bind : Option SocketAddress) (dataDir : Option String)
    (memory : Bool) : Config :=
  { config with
    bindAddress := bind.getD config.bindAddress
    dataDir := if memory then none else dataDir <|> config.dataDir }

/-- Starts a node. -/
def serve (s : Surroundings) (config : Config) : Action Node := do
  tell [.resolvedConfig config]
  let opening ← orFail .ofNode (← onFiles (Node.openStore s.actor s.now config))
  tell (Event.ofOpening opening)
  let backend := opening.backend
  let _ ← orFail (fun e => .ofNode (.io e)) (s.network.listen config.bindAddress)
  tell [.listening config.bindAddress.toText backend.name config.algorithm]
  return ⟨config, backend, (← get).files⟩

/-- What a command leads to. -/
inductive Ending where
  /-- A text is printed. -/
  | printed (text : String)
  /-- A node listens. -/
  | serving (node : Node)

/-- Carries out a command. -/
def perform (s : Surroundings) (format : Format) (config : Config) : Command → Action Ending
  | .serve bind dataDir memory => do
    return .serving (← serve s (servedConfig config bind dataDir memory))
  | .write data dataDir => do
    return .printed (← write s format config (storeOf dataDir config) data)
  | .read address dataDir => do
    return .printed (← read s format config (storeOf dataDir config) address)
  | .stat dataDir => do return .printed (← stat s format config (storeOf dataDir config))
  | .config => do return .printed (← orFail (fun e => .ofNode (.config e)) config.toToml)

/-! ### Command lines -/

/-- The configuration that arguments name. -/
def loadConfig (s : Surroundings) (path : Option String) (files : FileTree) :
    Except Failure Config :=
  match path with
  | none => .ok .standard
  | some path =>
    (Config.load s.actor path files).mapError fun e =>
      (Failure.ofNode (.config e)).during s!"loading configuration from {path}"

/-- What became of a command line, and what was logged. -/
inductive Outcome where
  | refused (refusal : Refusal)
  | failed (failure : Failure) (log : List Line)
  | ended (ending : Ending) (log : List Line)

namespace Outcome

/-- The exit code of the program, if nothing more happens. -/
def exitCode : Outcome → Nat
  | refused refusal => refusal.exitCode
  | failed _ _ => 1
  | ended _ _ => 0

/-- What is printed. -/
def stdout : Outcome → String
  | ended (.printed text) _ => text
  | refused .version => s!"cas {Http.nodeVersion}\n"
  | refused _ | failed _ _ | ended (.serving _) _ => ""

/-- The report of a failure. -/
def stderr : Outcome → String
  | failed failure _ => failure.render
  | refused _ | ended _ _ => ""

/-- The log. -/
def log : Outcome → List Line
  | failed _ log | ended _ log => log
  | refused _ => []

end Outcome

/-- Runs a command line. -/
def run (s : Surroundings) (words : List String) (files : FileTree) : Outcome × FileTree :=
  match Arguments.parse words with
  | .error refusal => (.refused refusal, files)
  | .ok arguments =>
    match loadConfig s arguments.config files with
    | .error failure => (.failed failure [], files)
    | .ok config =>
      let filter := Filter.choose s.logFilter arguments.verbose config.logLevel
      let (result, world) :=
        (perform s arguments.format config arguments.command).run.run ⟨files, []⟩
      let log := (world.events.map Event.line).filter fun line =>
        filter.admits line.level line.target line.names
      match result with
      | .ok ending => (.ended ending log, world.files)
      | .error failure => (.failed failure log, world.files)

end ContentNode.CommandLine

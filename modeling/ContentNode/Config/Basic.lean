import ContentNode.Config.SocketAddress
import ContentNode.Engine.Config
import ContentNode.Text.Structure

/-!
# Configuration of a node

Every setting has a default.  A configuration is valid if its sizes and times
make sense together and its log level is known.
-/

namespace ContentNode

/-- The settings of a node. -/
structure Config where
  bindAddress : SocketAddress
  /-- The directory of objects; without one they are kept in memory. -/
  dataDir : Option String
  algorithm : HashAlgorithm
  /-- The largest payload that is accepted, in bytes. -/
  maxPayloadSize : Nat
  /-- The largest request body that is accepted, in bytes. -/
  maxRequestBytes : Nat
  requestTimeoutMs : Nat
  logLevel : String
deriving DecidableEq

namespace Config

/-- The settings that apply unless configured otherwise. -/
def standard : Config where
  bindAddress := .v4 ⟨127, 0, 0, 1⟩ 3030
  dataDir := none
  algorithm := .standard
  maxPayloadSize := EngineConfig.standardMaxPayloadSize
  maxRequestBytes := 2 * EngineConfig.standardMaxPayloadSize
  requestTimeoutMs := 30000
  logLevel := "info"

/-- The levels at which a node can log. -/
def logLevels : List String := ["trace", "debug", "info", "warn", "error"]

/-- What is wrong with a configuration. -/
inductive Problem where
  | noPayload
  | requestTooSmall (maxRequestBytes maxPayloadSize : Nat)
  | noTime
  | unknownLogLevel (level : String)
deriving DecidableEq

/-- The text of a problem. -/
def Problem.message : Problem → String
  | noPayload => "max_payload_size must be positive"
  | requestTooSmall request payload =>
    s!"max_request_bytes ({request}) is smaller than max_payload_size ({payload})"
  | noTime => "request_timeout_ms must be positive"
  | unknownLogLevel level =>
    let known := ", ".intercalate logLevels
    s!"unknown log_level {Text.Quoted.string level}, expected one of {known}"

/-- The first problem of a configuration. -/
def problem? (config : Config) : Option Problem :=
  if config.maxPayloadSize = 0 then some .noPayload
  else if config.maxRequestBytes < config.maxPayloadSize then
    some (.requestTooSmall config.maxRequestBytes config.maxPayloadSize)
  else if config.requestTimeoutMs = 0 then some .noTime
  else if config.logLevel ∉ logLevels then some (.unknownLogLevel config.logLevel)
  else none

/-- The settings of reading and writing objects. -/
def engine (config : Config) : EngineConfig := ⟨config.algorithm, config.maxPayloadSize⟩

/-- The whole seconds of the time that a request may take. -/
def requestTimeoutSeconds (config : Config) : Nat := config.requestTimeoutMs / 1000

/-- The shape of a configuration. -/
def shape : Schema.Record Schema.Leaf Config where
  name := "ServerConfig"
  blank := standard
  required := false
  fields := [
    { name := "bind_addr"
      type := SocketAddress
      shape := .scalar (.parsed "socket address" SocketAddress.parse)
      set := fun bindAddress config => { config with bindAddress } },
    { name := "data_dir"
      type := Option String
      shape := .scalar (.optional (.parsed "path string" .ok))
      set := fun dataDir config => { config with dataDir } },
    { name := "hash_algorithm"
      type := HashAlgorithm
      shape := HashAlgorithm.shape
      set := fun algorithm config => { config with algorithm } },
    { name := "max_payload_size"
      type := Nat
      shape := .scalar (.unsigned "usize")
      set := fun maxPayloadSize config => { config with maxPayloadSize } },
    { name := "max_request_bytes"
      type := Nat
      shape := .scalar (.unsigned "usize")
      set := fun maxRequestBytes config => { config with maxRequestBytes } },
    { name := "request_timeout_ms"
      type := Nat
      shape := .scalar (.unsigned "u64")
      set := fun requestTimeoutMs config => { config with requestTimeoutMs } },
    { name := "log_level"
      type := String
      shape := .scalar .text
      set := fun logLevel config => { config with logLevel } }]

/-- A configuration in JSON. -/
def render (config : Config) : String :=
  Json.renderRecord (
    [("bind_addr", Json.quote config.bindAddress.toText)] ++
    (config.dataDir.map fun dir => ("data_dir", Json.quote dir)).toList ++
    [("hash_algorithm", config.algorithm.render),
     ("max_payload_size", toString config.maxPayloadSize),
     ("max_request_bytes", toString config.maxRequestBytes),
     ("request_timeout_ms", toString config.requestTimeoutMs),
     ("log_level", Json.quote config.logLevel)])

/-- A configuration as a structure with its settings. -/
def debug (config : Config) : String :=
  let dir := match config.dataDir with
    | some dir => s!"Some({Text.Quoted.path dir})"
    | none => "None"
  let fields := [
    ("bind_addr", config.bindAddress.toText),
    ("data_dir", dir),
    ("hash_algorithm", config.algorithm.debug),
    ("max_payload_size", toString config.maxPayloadSize),
    ("max_request_bytes", toString config.maxRequestBytes),
    ("request_timeout_ms", toString config.requestTimeoutMs),
    ("log_level", Text.Quoted.string config.logLevel)]
  Text.dump "ServerConfig" fields

end Config

end ContentNode

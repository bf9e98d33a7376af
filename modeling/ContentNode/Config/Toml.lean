import ContentNode.Config.Basic
import ContentNode.Toml.FromEntries
import ContentNode.Toml.Printer

/-!
# Configurations as TOML

A configuration is read from a document and checked.  It is written with one
line for each setting, and what was written from a valid configuration reads
back as the same.
-/

namespace ContentNode

/-- Why there is no configuration. -/
inductive ConfigError where
  /-- The text is no document of a configuration. -/
  | refused (text : List Char) (refusal : Toml.Refusal)
  /-- The settings make no sense. -/
  | invalid (problem : Config.Problem)
  /-- A number is too large to be written. -/
  | outOfRange
  /-- The file cannot be read. -/
  | unreadable (path : String) (reason : String)

/-- The text of an error. -/
def ConfigError.message : ConfigError → String
  | refused text refusal => refusal.message text
  | invalid problem => problem.message
  | outOfRange => "out-of-range value for u64 type"
  | unreadable path reason => s!"cannot read {path}: {reason}"

namespace Config

/-- A configuration, if it is valid. -/
def validate (config : Config) : Except ConfigError Config :=
  match config.problem? with
  | some problem => .error (.invalid problem)
  | none => .ok config

/-- The valid configuration of a document. -/
def ofToml (text : String) : Except ConfigError Config :=
  let s := text.toList
  match Toml.read shape s with
  | .ok config => config.validate
  | .error refusal => .error (.refused s refusal)

/-- The characters of a configuration. -/
def tomlChars? (config : Config) : Option (List Char) := do
  let text (name : String) (value : String) := Toml.Printer.entry name (Toml.Printer.string value.toList)
  let payload ← Toml.Printer.natural? config.maxPayloadSize
  let request ← Toml.Printer.natural? config.maxRequestBytes
  let timeout ← Toml.Printer.natural? config.requestTimeoutMs
  return text "bind_addr" config.bindAddress.toText ++
    (config.dataDir.map (text "data_dir")).getD [] ++
    text "hash_algorithm" config.algorithm.name ++
    Toml.Printer.entry "max_payload_size" payload ++
    Toml.Printer.entry "max_request_bytes" request ++
    Toml.Printer.entry "request_timeout_ms" timeout ++
    text "log_level" config.logLevel

/-- The document of a configuration. -/
def toToml (config : Config) : Except ConfigError String :=
  match config.tomlChars? with
  | some chars => .ok (String.ofList chars)
  | none => .error .outOfRange

end Config

end ContentNode

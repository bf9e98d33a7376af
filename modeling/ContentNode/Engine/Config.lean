import ContentNode.Address.Codec
import ContentNode.Json.Printer
import ContentNode.Schema

/-!
# Settings of reading and writing objects
-/

namespace ContentNode

/-- The settings that reading and writing share. -/
structure EngineConfig where
  algorithm : HashAlgorithm
  /-- The largest payload that is accepted, in bytes. -/
  maxPayloadSize : Nat
deriving DecidableEq

namespace HashAlgorithm

/-- The shape of an algorithm: its name. -/
def shape : Schema.Leaf HashAlgorithm :=
  .choice (all.map fun algorithm => (algorithm.name, algorithm))

/-- An algorithm in JSON. -/
def render (algorithm : HashAlgorithm) : String := Json.quote algorithm.name

end HashAlgorithm

namespace EngineConfig

/-- The largest payload that is accepted unless configured otherwise: 16 MiB. -/
def standardMaxPayloadSize : Nat := 16 * 1024 * 1024

/-- The settings that apply unless configured otherwise. -/
def standard : EngineConfig := ⟨.standard, standardMaxPayloadSize⟩

/-- The codec that names payloads. -/
def codec (config : EngineConfig) : AddressCodec := ⟨config.algorithm⟩

/-- The shape of the settings. -/
def shape : Schema.Record Schema.Leaf EngineConfig where
  name := "EngineConfig"
  blank := standard
  required := false
  fields := [
    { name := "hash_algorithm"
      type := HashAlgorithm
      shape := HashAlgorithm.shape
      set := fun algorithm config => { config with algorithm } },
    { name := "max_payload_size"
      type := Nat
      shape := .scalar (.unsigned "usize")
      set := fun maxPayloadSize config => { config with maxPayloadSize } }]

/-- The settings in JSON. -/
def render (config : EngineConfig) : String :=
  Json.renderRecord [
    ("hash_algorithm", config.algorithm.render),
    ("max_payload_size", toString config.maxPayloadSize)]

end EngineConfig

end ContentNode

import ContentNode.Config.Toml
import ContentNode.Store.Error

/-!
# Errors of nodes

Why a node cannot start or cannot answer.
-/

namespace ContentNode

/-- What went wrong in a node. -/
inductive NodeError where
  | config (error : ConfigError)
  | store (error : StoreError)
  | io (error : IoError)
  | internal (reason : String)

namespace NodeError

/-- The text of an error. -/
def message : NodeError → String
  | config e => s!"configuration error: {e.message}"
  | store e => s!"store error: {e.message}"
  | io e => s!"I/O error: {e.message}"
  | internal reason => s!"internal error: {reason}"

/-- The errors behind an error, by their texts. -/
def causes : NodeError → List String
  | store e => e.message :: e.causes
  | io e => e.message :: e.causes
  | config _ | internal _ => []

end NodeError

end ContentNode

import ContentNode.Address.Basic
import ContentNode.FileSystem.Errno

/-!
# Errors of stores
-/

namespace ContentNode

/-- Why a store could not do what was asked. -/
inductive StoreError where
  /-- Nothing is stored under the address. -/
  | notFound (address : Address)
  /-- What is stored under the address is no valid record. -/
  | corrupt (address : Address) (reason : String)
  | serialization (reason : String)
  | io (cause : IoError)
deriving DecidableEq

/-- The text of an error. -/
def StoreError.message : StoreError → String
  | notFound address => s!"object not found: {address.encode}"
  | corrupt address reason => s!"corrupt object {address.encode}: {reason}"
  | serialization reason => s!"serialization error: {reason}"
  | io cause => s!"I/O error: {cause.message}"

/-- The errors behind an error, by their texts. -/
def StoreError.causes : StoreError → List String
  | io cause => cause.message :: cause.causes
  | notFound _ | corrupt _ _ | serialization _ => []

end ContentNode

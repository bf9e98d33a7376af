import ContentNode.Address.Codec

/-!
# Errors of reading and writing objects
-/

namespace ContentNode

/-- Why what is stored under an address does not belong there. -/
inductive Violation where
  /-- It is no valid record. -/
  | corrupt (reason : String)
  /-- Its payload has another address. -/
  | foreign (computed : Address)
deriving DecidableEq

/-- The text of a violation. -/
def Violation.message : Violation → String
  | corrupt reason => reason
  | foreign computed => s!"payload hashes to {computed.encode}"

/-- Why an object was not written or not read. -/
inductive EngineError where
  /-- The payload is empty or too long. -/
  | invalidPayload (reason : String)
  | malformedAddress (report : MalformedAddress)
  /-- Nothing is stored under the address. -/
  | notFound (address : Address)
  /-- What is stored under the address does not belong there. -/
  | integrityViolation (address : Address) (violation : Violation)
  /-- The store failed. -/
  | storageFailure (reason : String)
deriving DecidableEq

/-- The text of an error. -/
def EngineError.message : EngineError → String
  | invalidPayload reason => s!"invalid payload: {reason}"
  | malformedAddress report => report.message
  | notFound address => s!"object not found: {address.encode}"
  | integrityViolation address violation =>
    s!"integrity violation for {address.encode}: {violation.message}"
  | storageFailure reason => s!"storage failure: {reason}"

end ContentNode

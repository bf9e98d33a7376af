import ContentNode.Address.Basic
import ContentNode.Schema

/-!
# Addresses in structured data
-/

namespace ContentNode.Address

/-- The shape of an address: its text. -/
def shape : Schema.Scalar Address :=
  .parsed "a string" fun s => (parse s).mapError ParseError.message

end ContentNode.Address

import ContentNode.Number.Binary64
import ContentNode.Toml.Fault

/-!
# TOML documents

A document is a table.  Entries keep the order in which they were made, and
every key and every value remembers where it stands.  How a table came about
decides how it may be extended: one that was written out as a value or under a
header of its own is complete, one that only arose on the way to another may
still grow.
-/

namespace ContentNode.Toml

/-- A key and where it stands. -/
structure Key where
  name : String
  span : Span
deriving DecidableEq

/-- How a table came about. -/
inductive Origin where
  /-- Written out between braces. -/
  | inline
  /-- By a key with dots. -/
  | dotted
  /-- On the way to a table with a header. -/
  | implied
  /-- By a header of its own, or as the whole document. -/
  | header
deriving DecidableEq

/-- Whether a table was written out, and so has a place of its own. -/
def Origin.isWritten : Origin → Bool
  | inline | header => true
  | dotted | implied => false

/-- A value. -/
inductive Value where
  | text (value : String)
  | integer (value : Int)
  | double (value : Binary64)
  | bool (value : Bool)
  /-- A date, a time, or both. -/
  | moment
  | array (items : List Value)
  | table (origin : Origin) (entries : List (Key × Span × Value))
  /-- Tables with the same header. -/
  | tables (items : List (List (Key × Span × Value)))

/-- What messages call a value. -/
def Value.kind : Value → String
  | text _ => "string"
  | integer _ => "integer"
  | double _ => "float"
  | bool _ => "boolean"
  | moment => "datetime"
  | array _ => "array"
  | table .inline _ => "inline table"
  | table _ _ => "table"
  | tables _ => "array of tables"

/-- The entries of a table: keys and values, with where the values stand. -/
abbrev Entries := List (Key × Span × Value)

end ContentNode.Toml

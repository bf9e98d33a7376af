/-!
# Dumps of structures

The name of a structure with its fields, for logs and reports.
-/

namespace ContentNode.Text

/-- A structure by its name and its fields, of which there is at least one. -/
def dump (name : String) (fields : List (String × String)) : String :=
  let text := ", ".intercalate (fields.map fun (field, value) => field ++ ": " ++ value)
  name ++ " \x7b " ++ text ++ " \x7d"

end ContentNode.Text

import ContentNode.Schema

/-!
# Reading shapes from JSON values

A shape is read from a value that has been parsed before.  Objects have their
members in the order of keys, so a tag is read before the content that sorts
behind it.
-/

namespace ContentNode.Json.FromValue

open Schema

/-- What a message says was found. -/
def found : Value → Found
  | .null => .null
  | .bool b => .bool b
  | .number (.integer i) => .integer i
  | .number (.double x) => .double x
  | .string s => .text s
  | .array _ => .sequence
  | .object _ => .map

/-- One of the allowed names, as a string or as the only key of an object whose
value is null. -/
def name (allowed : List String) : Value → Except DataError String
  | .string given => selectName allowed given
  | .object [(key, content)] => do
    let given ← selectName allowed key
    match content with
    | .null => .ok given
    | other => .error (.invalidType (found other) "unit")
  | .object _ => .error (.invalidValue .map "map with a single key")
  | v => .error (.invalidType (found v) "string or map")

/-- A scalar or a value chosen by its name. -/
def leaf : Leaf α → Value → Except DataError α
  | .scalar s, v => s.read (found v)
  | .choice c, v => do c.select (← name c.names v)

/-- What a list with more elements than a record has fields is refused for,
given the number of fields and the number of elements. -/
abbrev Surplus := Nat → Nat → DataError

/-- The refusal of a list within a value. -/
def Surplus.ofValue : Surplus := fun _ length =>
  .invalidLength length "fewer elements in array"

/-- The refusal of a list that was read before it was known what it stands for. -/
def Surplus.ofBuffer : Surplus := fun fields length =>
  .invalidLength length s!"{describeCount fields} in sequence"

/-- A record, as an object of its fields or as a list of them in order. -/
def record (surplus : Surplus) (read : (τ : Type) → S τ → Value → Except DataError τ)
    (record : Record S ρ) : Value → Except DataError ρ
  | .object members => record.ofMembers id read members
  | .array items => do
    let value ← record.ofElements id read items
    if record.fields.length < items.length then
      .error (surplus record.fields.length items.length)
    else .ok value
  | v => .error (.invalidType (found v) record.expected)

/-- A record of scalars and names. -/
def leafRecord (surplus : Surplus) (r : Record Leaf ρ) : Value → Except DataError ρ :=
  record surplus (fun _ => leaf) r

/-- The content of a tag. -/
def content (t : Tagged α) (tag : String) (v : Value) : Except DataError α :=
  match t.select tag with
  | .error e => .error e
  | .ok alternative => leafRecord Surplus.ofValue alternative.record v

/-- A tag and its content, as an object or as a list of the two. -/
def tagged (t : Tagged α) : Value → Except DataError α
  | .object members =>
    match Value.lookup t.tagMember members with
    | none => .error (.missingField t.tagMember)
    | some tag => do
      let tag ← name t.tags tag
      match Value.lookup t.contentMember members with
      | none => .error (.missingField t.contentMember)
      | some v => content t tag v
  | .array items =>
    match items with
    | [] => .error (.invalidLength 0 t.expected)
    | tag :: rest => do
      let tag ← selectName t.tags (← Tagged.tagName.read (found tag))
      match rest with
      | [] => .error (.invalidLength 1 t.expected)
      | v :: surplus =>
        let value ← content t tag v
        if surplus.isEmpty then return value
        else .error (Surplus.ofValue 2 items.length)
  | v => .error (.invalidType (found v) t.expected)

/-- A member of a message. -/
def member : Member α → Value → Except DataError α
  | .leaf l, v => leaf l v
  | .free, v => .ok v
  | .tagged t, v => tagged t v

/-- A message. -/
def message (r : Record Member ρ) : Value → Except DataError ρ :=
  record Surplus.ofValue (fun _ => member) r

end ContentNode.Json.FromValue

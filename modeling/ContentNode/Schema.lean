import ContentNode.Json.Basic
import ContentNode.Number.Format
import ContentNode.Text.Quoted

/-!
# Shapes of structured data

What a configuration or a message looks like, independent of the notation that
it is read from.  A shape says which scalars, names and members are expected;
each notation has its own reader of shapes.  What a reader finds wrong is a
`DataError`.
-/

namespace ContentNode.Schema

/-- What a reader found where something was expected. -/
inductive Found where
  | null
  | bool (value : Bool)
  | integer (value : Int)
  | double (value : Binary64)
  | text (value : String)
  | sequence
  | map
deriving DecidableEq

/-- A well-formed document of the wrong shape. -/
inductive DataError where
  | invalidType (found : Found) (expected : String)
  | invalidValue (found : Found) (expected : String)
  | invalidLength (length : Nat) (expected : String)
  | missingField (name : String)
  | duplicateField (name : String)
  | unknownVariant (name : String) (allowed : List String)
  /-- The value has the right type but is refused for a reason of its own. -/
  | refused (reason : String)
deriving DecidableEq

/-- The text of what was found, where `double` writes doubles. -/
def Found.describe (double : Binary64 → String) : Found → String
  | null => "null"
  | bool b => if b then "boolean `true`" else "boolean `false`"
  | integer i => s!"integer `{i}`"
  | .double x => s!"floating point `{double x}`"
  | text s => s!"string {Text.Quoted.string s}"
  | sequence => "sequence"
  | map => "map"

/-- The names that are allowed, for a message. -/
def describeNames : List String → String
  | [] => "there are no variants"
  | [a] => s!"expected `{a}`"
  | [a, b] => s!"expected `{a}` or `{b}`"
  | names => "expected one of " ++ ", ".intercalate (names.map fun name => s!"`{name}`")

/-- A number of elements, for a message. -/
def describeCount (n : Nat) : String := if n = 1 then "1 element" else s!"{n} elements"

/-- The text of an error, where `double` writes doubles. -/
def DataError.message (double : Binary64 → String) : DataError → String
  | invalidType found expected => s!"invalid type: {found.describe double}, expected {expected}"
  | invalidValue found expected => s!"invalid value: {found.describe double}, expected {expected}"
  | invalidLength length expected => s!"invalid length {length}, expected {expected}"
  | missingField name => s!"missing field `{name}`"
  | duplicateField name => s!"duplicate field `{name}`"
  | unknownVariant name allowed => s!"unknown variant `{name}`, {describeNames allowed}"
  | refused reason => reason

/-! ### Scalars -/

/-- A scalar: what a message says is expected, and the kinds that are accepted. -/
structure Scalar (α : Type) where
  expected : String
  accept : Found → Option (Except DataError α)

/-- The value of a scalar, or why it has none. -/
def Scalar.read (scalar : Scalar α) (found : Found) : Except DataError α :=
  match scalar.accept found with
  | some result => result
  | none => .error (.invalidType found scalar.expected)

/-- A string that is read further. -/
def Scalar.parsed (expected : String) (parse : String → Except String α) : Scalar α where
  expected := expected
  accept
    | .text s => some ((parse s).mapError .refused)
    | _ => none

/-- A string. -/
def Scalar.text : Scalar String := .parsed "a string" .ok

/-- An integer between bounds, under the name of its type. -/
def Scalar.integer (typeName : String) (low high : Int) : Scalar Int where
  expected := typeName
  accept
    | .integer i =>
      some (if low ≤ i ∧ i ≤ high then .ok i else .error (.invalidValue (.integer i) typeName))
    | _ => none

/-- A natural number of at most 64 bits, under the name of its type. -/
def Scalar.unsigned (typeName : String) : Scalar Nat where
  expected := typeName
  accept found := ((Scalar.integer typeName 0 0xFFFFFFFFFFFFFFFF).accept found).map (·.map Int.toNat)

/-- A scalar that may also be null. -/
def Scalar.optional (scalar : Scalar α) : Scalar (Option α) where
  expected := scalar.expected
  accept
    | .null => some (.ok none)
    | found => (scalar.accept found).map (·.map some)

/-! ### Names -/

/-- A name that is one of those allowed. -/
def selectName (allowed : List String) (name : String) : Except DataError String :=
  if name ∈ allowed then .ok name else .error (.unknownVariant name allowed)

/-- A value chosen by its name. -/
abbrev Choice (α : Type) := List (String × α)

/-- The names that are allowed. -/
def Choice.names (choice : Choice α) : List String := choice.map (·.1)

/-- The value of a name. -/
def Choice.select (choice : Choice α) (name : String) : Except DataError α :=
  match List.lookup name choice with
  | some value => .ok value
  | none => .error (.unknownVariant name choice.names)

/-- A scalar, or a value chosen by its name. -/
inductive Leaf : Type → Type 1 where
  | scalar (s : Scalar α) : Leaf α
  | choice (c : Choice α) : Leaf α

/-! ### Records -/

/-- A member of a record: its name, its shape, and how it enters the record. -/
structure Field (S : Type → Type 1) (ρ : Type) where
  name : String
  type : Type
  shape : S type
  set : type → ρ → ρ

/-- A record: its name in messages, its fields in order, and the record before
any field is set.  Either every field has to be given, or none. -/
structure Record (S : Type → Type 1) (ρ : Type) where
  name : String
  blank : ρ
  required : Bool
  fields : List (Field S ρ)

namespace Record

variable {S : Type → Type 1} {ρ : Type}

/-- What a message says is expected. -/
def expected (record : Record S ρ) : String := s!"struct {record.name}"

/-- What a message says is expected of a list that stands for the record. -/
def expectedElements (record : Record S ρ) : String :=
  s!"struct {record.name} with {describeCount record.fields.length}"

/-- The field of a name. -/
def field? (record : Record S ρ) (name : String) : Option (Field S ρ) :=
  record.fields.find? fun field => field.name == name

/-- The first field that is required and not among those given. -/
def missing? (record : Record S ρ) (given : List String) : Option String :=
  if record.required then
    (record.fields.map (·.name)).find? fun name => !given.contains name
  else none

/-- A record in the course of being read, with the names of the fields given. -/
structure Partial (ρ : Type) where
  value : ρ
  given : List String

/-- The record, once every field that is required has been given. -/
def complete (record : Record S ρ) (partly : Partial ρ) : Except DataError ρ :=
  match record.missing? partly.given with
  | some name => .error (.missingField name)
  | none => .ok partly.value

/-- Takes in one member: a field that has not been given before is read, a
member that is no field is passed over. -/
def takeMember (record : Record S ρ) (fail : DataError → ε)
    (read : (τ : Type) → S τ → ν → Except ε τ) (partly : Partial ρ) (member : String × ν) :
    Except ε (Partial ρ) :=
  match record.field? member.1 with
  | none => .ok partly
  | some field =>
    if partly.given.contains field.name then .error (fail (.duplicateField field.name))
    else do
      let value ← read field.type field.shape member.2
      return ⟨field.set value partly.value, field.name :: partly.given⟩

/-- The record of a list of members, taken in order. -/
def ofMembers (record : Record S ρ) (fail : DataError → ε)
    (read : (τ : Type) → S τ → ν → Except ε τ) (members : List (String × ν)) : Except ε ρ := do
  let partly ← members.foldlM (record.takeMember fail read) ⟨record.blank, []⟩
  (record.complete partly).mapError fail

/-- Sets fields from elements in order, up to the end of either list.  The
result tells how many elements were used. -/
def takeElements (read : (τ : Type) → S τ → ν → Except ε τ) :
    List (Field S ρ) → List ν → ρ → Nat → Except ε (ρ × Nat)
  | field :: fields, element :: elements, value, used => do
    let read' ← read field.type field.shape element
    takeElements read fields elements (field.set read' value) (used + 1)
  | _, _, value, used => .ok (value, used)

/-- The record of a list of its fields in order. -/
def ofElements (record : Record S ρ) (fail : DataError → ε)
    (read : (τ : Type) → S τ → ν → Except ε τ) (elements : List ν) : Except ε ρ := do
  let (value, used) ← takeElements read record.fields elements record.blank 0
  if record.required ∧ used < record.fields.length then
    .error (fail (.invalidLength used record.expectedElements))
  else .ok value

end Record

/-! ### Tagged alternatives -/

/-- One alternative: its tag and the record that goes with it. -/
structure Alternative (α : Type) where
  tag : String
  record : Record Leaf α

/-- A record with two members, of which one names an alternative and the other
holds its content. -/
structure Tagged (α : Type) where
  name : String
  tagMember : String
  contentMember : String
  alternatives : List (Alternative α)

namespace Tagged

/-- What a message says is expected. -/
def expected (tagged : Tagged α) : String := s!"adjacently tagged enum {tagged.name}"

/-- The name of a tag where it stands in a list. -/
def tagName : Scalar String := .parsed "variant identifier" .ok

/-- The tags of all alternatives. -/
def tags (tagged : Tagged α) : List String := tagged.alternatives.map (·.tag)

/-- The alternative of a tag. -/
def select (tagged : Tagged α) (tag : String) : Except DataError (Alternative α) :=
  match tagged.alternatives.find? fun alternative => alternative.tag == tag with
  | some alternative => .ok alternative
  | none => .error (.unknownVariant tag tagged.tags)

end Tagged

/-- The shape of a member of a message. -/
inductive Member : Type → Type 1 where
  | leaf (l : Leaf α) : Member α
  /-- Any value. -/
  | free : Member Json.Value
  | tagged (t : Tagged α) : Member α

end ContentNode.Schema

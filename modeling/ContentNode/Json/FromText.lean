import ContentNode.Json.FromValue
import ContentNode.Json.Skip

/-!
# Reading shapes from JSON text

A shape is read while the text is parsed, so that the first problem in the text
is the one reported, whether the text is no JSON or not of that shape.  Members
that are not asked for are passed over.
-/

namespace ContentNode.Json.FromText

open Schema Lexer

/-- Why a text has no value of a shape. -/
inductive ReadError where
  | malformed (failure : Failure)
  | unfit (error : DataError)

/-- The result of reading from the front of a text. -/
abbrev Result (α : Type) := Except ReadError (α × List UInt8)

/-- The outcome of parsing, as an outcome of reading. -/
def parsing (result : Except Failure α) : Except ReadError α := result.mapError .malformed

/-- The outcome of fitting a shape, as an outcome of reading. -/
def fitting (result : Except DataError α) : Except ReadError α := result.mapError .unfit

/-- Stops with a syntax error. -/
def malformed (failure : Failure) : Except ReadError α := .error (.malformed failure)

/-- Stops with an error of shape. -/
def unfit (error : DataError) : Except ReadError α := .error (.unfit error)

/-- What stands at the front of a text.  A scalar is consumed, an array or an
object is not. -/
def found (s : List UInt8) : Except ReadError (Found × List UInt8) :=
  match skipBlank s with
  | [] => malformed (.here .eofInValue [])
  | b :: rest =>
    if b = 91 then .ok (.sequence, b :: rest)
    else if b = 123 then .ok (.map, b :: rest)
    else do
      let (v, rest) ← parsing (Parser.atom b rest)
      return (FromValue.found v, rest)

/-- A scalar. -/
def scalar (scalar : Scalar α) (s : List UInt8) : Except ReadError (α × List UInt8) := do
  let (what, rest) ← found s
  let value ← fitting (scalar.read what)
  return (value, rest)

/-- What stands beside a name that has no content. -/
def unit : Scalar Unit where
  expected := "unit"
  accept
    | .null => some (.ok ())
    | _ => none

/-- The key of the only member of an object whose brace has been read. -/
def onlyKey (s : List UInt8) : Except ReadError (String × List UInt8) :=
  match skipBlank s with
  | [] => malformed (.here .eofInObject [])
  | b :: rest =>
    if b = 34 then parsing (string rest)
    else if b = 125 then malformed (.next .expectedValue (b :: rest))
    else malformed (.next .keyNotString (b :: rest))

/-- One of the allowed names, as a string or as the only key of an object whose
value is null. -/
def name (allowed : List String) (levels : Nat) (s : List UInt8) :
    Except ReadError (String × List UInt8) :=
  match skipBlank s with
  | [] => malformed (.here .eofInValue [])
  | b :: rest =>
    if b = 34 then do
      let (given, rest) ← parsing (string rest)
      let given ← fitting (selectName allowed given)
      return (given, rest)
    else if b = 123 then
      if levels = 0 then malformed (.next .recursionLimit (b :: rest))
      else do
        let (given, rest) ← onlyKey rest
        let given ← fitting (selectName allowed given)
        let rest ← parsing (Parser.colon rest)
        let (_, rest) ← scalar unit rest
        match skipBlank rest with
        | [] => malformed (.here .eofInObject [])
        | c :: rest =>
          if c = 125 then return (given, rest)
          else malformed (.here .expectedValue (c :: rest))
    else malformed (.next .expectedValue (b :: rest))

/-- A scalar or a value chosen by its name. -/
def leaf (levels : Nat) : Leaf α → List UInt8 → Except ReadError (α × List UInt8)
  | .scalar s, text => scalar s text
  | .choice c, text => do
    let (given, rest) ← name c.names levels text
    let value ← fitting (c.select given)
    return (value, rest)

/-! ### Records -/

/-- The rest after the bracket that closes a list from which nothing more is
wanted. -/
def closeList (s : List UInt8) : Except ReadError (List UInt8) :=
  match skipBlank s with
  | [] => malformed (.here .eofInList [])
  | b :: rest =>
    if b = 93 then .ok rest
    else if b = 44 then
      match skipBlank rest with
      | [] => malformed (.here .trailingCharacters [])
      | c :: rest =>
        if c = 93 then malformed (.next .trailingComma (c :: rest))
        else malformed (.next .trailingCharacters (c :: rest))
    else malformed (.next .trailingCharacters (b :: rest))

/-- The rest after the value of a member that is not asked for. -/
def skipMember (s : List UInt8) : Except ReadError (List UInt8) := do
  let s ← parsing (Parser.colon s)
  parsing (Skip.value s)

/-- The fields of a record up to the closing brace.  The fuel exceeds the number
of bytes. -/
def fields (read : (τ : Type) → S τ → List UInt8 → Result τ) (record : Record S ρ) :
    Nat → Bool → Record.Partial ρ → List UInt8 → Except ReadError (ρ × List UInt8)
  | 0, _, _, s => malformed (.here .eofInObject s)
  | fuel + 1, first, partly, s => do
    let (more, s) ← parsing (Parser.nextMember first s)
    if more then
      let (key, s) ← parsing (string s)
      match record.field? key with
      | none =>
        let s ← skipMember s
        fields read record fuel false partly s
      | some field =>
        if partly.given.contains field.name then unfit (.duplicateField field.name)
        else
          let s ← parsing (Parser.colon s)
          let (value, s) ← read field.type field.shape s
          fields read record fuel false
            ⟨field.set value partly.value, field.name :: partly.given⟩ s
    else
      let value ← fitting (record.complete partly)
      return (value, s.drop 1)

/-- The fields of a record in order up to the closing bracket, of which `used`
have been read. -/
def elements (read : (τ : Type) → S τ → List UInt8 → Result τ) (record : Record S ρ) :
    List (Field S ρ) → Nat → ρ → List UInt8 → Except ReadError (ρ × List UInt8)
  | [], _, value, s => do
    let s ← closeList s
    return (value, s)
  | field :: rest, used, value, s => do
    let (more, s) ← parsing (Parser.nextElement (used == 0) s)
    if more then
      let (element, s) ← read field.type field.shape s
      elements read record rest (used + 1) (field.set element value) s
    else if record.required then unfit (.invalidLength used record.expectedElements)
    else return (value, s.drop 1)

/-- A record, as an object of its fields or as a list of them in order. -/
def record (read : Nat → (τ : Type) → S τ → List UInt8 → Result τ) (record : Record S ρ)
    (levels : Nat) (s : List UInt8) : Except ReadError (ρ × List UInt8) :=
  match skipBlank s with
  | [] => malformed (.here .eofInValue [])
  | b :: rest =>
    if b = 91 ∨ b = 123 then
      match levels with
      | 0 => malformed (.next .recursionLimit (b :: rest))
      | levels + 1 =>
        if b = 91 then elements (read levels) record record.fields 0 record.blank rest
        else fields (read levels) record (rest.length + 1) true ⟨record.blank, []⟩ rest
    else do
      let (what, _) ← found (b :: rest)
      unfit (.invalidType what record.expected)

/-- A record of scalars and names. -/
def leafRecord (r : Record Leaf ρ) (levels : Nat) (s : List UInt8) :
    Except ReadError (ρ × List UInt8) :=
  record (fun levels _ => leaf levels) r levels s

/-! ### Tagged alternatives -/

/-- The content of a tag. -/
def content (t : Tagged α) (tag : String) (levels : Nat) (s : List UInt8) :
    Except ReadError (α × List UInt8) :=
  match t.select tag with
  | .error e => unfit e
  | .ok alternative => leafRecord alternative.record levels s

/-- The content of a tag that was read before the tag. -/
def bufferedContent (t : Tagged α) (tag : String) (v : Value) : Except ReadError α :=
  match t.select tag with
  | .error e => unfit e
  | .ok alternative => fitting (FromValue.leafRecord .ofBuffer alternative.record v)

/-- The two members of tagged alternatives. -/
inductive Part where
  | tag
  | content

/-- The name of a part. -/
def Part.member (t : Tagged α) : Part → String
  | tag => t.tagMember
  | content => t.contentMember

/-- The next member that is a part, and the text after its key; or none, and
the text at the closing brace.  The fuel exceeds the number of bytes. -/
def nextPart (t : Tagged α) : Nat → Bool → List UInt8 →
    Except ReadError (Option Part × List UInt8)
  | 0, _, s => malformed (.here .eofInObject s)
  | fuel + 1, first, s => do
    let (more, s) ← parsing (Parser.nextMember first s)
    if more then
      let (key, s) ← parsing (string s)
      if key = t.tagMember then return (some .tag, s)
      else if key = t.contentMember then return (some .content, s)
      else
        let s ← skipMember s
        nextPart t fuel false s
    else return (none, s)

/-- The rest after the closing brace, when both parts have been read. -/
def closeParts (t : Tagged α) (s : List UInt8) : Except ReadError (List UInt8) := do
  match ← nextPart t (s.length + 1) false s with
  | (some part, _) => unfit (.duplicateField (part.member t))
  | (none, s) => return s.drop 1

/-- A tag and its content in either order, up to the closing brace. -/
def parts (t : Tagged α) (levels : Nat) (s : List UInt8) :
    Except ReadError (α × List UInt8) := do
  match ← nextPart t (s.length + 1) true s with
  | (none, _) => unfit (.missingField t.tagMember)
  | (some .tag, s) =>
    let s ← parsing (Parser.colon s)
    let (tag, s) ← name t.tags levels s
    match ← nextPart t (s.length + 1) false s with
    | (none, _) => unfit (.missingField t.contentMember)
    | (some .tag, _) => unfit (.duplicateField t.tagMember)
    | (some .content, s) =>
      let s ← parsing (Parser.colon s)
      let (value, s) ← content t tag levels s
      let s ← closeParts t s
      return (value, s)
  | (some .content, s) =>
    let s ← parsing (Parser.colon s)
    let (v, s) ← parsing (Parser.value levels s)
    match ← nextPart t (s.length + 1) false s with
    | (none, _) => unfit (.missingField t.tagMember)
    | (some .content, _) => unfit (.duplicateField t.contentMember)
    | (some .tag, s) =>
      let s ← parsing (Parser.colon s)
      let (tag, s) ← name t.tags levels s
      let value ← bufferedContent t tag v
      let s ← closeParts t s
      return (value, s)

/-- A tag and its content in order, up to the closing bracket. -/
def pair (t : Tagged α) (levels : Nat) (s : List UInt8) :
    Except ReadError (α × List UInt8) := do
  let (more, s) ← parsing (Parser.nextElement true s)
  if more then
    let (tag, s) ← scalar Tagged.tagName s
    let tag ← fitting (selectName t.tags tag)
    let (more, s) ← parsing (Parser.nextElement false s)
    if more then
      let (value, s) ← content t tag levels s
      let s ← closeList s
      return (value, s)
    else unfit (.invalidLength 1 t.expected)
  else unfit (.invalidLength 0 t.expected)

/-- A tag and its content, as an object or as a list of the two. -/
def tagged (t : Tagged α) (levels : Nat) (s : List UInt8) :
    Except ReadError (α × List UInt8) :=
  match skipBlank s with
  | [] => malformed (.here .eofInValue [])
  | b :: rest =>
    if b = 91 ∨ b = 123 then
      match levels with
      | 0 => malformed (.next .recursionLimit (b :: rest))
      | levels + 1 => if b = 91 then pair t levels rest else parts t levels rest
    else do
      let (what, _) ← found (b :: rest)
      unfit (.invalidType what t.expected)

/-! ### Messages -/

/-- A member of a message. -/
def member (levels : Nat) : Member α → List UInt8 → Except ReadError (α × List UInt8)
  | .leaf l, s => leaf levels l s
  | .free, s => do
    let (v, s) ← parsing (Parser.value levels s)
    return (v.canonical, s)
  | .tagged t, s => tagged t levels s

/-- A message. -/
def message (r : Record Member ρ) (levels : Nat) (s : List UInt8) :
    Except ReadError (ρ × List UInt8) :=
  record (fun levels _ => member levels) r levels s

/-- Reads a whole text. -/
def whole (read : Nat → List UInt8 → Result α) (text : List UInt8) : Except ReadError α := do
  let (value, rest) ← read Parser.maxLevels text
  parsing (Parser.finish rest)
  return value

end ContentNode.Json.FromText

import ContentNode.Rpc.Response

/-!
# Reading responses

The version and the identifier are read where they stand; all other members are
kept until the end, and the first of them that is named for an outcome counts.
-/

namespace ContentNode.Rpc.Response

open Json Json.FromText

/-- A response in the course of being read. -/
structure Draft where
  version : Option String := none
  id : Option Json.Value := none
  /-- The other members, the last one first. -/
  rest : List (String × Json.Value) := []

/-- The response, once all members have been read. -/
def Draft.complete (draft : Draft) : Except Schema.DataError Response :=
  match draft.version, draft.id with
  | none, _ => .error (.missingField "jsonrpc")
  | _, none => .error (.missingField "id")
  | some version, some id => do
    let outcome ← Outcome.ofMembers draft.rest.reverse
    return ⟨version, id, outcome⟩

/-- What a message says is expected. -/
def expected : String := "struct RpcResponse"

/-- The members of a response up to the closing brace.  The fuel exceeds the
number of bytes. -/
def members (levels : Nat) : Nat → Bool → Draft → List UInt8 →
    Except ReadError (Response × List UInt8)
  | 0, _, _, s => malformed (.here .eofInObject s)
  | fuel + 1, first, draft, s => do
    let (more, s) ← parsing (Parser.nextMember first s)
    if more then
      let (key, s) ← parsing (Lexer.string s)
      if key = "jsonrpc" then
        if draft.version.isSome then unfit (.duplicateField "jsonrpc")
        else
          let s ← parsing (Parser.colon s)
          let (version, s) ← scalar .text s
          members levels fuel false { draft with version := some version } s
      else if key = "id" then
        if draft.id.isSome then unfit (.duplicateField "id")
        else
          let s ← parsing (Parser.colon s)
          let (id, s) ← parsing (Parser.value levels s)
          members levels fuel false { draft with id := some id.canonical } s
      else
        let s ← parsing (Parser.colon s)
        let (v, s) ← parsing (Parser.value levels s)
        members levels fuel false { draft with rest := (key, v) :: draft.rest } s
    else
      let response ← fitting draft.complete
      return (response, s.drop 1)

/-- The response at the front of a text. -/
def read (levels : Nat) (s : List UInt8) :
    Except ReadError (Response × List UInt8) :=
  match Lexer.skipBlank s with
  | [] => malformed (.here .eofInValue [])
  | b :: rest =>
    if b = 123 then
      match levels with
      | 0 => malformed (.next .recursionLimit (b :: rest))
      | levels + 1 => members levels (rest.length + 1) true {} rest
    else do
      let (what, _) ← found (b :: rest)
      unfit (.invalidType what expected)

/-- The response of a text. -/
def ofText (text : List UInt8) : Except ReadError Response := whole read text

/-- The response of an object, whose members are in the order of keys. -/
def ofValue : Json.Value → Except Schema.DataError Response
  | .object members => do
    let version ←
      match Value.lookup "jsonrpc" members with
      | some v => (Schema.Scalar.text.read (FromValue.found v)).map some
      | none => .ok none
    let others := members.filter fun member => member.1 != "jsonrpc" && member.1 != "id"
    Draft.complete ⟨version, Value.lookup "id" members, others.reverse⟩
  | v => .error (.invalidType (FromValue.found v) expected)

end ContentNode.Rpc.Response

import ContentNode.Json.Lexer

/-!
# Reading JSON

A text is one value with blank space around it.  Arrays and objects may nest
up to 127 levels.  What is read has its members as they stand in the text; a
whole text denotes the canonical form of that.
-/

namespace ContentNode.Json.Parser

open Lexer

/-- The colon after a key. -/
def colon (s : List UInt8) : Except Failure (List UInt8) :=
  match skipBlank s with
  | [] => .error (.here .eofInObject [])
  | b :: rest => if b = 58 then .ok rest else .error (.next .expectedColon (b :: rest))

/-- Whether another element of an array follows, and the text at that element or
after the closing bracket.  `first` holds before the first element. -/
def nextElement (first : Bool) (s : List UInt8) : Result Bool :=
  match skipBlank s with
  | [] => .error (.here .eofInList [])
  | b :: rest =>
    if b = 93 then .ok (false, b :: rest)
    else if first then .ok (true, b :: rest)
    else if b = 44 then
      match skipBlank rest with
      | [] => .error (.here .eofInValue [])
      | c :: rest =>
        if c = 93 then .error (.next .trailingComma (c :: rest)) else .ok (true, c :: rest)
    else .error (.next .expectedListCommaOrEnd (b :: rest))

/-- Whether another member of an object follows, and the text after the quote
that opens its key or at the closing brace.  `first` holds before the first
member. -/
def nextMember (first : Bool) (s : List UInt8) : Result Bool :=
  match skipBlank s with
  | [] => .error (.here .eofInObject [])
  | b :: rest =>
    if b = 125 then .ok (false, b :: rest)
    else if first then
      if b = 34 then .ok (true, rest) else .error (.next .keyNotString (b :: rest))
    else if b = 44 then
      match skipBlank rest with
      | [] => .error (.here .eofInValue [])
      | c :: rest =>
        if c = 34 then .ok (true, rest)
        else if c = 125 then .error (.next .trailingComma (c :: rest))
        else .error (.next .keyNotString (c :: rest))
    else .error (.next .expectedObjectCommaOrEnd (b :: rest))

/-- The elements of an array up to its closing bracket.  The fuel exceeds the
number of bytes. -/
def elements (item : List UInt8 → Result Value) :
    Nat → Bool → List Value → List UInt8 → Result (List Value)
  | 0, _, _, s => .error (.here .eofInList s)
  | fuel + 1, first, read, s =>
    match nextElement first s with
    | .error e => .error e
    | .ok (false, s) => .ok (read.reverse, s.drop 1)
    | .ok (true, s) =>
      match item s with
      | .error e => .error e
      | .ok (v, s) => elements item fuel false (v :: read) s

/-- The members of an object up to its closing brace, in the order of the text.
The fuel exceeds the number of bytes. -/
def members (item : List UInt8 → Result Value) :
    Nat → Bool → List (String × Value) → List UInt8 → Result (List (String × Value))
  | 0, _, _, s => .error (.here .eofInObject s)
  | fuel + 1, first, read, s =>
    match nextMember first s with
    | .error e => .error e
    | .ok (false, s) => .ok (read.reverse, s.drop 1)
    | .ok (true, s) =>
      match string s with
      | .error e => .error e
      | .ok (key, s) =>
        match colon s with
        | .error e => .error e
        | .ok s =>
          match item s with
          | .error e => .error e
          | .ok (v, s) => members item fuel false ((key, v) :: read) s

/-- A value that is no array and no object, by its first byte. -/
def atom (b : UInt8) (rest : List UInt8) : Except Failure (Value × List UInt8) :=
  if b = 110 then do
    let rest ← literal [117, 108, 108] rest
    return (.null, rest)
  else if b = 116 then do
    let rest ← literal [114, 117, 101] rest
    return (.bool true, rest)
  else if b = 102 then do
    let rest ← literal [97, 108, 115, 101] rest
    return (.bool false, rest)
  else if b = 45 then do
    let (n, rest) ← number true rest
    return (.number n, rest)
  else if isDigit b then do
    let (n, rest) ← number false (b :: rest)
    return (.number n, rest)
  else if b = 34 then do
    let (text, rest) ← string rest
    return (.string text, rest)
  else .error (.next .expectedValue (b :: rest))

/-- The value at the front of a text as it is written, in which arrays and
objects may nest up to `levels` levels. -/
def value : Nat → List UInt8 → Except Failure (Value × List UInt8)
  | levels, s =>
    match skipBlank s with
    | [] => .error (.here .eofInValue [])
    | b :: rest =>
      if b = 91 then
        match levels with
        | 0 => .error (.next .recursionLimit (b :: rest))
        | levels + 1 => do
          let (items, rest) ← elements (value levels) (rest.length + 1) true [] rest
          return (.array items, rest)
      else if b = 123 then
        match levels with
        | 0 => .error (.next .recursionLimit (b :: rest))
        | levels + 1 => do
          let (read, rest) ← members (value levels) (rest.length + 1) true [] rest
          return (.object read, rest)
      else atom b rest

/-- How deep arrays and objects may nest. -/
def maxLevels : Nat := 127

/-- Refuses anything but blank space. -/
def finish (s : List UInt8) : Except Failure Unit :=
  match skipBlank s with
  | [] => .ok ()
  | b :: rest => .error (.next .trailingCharacters (b :: rest))

/-- The value of a whole text. -/
def parse (text : List UInt8) : Except Failure Value := do
  let (v, rest) ← value maxLevels text
  finish rest
  return v.canonical

end ContentNode.Json.Parser

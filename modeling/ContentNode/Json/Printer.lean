import ContentNode.Json.Basic
import ContentNode.Number.Format

/-!
# Writing JSON

Values are written without spaces.  Strings escape the quote, the backslash and
the control characters below the space, and nothing else.
-/

namespace ContentNode.Json

/-- A control character by its code point, in four lowercase digits. -/
def unicodeEscape (c : Char) : List Char :=
  let digit (n : Nat) : Char := if n < 10 then Char.ofNat (48 + n) else Char.ofNat (87 + n)
  ['\\', 'u', '0', '0', digit (c.toNat / 16), digit (c.toNat % 16)]

/-- A character as it stands in a string. -/
def escape (c : Char) : List Char :=
  if c = '"' then ['\\', '"']
  else if c = '\\' then ['\\', '\\']
  else if 0x20 ≤ c.toNat then [c]
  else if c = '\x08' then ['\\', 'b']
  else if c = '\t' then ['\\', 't']
  else if c = '\n' then ['\\', 'n']
  else if c = '\x0c' then ['\\', 'f']
  else if c = '\r' then ['\\', 'r']
  else unicodeEscape c

/-- A string between quotes. -/
def quote (s : String) : String :=
  (s.foldl (fun text c => (escape c).foldl String.push text) "\"").push '"'

/-- The text of a number. -/
def Number.render : Number → String
  | integer i => toString i
  | double x => Number.Format.general x

namespace Value

mutual

/-- The text of a value. -/
def render : Value → String
  | null => "null"
  | bool b => if b then "true" else "false"
  | number n => n.render
  | string s => quote s
  | array items => "[" ++ renderItems items ++ "]"
  | object members => "\x7b" ++ renderMembers members ++ "\x7d"

/-- Values separated by commas. -/
def renderItems : List Value → String
  | [] => ""
  | [v] => v.render
  | v :: rest => v.render ++ "," ++ renderItems rest

/-- Keys and values separated by commas. -/
def renderMembers : List (String × Value) → String
  | [] => ""
  | [(k, v)] => quote k ++ ":" ++ v.render
  | (k, v) :: rest => quote k ++ ":" ++ v.render ++ "," ++ renderMembers rest

end

end Value

/-- The text of an object whose members are written in the given order. -/
def renderRecord (members : List (String × String)) : String :=
  "\x7b" ++ ",".intercalate (members.map fun (name, text) => quote name ++ ":" ++ text) ++ "\x7d"

end ContentNode.Json

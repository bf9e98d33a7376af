/-!
# Errors in JSON text

A failure tells what is wrong and where: the position is kept as the number of
bytes of the text that follow it.  Lines count from one; a column is the number
of bytes since the last line break.
-/

namespace ContentNode.Json

/-- What is wrong with a JSON text. -/
inductive SyntaxError where
  | eofInList
  | eofInObject
  | eofInString
  | eofInValue
  | expectedColon
  | expectedListCommaOrEnd
  | expectedObjectCommaOrEnd
  | expectedIdent
  | expectedValue
  | invalidEscape
  | invalidNumber
  | numberOutOfRange
  | invalidCodePoint
  | controlCharacter
  | keyNotString
  | loneSurrogate
  | unfinishedSurrogate
  | trailingComma
  | trailingCharacters
  | recursionLimit
deriving DecidableEq

/-- The text of an error. -/
def SyntaxError.message : SyntaxError → String
  | eofInList => "EOF while parsing a list"
  | eofInObject => "EOF while parsing an object"
  | eofInString => "EOF while parsing a string"
  | eofInValue => "EOF while parsing a value"
  | expectedColon => "expected `:`"
  | expectedListCommaOrEnd => "expected `,` or `]`"
  | expectedObjectCommaOrEnd => "expected `,` or `\x7d`"
  | expectedIdent => "expected ident"
  | expectedValue => "expected value"
  | invalidEscape => "invalid escape"
  | invalidNumber => "invalid number"
  | numberOutOfRange => "number out of range"
  | invalidCodePoint => "invalid unicode code point"
  | controlCharacter => "control character (\\u0000-\\u001F) found while parsing a string"
  | keyNotString => "key must be a string"
  | loneSurrogate => "lone leading surrogate in hex escape"
  | unfinishedSurrogate => "unexpected end of hex escape"
  | trailingComma => "trailing comma"
  | trailingCharacters => "trailing characters"
  | recursionLimit => "recursion limit exceeded"

/-- An error at a position. -/
structure Failure where
  reason : SyntaxError
  /-- The number of bytes after the position. -/
  remaining : Nat
deriving DecidableEq

/-- An error right after what has been read, where `rest` has not been read. -/
def Failure.here (reason : SyntaxError) (rest : List UInt8) : Failure :=
  ⟨reason, rest.length⟩

/-- An error at the next byte of `rest`, that byte counted. -/
def Failure.next (reason : SyntaxError) (rest : List UInt8) : Failure :=
  ⟨reason, rest.length - 1⟩

/-- A line, from one, and the number of bytes before a position in that line. -/
structure Location where
  line : Nat
  column : Nat
deriving DecidableEq

/-- The location that follows a list of bytes. -/
def Location.after (bytes : List UInt8) : Location :=
  bytes.foldl (fun at_ b => if b = 10 then ⟨at_.line + 1, 0⟩ else ⟨at_.line, at_.column + 1⟩)
    ⟨1, 0⟩

/-- The location of a failure in the text that was read. -/
def Failure.location (failure : Failure) (text : List UInt8) : Location :=
  Location.after (text.take (text.length - failure.remaining))

/-- The text of a failure. -/
def Failure.message (failure : Failure) (text : List UInt8) : String :=
  let place := failure.location text
  s!"{failure.reason.message} at line {place.line} column {place.column}"

end ContentNode.Json

import ContentNode.Json.Parser

/-!
# Passing over JSON values

The value of a member that nobody asked for is passed over without being built.
This checks less than reading does: numbers may be out of range, surrogates may
stand alone, and nesting is not limited.
-/

namespace ContentNode.Json.Skip

open Lexer

/-- Whether four bytes are hexadecimal digits. -/
def isHex (a b c d : UInt8) : Bool := (hexNumber? a b c d).isSome

/-- The rest after a string whose opening quote has been read. -/
def string : List UInt8 → Except Failure (List UInt8)
  | [] => .error (.here .eofInString [])
  | b :: rest =>
    if b = 34 then .ok rest
    else if b = 92 then
      match rest with
      | [] => .error (.here .eofInString [])
      | e :: rest =>
        if e = 117 then
          match rest with
          | a :: b :: c :: d :: rest =>
            if isHex a b c d then string rest else .error (.here .invalidEscape rest)
          | _ => .error (.here .eofInString [])
        else
          match shortEscape? e with
          | some _ => string rest
          | none => .error (.here .invalidEscape rest)
    else if b < 32 then .error (.here .controlCharacter (b :: rest))
    else string rest

/-- The rest after an exponent, after its mark. -/
def exponent (s : List UInt8) : Except Failure (List UInt8) :=
  let s :=
    match s with
    | b :: rest => if b = 43 ∨ b = 45 then rest else s
    | [] => s
  match s with
  | [] => .error (.here .invalidNumber [])
  | b :: rest =>
    if isDigit b then .ok (skipDigits 0 rest).2 else .error (.here .invalidNumber rest)

/-- The rest after an exponent, if there is one. -/
def exponent? (s : List UInt8) : Except Failure (List UInt8) :=
  match s with
  | b :: rest => if b = 101 ∨ b = 69 then exponent rest else .ok s
  | [] => .ok s

/-- The rest after what follows the integer digits of a number. -/
def numberEnd (s : List UInt8) : Except Failure (List UInt8) :=
  match s with
  | 46 :: rest =>
    let (skipped, rest) := skipDigits 0 rest
    if skipped = 0 then .error (.next .invalidNumber rest) else exponent? rest
  | _ => exponent? s

/-- The rest after a number whose sign has been read. -/
def number (s : List UInt8) : Except Failure (List UInt8) :=
  match s with
  | [] => .error (.here .invalidNumber [])
  | b :: rest =>
    if b = 48 then
      if startsWith isDigit rest then .error (.next .invalidNumber rest) else numberEnd rest
    else if isDigit b then numberEnd (skipDigits 0 rest).2
    else .error (.here .invalidNumber rest)

/-- The rest after a value that is no array and no object, by its first byte. -/
def atom (b : UInt8) (rest : List UInt8) : Except Failure (List UInt8) :=
  if b = 110 then literal [117, 108, 108] rest
  else if b = 116 then literal [114, 117, 101] rest
  else if b = 102 then literal [97, 108, 115, 101] rest
  else if b = 45 then number rest
  else if isDigit b then number (b :: rest)
  else if b = 34 then string rest
  else .error (.next .expectedValue (b :: rest))

/-- An array or an object that has been opened. -/
inductive Frame where
  | list
  | object
deriving DecidableEq

/-- The byte that closes a frame. -/
def Frame.close : Frame → UInt8
  | list => 93
  | object => 125

/-- The error where a frame should go on or end. -/
def Frame.expected : Frame → SyntaxError
  | list => .expectedListCommaOrEnd
  | object => .expectedObjectCommaOrEnd

/-- The error where the text ends within a frame. -/
def Frame.unfinished : Frame → SyntaxError
  | list => .eofInList
  | object => .eofInObject

/-- The text at the next item of a frame: past the key and colon of a member. -/
def Frame.enter (frame : Frame) (s : List UInt8) : Except Failure (List UInt8) :=
  match frame with
  | list => .ok s
  | object =>
    match skipBlank s with
    | [] => .error (.here .eofInObject [])
    | b :: rest =>
      if b = 34 then do
        let rest ← string rest
        Parser.colon rest
      else .error (.next .keyNotString (b :: rest))

/-- What comes next: a value, or the end of the innermost frame.  A comma may
come before the end only after an item. -/
inductive Phase where
  | value
  | afterOpening
  | afterItem
deriving DecidableEq

/-- The rest after a value, inside the frames that it has opened, innermost
first.  The fuel exceeds twice the number of bytes. -/
def run : Nat → Phase → List Frame → List UInt8 → Except Failure (List UInt8)
  | 0, _, _, s => .error (.here .eofInValue s)
  | fuel + 1, .value, frames, s =>
    match skipBlank s with
    | [] => .error (.here .eofInValue [])
    | b :: rest =>
      if b = 91 then run fuel .afterOpening (.list :: frames) rest
      else if b = 123 then run fuel .afterOpening (.object :: frames) rest
      else
        match atom b rest with
        | .error e => .error e
        | .ok rest => run fuel .afterItem frames rest
  | _ + 1, _, [], s => .ok s
  | fuel + 1, phase, frame :: frames, s =>
    match skipBlank s with
    | [] => .error (.here frame.unfinished [])
    | b :: rest =>
      if b = 44 ∧ phase = .afterItem then
        match frame.enter rest with
        | .error e => .error e
        | .ok rest => run fuel .value (frame :: frames) rest
      else if b = frame.close then run fuel .afterItem frames rest
      else if phase = .afterItem then .error (.next frame.expected (b :: rest))
      else
        match frame.enter (b :: rest) with
        | .error e => .error e
        | .ok rest => run fuel .value (frame :: frames) rest

/-- The rest after the value at the front of a text. -/
def value (s : List UInt8) : Except Failure (List UInt8) :=
  run (2 * s.length + 2) .value [] s

end ContentNode.Json.Skip

import ContentNode.Json.Basic
import ContentNode.Json.SyntaxError

/-!
# The tokens of JSON text

Blank space, the three literal names, strings and numbers, read from the front
of a list of bytes.  A token comes with the bytes that follow it.
-/

namespace ContentNode.Json.Lexer

/-- The result of reading from the front of a text. -/
abbrev Result (α : Type) := Except Failure (α × List UInt8)

/-- Space, tab, line feed and carriage return separate tokens. -/
def isBlank (b : UInt8) : Bool := b == 32 || b == 9 || b == 10 || b == 13

/-- A text without its leading blank space. -/
def skipBlank (s : List UInt8) : List UInt8 := s.dropWhile isBlank

/-- Whether a byte is a decimal digit. -/
def isDigit (b : UInt8) : Bool := 48 ≤ b && b ≤ 57

/-- The value of a decimal digit. -/
def digitValue (b : UInt8) : Nat := b.toNat - 48

/-- The rest of a text after the expected bytes. -/
def literal : List UInt8 → List UInt8 → Except Failure (List UInt8)
  | [], rest => .ok rest
  | _ :: _, [] => .error (.here .eofInValue [])
  | expected :: more, b :: rest =>
    if b = expected then literal more rest else .error (.here .expectedIdent rest)

/-! ### Strings -/

/-- The value of a hexadecimal digit of either case. -/
def hexValue? (b : UInt8) : Option Nat :=
  if isDigit b then some (b.toNat - 48)
  else if 97 ≤ b && b ≤ 102 then some (b.toNat - 87)
  else if 65 ≤ b && b ≤ 70 then some (b.toNat - 55)
  else none

/-- The number of four hexadecimal digits. -/
def hexNumber? (a b c d : UInt8) : Option Nat := do
  let a ← hexValue? a
  let b ← hexValue? b
  let c ← hexValue? c
  let d ← hexValue? d
  return ((a * 16 + b) * 16 + c) * 16 + d

/-- The byte that a one-letter escape stands for. -/
def shortEscape? (b : UInt8) : Option UInt8 :=
  if b = 34 ∨ b = 92 ∨ b = 47 then some b
  else if b = 98 then some 8
  else if b = 102 then some 12
  else if b = 110 then some 10
  else if b = 114 then some 13
  else if b = 116 then some 9
  else none

/-- A first half of a surrogate pair. -/
def isHighSurrogate (n : Nat) : Bool := 0xD800 ≤ n && n ≤ 0xDBFF

/-- A second half of a surrogate pair. -/
def isLowSurrogate (n : Nat) : Bool := 0xDC00 ≤ n && n ≤ 0xDFFF

/-- The UTF-8 bytes of a code point. -/
def utf8 (n : Nat) : ByteArray := (String.singleton (Char.ofNat n)).toUTF8

/-- The bytes of a string up to its closing quote, and the rest after it. -/
def stringBytes (read : ByteArray) : List UInt8 → Result ByteArray
  | [] => .error (.here .eofInString [])
  | b :: rest =>
    if b = 34 then .ok (read, rest)
    else if b = 92 then
      match rest with
      | [] => .error (.here .eofInString [])
      | e :: rest =>
        if e = 117 then
          match rest with
          | h₁ :: h₂ :: h₃ :: h₄ :: rest =>
            match hexNumber? h₁ h₂ h₃ h₄ with
            | none => .error (.here .invalidEscape rest)
            | some n =>
              if isLowSurrogate n then .error (.here .loneSurrogate rest)
              else if !isHighSurrogate n then stringBytes (read ++ utf8 n) rest
              else
                match rest with
                | [] => .error (.here .eofInString [])
                | b₁ :: rest =>
                  if b₁ ≠ 92 then .error (.here .unfinishedSurrogate rest)
                  else
                    match rest with
                    | [] => .error (.here .eofInString [])
                    | b₂ :: rest =>
                      if b₂ ≠ 117 then .error (.here .unfinishedSurrogate rest)
                      else
                        match rest with
                        | l₁ :: l₂ :: l₃ :: l₄ :: rest =>
                          match hexNumber? l₁ l₂ l₃ l₄ with
                          | none => .error (.here .invalidEscape rest)
                          | some m =>
                            if isLowSurrogate m then
                              stringBytes
                                (read ++ utf8 ((n - 0xD800) * 0x400 + (m - 0xDC00) + 0x10000))
                                rest
                            else .error (.here .loneSurrogate rest)
                        | _ => .error (.here .eofInString [])
          | _ => .error (.here .eofInString [])
        else
          match shortEscape? e with
          | some c => stringBytes (read.push c) rest
          | none => .error (.here .invalidEscape rest)
    else if b < 32 then .error (.here .controlCharacter rest)
    else stringBytes (read.push b) rest

/-- The rest of a text from its first byte that belongs to no UTF-8 character.  The
first `skip` bytes belong to the character before them. -/
def fromInvalid (skip : Nat) : List UInt8 → List UInt8
  | [] => []
  | b :: rest =>
    match skip with
    | n + 1 => fromInvalid n rest
    | 0 =>
      match (ByteArray.mk ((b :: rest).take 4).toArray).utf8DecodeChar? 0 with
      | some c => fromInvalid (c.utf8Size - 1) rest
      | none => b :: rest

/-- The string whose opening quote has been read.  A string that is not UTF-8 is
reported as many bytes before its end as it has bytes that do not follow valid ones,
where an escape counts as the bytes that it stands for. -/
def string (s : List UInt8) : Except Failure (String × List UInt8) := do
  let (bytes, rest) ← stringBytes ByteArray.empty s
  match String.fromUTF8? bytes with
  | some text => .ok (text, rest)
  | none =>
    let unread := rest.length + (fromInvalid 0 bytes.toList).length
    .error (.here .invalidCodePoint (s.drop (s.length - unread)))

/-! ### Numbers -/

/-- The largest significand. -/
def maxSignificand : Nat := UInt64.size - 1

/-- The significand extended by digits as long as it stays within 64 bits, and
how many digits were taken. -/
def takeDigits (significand taken : Nat) : List UInt8 → Nat × Nat × List UInt8
  | [] => (significand, taken, [])
  | b :: rest =>
    if isDigit b then
      if maxSignificand < significand * 10 + digitValue b then (significand, taken, b :: rest)
      else takeDigits (significand * 10 + digitValue b) (taken + 1) rest
    else (significand, taken, b :: rest)

/-- The rest after leading digits, and how many there were. -/
def skipDigits (skipped : Nat) : List UInt8 → Nat × List UInt8
  | [] => (skipped, [])
  | b :: rest => if isDigit b then skipDigits (skipped + 1) rest else (skipped, b :: rest)

/-- Whether a text starts with a byte that satisfies `p`. -/
def startsWith (p : UInt8 → Bool) : List UInt8 → Bool
  | [] => false
  | b :: _ => p b

/-- A magnitude divided by powers of ten that are too large for one step.  It
reaches zero after few of them. -/
def divideLong : Nat → Binary64 → Nat → Binary64
  | 0, f, _ => f
  | steps + 1, f, exponent =>
    if exponent ≤ 308 then Binary64.div f (Binary64.powerOfTen exponent)
    else if f.isZero then f
    else divideLong steps (Binary64.div f (Binary64.powerOfTen 308)) (exponent - 308)

/-- The double of a significand and a power of ten, by one rounding of the
significand and one for each product or quotient; nothing if it is infinite. -/
def doubleOfParts? (significand : Nat) : Int → Option Binary64
  | .ofNat exponent =>
    let f := Binary64.ofNat significand
    if exponent ≤ 308 then
      let f := Binary64.mul f (Binary64.powerOfTen exponent)
      if f.isInfinite then none else some f
    else if f.isZero then some f
    else none
  | .negSucc exponent =>
    some (divideLong 8 (Binary64.ofNat significand) (exponent + 1))

/-- A double with its sign, or a number that is out of range. -/
def double (negative : Bool) (significand : Nat) (exponent : Int) (rest : List UInt8) :
    Result Number :=
  match doubleOfParts? significand exponent with
  | some f => .ok (.double (if negative then f.negate else f), rest)
  | none => .error (.here .numberOutOfRange rest)

/-- The bounds of an exponent. -/
def clampExponent (e : Int) : Int := max (-0x80000000) (min 0x7FFFFFFF e)

/-- The digits of a written exponent, after the first one. -/
def exponentDigits (negative : Bool) (significand : Nat) (start : Int) (down : Bool)
    (written : Nat) : List UInt8 → Result Number
  | [] => double negative significand
      (clampExponent (if down then start - written else start + written)) []
  | b :: rest =>
    if isDigit b then
      if 0x7FFFFFFF < written * 10 + digitValue b then
        if significand ≠ 0 ∧ !down then .error (.here .numberOutOfRange rest)
        else
          let zero := if negative then Binary64.zero.negate else Binary64.zero
          .ok (.double zero, (skipDigits 0 rest).2)
      else exponentDigits negative significand start down (written * 10 + digitValue b) rest
    else double negative significand
      (clampExponent (if down then start - written else start + written)) (b :: rest)

/-- The exponent part of a number, after its mark. -/
def exponent (negative : Bool) (significand : Nat) (start : Int) (s : List UInt8) :
    Result Number :=
  let (down, s) :=
    match s with
    | b :: rest => if b = 43 then (false, rest) else if b = 45 then (true, rest) else (false, s)
    | [] => (false, s)
  match s with
  | [] => .error (.here .eofInValue [])
  | b :: rest =>
    if isDigit b then exponentDigits negative significand start down (digitValue b) rest
    else .error (.here .invalidNumber rest)

/-- What follows the digits of a number that is a double in any case. -/
def doubleEnd (negative : Bool) (significand : Nat) (power : Int) (s : List UInt8) :
    Result Number :=
  match s with
  | b :: rest =>
    if b = 101 ∨ b = 69 then exponent negative significand power rest
    else double negative significand power s
  | [] => double negative significand power s

/-- The fraction of a number, after its point. -/
def fraction (negative : Bool) (significand : Nat) (power : Int) (s : List UInt8) :
    Result Number :=
  let (extended, taken, rest) := takeDigits significand 0 s
  if startsWith isDigit rest then
    doubleEnd negative extended (power - taken) (skipDigits 0 rest).2
  else if taken = 0 then
    match rest with
    | [] => .error (.here .eofInValue [])
    | _ :: _ => .error (.next .invalidNumber rest)
  else doubleEnd negative extended (power - taken) rest

/-- What follows the integer digits of a number that is a double in any case. -/
def longEnd (negative : Bool) (significand : Nat) (power : Int) (s : List UInt8) :
    Result Number :=
  match s with
  | 46 :: rest => fraction negative significand power rest
  | _ => doubleEnd negative significand power s

/-- The number of an integer without fraction and exponent.  Negative zero and
integers below `-2 ^ 63` are doubles. -/
def integer (negative : Bool) (significand : Nat) : Number :=
  if negative then
    if significand = 0 ∨ 0x8000000000000000 < significand then .double (Binary64.ofNat significand).negate
    else .integer (-significand)
  else .integer significand

/-- What follows the integer digits of a number. -/
def numberEnd (negative : Bool) (significand : Nat) (s : List UInt8) : Result Number :=
  match s with
  | b :: rest =>
    if b = 46 then fraction negative significand 0 rest
    else if b = 101 ∨ b = 69 then exponent negative significand 0 rest
    else .ok (integer negative significand, s)
  | [] => .ok (integer negative significand, s)

/-- The number whose sign has been read. -/
def number (negative : Bool) (s : List UInt8) : Result Number :=
  match s with
  | [] => .error (.here .eofInValue [])
  | b :: rest =>
    if b = 48 then
      if startsWith isDigit rest then .error (.next .invalidNumber rest)
      else numberEnd negative 0 rest
    else if isDigit b then
      let (significand, _, rest) := takeDigits (digitValue b) 1 rest
      if startsWith isDigit rest then
        let (skipped, rest) := skipDigits 0 rest
        longEnd negative significand skipped rest
      else numberEnd negative significand rest
    else .error (.here .invalidNumber rest)

end ContentNode.Json.Lexer

import ContentNode.Toml.Basic

/-!
# Scalars of TOML

Strings, numbers, dates and times at the front of a text.
-/

namespace ContentNode.Toml.Scalar

/-- Space and tab. -/
def isBlank (c : Char) : Bool := c == ' ' || c == '\t'

/-- A text without its leading blanks. -/
def skipBlank (s : List Char) : List Char := s.dropWhile isBlank

/-- The rest after a line break. -/
def lineBreak? : List Char → Option (List Char)
  | '\n' :: rest => some rest
  | '\r' :: '\n' :: rest => some rest
  | _ => none

/-- Whether a character may stand in a comment. -/
def isCommentChar (c : Char) : Bool := c == '\t' || (' ' ≤ c && c != '\x7f')

/-- The rest after a literal word. -/
def word (expected s : List Char) : Except Fault (List Char) :=
  if expected.isPrefixOf s then .ok (s.drop expected.length) else fault s

/-! ### Strings -/

/-- The value of a hexadecimal digit of either case. -/
def hexValue? (c : Char) : Option Nat :=
  if '0' ≤ c ∧ c ≤ '9' then some (c.toNat - 48)
  else if 'a' ≤ c ∧ c ≤ 'f' then some (c.toNat - 87)
  else if 'A' ≤ c ∧ c ≤ 'F' then some (c.toNat - 55)
  else none

/-- The number of hexadecimal digits. -/
def hexNumber? (digits : List Char) : Option Nat :=
  digits.foldlM (fun n c => (hexValue? c).map (n * 16 + ·)) 0

/-- What a value outside its bounds is refused with. -/
def outOfRange (s : List Char) : Except Fault α := because "value is out of range" s.length

/-- The character of a code point in `width` hexadecimal digits. -/
def codePoint (width : Nat) (s : List Char) : Except Fault Char :=
  settled <| about s!"unicode {width}-digit hex code" <|
    match if width ≤ s.length then hexNumber? (s.take width) else none with
    | none => fault s
    | some n => if n.isValidChar then .ok (Char.ofNat n) else outOfRange s

/-- The character that a one-letter escape stands for. -/
def shortEscape? (c : Char) : Option Char :=
  if c = '"' ∨ c = '\\' then some c
  else if c = 'b' then some '\x08'
  else if c = 't' then some '\t'
  else if c = 'n' then some '\n'
  else if c = 'f' then some '\x0c'
  else if c = 'r' then some '\r'
  else none

/-- The letters of escapes, for messages. -/
def escapeLetters : List String := ["`b`", "`f`", "`n`", "`r`", "`t`", "`u`", "`U`", "`\\`", "`\"`"]

/-- The character of an escape after its backslash, and how many characters stand
for it.  Another ASCII character than that of an escape is passed over before this is
noticed. -/
def escape : List Char → Except Fault (Char × Nat)
  | [] => fault []
  | c :: rest =>
    if c = 'u' then return (← codePoint 4 rest, 5)
    else if c = 'U' then return (← codePoint 8 rest, 9)
    else
      match shortEscape? c with
      | some c => .ok (c, 1)
      | none =>
        let place := if c.toNat < 128 then rest else c :: rest
        settled (about "escape sequence" (expecting escapeLetters (fault place)))

/-- A string that is not closed. -/
def unclosed (subject : String) (s : List Char) : Except Fault α :=
  settled (about subject (fault s))

/-- The characters of a string on one line, up to its closing quote, of which the
first `skip` have been read. -/
def basic (skip : Nat) (read : String) : Reader String
  | [] => unclosed "basic string" []
  | c :: rest =>
    match skip with
    | skip + 1 => basic skip read rest
    | 0 =>
      if c = '"' then .ok (read, rest)
      else if c = '\\' ∧ ¬ rest.isEmpty then do
        let (e, width) ← escape rest
        basic width (read.push e) rest
      else if c ≠ '\\' ∧ isCommentChar c then basic 0 (read.push c) rest
      else unclosed "basic string" (c :: rest)

/-- Whether a backslash before this text joins lines: the rest of its line is
blank. -/
def joinsLines (s : List Char) : Bool := (lineBreak? (skipBlank s)).isSome

/-- Whether a text starts with two quotes. -/
def startsWithTwo (quote : Char) : List Char → Bool
  | a :: b :: _ => a == quote && b == quote
  | _ => false

/-- The rest after the quotes that close a string over several lines, of which
one has been read and at least two follow; up to two more belong to the string. -/
def closeQuotes (quote : Char) (read : String) : List Char → String × List Char
  | a :: b :: c :: rest =>
    if c = quote then
      match rest with
      | d :: rest =>
        if d = quote then ((read.push quote).push quote, rest) else (read.push quote, d :: rest)
      | [] => (read.push quote, [])
    else (read, (a :: b :: c :: rest).drop 2)
  | s => (read, s.drop 2)

/-- What follows the quotes at the front of a text. -/
def afterQuotes (quote : Char) (s : List Char) : List Char := s.dropWhile (· == quote)

/-- The characters of a string over several lines, up to its closing quotes, of which
the first `skip` have been read.  While `joining`, blanks and line breaks are passed
over. -/
def basicLines (joining : Bool) (skip : Nat) (read : String) : Reader String
  | [] => unclosed "multiline basic string" []
  | c :: rest =>
    match skip with
    | skip + 1 => basicLines false skip read rest
    | 0 =>
      if joining ∧ (isBlank c ∨ (lineBreak? (c :: rest)).isSome) then basicLines true 0 read rest
      else if c = '"' then
        if startsWithTwo '"' rest then .ok (closeQuotes '"' read rest)
        else if (afterQuotes '"' rest).isEmpty then unclosed "multiline basic string" (c :: rest)
        else basicLines false 0 (read.push '"') rest
      else if c = '\\' ∧ joinsLines rest then basicLines true 0 read rest
      else if c = '\\' ∧ ¬ rest.isEmpty then do
        let (e, width) ← about "multiline basic string" (escape rest)
        basicLines false width (read.push e) rest
      else if c = '\n' then basicLines false 0 (read.push '\n') rest
      else if c = '\r' ∧ (lineBreak? (c :: rest)).isSome then basicLines false 0 read rest
      else if c ≠ '\\' ∧ isCommentChar c then basicLines false 0 (read.push c) rest
      else unclosed "multiline basic string" (c :: rest)

/-- The characters of a string without escapes on one line, up to its closing
quote. -/
def literal (read : String) : Reader String
  | [] => unclosed "literal string" []
  | c :: rest =>
    if c = '\'' then .ok (read, rest)
    else if isCommentChar c then literal (read.push c) rest
    else unclosed "literal string" (c :: rest)

/-- Whether a text starts with something that belongs to a string over several
lines. -/
def startsLiteral : List Char → Bool
  | [] => false
  | c :: rest => isCommentChar c || (lineBreak? (c :: rest)).isSome

/-- The characters of a string without escapes over several lines, up to its
closing quotes. -/
def literalLines (read : String) : Reader String
  | [] => unclosed "multiline literal string" []
  | c :: rest =>
    if c = '\'' then
      if startsWithTwo '\'' rest then .ok (closeQuotes '\'' read rest)
      else if ¬ startsLiteral (afterQuotes '\'' rest) then
        unclosed "multiline literal string" (c :: rest)
      else literalLines (read.push '\'') rest
    else if c = '\n' then literalLines (read.push '\n') rest
    else if c = '\r' ∧ (lineBreak? (c :: rest)).isSome then literalLines read rest
    else if isCommentChar c then literalLines (read.push c) rest
    else unclosed "multiline literal string" (c :: rest)

/-- A text without the line break at its front. -/
def skipLineBreak (s : List Char) : List Char := (lineBreak? s).getD s

/-- A string by its opening quotes. -/
def string : Reader String
  | '"' :: '"' :: '"' :: rest => basicLines false 0 "" (skipLineBreak rest)
  | '"' :: rest => basic 0 "" rest
  | '\'' :: '\'' :: '\'' :: rest => literalLines "" (skipLineBreak rest)
  | '\'' :: rest => literal "" rest
  | s => fault s

/-- What a value is taken to be that begins like none: a string without quotes. -/
def quotesMissing (result : Except Fault α) : Except Fault α :=
  expecting ["`\"`", "`'`"] (about "string" result)

/-! ### Numbers -/

/-- A digit after an underscore. -/
def digitMissing (s : List Char) : Except Fault α := settled (expecting ["digit"] (fault s))

/-- The digits at the front of a text; single underscores may stand between
them. -/
def moreDigits (isDigit : Char → Bool) : Reader (List Char)
  | [] => .ok ([], [])
  | c :: rest =>
    if isDigit c then do
      let (digits, rest) ← moreDigits isDigit rest
      return (c :: digits, rest)
    else if c = '_' then
      match rest with
      | d :: rest' =>
        if isDigit d then do
          let (digits, rest) ← moreDigits isDigit rest'
          return (d :: digits, rest)
        else digitMissing rest
      | [] => digitMissing []
    else .ok ([], c :: rest)

/-- At least one digit, with single underscores between digits. -/
def digits (isDigit : Char → Bool) : Reader (List Char)
  | [] => fault []
  | c :: rest =>
    if isDigit c then do
      let (more, rest) ← moreDigits isDigit rest
      return (c :: more, rest)
    else fault (c :: rest)

/-- A decimal digit. -/
def isDecimal (c : Char) : Bool := '0' ≤ c && c ≤ '9'

/-- The value of digits in a radix. -/
def value (radix : Nat) (digits : List Char) : Nat :=
  digits.foldl (fun n c => n * radix + (hexValue? c).getD 0) 0

/-- The sign at the front of a text, and whether it is negative. -/
def sign : List Char → Bool × List Char
  | '+' :: rest => (false, rest)
  | '-' :: rest => (true, rest)
  | s => (false, s)

/-- The digits of the whole part of a decimal number: a single zero, or digits
that do not start with one. -/
def whole : Reader (List Char)
  | '0' :: rest => .ok (['0'], rest)
  | s => digits isDecimal s

/-- The sign and the whole part of a decimal number. -/
def signedWhole (s : List Char) : Except Fault ((Bool × List Char) × List Char) :=
  about "integer" do
    let (negative, s) := sign s
    let (ds, rest) ← whole s
    return ((negative, ds), rest)

/-- An integer within the range of signed 64-bit integers, which begins at a place. -/
def inRange (i : Int) (place : Place) (rest : List Char) : Except Fault (Value × List Char) :=
  if i < -0x8000000000000000 then settled (because "number too small to fit in target type" place)
  else if 0x8000000000000000 ≤ i then settled (because "number too large to fit in target type" place)
  else .ok (.integer i, rest)

/-- A nonnegative integer in another radix, after the mark of the radix.  It begins at
a place. -/
def radixInteger (subject : String) (radix : Nat) (place : Place) (s : List Char) :
    Except Fault (Value × List Char) := do
  let (ds, rest) ← settled (about subject (digits (fun c => (hexValue? c).any (· < radix)) s))
  inRange (value radix ds) place rest

/-- An integer. -/
def integer (s : List Char) : Except Fault (Value × List Char) :=
  match s with
  | '0' :: 'x' :: rest => radixInteger "hexadecimal integer" 16 s.length rest
  | '0' :: 'o' :: rest => radixInteger "octal integer" 8 s.length rest
  | '0' :: 'b' :: rest => radixInteger "binary integer" 2 s.length rest
  | _ => do
    let ((negative, ds), rest) ← signedWhole s
    let n : Int := value 10 ds
    inRange (if negative then -n else n) s.length rest

/-- An exponent after its mark: a sign and digits. -/
def exponent (s : List Char) : Except Fault (Int × List Char) := do
  let (negative, s) := sign s
  let (ds, rest) ← settled (digits isDecimal s)
  let n : Int := value 10 ds
  return (if negative then -n else n, rest)

/-- An exponent, which is zero if there is none. -/
def exponent? : Reader Int
  | c :: rest => if c = 'e' ∨ c = 'E' then exponent rest else .ok (0, c :: rest)
  | [] => .ok (0, [])

/-- The digits of a fraction and an exponent, of which at least one is there. -/
def fractionAndExponent : Reader (List Char × Int)
  | '.' :: rest => do
    let (ds, rest) ← settled (expecting ["digit"] (digits isDecimal rest))
    let (e, rest) ← exponent? rest
    return ((ds, e), rest)
  | c :: rest =>
    if c = 'e' ∨ c = 'E' then do
      let (e, rest) ← exponent rest
      return (([], e), rest)
    else fault (c :: rest)
  | [] => fault []

/-- A double with its sign. -/
def signed (negative : Bool) (x : Binary64) : Binary64 := if negative then x.negate else x

/-- A decimal number with a fraction or an exponent.  One that is too large is
refused, but not below zero. -/
def decimal (s : List Char) : Except Fault (Value × List Char) := do
  let ((negative, ds), rest) ← signedWhole s
  let ((fraction, e), rest) ← fractionAndExponent rest
  let x := Binary64.ofDecimal (value 10 (ds ++ fraction)) (e - fraction.length)
  if x.isInfinite ∧ ¬ negative then settled (fault s)
  else return (.double (signed negative x), rest)

/-- Infinity. -/
def infinity : Reader Binary64 := fun s => do return (.infinity, ← word ['i', 'n', 'f'] s)

/-- The undefined number. -/
def undefined : Reader Binary64 := fun s => do return (.nan, ← word ['n', 'a', 'n'] s)

/-- Infinity or the undefined number, with a sign. -/
def special (s : List Char) : Except Fault (Value × List Char) := do
  let (negative, s) := sign s
  let (x, rest) ← orElse (infinity s) fun _ => undefined s
  return (.double (signed negative x), rest)

/-- A number that is no integer. -/
def double (s : List Char) : Except Fault (Value × List Char) :=
  about "floating-point number" (orElse (decimal s) fun _ => special s)

/-! ### Dates and times -/

/-- A number of exactly `width` digits between bounds. -/
def fixed (width low high : Nat) (s : List Char) : Except Fault (Nat × List Char) :=
  let ds := s.take width
  let n := value 10 ds
  if ds.length = width ∧ ds.all isDecimal then
    if low ≤ n ∧ n ≤ high then .ok (n, s.drop width) else outOfRange s
  else fault s

/-- The number of days of a month. -/
def daysIn (year month : Nat) : Nat :=
  if month = 2 then
    if year % 4 = 0 ∧ (year % 100 ≠ 0 ∨ year % 400 = 0) then 29 else 28
  else if month ∈ [4, 6, 9, 11] then 30
  else 31

/-- The rest after a date. -/
def date (s : List Char) : Except Fault (List Char) := do
  let (year, s) ← fixed 4 0 9999 s
  let s ← word ['-'] s
  settled do
    let (month, s) ← fixed 2 1 12 s
    let day ← word ['-'] s
    let (n, s) ← fixed 2 1 31 day
    if daysIn year month < n then outOfRange day else return s

/-- The rest after the fraction of a second, if there is one. -/
def secondFraction : List Char → List Char
  | '.' :: c :: rest => if isDecimal c then rest.dropWhile isDecimal else '.' :: c :: rest
  | s => s

/-- The rest after a time of day. -/
def time (s : List Char) : Except Fault (List Char) := do
  let (_, s) ← fixed 2 0 23 s
  let s ← word [':'] s
  settled do
    let (_, s) ← fixed 2 0 59 s
    let s ← word [':'] s
    let (_, s) ← fixed 2 0 60 s
    return secondFraction s

/-- The rest after the offset of a time zone. -/
def offset (s : List Char) : Except Fault (List Char) :=
  about "time offset" <|
    match s with
    | c :: rest =>
      if c = 'Z' ∨ c = 'z' then .ok rest
      else if c = '+' ∨ c = '-' then
        settled do
          let (_, s) ← fixed 2 0 23 rest
          let s ← word [':'] s
          let (_, s) ← fixed 2 0 59 s
          return s
      else fault s
    | [] => fault s

/-- The rest after the time of day that follows a date, if there is one. -/
def timeOfDate : List Char → Except Fault (List Char)
  | c :: rest =>
    if c = 'T' ∨ c = 't' ∨ c = ' ' then
      orElse (do
        let s ← time rest
        orElse (offset s) fun _ => .ok s) fun _ => .ok (c :: rest)
    else .ok (c :: rest)
  | [] => .ok []

/-- A date, a time, or both. -/
def moment (s : List Char) : Except Fault (Value × List Char) := do
  let rest ← orElse (about "date-time" do timeOfDate (← date s)) fun _ => about "time" (time s)
  return (.moment, rest)

/-- A scalar, by its first character. -/
def scalar (s : List Char) : Except Fault (Value × List Char) :=
  match s with
  | [] => fault s
  | c :: _ =>
    if c = '"' ∨ c = '\'' then do
      let (text, rest) ← string s
      return (.text text, rest)
    else if c = 't' then
      quotesMissing (settled do return (.bool true, ← word ['t', 'r', 'u', 'e'] s))
    else if c = 'f' then
      quotesMissing (settled do return (.bool false, ← word ['f', 'a', 'l', 's', 'e'] s))
    else if c = '+' ∨ c = '-' ∨ isDecimal c then
      orElse (moment s) fun _ => orElse (double s) fun _ => integer s
    else if c = '_' then expecting ["leading digit"] (integer s)
    else if c = '.' then expecting ["leading digit"] (double s)
    else
      quotesMissing do
        let (x, rest) ← orElse (infinity s) fun _ => undefined s
        return (.double x, rest)

end ContentNode.Toml.Scalar

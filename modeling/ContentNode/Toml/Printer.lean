/-!
# Writing TOML strings

A string is written in the first of four styles that needs no escapes: between
double quotes, between single quotes, and the same over several lines.  If every
style needs them, it stands between double quotes, over several lines if it has
line breaks.
-/

namespace ContentNode.Toml.Printer

/-- The ways to write a string. -/
inductive Style where
  | basic
  | literal
  | basicLines
  | literalLines
deriving DecidableEq

/-- Whether a character can be written only as an escape. -/
def isControl (c : Char) : Bool := (c < ' ' && c != '\t' && c != '\n') || c == '\x7f'

/-- The length of the longest run of a character, where `run` have just been
seen. -/
def longestRun (c : Char) (run : Nat) : List Char → Nat
  | [] => run
  | d :: rest => if d = c then longestRun c (run + 1) rest else max run (longestRun c 0 rest)

/-- The style that a string is written in. -/
def Style.of (s : List Char) : Style :=
  let controls := s.any isControl
  let hasLines := s.contains '\n'
  let doubleQuotes := longestRun '"' 0 s
  let singleQuotes := longestRun '\'' 0 s
  if !controls && !s.contains '\\' && doubleQuotes == 0 && !hasLines then .basic
  else if !controls && singleQuotes == 0 && !hasLines then .literal
  else if !controls && !s.contains '\\' && doubleQuotes ≤ 2 then .basicLines
  else if !controls && singleQuotes ≤ 2 then .literalLines
  else if hasLines then .basicLines
  else .basic

/-- The quotes around a string. -/
def Style.quotes : Style → List Char
  | basic => ['"']
  | literal => ['\'']
  | basicLines => ['"', '"', '"']
  | literalLines => ['\'', '\'', '\'']

/-- Whether a string may go over several lines. -/
def Style.hasLines : Style → Bool
  | basicLines | literalLines => true
  | basic | literal => false

/-- A character by its code point, in four uppercase digits. -/
def unicodeEscape (c : Char) : List Char :=
  let digits := (Nat.toDigits 16 c.toNat).map Char.toUpper
  ['\\', 'u'] ++ List.replicate (4 - digits.length) '0' ++ digits

/-- A character other than the double quote as it stands between double quotes,
where `lines` tells whether the string goes over several lines. -/
def escape (lines : Bool) (c : Char) : List Char :=
  if c = '\x08' then ['\\', 'b']
  else if c = '\t' then ['\\', 't']
  else if c = '\n' then if lines then ['\n'] else ['\\', 'n']
  else if c = '\x0c' then ['\\', 'f']
  else if c = '\r' then ['\\', 'r']
  else if c = '\\' then ['\\', '\\']
  else if isControl c then unicodeEscape c
  else [c]

/-- The number of double quotes that may follow each other. -/
def quotesAllowed (lines : Bool) : Nat := if lines then 2 else 0

/-- The characters between double quotes, where `run` double quotes have just
been written. -/
def escapeAll (lines : Bool) (run : Nat) : List Char → List Char
  | [] => []
  | c :: rest =>
    if c = '"' then
      if quotesAllowed lines < run + 1 then ['\\', '"'] ++ escapeAll lines 0 rest
      else '"' :: escapeAll lines (run + 1) rest
    else escape lines c ++ escapeAll lines 0 rest

/-- The characters between the quotes. -/
def Style.body : Style → List Char → List Char
  | basic, s => escapeAll false 0 s
  | basicLines, s => escapeAll true 0 s
  | literal, s | literalLines, s => s

/-- A string. -/
def string (s : List Char) : List Char :=
  let style := Style.of s
  let lineBreak := if style.hasLines && s.contains '\n' then ['\n'] else []
  style.quotes ++ lineBreak ++ style.body s ++ style.quotes

/-- Whether a character may stand in a key without quotes. -/
def isBare (c : Char) : Bool := c.isAlphanum || c == '-' || c == '_'

/-- A key: without quotes if it can do without, else on one line between quotes. -/
def key (s : List Char) : List Char :=
  if !s.isEmpty && s.all isBare then s
  else
    match Style.of s with
    | .literal => Style.literal.quotes ++ s ++ Style.literal.quotes
    | _ => Style.basic.quotes ++ Style.basic.body s ++ Style.basic.quotes

/-- The largest integer. -/
def maxInteger : Nat := 0x7FFFFFFFFFFFFFFF

/-- A natural number, if it is in the range of integers. -/
def natural? (n : Nat) : Option (List Char) :=
  if n ≤ maxInteger then some (Nat.toDigits 10 n) else none

/-- An entry on a line of its own. -/
def entry (name : String) (value : List Char) : List Char :=
  name.toList ++ [' ', '=', ' '] ++ value ++ ['\n']

end ContentNode.Toml.Printer

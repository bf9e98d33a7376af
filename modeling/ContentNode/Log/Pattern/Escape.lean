import ContentNode.Bytes.Hex
import ContentNode.Log.Pattern.Mode

/-!
# Escapes in patterns

What a backslash and the characters after it stand for.  Characters are not
known by their Unicode properties, so digits, blanks, the characters of words and
the ends of words are those of ASCII and only stand in patterns about bytes.
-/

namespace ContentNode.Log.Pattern

/-- What an escape stands for. -/
inductive Escape where
  /-- A character, which may be given as a byte. -/
  | character (c : Char) (isByte : Bool)
  /-- The digits, the blanks, or the characters of words. -/
  | kind
  /-- A place between characters. -/
  | place
deriving DecidableEq

namespace Escape

/-- The number of so many hexadecimal digits, after `n` for those before them. -/
def hexNumber (mode : Mode) : Nat → Nat → List Char → Option (Nat × List Char)
  | 0, n, s => some (n, s)
  | width + 1, n, s =>
    match mode.skip s with
    | [] => none
    | c :: rest => do
      let digit ← Bytes.Hex.value? c.toLower
      hexNumber mode width (16 * n + digit) rest

/-- A character by its number. -/
def numbered (mode : Mode) (width : Nat) (s : List Char) : Option (Escape × List Char) := do
  let (n, rest) ← hexNumber mode width 0 s
  if n.isValidChar then return (.character (Char.ofNat n) (width = 2), rest) else none

/-- The control character of a letter. -/
def control? (c : Char) : Option Char :=
  if c = 'a' then some '\x07'
  else if c = 'f' then some '\x0c'
  else if c = 't' then some '\t'
  else if c = 'n' then some '\n'
  else if c = 'r' then some '\r'
  else if c = 'v' then some '\x0b'
  else none

/-- Whether a character stands for itself after a backslash. -/
def isPlain (c : Char) : Bool := c.toNat < 128 && !c.isAlphanum && c != '<' && c != '>'

/-- The escape after a backslash. -/
def read (mode : Mode) : List Char → Option (Escape × List Char)
  | [] => none
  | c :: rest =>
    if c = 'x' then numbered mode 2 rest
    else if c = 'u' then numbered mode 4 rest
    else if c = 'U' then numbered mode 8 rest
    else if c = 'd' ∨ c = 's' ∨ c = 'w' then
      if mode.unicode then none else some (.kind, rest)
    else if c = 'b' ∨ c = 'B' ∨ c = '<' ∨ c = '>' then
      if mode.unicode then none else some (.place, rest)
    else if c = 'A' ∨ c = 'z' then some (.place, rest)
    else if isPlain c then some (.character c false, rest)
    else (control? c).map fun c => (.character c false, rest)

end Escape

end ContentNode.Log.Pattern

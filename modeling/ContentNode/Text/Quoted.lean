import ContentNode.Text.Unprintable
import ContentNode.Bytes.Hex

/-!
# Quoted text

A character or a string between quotes, for messages that show what was given.
The backslash, the quotes that delimit, line breaks, tabs and the null character
have short escapes; other characters that do not print by themselves are
written by their code point.
-/

namespace ContentNode.Text.Quoted

/-- The code point of a character in lowercase hexadecimal, without padding. -/
def codePoint (c : Char) : List Char :=
  ['\\', 'u', '\x7b'] ++ Nat.toDigits 16 c.toNat ++ ['\x7d']

/-- A character as it stands between quotes, where `delimits` tells which
quotes have to be escaped. -/
def escape (delimits : Char → Bool) (c : Char) : List Char :=
  if c = '\x00' then ['\\', '0']
  else if c = '\t' then ['\\', 't']
  else if c = '\r' then ['\\', 'r']
  else if c = '\n' then ['\\', 'n']
  else if c = '\\' ∨ delimits c then ['\\', c]
  else if Unprintable.holds c then codePoint c
  else [c]

/-- A string written between `quote`s. -/
def between (quote : Char) (delimits : Char → Bool) (s : String) : String :=
  (s.foldl (fun text c => (escape delimits c).foldl String.push text) (String.singleton quote)).push
    quote

/-- A string between double quotes, in which single quotes stand for themselves. -/
def string (s : String) : String := between '"' (· == '"') s

/-- A character between single quotes, in which double quotes stand for themselves. -/
def char (c : Char) : String := between '\'' (· == '\'') (String.singleton c)

/-- A path between double quotes, with both kinds of quotes escaped. -/
def path (s : String) : String := between '"' (fun c => c == '"' || c == '\'') s

end ContentNode.Text.Quoted

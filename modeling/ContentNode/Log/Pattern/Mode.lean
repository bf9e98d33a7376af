import ContentNode.Text.Alphanumeric

/-!
# Modes of patterns

At each place of a pattern a mode tells what its characters mean.  Flags in the
pattern change the mode.
-/

namespace ContentNode.Log.Pattern

/-- What the characters at a place of a pattern mean. -/
structure Mode where
  /-- Blanks do not count, and comments go from a number sign to the end of a line. -/
  spaced : Bool
  /-- Letters stand for both cases. -/
  caseless : Bool
  /-- The pattern is about characters; else it is about bytes. -/
  unicode : Bool
deriving DecidableEq

namespace Mode

/-- The mode at the front of a pattern. -/
def start : Mode := ⟨false, false, true⟩

/-! ### Blanks -/

/-- A text without the blanks and comments at its front, or from within a comment. -/
def skipSpace (inComment : Bool) : List Char → List Char
  | [] => []
  | c :: rest =>
    if inComment then skipSpace (c ≠ '\n') rest
    else if Text.Alphanumeric.isBlank c then skipSpace false rest
    else if c = '#' then skipSpace true rest
    else c :: rest

/-- A text without what does not count at its front. -/
def skip (mode : Mode) (s : List Char) : List Char :=
  if mode.spaced then skipSpace false s else s

/-- The next character of a set, after blanks and one number sign where these do not
count. -/
def next? (mode : Mode) (s : List Char) : Option Char :=
  if mode.spaced then
    match s.dropWhile Text.Alphanumeric.isBlank with
    | '#' :: rest => (rest.dropWhile Text.Alphanumeric.isBlank).head?
    | rest => rest.head?
  else s.head?

/-! ### What a pattern can ask for

The cases of characters beyond ASCII are not known, so no character can stand for
both of its cases unless the pattern is about bytes.  What a pattern matches is
always text, so a pattern about bytes asks for ASCII where it asks for one byte. -/

/-- Whether a character can stand for itself; `isByte` tells whether it was given as
a byte. -/
def admits (mode : Mode) (c : Char) (isByte : Bool) : Bool :=
  if mode.unicode then !mode.caseless else !isByte || c.toNat < 128

/-- Whether a character can be a member of a set. -/
def admitsMember (mode : Mode) (c : Char) : Bool :=
  if mode.unicode then !mode.caseless else c.toNat < 128

/-- Whether a set of ASCII characters known by name, or of all others, can be a member
of a set. -/
def admitsNamed (mode : Mode) (negated : Bool) : Bool :=
  if mode.unicode then !mode.caseless else !negated

/-! ### Flags -/

/-- The letters of flags. -/
def letters : List Char := ['i', 'm', 's', 'U', 'u', 'R', 'x']

/-- The flags before a colon or a closing parenthesis, after those that have been
given, latest first.  Each is given once only.  A minus turns off what follows it, and
something does. -/
def flags (given : List Char) : List Char → Option (List Char × List Char)
  | [] => none
  | c :: rest =>
    if c = ':' ∨ c = ')' then
      if given.head? = some '-' then none else some (given.reverse, c :: rest)
    else if ('-' :: letters).contains c && !given.contains c then flags (c :: given) rest
    else none

/-- Whether flags turn something on or off. -/
def turn? (flags : List Char) (letter : Char) : Option Bool :=
  if flags.contains letter then some !(flags.takeWhile (· ≠ letter)).contains '-' else none

/-- The mode after flags. -/
def after (mode : Mode) (flags : List Char) : Mode :=
  ⟨(turn? flags 'x').getD mode.spaced, (turn? flags 'i').getD mode.caseless,
    (turn? flags 'u').getD mode.unicode⟩

example : (flags [] "is-u)".toList).map (start.after ·.1) = some ⟨false, true, false⟩ := by
  decide +kernel

end Mode

end ContentNode.Log.Pattern

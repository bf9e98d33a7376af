/-!
# Texts of numbers

A number is written with a sign or without one: its digits, with a point before,
between or after them, and an exponent that may be left out; or the name of a
number that is infinite or undefined.
-/

namespace ContentNode.Number.Literal

/-- A text without a sign at its front. -/
def magnitude : List Char → List Char
  | '+' :: rest | '-' :: rest => rest
  | s => s

/-- Whether a text has digits, and nothing else. -/
def isWhole (s : List Char) : Bool := !s.isEmpty && s.all Char.isDigit

/-- Whether a text is an exponent, or empty. -/
def isExponent : List Char → Bool
  | [] => true
  | c :: rest => c.toLower = 'e' && isWhole (magnitude rest)

/-- Whether a text is an unsigned number of digits. -/
def isDecimal (s : List Char) : Bool :=
  let rest := s.dropWhile Char.isDigit
  match rest with
  | '.' :: fraction =>
    !(rest.length = s.length && (fraction.takeWhile Char.isDigit).isEmpty) &&
      isExponent (fraction.dropWhile Char.isDigit)
  | _ => rest.length ≠ s.length && isExponent rest

/-- Whether a text is the name of a number, in any case. -/
def isName (s : List Char) : Bool :=
  ["inf", "infinity", "nan"].contains (String.ofList (s.map Char.toLower))

/-- Whether a text is a number. -/
def holds (text : String) : Bool :=
  let s := magnitude text.toList
  isDecimal s || isName s

example : ["5", "+5.", "-.5e3", "1E+7", "+NaN"].all holds = true := by decide +kernel

example : ["", ".", "+-5", "1e", "5e.", "infin"].any holds = false := by decide +kernel

end ContentNode.Number.Literal
